import Std.Data.ExtTreeMap
import SymbolAnnotations.Source.Leaves

/-!
# Annotation stores

A store holds the signatures of one source under their symbol paths, in path
order.  It is read with exact paths only; there is no lookup of part of a path.
Later entries replace earlier ones with the same path, both within a source and
when two stores are merged.

* `get?_insert`, `get?_insertAll`, `get?_merge` — what each way of building a
  store does to lookups;
* `ofLeaves_append` — leaves that follow each other are merged;
* `ext_get?` — a store is nothing but its lookups;
* `pairwise_fst_toList` — entries come in the order of their keys.
-/

namespace SymbolAnnotations

/-- Entries come in the order of their keys, and no key comes twice. -/
theorem pairwise_fst_toList {α : Type} (entries : Std.ExtTreeMap String α) :
    entries.toList.Pairwise (·.1 < ·.1) := by
  refine Std.ExtTreeMap.ordered_keys_toList.imp ?_
  intro entry other horder
  exact compareOfLessAndEq_eq_lt.1 horder

/-- Signatures by symbol path. -/
structure Store where
  entries : Std.ExtTreeMap String String := ∅

namespace Store

/-- The store without entries. -/
def empty : Store := {}

instance : Inhabited Store := ⟨empty⟩

/-- The signature of exactly this path. -/
def get? (store : Store) (path : String) : Option String :=
  store.entries[path]?

/-- Whether exactly this path has a signature. -/
def contains (store : Store) (path : String) : Bool :=
  store.entries.contains path

/-- The signature of a method with a pointer receiver. -/
def method? (store : Store) (typeName methodName : String) : Option String :=
  store.get? (SymbolPath.method typeName methodName)

/-- The signature at the end of nested segments, outermost first. -/
def nested? (store : Store) (segments : List String) : Option String :=
  store.get? (SymbolPath.nested segments)

/-- The number of entries. -/
def size (store : Store) : Nat :=
  store.entries.size

/-- Whether there are no entries. -/
def isEmpty (store : Store) : Bool :=
  store.entries.isEmpty

/-- The entries in path order. -/
def toList (store : Store) : List (String × String) :=
  store.entries.toList

/-- The paths in order. -/
def paths (store : Store) : List String :=
  store.entries.keys

/-- The store with one entry added or replaced. -/
def insert (store : Store) (path signature : String) : Store :=
  ⟨store.entries.insert path signature⟩

/-- The store with the entries added one after the other. -/
def insertAll (store : Store) (entries : List (String × String)) : Store :=
  ⟨store.entries.insertMany entries⟩

/-- The store of the given entries; of several with one path the last
counts. -/
def ofList (entries : List (String × String)) : Store :=
  empty.insertAll entries

/-- Both stores in one.  Where both have a path, the second counts. -/
def merge (store other : Store) : Store :=
  store.insertAll other.toList

/-- The store of the leaves; of several with one path the last counts. -/
def ofLeaves (leaves : List Leaf) : Store :=
  leaves.foldl (fun store leaf => store.insert leaf.path leaf.signature) empty

/-- The store of what follows a cursor. -/
def readFrom (cursor : Cursor) : Except ParseError Store :=
  (Source.leavesFrom cursor).map ofLeaves

/-- The store of a source. -/
def parse (source : ByteArray) : Except ParseError Store :=
  readFrom (.ofBytes source)

instance : BEq Store :=
  ⟨fun store other => store.toList == other.toList⟩

/-- **A store is its lookups.** -/
theorem ext_get? {store other : Store} (h : ∀ path, store.get? path = other.get? path) :
    store = other := by
  obtain ⟨entries⟩ := store
  obtain ⟨entries'⟩ := other
  exact congrArg mk (Std.ExtTreeMap.ext_getElem? (h ·))

@[simp] theorem get?_empty (path : String) : empty.get? path = none := by
  simp [get?, empty]

theorem get?_insert (store : Store) (path signature query : String) :
    (store.insert path signature).get? query =
      if path = query then some signature else store.get? query := by
  simp [get?, insert, Std.ExtTreeMap.getElem?_insert]

@[simp] theorem insertAll_nil (store : Store) : store.insertAll [] = store := by
  simp [insertAll]

theorem insertAll_cons (store : Store) (entry : String × String)
    (rest : List (String × String)) :
    store.insertAll (entry :: rest) = (store.insert entry.1 entry.2).insertAll rest :=
  congrArg mk Std.ExtTreeMap.insertMany_cons

theorem insertAll_append (store : Store) (front back : List (String × String)) :
    store.insertAll (front ++ back) = (store.insertAll front).insertAll back :=
  congrArg mk Std.ExtTreeMap.insertMany_append

/-- **The last entry counts.**  After adding entries, a path has the signature
of the last of them with that path, or else what it had before. -/
theorem get?_insertAll (store : Store) (entries : List (String × String)) (query : String) :
    (store.insertAll entries).get? query =
      (entries.reverse.lookup query).or (store.get? query) := by
  induction entries generalizing store with
  | nil => simp
  | cons entry rest ih =>
    rw [insertAll_cons, ih, get?_insert, List.reverse_cons, List.lookup_append, Option.or_assoc]
    congr 1
    obtain ⟨path, signature⟩ := entry
    by_cases h : path = query
    · simp [h]
    · have : (query == path) = false := by simpa using fun h' => h h'.symm
      simp [h, this]

/-- Leaves are entries: each one adds its signature under its path. -/
theorem ofLeaves_eq_ofList (leaves : List Leaf) :
    ofLeaves leaves = ofList (leaves.map fun leaf => (leaf.path, leaf.signature)) := by
  rw [ofLeaves, ofList]
  generalize empty = store
  induction leaves generalizing store with
  | nil => simp
  | cons leaf rest ih => rw [List.map_cons, insertAll_cons, List.foldl_cons, ih]

theorem mem_toList_iff {store : Store} {path signature : String} :
    (path, signature) ∈ store.toList ↔ store.get? path = some signature :=
  Std.ExtTreeMap.mem_toList_iff_getElem?_eq_some

theorem mem_paths_iff {store : Store} {path : String} :
    path ∈ store.paths ↔ (store.get? path).isSome = true := by
  simp [paths, get?]

/-- **The second store counts.**  A merged store answers from the second store
and, for paths it does not have, from the first. -/
theorem get?_merge (store other : Store) (query : String) :
    (store.merge other).get? query = (other.get? query).or (store.get? query) := by
  have hdistinct := Std.ExtTreeMap.distinct_keys_toList (t := other.entries)
  cases h : other.get? query with
  | some signature =>
    exact Std.ExtTreeMap.getElem?_insertMany_list_of_mem
      Std.ReflCmp.compare_self hdistinct (mem_toList_iff.2 h)
  | none =>
    refine Std.ExtTreeMap.getElem?_insertMany_list_of_contains_eq_false ?_
    rw [Bool.eq_false_iff]
    intro hmem
    obtain ⟨⟨path, signature⟩, hentry, rfl⟩ := List.mem_map.1 (List.contains_iff_mem.1 hmem)
    rw [mem_toList_iff.1 hentry] at h
    cases h

/-- Merging goes on from the left. -/
theorem merge_assoc (store middle other : Store) :
    (store.merge middle).merge other = store.merge (middle.merge other) := by
  apply ext_get?
  intro path
  rw [get?_merge, get?_merge, get?_merge, get?_merge, Option.or_assoc]

theorem empty_merge (store : Store) : empty.merge store = store := by
  apply ext_get?
  intro path
  rw [get?_merge, get?_empty, Option.or_none]

theorem merge_empty (store : Store) : store.merge empty = store := by
  apply ext_get?
  intro path
  rw [get?_merge, get?_empty, Option.none_or]

/-- Leaves one after the other are two stores merged. -/
theorem ofLeaves_append (front back : List Leaf) :
    ofLeaves (front ++ back) = (ofLeaves front).merge (ofLeaves back) := by
  apply ext_get?
  intro path
  simp only [get?_merge, ofLeaves_eq_ofList, ofList, List.map_append, insertAll_append,
    get?_insertAll, get?_empty, Option.or_none]

end Store
end SymbolAnnotations
