import SymbolAnnotations.Registry

/-!
# Operations on a registry, one after the other

What a registry holds behind a run of operations is a matter of the stores that the
operations bring: the inserted ones, and those of the sources that parse.  Each package
holds its own of them, merged in turn.  A source that does not parse brings nothing and
leaves no trace.

* `package?_perform`, `package?_performAll` — what a step and what a run does to the packages;
* `lookup?_performAll` — the last operation that knows a symbol answers;
* `perform_comm`, `performAll_on_package` — operations that may be swapped or be put together;
* `performAll_keeps_last_writers` — registries behind all runs of operations.
-/

namespace SymbolAnnotations

namespace Store

/-- The stores merged in this order; nothing if there are none. -/
def mergeAll : List Store → Option Store
  | [] => none
  | first :: more => some (more.foldl merge first)

theorem mergeAll_eq_none_iff {stores : List Store} : mergeAll stores = none ↔ stores = [] := by
  cases stores <;> simp [mergeAll]

/-- All but the first may be merged beforehand. -/
theorem mergeAll_cons (store : Store) (more : List Store) :
    mergeAll (store :: more) = some ((mergeAll more).elim store store.merge) := by
  cases more with
  | nil => rfl
  | cons next rest =>
      refine congrArg some ?_
      induction rest generalizing next with
      | nil => rfl
      | cons last rest ih =>
          have hmerged := ih (next.merge last)
          simp only [mergeAll, List.foldl_cons, Option.elim_some] at hmerged ⊢
          rw [merge_assoc, hmerged]

/-- Stores may be merged in parts. -/
theorem mergeAll_toList_mergeAll_append (front back : List Store) :
    mergeAll ((mergeAll front).toList ++ back) = mergeAll (front ++ back) := by
  cases front with
  | nil => rfl
  | cons first more => exact congrArg some List.foldl_append.symm

/-- The last of the stores that knows a path answers. -/
theorem get?_mergeAll (stores : List Store) (path : String) :
    (mergeAll stores).bind (·.get? path) = stores.reverse.findSome? (·.get? path) := by
  cases stores with
  | nil => rfl
  | cons first more =>
      rw [mergeAll, Option.bind_some]
      induction more generalizing first with
      | nil => simp
      | cons next rest ih =>
          rw [List.foldl_cons, ih]
          cases hnext : next.get? path <;> simp [List.findSome?_append, get?_merge, hnext]

end Store

namespace Registry

namespace Operation

/-- The package that the operation is on. -/
def package : Operation → String
  | addSource package _ => package
  | insert package _ => package

/-- The store that the operation brings, if it brings one. -/
def store? : Operation → Option Store
  | addSource _ source => (Store.parse source).toOption
  | insert _ store => some store

/-- The store that the operation brings for a package. -/
def storeFor? (package : String) (operation : Operation) : Option Store :=
  if operation.package = package then operation.store? else none

/-- The signature that the operation brings for a symbol of a package. -/
def signature? (package symbol : String) (operation : Operation) : Option String :=
  (operation.storeFor? package).bind (·.get? symbol)

theorem signature?_eq_some_iff {operation : Operation} {package symbol signature : String} :
    operation.signature? package symbol = some signature ↔
      operation.package = package ∧
        ∃ store, operation.store? = some store ∧ store.get? symbol = some signature := by
  by_cases hpackage : operation.package = package
  · simp [signature?, storeFor?, hpackage, Option.bind_eq_some_iff]
  · simp [signature?, storeFor?, hpackage]

theorem signature?_eq_none_iff {operation : Operation} {package symbol : String} :
    operation.signature? package symbol = none ↔
      (operation.package = package →
        ∀ store, operation.store? = some store → store.get? symbol = none) := by
  by_cases hpackage : operation.package = package
  · simp [signature?, storeFor?, hpackage, Option.bind_eq_none_iff]
  · simp [signature?, storeFor?, hpackage]

theorem storeFor?_of_package_eq {operation : Operation} {package : String}
    (h : operation.package = package) : operation.storeFor? package = operation.store? :=
  if_pos h

theorem storeFor?_eq_some_iff {operation : Operation} {package : String} {store : Store} :
    operation.storeFor? package = some store ↔
      operation.package = package ∧ operation.store? = some store := by
  by_cases hpackage : operation.package = package
  · simp [storeFor?, hpackage]
  · simp [storeFor?, hpackage]

theorem storeFor?_of_package_ne {operation : Operation} {package : String}
    (h : operation.package ≠ package) : operation.storeFor? package = none :=
  if_neg h

end Operation

/-- An operation that brings a store merges it into its package. -/
theorem perform_of_store?_eq_some {operation : Operation} {store : Store}
    (h : operation.store? = some store) (registry : Registry) :
    registry.perform operation = (.ok (), registry.insert operation.package store) := by
  cases operation with
  | insert package found =>
      cases h
      rfl
  | addSource package source =>
      rw [Operation.store?] at h
      cases hparse : Store.parse source with
      | error fault =>
          rw [hparse] at h
          cases h
      | ok found =>
          rw [hparse] at h
          cases h
          rw [perform, addSource, hparse]
          rfl

/-- **Nothing comes of a source that does not parse.** -/
theorem perform_of_store?_eq_none {operation : Operation} (h : operation.store? = none)
    (registry : Registry) :
    ∃ fault, registry.perform operation = (.error fault, registry) := by
  cases operation with
  | insert package found => cases h
  | addSource package source =>
      rw [Operation.store?] at h
      cases hparse : Store.parse source with
      | error fault => exact ⟨fault, by rw [perform, addSource, hparse]; rfl⟩
      | ok found =>
          rw [hparse] at h
          cases h

@[simp] theorem performAll_nil (registry : Registry) : registry.performAll [] = registry := rfl

@[simp] theorem performAll_cons (registry : Registry) (operation : Operation)
    (more : List Operation) :
    registry.performAll (operation :: more) =
      (registry.perform operation).2.performAll more := rfl

theorem performAll_append (registry : Registry) (front back : List Operation) :
    registry.performAll (front ++ back) = (registry.performAll front).performAll back :=
  List.foldl_append

/-- **A step:** an operation merges its store behind what its package had, and leaves the
other packages alone. -/
theorem package?_perform (registry : Registry) (operation : Operation) (package : String) :
    (registry.perform operation).2.package? package =
      Store.mergeAll
        ((registry.package? package).toList ++ (operation.storeFor? package).toList) := by
  by_cases hpackage : operation.package = package
  · rw [Operation.storeFor?_of_package_eq hpackage]
    cases hstore : operation.store? with
    | none =>
        obtain ⟨fault, hperform⟩ := perform_of_store?_eq_none hstore registry
        rw [hperform]
        cases registry.package? package <;> rfl
    | some store =>
        rw [perform_of_store?_eq_some hstore, package?_insert, if_pos hpackage, hpackage]
        cases registry.package? package with
        | none => exact congrArg some (Store.empty_merge store)
        | some found => rfl
  · rw [Operation.storeFor?_of_package_ne hpackage]
    have hsame : (registry.perform operation).2.package? package = registry.package? package := by
      cases hstore : operation.store? with
      | none =>
          obtain ⟨fault, hperform⟩ := perform_of_store?_eq_none hstore registry
          rw [hperform]
      | some store => rw [perform_of_store?_eq_some hstore, package?_insert, if_neg hpackage]
    rw [hsame]
    cases registry.package? package <;> rfl

/-- **A run:** a package holds the stores that the operations bring for it, merged in turn
behind what it had. -/
theorem package?_performAll (registry : Registry) (operations : List Operation)
    (package : String) :
    (registry.performAll operations).package? package =
      Store.mergeAll ((registry.package? package).toList ++
        operations.filterMap (Operation.storeFor? package)) := by
  induction operations generalizing registry with
  | nil => cases hfound : registry.package? package <;> simp [hfound, Store.mergeAll]
  | cons operation more ih =>
      rw [performAll_cons, ih, package?_perform, Store.mergeAll_toList_mergeAll_append,
        List.append_assoc]
      cases hstore : operation.storeFor? package with
      | none => rw [List.filterMap_cons_none hstore]; rfl
      | some store => rw [List.filterMap_cons_some hstore]; rfl

/-- A package is there exactly if some operation brings a store for it. -/
theorem isSome_package?_performAll (operations : List Operation) (package : String) :
    ((empty.performAll operations).package? package).isSome = true ↔
      ∃ operation ∈ operations,
        operation.package = package ∧ operation.store?.isSome = true := by
  rw [package?_performAll, package?_empty, Option.toList_none, List.nil_append,
    Option.isSome_iff_ne_none, Ne, Store.mergeAll_eq_none_iff]
  constructor
  · intro hne
    obtain ⟨store, hmem⟩ := List.exists_mem_of_ne_nil _ hne
    obtain ⟨operation, hoperation, hfor⟩ := List.mem_filterMap.1 hmem
    obtain ⟨hpackage, hstore⟩ := Operation.storeFor?_eq_some_iff.1 hfor
    exact ⟨operation, hoperation, hpackage, Option.isSome_of_eq_some hstore⟩
  · rintro ⟨operation, hoperation, hpackage, hstore⟩
    obtain ⟨store, hstore⟩ := Option.isSome_iff_exists.1 hstore
    have hfor := Operation.storeFor?_eq_some_iff.2 ⟨hpackage, hstore⟩
    exact List.ne_nil_of_mem (List.mem_filterMap.2 ⟨operation, hoperation, hfor⟩)

/-- **The last operation that knows a symbol** answers for it. -/
theorem lookup?_performAll (operations : List Operation) (package symbol : String) :
    (empty.performAll operations).lookup? package symbol =
      operations.reverse.findSome? (Operation.signature? package symbol) := by
  rw [lookup?, package?_performAll, package?_empty, Option.toList_none, List.nil_append,
    Store.get?_mergeAll, ← List.filterMap_reverse, ← List.head?_filterMap,
    List.filterMap_filterMap, List.head?_filterMap]
  rfl

/-- The symbol has the signature of the last operation that brings one for it. -/
theorem lookup?_performAll_eq_some_iff {operations : List Operation}
    {package symbol signature : String} :
    (empty.performAll operations).lookup? package symbol = some signature ↔
      ∃ before operation later, operations = before ++ operation :: later ∧
        operation.signature? package symbol = some signature ∧
        ∀ other ∈ later, other.signature? package symbol = none := by
  rw [lookup?_performAll, List.findSome?_eq_some_iff]
  constructor
  · rintro ⟨later, operation, before, hsplit, hsignature, hlater⟩
    have hoperations := congrArg List.reverse hsplit
    rw [List.reverse_reverse] at hoperations
    refine ⟨before.reverse, operation, later.reverse, by simpa using hoperations, hsignature, ?_⟩
    intro other hother
    exact hlater other (List.mem_reverse.1 hother)
  · rintro ⟨before, operation, later, rfl, hsignature, hlater⟩
    refine ⟨later.reverse, operation, before.reverse, by simp, hsignature, ?_⟩
    intro other hother
    exact hlater other (List.mem_reverse.1 hother)

/-- What an operation answers is a matter of the operation alone. -/
theorem fst_perform_congr (registry registry' : Registry) (operation : Operation) :
    (registry.perform operation).1 = (registry'.perform operation).1 := by
  cases operation with
  | insert package store => rfl
  | addSource package source =>
      simp only [perform, addSource]
      cases Store.parse source <;> rfl

/-- Operations on different packages may come in either order. -/
theorem perform_comm {operation other : Operation} (h : operation.package ≠ other.package)
    (registry : Registry) :
    ((registry.perform operation).2.perform other).2 =
      ((registry.perform other).2.perform operation).2 := by
  cases hstore : operation.store? with
  | none =>
      obtain ⟨_, hbefore⟩ := perform_of_store?_eq_none hstore registry
      obtain ⟨_, hbehind⟩ := perform_of_store?_eq_none hstore (registry.perform other).2
      rw [hbefore, hbehind]
  | some store =>
      rw [perform_of_store?_eq_some hstore, perform_of_store?_eq_some hstore]
      cases hother : other.store? with
      | none =>
          obtain ⟨_, hbefore⟩ := perform_of_store?_eq_none hother registry
          obtain ⟨_, hbehind⟩ :=
            perform_of_store?_eq_none hother (registry.insert operation.package store)
          rw [hbefore, hbehind]
      | some store' =>
          rw [perform_of_store?_eq_some hother, perform_of_store?_eq_some hother]
          exact insert_comm h registry store store'

/-- **Operations on one package** do as much as inserting their stores merged, and nothing if
they bring none. -/
theorem performAll_on_package {operations : List Operation} {package : String}
    (h : ∀ operation ∈ operations, operation.package = package) (registry : Registry) :
    registry.performAll operations =
      (Store.mergeAll (operations.filterMap Operation.store?)).elim registry
        (registry.insert package) := by
  induction operations generalizing registry with
  | nil => rfl
  | cons operation more ih =>
      obtain ⟨hpackage, hmore⟩ := List.forall_mem_cons.1 h
      rw [performAll_cons, ih hmore]
      cases hstore : operation.store? with
      | none =>
          obtain ⟨fault, hperform⟩ := perform_of_store?_eq_none hstore registry
          rw [hperform, List.filterMap_cons_none hstore]
      | some store =>
          rw [perform_of_store?_eq_some hstore, List.filterMap_cons_some hstore,
            Store.mergeAll_cons, hpackage]
          cases Store.mergeAll (more.filterMap Operation.store?) with
          | none => rfl
          | some merged => exact insert_insert registry package store merged

/-- **What a registry holds behind a run of operations.**  A package is there if an insertion
or a source that parses named it, even one without entries, and a symbol has the signature
of the last operation on its package whose store knows it.  A source that does not parse
changes nothing.  Neighbouring operations on different packages may be swapped, and
neighbouring operations on one package do what inserting their merged stores does; where
none of them brings a store, there is nothing to insert, and they do nothing. -/
theorem performAll_keeps_last_writers (operations : List Operation) :
    (∀ package, ((empty.performAll operations).package? package).isSome = true ↔
      ∃ operation ∈ operations,
        operation.package = package ∧ operation.store?.isSome = true) ∧
    (∀ package symbol signature,
      (empty.performAll operations).lookup? package symbol = some signature ↔
        ∃ before operation later, operations = before ++ operation :: later ∧
          (operation.package = package ∧
            ∃ store, operation.store? = some store ∧ store.get? symbol = some signature) ∧
          ∀ other ∈ later, other.package = package →
            ∀ store, other.store? = some store → store.get? symbol = none) ∧
    (∀ package symbol, (empty.performAll operations).lookup? package symbol = none ↔
      ∀ operation ∈ operations, operation.package = package →
        ∀ store, operation.store? = some store → store.get? symbol = none) ∧
    (∀ package source fault, Store.parse source = .error fault →
      (empty.performAll operations).perform (.addSource package source) =
        (.error fault, empty.performAll operations)) ∧
    (∀ operation other later, operation.package ≠ other.package →
      empty.performAll (operations ++ operation :: other :: later) =
        empty.performAll (operations ++ other :: operation :: later)) ∧
    (∀ operation (registry : Registry),
      ((empty.performAll operations).perform operation).1 = (registry.perform operation).1) ∧
    (∀ run package later, (∀ operation ∈ run, operation.package = package) →
      (∀ merged, Store.mergeAll (run.filterMap Operation.store?) = some merged →
        empty.performAll (operations ++ run ++ later) =
          empty.performAll (operations ++ .insert package merged :: later)) ∧
      (Store.mergeAll (run.filterMap Operation.store?) = none →
        empty.performAll (operations ++ run ++ later) =
          empty.performAll (operations ++ later))) ∧
    (∀ store middle other : Store,
      (store.merge middle).merge other = store.merge (middle.merge other)) ∧
    ∀ store : Store, Store.empty.merge store = store ∧ store.merge Store.empty = store := by
  refine ⟨isSome_package?_performAll operations, ?_, ?_, ?_, ?_, ?_, ?_, Store.merge_assoc, ?_⟩
  · intro package symbol signature
    simp only [lookup?_performAll_eq_some_iff, Operation.signature?_eq_some_iff,
      Operation.signature?_eq_none_iff]
  · intro package symbol
    simp only [lookup?_performAll, List.findSome?_eq_none_iff, List.mem_reverse,
      Operation.signature?_eq_none_iff]
  · intro package source fault hparse
    rw [perform, addSource, hparse]
    rfl
  · intro operation other later hpackage
    rw [performAll_append, performAll_append, performAll_cons, performAll_cons, performAll_cons,
      performAll_cons, perform_comm hpackage]
  · intro operation registry
    exact fst_perform_congr _ _ operation
  · intro run package later hrun
    simp only [performAll_append, performAll_cons, performAll_on_package hrun]
    constructor
    · intro merged hmerged
      rw [hmerged]
      rfl
    · intro hnone
      rw [hnone]
      rfl
  · intro store
    exact ⟨Store.empty_merge store, Store.merge_empty store⟩

end Registry
end SymbolAnnotations
