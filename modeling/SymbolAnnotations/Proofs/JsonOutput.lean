import SymbolAnnotations.Output
import SymbolAnnotations.Proofs.JsonRoundTrip

/-!
# Stores and registries as JSON

A store is printed as the object of its signatures, and a registry as the object of its stores.
What is printed is one document and a newline, which the grammar reads in one way, and what it
reads holds exactly the entries that there are, each of them once and in order.  So nothing is
lost: what is printed alike is the same.

* `Store.isMap_toValue`, `Registry.isMap_toValue` — the value has the entries;
* `isLine_render` — a document and a newline;
* `json_output_lossless` — stores and registries in either layout.
-/

namespace SymbolAnnotations
namespace Json

/-- The text is one document with one newline behind it, and can be read as this value only.
The document is an object, so that it ends in a brace. -/
structure IsLine (text : String) (value : Value) : Prop where
  exists_document : ∃ document, text = document ++ "\n" ∧ document.toList.getLast? = some '}' ∧
    ∀ other rest, Reads document.toList other rest ↔ other = value ∧ rest = []
  isDocument_iff : ∀ other, IsDocument text.toList other ↔ other = value

/-- The value is an object with these entries and no others.  The names of the members ascend, so
that no name comes twice. -/
def Value.IsMap (value : Value) (member? : String → Option Value) : Prop :=
  ∃ members, value = .object members ∧ (members.map (·.1)).Pairwise (· < ·) ∧
    ∀ name, members.lookup name = member? name

/-- A value has no more than one map of entries. -/
theorem Value.IsMap.member?_eq {value : Value} {member? member?' : String → Option Value}
    (h : value.IsMap member?) (h' : value.IsMap member?') (name : String) :
    member? name = member?' name := by
  obtain ⟨members, rfl, -, hlookup⟩ := h
  obtain ⟨members', hvalue, -, hlookup'⟩ := h'
  cases hvalue
  rw [← hlookup, hlookup']

/-- Where names ascend, a member is found by its name. -/
theorem lookup_of_mem {members : List (String × Value)} {name : String} {value : Value}
    (h : (members.map (·.1)).Pairwise (· < ·)) (hmem : (name, value) ∈ members) :
    members.lookup name = some value := by
  obtain ⟨front, back, rfl⟩ := List.append_of_mem hmem
  rw [List.lookup_eq_some_iff]
  refine ⟨front, back, rfl, ?_⟩
  rintro ⟨other, otherValue⟩ hother
  rw [List.map_append, List.pairwise_append] at h
  obtain ⟨-, -, h⟩ := h
  have hlt : other < name := h other (List.mem_map_of_mem hother) name (by simp)
  rw [bne_iff_ne]
  rintro rfl
  exact String.lt_irrefl _ hlt

/-- The object of what a tree of entries holds. -/
theorem isMap_object_toList {α : Type} (entries : Std.ExtTreeMap String α) (toValue : α → Value) :
    Value.IsMap (.object (entries.toList.map fun entry => (entry.1, toValue entry.2)))
      fun name => entries[name]?.map toValue := by
  have hascending :
      ((entries.toList.map fun entry => (entry.1, toValue entry.2)).map (·.1)).Pairwise
        (· < ·) := by
    rw [List.map_map, List.pairwise_map]
    exact pairwise_fst_toList entries
  refine ⟨_, rfl, hascending, ?_⟩
  intro name
  change List.lookup name _ = entries[name]?.map toValue
  cases hentry : entries[name]? with
  | some entry =>
      have hmem := Std.ExtTreeMap.mem_toList_iff_getElem?_eq_some.2 hentry
      exact lookup_of_mem hascending (List.mem_map.2 ⟨_, hmem, rfl⟩)
  | none =>
      rw [Option.map_none, List.lookup_eq_none_iff]
      rintro ⟨other, value⟩ hother
      obtain ⟨⟨_, entry⟩, hmem, heq⟩ := List.mem_map.1 hother
      cases heq
      rw [bne_iff_ne]
      rintro rfl
      rw [Std.ExtTreeMap.mem_toList_iff_getElem?_eq_some.1 hmem] at hentry
      cases hentry

/-- An object is printed in a line of its own. -/
theorem isLine_render (layout : Layout) (members : List (String × Json)) :
    IsLine ((object members).render layout) (object members).toValue := by
  refine ⟨⟨(object members).write layout 0, rfl, ?_, ?_⟩, ?_⟩
  · cases members with
    | nil =>
        rw [toList_write_empty]
        rfl
    | cons member more =>
        have hbrace : "\x7d".toList = ['}'] := by simp
        rw [write, String.toList_append, hbrace, List.getLast?_concat]
  · intro other rest
    have hreads := @reads_write_iff layout 0 (object members) [] rest other
    rwa [List.append_nil] at hreads
  · intro other
    rw [render, String.toList_append]
    exact isDocument_write_iff layout (object members) (by simp [skip, isBlank])

/-- What is printed alike has the same value. -/
theorem IsLine.value_eq {text : String} {value value' : Value} (h : IsLine text value)
    (h' : IsLine text value') : value = value' :=
  (h'.isDocument_iff value).1 ((h.isDocument_iff value).2 rfl)

theorem memberValues_eq_map (members : List (String × Json)) :
    memberValues members = members.map fun member => (member.1, member.2.toValue) := by
  induction members with
  | nil => rfl
  | cons member more ih => rw [memberValues, ih, List.map_cons]

end Json

namespace Store

/-- The object of the signatures, as it is read. -/
def toValue (store : Store) : Json.Value :=
  .object (store.toList.map fun entry => (entry.1, .text entry.2))

theorem toValue_toJson (store : Store) : store.toJson.toValue = store.toValue := by
  simp [toJson, toValue, Json.toValue, Json.memberValues_eq_map]

/-- The members are the entries of the store. -/
theorem isMap_toValue (store : Store) :
    store.toValue.IsMap fun path => (store.get? path).map .text :=
  Json.isMap_object_toList store.entries .text

theorem toValue_injective {store other : Store} (h : store.toValue = other.toValue) :
    store = other := by
  apply ext_get?
  intro path
  have hentries := store.isMap_toValue.member?_eq (h ▸ other.isMap_toValue) path
  exact Option.map_injective (fun _ _ => Json.Value.text.inj) hentries

theorem isLine_render (store : Store) {config : OutputConfig} (h : config.format = .json) :
    Json.IsLine (store.render config) store.toValue := by
  rw [render, h, ← toValue_toJson]
  exact Json.isLine_render config.layout _

end Store

namespace Registry

/-- The object of the stores, as it is read. -/
def toValue (registry : Registry) : Json.Value :=
  .object (registry.toList.map fun entry => (entry.1, entry.2.toValue))

theorem toValue_toJson (registry : Registry) : registry.toJson.toValue = registry.toValue := by
  simp [toJson, toValue, Json.toValue, Json.memberValues_eq_map, Store.toValue_toJson]

/-- The members are the stores of the packages, also those without entries. -/
theorem isMap_toValue (registry : Registry) :
    registry.toValue.IsMap fun package => (registry.package? package).map Store.toValue :=
  Json.isMap_object_toList registry.packages Store.toValue

theorem toValue_injective {registry other : Registry} (h : registry.toValue = other.toValue) :
    registry = other := by
  apply ext_package?
  intro package
  have hentries := registry.isMap_toValue.member?_eq (h ▸ other.isMap_toValue) package
  exact Option.map_injective (fun _ _ => Store.toValue_injective) hentries

theorem isLine_render (registry : Registry) {config : OutputConfig} (h : config.format = .json) :
    Json.IsLine (registry.render config) registry.toValue := by
  rw [render, h, ← toValue_toJson]
  exact Json.isLine_render config.layout _

end Registry

/-- **Nothing is lost.**  In either layout a store is printed as one line that reads as the
object of exactly its signatures, and a registry as one that reads as the object of exactly its
stores.  Stores that are printed alike, be it in different layouts, are the same, and so are
registries. -/
theorem json_output_lossless :
    (∀ (store : Store) (config : OutputConfig), config.format = .json →
      Json.IsLine (store.render config) store.toValue ∧
        store.toValue.IsMap fun path => (store.get? path).map .text) ∧
    (∀ (registry : Registry) (config : OutputConfig), config.format = .json →
      Json.IsLine (registry.render config) registry.toValue ∧
        registry.toValue.IsMap fun package => (registry.package? package).map Store.toValue) ∧
    (∀ (store other : Store) (config config' : OutputConfig), config.format = .json →
      config'.format = .json → store.render config = other.render config' → store = other) ∧
    ∀ (registry other : Registry) (config config' : OutputConfig), config.format = .json →
      config'.format = .json → registry.render config = other.render config' →
        registry = other := by
  refine ⟨?_, ?_, ?_, ?_⟩
  · intro store config hformat
    exact ⟨store.isLine_render hformat, store.isMap_toValue⟩
  · intro registry config hformat
    exact ⟨registry.isLine_render hformat, registry.isMap_toValue⟩
  · intro store other config config' hformat hformat' hsame
    have hline := store.isLine_render hformat
    rw [hsame] at hline
    exact Store.toValue_injective (hline.value_eq (other.isLine_render hformat'))
  · intro registry other config config' hformat hformat' hsame
    have hline := registry.isLine_render hformat
    rw [hsame] at hline
    exact Registry.toValue_injective (hline.value_eq (other.isLine_render hformat'))

end SymbolAnnotations
