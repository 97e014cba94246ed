import SymbolAnnotations.Store

/-!
# Registries

A registry keeps one store per package.  What is added to a package is merged
into it, so that a built-in table and a file of the user combine exactly like
two items of one file.

`perform` carries out one operation on a registry, and `performAll` a whole run of them.

* `package?_insert` — adding to one package touches no other;
* `lookup?_insert` — what is added last answers first;
* `insert_insert`, `insert_comm` — adding twice is adding what is merged, and different
  packages do not get in each other's way.
-/

namespace SymbolAnnotations

/-- Stores by package. -/
structure Registry where
  packages : Std.ExtTreeMap String Store := ∅

namespace Registry

/-- The registry without packages. -/
def empty : Registry := {}

/-- The store of a package. -/
def package? (registry : Registry) (package : String) : Option Store :=
  registry.packages[package]?

/-- The signature of a symbol in a package. -/
def lookup? (registry : Registry) (package symbol : String) : Option String :=
  (registry.package? package).bind (·.get? symbol)

/-- The number of packages. -/
def size (registry : Registry) : Nat :=
  registry.packages.size

/-- Whether there are no packages. -/
def isEmpty (registry : Registry) : Bool :=
  registry.packages.isEmpty

/-- The packages in order. -/
def toList (registry : Registry) : List (String × Store) :=
  registry.packages.toList

/-- Merges a store into a package.  The package exists afterwards, even if the
store is empty. -/
def insert (registry : Registry) (package : String) (store : Store) : Registry :=
  ⟨registry.packages.insert package
    (((registry.package? package).getD Store.empty).merge store)⟩

/-- Parses a source and merges it into a package. -/
def addSource (registry : Registry) (package : String) (source : ByteArray) :
    Except ParseError Registry :=
  (Store.parse source).map (registry.insert package)

/-- An operation on a registry. -/
inductive Operation where
  /-- A source is parsed and merged into a package. -/
  | addSource (package : String) (source : ByteArray)
  /-- A store is merged into a package. -/
  | insert (package : String) (store : Store)

/-- Carries out an operation: what it answers, and the registry behind it.  A source that
does not parse is refused, and the registry stays as it is. -/
def perform (registry : Registry) : Operation → Except ParseError Unit × Registry
  | .addSource package source =>
    match registry.addSource package source with
    | .ok added => (.ok (), added)
    | .error fault => (.error fault, registry)
  | .insert package store => (.ok (), registry.insert package store)

/-- The registry behind operations that are carried out one after the other. -/
def performAll (registry : Registry) (operations : List Operation) : Registry :=
  operations.foldl (fun registry operation => (registry.perform operation).2) registry

@[simp] theorem package?_empty (package : String) : empty.package? package = none := by
  simp [package?, empty]

theorem package?_insert (registry : Registry) (package : String) (store : Store)
    (query : String) :
    (registry.insert package store).package? query =
      if package = query then
        some (((registry.package? package).getD Store.empty).merge store)
      else
        registry.package? query := by
  simp [package?, insert, Std.ExtTreeMap.getElem?_insert]

/-- What is added to a package answers first there, and nowhere else. -/
theorem lookup?_insert (registry : Registry) (package : String) (store : Store)
    (query symbol : String) :
    (registry.insert package store).lookup? query symbol =
      if package = query then
        (store.get? symbol).or (registry.lookup? query symbol)
      else
        registry.lookup? query symbol := by
  rw [lookup?, package?_insert, lookup?]
  split
  · rename_i h
    subst h
    cases registry.package? package <;> simp [Store.get?_merge]
  · rfl

/-- **A registry is its packages.** -/
theorem ext_package? {registry other : Registry}
    (h : ∀ package, registry.package? package = other.package? package) : registry = other := by
  obtain ⟨packages⟩ := registry
  obtain ⟨packages'⟩ := other
  exact congrArg mk (Std.ExtTreeMap.ext_getElem? (h ·))

/-- Stores that are added to a package one after the other are merged. -/
theorem insert_insert (registry : Registry) (package : String) (store other : Store) :
    (registry.insert package store).insert package other =
      registry.insert package (store.merge other) := by
  apply ext_package?
  intro query
  simp only [package?_insert, if_true, Option.getD_some, Store.merge_assoc]
  split <;> rfl

/-- Stores for different packages may come in either order. -/
theorem insert_comm {package other : String} (h : package ≠ other) (registry : Registry)
    (store store' : Store) :
    (registry.insert package store).insert other store' =
      (registry.insert other store').insert package store := by
  apply ext_package?
  intro query
  simp only [package?_insert, if_neg h, if_neg h.symm]
  by_cases hquery : package = query
  · rw [if_pos hquery, if_neg (fun hother => h (hquery.trans hother.symm)), if_pos hquery]
  · rw [if_neg hquery, if_neg hquery]

end Registry
end SymbolAnnotations
