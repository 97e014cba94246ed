import SymbolAnnotations.SymbolPath

/-!
# Items

An item gives a name either a signature or a block of further items.  What
counts in the end are the leaves: each signature together with the names that
lead to it, outermost first.
-/

namespace SymbolAnnotations

/-- The name of an item. -/
inductive ItemName where
  | plain (identifier : String)
  /-- A pointer receiver, written `(*T)`. -/
  | receiver (typeName : String)
deriving DecidableEq, Repr

namespace ItemName

/-- The name as a segment of a symbol path. -/
def spelling : ItemName → String
  | plain identifier => identifier
  | receiver typeName => SymbolPath.receiver typeName

end ItemName

/-- A signature and the names that lead to it. -/
structure Leaf where
  names : List ItemName
  signature : String
deriving DecidableEq, Repr

namespace Leaf

/-- The leaf as seen from outside of the item `name`. -/
def under (name : ItemName) (leaf : Leaf) : Leaf :=
  { leaf with names := name :: leaf.names }

/-- The symbol path that names lead to: each one qualifies what is inside
it. -/
def pathOf : List ItemName → String
  | [] => ""
  | name :: inner => SymbolPath.qualify name.spelling (pathOf inner)

/-- The symbol path of the leaf. -/
def path (leaf : Leaf) : String :=
  pathOf leaf.names

end Leaf
end SymbolAnnotations
