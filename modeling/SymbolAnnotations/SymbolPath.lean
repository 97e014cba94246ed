/-!
# Symbol paths

A symbol path is the key that a signature is stored under: an identifier
(`Stdout`), segments joined by dots for nested items (`Reader.Read`), or a
method behind its pointer receiver (`(*File).Read`).
-/

namespace SymbolAnnotations
namespace SymbolPath

/-- The name of the pointer receiver on a type: `(*T)`. -/
def receiver (typeName : String) : String :=
  "(*" ++ typeName ++ ")"

/-- The path `inner` as seen from outside of `outer`.  An empty inner path is
the outer item itself. -/
def qualify (outer inner : String) : String :=
  if inner.isEmpty then outer else outer ++ "." ++ inner

/-- The path of a method with a pointer receiver: `(*T).M`. -/
def method (typeName methodName : String) : String :=
  qualify (receiver typeName) methodName

/-- The path of nested segments, outermost first.  Empty segments leave no
trace. -/
def nested (segments : List String) : String :=
  segments.foldl (fun path segment => if path.isEmpty then segment else qualify path segment) ""

/-- Whether `part` occurs somewhere in the runes. -/
def occursIn (part : List Char) : List Char → Bool
  | [] => part.isEmpty
  | rune :: rest => part.isPrefixOf (rune :: rest) || occursIn part rest

/-- Whether the path is that of something behind a pointer receiver. -/
def isMethodKey (path : String) : Bool :=
  ['(', '*'].isPrefixOf path.toList && occursIn [')', '.'] path.toList

end SymbolPath
end SymbolAnnotations
