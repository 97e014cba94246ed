/-!
# JSON documents

The documents that are written here hold strings and objects.  They come in two
layouts: pretty, with one member to a line and two spaces of indentation for
each level, and compact, without any space.  Strings escape the quotation mark,
the backslash and the controls below U+0020, and nothing else.
-/

namespace SymbolAnnotations

/-- A JSON value of strings and objects.  The members of an object keep their
order. -/
inductive Json where
  | text (value : String)
  | object (members : List (String × Json))

namespace Json

/-- How a document is laid out. -/
inductive Layout where
  | pretty
  | compact
deriving DecidableEq, Repr

/-- A rune inside a string. -/
def escaped (rune : Char) : List Char :=
  match rune with
  | '"' => ['\\', '"']
  | '\\' => ['\\', '\\']
  | '\x08' => ['\\', 'b']
  | '\x0c' => ['\\', 'f']
  | '\n' => ['\\', 'n']
  | '\r' => ['\\', 'r']
  | '\t' => ['\\', 't']
  | _ =>
    if rune.toNat < 0x20 then
      ['\\', 'u', '0', '0', Nat.digitChar (rune.toNat / 16), Nat.digitChar (rune.toNat % 16)]
    else
      [rune]

/-- A string with its quotation marks. -/
def quoted (value : String) : String :=
  "\"" ++ String.ofList (value.toList.flatMap escaped) ++ "\""

/-- The indentation of a level. -/
def indentation (depth : Nat) : String :=
  String.ofList (List.replicate (2 * depth) ' ')

/-- What separates a member's name from its value. -/
def Layout.colon : Layout → String
  | pretty => ": "
  | compact => ":"

/-- What begins a new line at a level. -/
def Layout.newline (depth : Nat) : Layout → String
  | pretty => "\n" ++ indentation depth
  | compact => ""

mutual

/-- The text of a value that stands at the given level. -/
def write (layout : Layout) (depth : Nat) : Json → String
  | text value => quoted value
  | object [] => "\x7b\x7d"
  | object (member :: rest) =>
    "\x7b" ++ layout.newline (depth + 1) ++
      ("," ++ layout.newline (depth + 1)).intercalate
        (writeMembers layout (depth + 1) (member :: rest)) ++
      layout.newline depth ++ "\x7d"

/-- The texts of the members of an object, whose values stand at the given
level. -/
def writeMembers (layout : Layout) (depth : Nat) : List (String × Json) → List String
  | [] => []
  | (name, value) :: rest =>
    (quoted name ++ layout.colon ++ write layout depth value) :: writeMembers layout depth rest

end

/-- The text of a document: its value and a newline. -/
def render (layout : Layout) (value : Json) : String :=
  value.write layout 0 ++ "\n"

end Json
end SymbolAnnotations
