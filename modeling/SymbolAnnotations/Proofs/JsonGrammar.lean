import SymbolAnnotations.Json

/-!
# The grammar of JSON

All of JSON, with its six kinds of values, with every escape that a string may hold and with
white space wherever it may be.  The relations say what stands at the beginning of a text and
what is left behind it.  Nothing in them knows how documents are laid out here, so that they can
judge what is written.

* `Runes` — the inside of a string, up to its closing quotation mark;
* `Reads`, `Elements`, `Members` — values, and what arrays and objects hold;
* `IsDocument` — a text that is one value with white space around it;
* `reads_quote_iff`, `reads_brace_iff`, `members_quote_iff` — what the first rune of a text says
  about the value there.
-/

namespace SymbolAnnotations
namespace Json

/-- What a document stands for.  A number is kept as it is spelled. -/
inductive Value where
  | null
  | bool (value : Bool)
  | number (spelling : String)
  | text (value : String)
  | array (elements : List Value)
  /-- The members keep their order, and a name may come again. -/
  | object (members : List (String × Value))

/-- White space between tokens. -/
def isBlank (rune : Char) : Bool :=
  rune == ' ' || rune == '\t' || rune == '\n' || rune == '\r'

/-- What is behind the white space at the beginning of a text.  No token begins with white
space, so that all of it can go. -/
def skip (text : List Char) : List Char :=
  text.dropWhile isBlank

/-- Digits, and nothing else. -/
def AreDigits (text : List Char) : Prop :=
  ∀ rune ∈ text, rune.isDigit = true

/-- The part of a number in front of its point: no zero comes before other digits. -/
def IsWhole (text : List Char) : Prop :=
  text = ['0'] ∨ ∃ first more, text = first :: more ∧ first ≠ '0' ∧ AreDigits text

/-- A point with digits behind it. -/
def IsFraction (text : List Char) : Prop :=
  ∃ digits, text = '.' :: digits ∧ digits ≠ [] ∧ AreDigits digits

/-- An exponent, with a sign if it has one. -/
def IsExponent (text : List Char) : Prop :=
  ∃ mark sign digits, text = mark :: (sign ++ digits) ∧ (mark = 'e' ∨ mark = 'E') ∧
    (sign = [] ∨ sign = ['+'] ∨ sign = ['-']) ∧ digits ≠ [] ∧ AreDigits digits

/-- How a number is spelled. -/
def IsNumber (text : List Char) : Prop :=
  ∃ sign whole fraction exponent, text = sign ++ (whole ++ (fraction ++ exponent)) ∧
    (sign = [] ∨ sign = ['-']) ∧ IsWhole whole ∧ (fraction = [] ∨ IsFraction fraction) ∧
    (exponent = [] ∨ IsExponent exponent)

/-- The rune that a letter behind a backslash stands for. -/
def unescape? : Char → Option Char
  | '"' => some '"'
  | '\\' => some '\\'
  | '/' => some '/'
  | 'b' => some '\x08'
  | 'f' => some '\x0c'
  | 'n' => some '\n'
  | 'r' => some '\r'
  | 't' => some '\t'
  | _ => none

/-- The value of a hexadecimal digit. -/
def hexValue? (digit : Char) : Option Nat :=
  if digit.isDigit then some (digit.toNat - '0'.toNat)
  else if 'a' ≤ digit ∧ digit ≤ 'f' then some (digit.toNat - 'a'.toNat + 10)
  else if 'A' ≤ digit ∧ digit ≤ 'F' then some (digit.toNat - 'A'.toNat + 10)
  else none

/-- The code unit that four hexadecimal digits spell. -/
def codeUnit? (first second third fourth : Char) : Option Nat :=
  match hexValue? first, hexValue? second, hexValue? third, hexValue? fourth with
  | some first, some second, some third, some fourth =>
    some (((first * 16 + second) * 16 + third) * 16 + fourth)
  | _, _, _, _ => none

/-- The inside of a string at the beginning of a text, and what is left behind the quotation
mark that closes it. -/
inductive Runes : List Char → List Char → List Char → Prop where
  | close {rest : List Char} : Runes ('"' :: rest) [] rest
  | plain {rune : Char} {text runes rest : List Char} (hrune : 0x20 ≤ rune.toNat)
      (hquote : rune ≠ '"') (hbackslash : rune ≠ '\\') (more : Runes text runes rest) :
      Runes (rune :: text) (rune :: runes) rest
  | escape {letter rune : Char} {text runes rest : List Char}
      (hletter : unescape? letter = some rune) (more : Runes text runes rest) :
      Runes ('\\' :: letter :: text) (rune :: runes) rest
  | unit {a b c d : Char} {unit : Nat} {text runes rest : List Char}
      (hunit : codeUnit? a b c d = some unit) (hscalar : unit < 0xD800 ∨ 0xE000 ≤ unit)
      (more : Runes text runes rest) :
      Runes ('\\' :: 'u' :: a :: b :: c :: d :: text) (Char.ofNat unit :: runes) rest
  /-- Two halves of a rune that is too large for one code unit. -/
  | pair {a b c d a' b' c' d' : Char} {high low : Nat} {text runes rest : List Char}
      (hhigh : codeUnit? a b c d = some high) (hbounds : 0xD800 ≤ high ∧ high < 0xDC00)
      (hlow : codeUnit? a' b' c' d' = some low) (hbounds' : 0xDC00 ≤ low ∧ low < 0xE000)
      (more : Runes text runes rest) :
      Runes ('\\' :: 'u' :: a :: b :: c :: d :: '\\' :: 'u' :: a' :: b' :: c' :: d' :: text)
        (Char.ofNat (0x10000 + (high - 0xD800) * 0x400 + (low - 0xDC00)) :: runes) rest

mutual

/-- The value at the beginning of a text, and what is left behind it. -/
inductive Reads : List Char → Value → List Char → Prop where
  | null {rest : List Char} : Reads ('n' :: 'u' :: 'l' :: 'l' :: rest) .null rest
  | true {rest : List Char} : Reads ('t' :: 'r' :: 'u' :: 'e' :: rest) (.bool true) rest
  | false {rest : List Char} : Reads ('f' :: 'a' :: 'l' :: 's' :: 'e' :: rest) (.bool false) rest
  | number {text spelling rest : List Char} (h : IsNumber spelling)
      (htext : text = spelling ++ rest) : Reads text (.number (String.ofList spelling)) rest
  | text {text runes rest : List Char} (h : Runes text runes rest) :
      Reads ('"' :: text) (.text (String.ofList runes)) rest
  | emptyArray {text rest : List Char} (h : skip text = ']' :: rest) :
      Reads ('[' :: text) (.array []) rest
  | array {text rest : List Char} {elements : List Value}
      (h : Elements (skip text) elements rest) : Reads ('[' :: text) (.array elements) rest
  | emptyObject {text rest : List Char} (h : skip text = '}' :: rest) :
      Reads ('{' :: text) (.object []) rest
  | object {text rest : List Char} {members : List (String × Value)}
      (h : Members (skip text) members rest) : Reads ('{' :: text) (.object members) rest

/-- The elements of an array, at least one, and what is left behind its bracket. -/
inductive Elements : List Char → List Value → List Char → Prop where
  | last {text after rest : List Char} {value : Value} (h : Reads text value after)
      (hend : skip after = ']' :: rest) : Elements text [value] rest
  | next {text after behind rest : List Char} {value : Value} {values : List Value}
      (h : Reads text value after) (hcomma : skip after = ',' :: behind)
      (more : Elements (skip behind) values rest) : Elements text (value :: values) rest

/-- The members of an object, at least one, and what is left behind its brace. -/
inductive Members : List Char → List (String × Value) → List Char → Prop where
  | last {text name afterName behind after rest : List Char} {value : Value}
      (hname : Runes text name afterName) (hcolon : skip afterName = ':' :: behind)
      (h : Reads (skip behind) value after) (hend : skip after = '}' :: rest) :
      Members ('"' :: text) [(String.ofList name, value)] rest
  | next {text name afterName behind after behind' rest : List Char} {value : Value}
      {members : List (String × Value)} (hname : Runes text name afterName)
      (hcolon : skip afterName = ':' :: behind) (h : Reads (skip behind) value after)
      (hcomma : skip after = ',' :: behind') (more : Members (skip behind') members rest) :
      Members ('"' :: text) ((String.ofList name, value) :: members) rest

end

/-- The text is one value, with nothing but white space around it. -/
def IsDocument (text : List Char) (value : Value) : Prop :=
  ∃ rest, Reads (skip text) value rest ∧ skip rest = []

variable {text runes rest : List Char} {value : Value} {members : List (String × Value)}

/-- A quotation mark closes the string. -/
theorem runes_quote_iff : Runes ('"' :: text) runes rest ↔ runes = [] ∧ rest = text := by
  constructor
  · rintro (_ | ⟨-, hquote, -, -⟩)
    · exact ⟨rfl, rfl⟩
    · exact absurd rfl hquote
  · rintro ⟨rfl, rfl⟩
    exact .close

/-- A rune that need not be escaped stands for itself. -/
theorem runes_plain_iff {rune : Char} (hrune : 0x20 ≤ rune.toNat) (hquote : rune ≠ '"')
    (hbackslash : rune ≠ '\\') :
    Runes (rune :: text) runes rest ↔ ∃ more, runes = rune :: more ∧ Runes text more rest := by
  constructor
  · intro h
    cases h with
    | close => exact absurd rfl hquote
    | plain _ _ _ more => exact ⟨_, rfl, more⟩
    | escape _ _ => exact absurd rfl hbackslash
    | unit _ _ _ => exact absurd rfl hbackslash
    | pair _ _ _ _ _ => exact absurd rfl hbackslash
  · rintro ⟨more, rfl, hmore⟩
    exact .plain hrune hquote hbackslash hmore

/-- A letter behind a backslash stands for one rune. -/
theorem runes_escape_iff {letter rune : Char} (hletter : unescape? letter = some rune) :
    Runes ('\\' :: letter :: text) runes rest ↔
      ∃ more, runes = rune :: more ∧ Runes text more rest := by
  have hu : letter ≠ 'u' := by
    rintro rfl
    cases hletter
  constructor
  · intro h
    cases h with
    | plain _ _ hbackslash _ => exact absurd rfl hbackslash
    | escape hletter' more =>
        cases hletter.symm.trans hletter'
        exact ⟨_, rfl, more⟩
    | unit _ _ _ => exact absurd rfl hu
    | pair _ _ _ _ _ => exact absurd rfl hu
  · rintro ⟨more, rfl, hmore⟩
    exact .escape hletter hmore

/-- A code unit below the surrogates stands for the rune with its number. -/
theorem runes_unit_iff {a b c d : Char} {unit : Nat} (hunit : codeUnit? a b c d = some unit)
    (hscalar : unit < 0xD800) :
    Runes ('\\' :: 'u' :: a :: b :: c :: d :: text) runes rest ↔
      ∃ more, runes = Char.ofNat unit :: more ∧ Runes text more rest := by
  constructor
  · intro h
    cases h with
    | plain _ _ hbackslash _ => exact absurd rfl hbackslash
    | escape hletter _ => cases hletter
    | unit hunit' _ more =>
        cases hunit.symm.trans hunit'
        exact ⟨_, rfl, more⟩
    | pair hhigh hbounds _ _ _ =>
        cases hunit.symm.trans hhigh
        exact absurd hscalar (Nat.not_lt.2 hbounds.1)
  · rintro ⟨more, rfl, hmore⟩
    exact .unit hunit (Or.inl hscalar) hmore

/-- How numbers begin. -/
theorem IsNumber.exists_cons {spelling : List Char} (h : IsNumber spelling) :
    ∃ first more, spelling = first :: more ∧ (first = '-' ∨ first.isDigit = true) := by
  obtain ⟨sign, whole, fraction, exponent, rfl, hsign, hwhole, -, -⟩ := h
  rcases hsign with rfl | rfl
  · rcases hwhole with rfl | ⟨first, more, rfl, -, hdigits⟩
    · exact ⟨'0', _, rfl, Or.inr rfl⟩
    · exact ⟨first, _, rfl, Or.inr (hdigits first List.mem_cons_self)⟩
  · exact ⟨'-', _, rfl, Or.inl rfl⟩

/-- A value that begins with a quotation mark is a string. -/
theorem reads_quote_iff : Reads ('"' :: text) value rest ↔
    ∃ runes, value = .text (String.ofList runes) ∧ Runes text runes rest := by
  constructor
  · intro h
    cases h with
    | number hnumber htext =>
        obtain ⟨first, more, rfl, hfirst⟩ := hnumber.exists_cons
        obtain ⟨rfl, -⟩ := List.cons.inj htext
        exact absurd hfirst (by decide)
    | text hrunes => exact ⟨_, rfl, hrunes⟩
  · rintro ⟨runes, rfl, hrunes⟩
    exact .text hrunes

/-- A value that begins with a brace is an object. -/
theorem reads_brace_iff : Reads ('{' :: text) value rest ↔
    skip text = '}' :: rest ∧ value = .object [] ∨
      ∃ members, value = .object members ∧ Members (skip text) members rest := by
  constructor
  · intro h
    cases h with
    | number hnumber htext =>
        obtain ⟨first, more, rfl, hfirst⟩ := hnumber.exists_cons
        obtain ⟨rfl, -⟩ := List.cons.inj htext
        exact absurd hfirst (by decide)
    | emptyObject hend => exact Or.inl ⟨hend, rfl⟩
    | object hmembers => exact Or.inr ⟨_, rfl, hmembers⟩
  · rintro (⟨hend, rfl⟩ | ⟨members, rfl, hmembers⟩)
    · exact .emptyObject hend
    · exact .object hmembers

/-- **Members come one by one.**  Behind the value of a member there is a brace, or there is a
comma with more members behind it. -/
theorem members_quote_iff : Members ('"' :: text) members rest ↔
    ∃ name afterName behind value after, Runes text name afterName ∧
      skip afterName = ':' :: behind ∧ Reads (skip behind) value after ∧
      (skip after = '}' :: rest ∧ members = [(String.ofList name, value)] ∨
        ∃ behind' more, skip after = ',' :: behind' ∧ Members (skip behind') more rest ∧
          members = (String.ofList name, value) :: more) := by
  constructor
  · intro h
    cases h with
    | last hname hcolon h hend => exact ⟨_, _, _, _, _, hname, hcolon, h, Or.inl ⟨hend, rfl⟩⟩
    | next hname hcolon h hcomma more =>
        exact ⟨_, _, _, _, _, hname, hcolon, h, Or.inr ⟨_, _, hcomma, more, rfl⟩⟩
  · rintro ⟨name, afterName, behind, value, after, hname, hcolon, h,
      ⟨hend, rfl⟩ | ⟨behind', more, hcomma, hmore, rfl⟩⟩
    · exact .last hname hcolon h hend
    · exact .next hname hcolon h hcomma hmore

/-- No object with members begins with anything but a name. -/
theorem not_members_brace : ¬ Members ('}' :: text) members rest := by
  intro h
  cases h

end Json
end SymbolAnnotations
