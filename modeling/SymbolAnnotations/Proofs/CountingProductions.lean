import SymbolAnnotations.Proofs.CountingParser

/-!
# The productions that count

A definition raises the counter of its parser behind an opening brace and lowers it
behind the closing one.  Between these, the productions take one token after the
other, and what goes wrong on the way leaves the counter as it is.

How blocks inside of blocks are parsed is a parameter here too, and so is what is
done when there is no room left to parse one more: `Parsing.nested` has room for
so many blocks inside each other and does anything whatsoever below that.

* `Parsing` — a step of a parser, which never goes back in the source;
* `Parsing.definition` — the only production that counts, with the guard in front;
* `Parsing.list`, `Parsing.file` — the loop over items, which ends because each
  round takes at least one byte, `Parsing.offset_itemStep_lt`.
-/

namespace SymbolAnnotations
namespace Source

/-- A step of a parser, or many of them.  It never goes back in the source. -/
structure Parsing (α : Type) where
  run : Parser → Except ParseError α × Parser
  reaches : ∀ parser : Parser, parser.Reaches (run parser).2

namespace Parsing

variable {α β : Type}

instance : Monad Parsing where
  pure a :=
    { run := fun parser => (.ok a, parser)
      reaches := .refl }
  bind x f :=
    { run := fun parser =>
        match x.run parser with
        | (.ok a, behind) => (f a).run behind
        | (.error fault, behind) => (.error fault, behind)
      reaches := by
        intro parser
        have hfirst := x.reaches parser
        split
        · rename_i a behind hrun
          rw [hrun] at hfirst
          exact hfirst.trans ((f a).reaches behind)
        · rename_i fault behind hrun
          rw [hrun] at hfirst
          exact hfirst }

/-- Goes on nowhere. -/
def fail (fault : ParseError) : Parsing α where
  run parser := (.error fault, parser)
  reaches := .refl

/-- The number of blocks that are open. -/
def depth : Parsing Nat where
  run parser := (.ok parser.depth, parser)
  reaches := .refl

/-- Counts one block more. -/
def deepen : Parsing Unit where
  run parser := (.ok (), { parser with depth := parser.depth + 1 })
  reaches _ := ⟨0, rfl⟩

/-- Counts one block less. -/
def rise : Parsing Unit where
  run parser := (.ok (), { parser with depth := parser.depth - 1 })
  reaches _ := ⟨0, rfl⟩

/-- Remembers a token that is looked at. -/
def note (site : Site) (token : Token) : Parsing Unit where
  run parser := (.ok (), parser.note site token)
  reaches _ := ⟨0, rfl⟩

/-- Looks at the token that follows, which is `none` at the end of the source. -/
def look : Parsing (Option Token) where
  run parser := (parser.cursor.peek, parser)
  reaches := .refl

/-- Takes the token that follows. -/
def take (site : Site) : Parsing (Option Token) where
  run parser :=
    match parser.cursor.next with
    | .ok (some (token, after)) => (.ok (some token), parser.take site token after)
    | .ok none => (.ok none, parser)
    | .error fault => (.error fault, parser)
  reaches := by
    intro parser
    split
    · rename_i token after hnext
      exact Parser.reaches_take site hnext
    · exact .refl parser
    · exact .refl parser

/-- The fault of ending here. -/
def truncated : Parsing α where
  run parser := (.error parser.cursor.truncation, parser)
  reaches := .refl

/-- Looks at a token that has to follow. -/
def lookRequired : Parsing Token := do
  match ← look with
  | some token => return token
  | none => truncated

/-- Takes a token that has to follow. -/
def takeRequired (site : Site) : Parsing Token := do
  match ← take site with
  | some token => return token
  | none => truncated

/-- Passes all runes that pass the test. -/
def passWhile (test : Char → Bool) (read : List Char) : Parsing (List Char) where
  run parser :=
    let passed := parser.passWhile test read
    (.ok passed.1, passed.2)
  reaches := Parser.reaches_passWhile test read

/-- Passes the rest of the text of a signature. -/
def passText (braces : Nat) (read : List Char) : Parsing (List Char) where
  run parser :=
    let passed := parser.passText (scopeAt parser.depth) braces read
    (.ok passed.1, passed.2)
  reaches parser := Parser.reaches_passText (scopeAt parser.depth) braces read parser

/-- Passes what may stand between items. -/
def skipSeparators : Parsing Unit where
  run parser := (.ok (), parser.skipSeparators)
  reaches := Parser.reaches_skipSeparators

/-- Passes white space. -/
def skip (test : Char → Bool) : Parsing Unit := do
  let _ ← passWhile test []

/-- Takes the given punctuation. -/
def expect (site : Site) (mark : Punctuation) : Parsing Unit := do
  let found ← takeRequired site
  if found.rune = mark.rune then
    return ()
  else
    fail (.unexpected found (.punctuation mark))

/-- An identifier. -/
def identifier : Parsing String := do
  let first ← takeRequired .other
  if Rune.startsIdentifier first.rune then
    let read ← passWhile Rune.continuesIdentifier [first.rune]
    let _ ← lookRequired
    return String.ofList read
  else
    fail (.unexpected first .identifier)

/-- A pointer receiver. -/
def receiver : Parsing ItemName := do
  expect .other .openParen
  skip Rune.isWhiteSpace
  expect .other .star
  skip Rune.isWhiteSpace
  let typeName ← identifier
  skip Rune.isWhiteSpace
  expect .other .closeParen
  return .receiver typeName

/-- The name of an item. -/
def name : Parsing ItemName := do
  let first ← lookRequired
  if first.rune = Punctuation.openParen.rune then
    receiver
  else if Rune.startsIdentifier first.rune then
    let text ← identifier
    return .plain text
  else
    fail (.unexpected first .name)

/-- The text of a signature. -/
def signature : Parsing String := do
  let first ← takeRequired .other
  if Rune.startsSignature first.rune && !(scopeAt (← depth)).closes first.rune then
    let read ← passText (bracesAfter first.rune 0) [first.rune]
    let _ ← look
    return String.ofList (trim read)
  else
    fail (.unexpected first .signature)

/-- Takes the brace that opens a block, which is open from then on. -/
def openBlock : Parsing Unit := do
  let _ ← take .opening
  deepen

/-- Takes the brace that closes a block, which is open up to there. -/
def closeBlock : Parsing Unit := do
  expect .closing .closeBrace
  rise

/-- A block, from its opening brace on. -/
def block (nested : Parsing (List Leaf)) : Parsing (List Leaf) := do
  openBlock
  skip Rune.isWhiteSpace
  let leaves ← nested
  skip Rune.isWhiteSpace
  closeBlock
  return leaves

/-- What an item gives its name.  **The guard** stands in front of each block. -/
def definition (nested : Parsing (List Leaf)) : Parsing (List Leaf) := do
  let first ← lookRequired
  note .definition first
  if first.rune = Punctuation.openBrace.rune then
    if maxNesting ≤ (← depth) then
      fail (.unexpected first .shallowerNesting)
    else
      block nested
  else
    let text ← signature
    return [⟨[], text⟩]

/-- The end of an item. -/
def endOfItem : Parsing Unit := do
  match ← look with
  | none => return ()
  | some token =>
    if (scopeAt (← depth)).closes token.rune then
      return ()
    else if Rune.isTerminator token.rune then
      let _ ← take .other
    else
      fail (.unexpected token .terminator)

/-- An item with its terminator. -/
def item (nested : Parsing (List Leaf)) : Parsing (List Leaf) := do
  let name ← name
  skip Rune.isInlineWhiteSpace
  let leaves ← definition nested
  skip Rune.isInlineWhiteSpace
  endOfItem
  return leaves.map (.under name)

/-- One round of the loop over the items of a list: the leaves of the next item, if
there is one. -/
def itemStep (nested : Parsing (List Leaf)) : Parsing (Option (List Leaf)) := do
  skipSeparators
  match ← look with
  | none => return none
  | some token =>
    if Rune.startsName token.rune then
      let leaves ← item nested
      return some leaves
    else
      return none

theorem run_bind (x : Parsing α) (f : α → Parsing β) (parser : Parser) :
    (x >>= f).run parser =
      match x.run parser with
      | (.ok a, behind) => (f a).run behind
      | (.error fault, behind) => (.error fault, behind) := rfl

/-- Of two steps the second one goes on with what the first one has found. -/
theorem run_bind_of_ok {x : Parsing α} {f : α → Parsing β} {parser behind : Parser} {a : α}
    (h : x.run parser = (.ok a, behind)) : (x >>= f).run parser = (f a).run behind := by
  rw [run_bind, h]

/-- Behind a fault nothing is done. -/
theorem run_bind_of_error {x : Parsing α} {f : α → Parsing β} {parser behind : Parser}
    {fault : ParseError} (h : x.run parser = (.error fault, behind)) :
    (x >>= f).run parser = (.error fault, behind) := by
  rw [run_bind, h]

/-- Two steps succeed when the first one does and then the second one. -/
theorem run_bind_eq_ok_iff {x : Parsing α} {f : α → Parsing β} {parser after : Parser} {b : β} :
    (x >>= f).run parser = (.ok b, after) ↔
      ∃ a middle, x.run parser = (.ok a, middle) ∧ (f a).run middle = (.ok b, after) := by
  cases hfirst : x.run parser with
  | mk outcome behind =>
      cases outcome with
      | error fault => simp [run_bind_of_error hfirst]
      | ok a => simp [run_bind_of_ok hfirst]

/-- Success means that a rune has been taken. -/
def Consumes (x : Parsing α) : Prop :=
  ∀ ⦃parser a after⦄, x.run parser = (.ok a, after) → after.remaining < parser.remaining

theorem Consumes.bind {x : Parsing α} (h : x.Consumes) (f : α → Parsing β) :
    (x >>= f).Consumes := by
  intro parser b after hrun
  obtain ⟨a, middle, hfirst, hrest⟩ := run_bind_eq_ok_iff.1 hrun
  have hle := ((f a).reaches middle).remaining_le
  rw [hrest] at hle
  exact Nat.lt_of_le_of_lt hle (h hfirst)

theorem Consumes.behind {f : α → Parsing β} (h : ∀ a, (f a).Consumes) (x : Parsing α) :
    (x >>= f).Consumes := by
  intro parser b after hrun
  obtain ⟨a, middle, hfirst, hrest⟩ := run_bind_eq_ok_iff.1 hrun
  have hle := (x.reaches parser).remaining_le
  rw [hfirst] at hle
  exact Nat.lt_of_lt_of_le (h a hrest) hle

theorem consumes_fail (fault : ParseError) : (fail fault : Parsing α).Consumes := by
  intro parser a after hrun
  cases hrun

theorem consumes_takeRequired (site : Site) : (takeRequired site).Consumes := by
  intro parser token after hrun
  obtain ⟨token?, middle, htake, hrest⟩ := run_bind_eq_ok_iff.1 hrun
  cases token? with
  | none => cases hrest
  | some found =>
      cases hrest
      simp only [take] at htake
      split at htake
      · rename_i hnext
        cases htake
        have hone := Parser.remaining_take site hnext
        omega
      · cases htake
      · cases htake

theorem consumes_name : name.Consumes := by
  refine Consumes.behind (fun first => ?_) lookRequired
  have hreceiver : receiver.Consumes := ((consumes_takeRequired .other).bind _).bind _
  have hidentifier : identifier.Consumes := (consumes_takeRequired .other).bind _
  split
  · exact hreceiver
  · split
    · exact hidentifier.bind _
    · exact consumes_fail _

/-- **Progress.**  Each round of the loop over items takes at least one rune. -/
theorem remaining_itemStep_lt {nested : Parsing (List Leaf)} {parser after : Parser}
    {leaves : List Leaf} (h : (itemStep nested).run parser = (.ok (some leaves), after)) :
    after.remaining < parser.remaining := by
  have hitem : (item nested).Consumes := consumes_name.bind _
  obtain ⟨_, start, hskip, hrest⟩ := run_bind_eq_ok_iff.1 h
  obtain ⟨token?, middle, hlook, hrest⟩ := run_bind_eq_ok_iff.1 hrest
  have hstart := (skipSeparators.reaches parser).remaining_le
  have hmiddle := (look.reaches start).remaining_le
  rw [hskip] at hstart
  rw [hlook] at hmiddle
  cases token? with
  | none => cases hrest
  | some token =>
      simp only at hrest
      split at hrest
      · obtain ⟨found, behind, hfound, hdone⟩ := run_bind_eq_ok_iff.1 hrest
        cases hdone
        have hlt := hitem hfound
        simp only at hstart hmiddle
        omega
      · cases hrest

/-- Each round of the loop over items takes at least one byte. -/
theorem offset_itemStep_lt {nested : Parsing (List Leaf)} {parser after : Parser}
    {leaves : List Leaf} (h : (itemStep nested).run parser = (.ok (some leaves), after)) :
    parser.offset < after.offset := by
  have hreaches := (itemStep nested).reaches parser
  rw [h] at hreaches
  exact hreaches.offset_lt (remaining_itemStep_lt h)

/-- Goes on in a list of items, behind the leaves that have been found. -/
def itemsAfter (nested : Parsing (List Leaf)) (found : List Leaf) (parser : Parser) :
    Except ParseError (List Leaf) × Parser :=
  match _ : (itemStep nested).run parser with
  | (.ok (some leaves), after) => itemsAfter nested (found ++ leaves) after
  | (.ok none, after) => (.ok found, after)
  | (.error fault, after) => (.error fault, after)
termination_by parser.remaining
decreasing_by exact remaining_itemStep_lt ‹_›

theorem reaches_itemsAfter (nested : Parsing (List Leaf)) (found : List Leaf) (parser : Parser) :
    parser.Reaches (itemsAfter nested found parser).2 := by
  fun_induction itemsAfter nested found parser with
  | case1 found parser leaves after hstep ih =>
      have hreaches := (itemStep nested).reaches parser
      rw [hstep] at hreaches
      exact hreaches.trans ih
  | case2 found parser after hstep | case3 found parser fault after hstep =>
      have hreaches := (itemStep nested).reaches parser
      rw [hstep] at hreaches
      exact hreaches

/-- A list of items. -/
def list (nested : Parsing (List Leaf)) : Parsing (List Leaf) where
  run := itemsAfter nested []
  reaches := reaches_itemsAfter nested []

/-- How a list inside a block is parsed where there is room for so many blocks
inside each other.  With no room left, anything may happen. -/
def nested (overflow : Parsing (List Leaf)) : (room : Nat) → Parsing (List Leaf)
  | 0 => overflow
  | room + 1 => list (nested overflow room)

/-- A whole source, with room for as many blocks as may be open at once. -/
def file (overflow : Parsing (List Leaf)) : Parsing (List Leaf) := do
  let leaves ← list (nested overflow maxNesting)
  skipSeparators
  match ← look with
  | none => return leaves
  | some token => fail (.unexpected token .name)

end Parsing
end Source
end SymbolAnnotations
