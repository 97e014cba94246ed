import SymbolAnnotations.Proofs.CountedReading
import SymbolAnnotations.Store

/-!
# The guard against deep nesting

A brace in front of a definition opens a block, unless as many blocks are open as
may be.  The parser that counts has a guard there; the productions without a counter
have run out of readers for blocks.  Production by production, the two read the same
and refuse the same braces, and so the guard is all that bounds the nesting.

* `reads_definition` — the guard and the reader that refuses every block;
* `reads_itemsAfter`, `readsBelow_nested` — lists, by induction on the room that is
  left for blocks inside of blocks;
* `nesting_guard_exact` — what the counter is at every moment of a parse, and when
  the guard refuses a block.
-/

namespace SymbolAnnotations
namespace Source

/-- The first rune of a signature can be taken in front of the others. -/
theorem signature_eq_require_bind (scope : Scope) (cursor : Cursor) :
    signature scope cursor = (cursor.require >>= fun found =>
      if Rune.startsSignature found.1.rune && !scope.closes found.1.rune then
        let length := signatureLength scope (bracesAfter found.1.rune 0) 0 found.2.runes
        (found.2.advance length).next >>= fun _ =>
          .ok (String.ofList (trim (found.1.rune :: found.2.runes.take length)),
            found.2.advance length)
      else
        .error (.unexpected found.1 .signature)) := by
  rw [signature]
  cases hrequire : cursor.require with
  | error fault => rfl
  | ok found =>
      obtain ⟨token, ahead⟩ := found
      have hnext := Cursor.require_eq_ok_iff.1 hrequire
      have hrunes := (Cursor.next_eq_ok_some_iff.1 hnext).1
      have hahead := Cursor.eq_advance_one_of_next hnext
      rw [ok_bind, ok_bind]
      dsimp only
      split
      · rename_i hstart
        rw [Bool.and_eq_true, Bool.not_eq_true', Rune.startsSignature, Bool.and_eq_true,
          Bool.not_eq_true'] at hstart
        generalize hlength : signatureLength scope (bracesAfter token.rune 0) 0 ahead.runes = length
        have hwhole : signatureLength scope 0 0 cursor.runes = length + 1 := by
          rw [hrunes, signatureLength, hstart.1.1, hstart.2, if_neg (by decide),
            signatureLength_eq_add, hlength, Nat.add_comm]
        have hafter : cursor.advance (length + 1) = ahead.advance length := by
          rw [hahead, Cursor.advance_advance, Nat.add_comm]
        rw [hwhole, hafter, hrunes, List.take_succ_cons]
        rfl
      · rfl

/-- A whole file: its leaves and the place behind it. -/
def fileFrom (cursor : Cursor) : Except ParseError (List Leaf × Cursor) := do
  let (leaves, after) ← items (blockWithin maxNesting) .file cursor
  let start := after.skipSeparators
  match ← start.next with
  | none => return (leaves, start)
  | some (token, _) => throw (.unexpected token .name)

theorem leavesFrom_eq_map_fileFrom (cursor : Cursor) :
    leavesFrom cursor = (fileFrom cursor).map (·.1) := by
  rw [leavesFrom, fileFrom]
  cases items (blockWithin maxNesting) .file cursor with
  | error fault => rfl
  | ok found =>
      simp only [ok_bind]
      rcases found.2.skipSeparators.next with fault | _ | step <;> rfl

namespace Parsing

variable {α β : Type} {parser : Parser} {depth : Nat} {result : Except ParseError (β × Cursor)}

/-- Punctuation. -/
theorem reads_expect (mark : Punctuation) (parser : Parser) :
    parser.Reads parser.depth
      ((fun after => ((), after)) <$> Source.expect mark parser.cursor)
      ((expect .other mark).run parser) := by
  have hmark : (Expectation.punctuation mark).description ≠ "a shallower nesting" := by
    cases mark <;> decide
  rw [Source.expect, map_bind]
  refine reads_takeRequired_bind fun token ahead _ => ?_
  dsimp only
  split
  · exact reads_pure () rfl
  · exact reads_unexpected hmark

/-- An identifier. -/
theorem reads_identifier (parser : Parser) :
    parser.Reads parser.depth (Source.identifier parser.cursor) (identifier.run parser) := by
  refine reads_takeRequired_bind fun token ahead _ => ?_
  dsimp only
  split
  · refine reads_passWhile_bind fun behind hdepth hcursor => ?_
    have hahead : (parser.take .other token ahead).cursor = ahead := rfl
    rw [hahead] at hcursor ⊢
    rw [← hcursor]
    refine reads_lookRequired_bind fun _ _ _ => ?_
    exact reads_pure _ hdepth
  · exact reads_unexpected (by decide)

/-- A pointer receiver. -/
theorem reads_receiver (parser : Parser) :
    parser.Reads parser.depth (Source.receiver parser.cursor) (receiver.run parser) := by
  refine reads_bind_unit (reads_expect .openParen parser) fun afterParen hparen => ?_
  refine reads_skip_bind fun beforeStar hspace hcursor => ?_
  rw [Cursor.skipWhiteSpace, ← hcursor]
  refine reads_bind_unit (reads_expect .star beforeStar) fun afterStar hstar => ?_
  refine reads_skip_bind fun beforeType hspace' hcursor' => ?_
  rw [Cursor.skipWhiteSpace, ← hcursor']
  refine reads_bind (reads_identifier beforeType) fun typeName afterType htype => ?_
  refine reads_skip_bind fun beforeClose hspace'' hcursor'' => ?_
  dsimp only
  rw [Cursor.skipWhiteSpace, ← hcursor'']
  refine reads_bind_unit (reads_expect .closeParen beforeClose) fun behind hclose => ?_
  exact reads_pure _ (by omega)

/-- The name of an item. -/
theorem reads_name (parser : Parser) :
    parser.Reads parser.depth (Source.name parser.cursor) (name.run parser) := by
  refine reads_lookRequired_bind fun token _ _ => ?_
  dsimp only
  split
  · exact reads_receiver parser
  · split
    · refine reads_bind (reads_identifier parser) fun text behind hdepth => ?_
      exact reads_pure _ hdepth
    · exact reads_unexpected (by decide)

/-- The text of a signature.  Its first rune is taken in front of the loop. -/
theorem reads_signature (parser : Parser) :
    parser.Reads parser.depth (Source.signature (scopeAt parser.depth) parser.cursor)
      (signature.run parser) := by
  rw [signature_eq_require_bind]
  refine reads_takeRequired_bind fun token ahead _ => ?_
  have hkept : (parser.take .other token ahead).depth = parser.depth := rfl
  rw [run_depth_bind, hkept]
  dsimp only
  split
  · refine reads_passText_bind fun behind hdepth hcursor => ?_
    have hpassed : behind.cursor = ahead.advance
        (signatureLength (scopeAt parser.depth) (bracesAfter token.rune 0) 0 ahead.runes) := hcursor
    rw [← hpassed]
    exact reads_look_bind fun _ _ => reads_pure _ hdepth
  · exact reads_unexpected (by decide)

/-- The end of an item. -/
theorem reads_endOfItem (parser : Parser) :
    parser.Reads parser.depth
      ((fun after => ((), after)) <$> Source.endOfItem (scopeAt parser.depth) parser.cursor)
      (endOfItem.run parser) := by
  rw [Source.endOfItem, map_bind]
  refine reads_look_bind fun step? hnext => ?_
  cases step? with
  | none => exact reads_pure () rfl
  | some step =>
      obtain ⟨token, ahead⟩ := step
      dsimp only [Option.map_some]
      rw [run_depth_bind]
      split
      · exact reads_pure () rfl
      · split
        · exact reads_bind_of_run (run_take .other hnext) (Parser.passes_take_other hnext)
            (reads_pure () rfl)
        · exact reads_unexpected (by decide)

/-- Opening a block counts it. -/
theorem reads_openBlock_bind {f : Unit → Parsing β} {token : Token} {ahead : Cursor}
    (hnext : parser.cursor.next = .ok (some (token, ahead)))
    (hbrace : token.rune = Punctuation.openBrace.rune) (hshallow : parser.depth < maxNesting)
    (hrest : ∀ behind : Parser, behind.depth = parser.depth + 1 → behind.cursor = ahead →
      behind.Reads depth result ((f ()).run behind)) :
    parser.Reads depth result ((openBlock >>= f).run parser) := by
  let inside : Parser := { parser.take .opening token ahead with depth := parser.depth + 1 }
  have hrun : openBlock.run parser = (.ok (), inside) := run_bind_of_ok (run_take .opening hnext)
  have hpasses : parser.Passes inside := by
    refine .of_moment ⟨.opening, token, parser.depth⟩ rfl (by rintro ⟨⟩) fun source h => ?_
    refine h.behind_moment ⟨.opening, token, parser.depth⟩ rfl rfl ?_ ?_ hshallow
    · exact (Cursor.next_eq_ok_some_iff.1 hnext).1.symm
    · simp [inside, opened, closed, Moment.opens, Moment.closes, hbrace]
  exact reads_bind_of_run hrun hpasses (hrest inside rfl rfl)

/-- Closing a block counts it too, and only a brace closes it. -/
theorem reads_closeBlock (parser : Parser) (hinside : 0 < parser.depth) :
    parser.Reads (parser.depth - 1)
      ((fun after => ((), after)) <$> Source.expect .closeBrace parser.cursor)
      (closeBlock.run parser) := by
  rw [Source.expect]
  cases hrequire : parser.cursor.require with
  | error fault =>
      have htake := run_takeRequired .closing parser
      rw [hrequire] at htake
      exact reads_bind_of_fault (run_bind_of_error htake) (.refl parser)
        (not_asksShallower_require hrequire)
  | ok found =>
      obtain ⟨token, ahead⟩ := found
      have hnext := Cursor.require_eq_ok_iff.1 hrequire
      rw [ok_bind]
      dsimp only
      by_cases hbrace : token.rune = Punctuation.closeBrace.rune
      · let outside : Parser :=
          { parser.take .closing token ahead with depth := parser.depth - 1 }
        have hrun : closeBlock.run parser = (.ok (), outside) :=
          run_bind_of_ok (run_expect_of_rune .closing hrequire hbrace)
        have hpasses : parser.Passes outside := by
          refine .of_moment ⟨.closing, token, parser.depth⟩ rfl (by rintro ⟨⟩) fun source h => ?_
          refine h.behind_moment ⟨.closing, token, parser.depth⟩ rfl rfl ?_ ?_ ?_
          · exact (Cursor.next_eq_ok_some_iff.1 hnext).1.symm
          · simp [outside, opened, closed, Moment.opens, Moment.closes, hbrace]
            omega
          · exact Nat.le_trans (Nat.sub_le _ _) h.bound
        rw [hrun, if_pos hbrace]
        exact .done hpasses rfl
      · have hpasses : parser.Passes (parser.take .closing token ahead) :=
          .of_moment ⟨.closing, token, parser.depth⟩ rfl (by rintro ⟨⟩) fun source h =>
            h.take_of_not_brace hnext (.inr ⟨rfl, hbrace⟩)
        rw [if_neg hbrace]
        exact reads_bind_of_fault (run_expect_of_ne .closing hrequire hbrace) hpasses
          (not_asksShallower_unexpected (by decide))

/-- The lists inside of blocks are read as the productions without a counter read
them where there are so many levels of nesting left. -/
def ReadsBelow (nested : Parsing (List Leaf)) (levels : Nat) : Prop :=
  ∀ inner, levels = inner + 1 → ∀ parser : Parser, inner + parser.depth = maxNesting →
    parser.Reads parser.depth
      (items (blockWithin inner) (scopeAt parser.depth) parser.cursor) (nested.run parser)

variable {nested : Parsing (List Leaf)} {levels : Nat}

/-- A block. -/
theorem reads_block (parser : Parser) (hnested : ReadsBelow nested (levels + 1))
    (hlevels : levels + 1 + parser.depth = maxNesting) {brace : Token} {inside : Cursor}
    (hnext : parser.cursor.next = .ok (some (brace, inside)))
    (hbrace : brace.rune = Punctuation.openBrace.rune) :
    parser.Reads parser.depth (body (blockWithin levels) inside) ((block nested).run parser) := by
  refine reads_openBlock_bind hnext hbrace (by omega) fun afterBrace hdepth hcursor => ?_
  refine reads_skip_bind fun beforeItems hkept hcursor' => ?_
  have hscope : scopeAt beforeItems.depth = .block := by rw [hkept, hdepth, scopeAt]
  have hitems := hnested levels rfl beforeItems (by omega)
  rw [hscope, hcursor', hcursor] at hitems
  refine reads_bind hitems fun leaves afterItems hkept' => ?_
  refine reads_skip_bind fun beforeClose hkept'' hcursor'' => ?_
  dsimp only
  rw [Cursor.skipWhiteSpace, ← hcursor'']
  refine reads_bind_unit (reads_closeBlock beforeClose (by omega)) fun behind hclosed => ?_
  exact reads_pure _ (by omega)

/-- **The guard.**  What an item gives its name: a block only where there is a level
of nesting left for it. -/
theorem reads_definition (hnested : ReadsBelow nested levels)
    (hlevels : levels + parser.depth = maxNesting) :
    parser.Reads parser.depth
      (Source.definition (blockWithin levels) (scopeAt parser.depth) parser.cursor)
      ((definition nested).run parser) := by
  refine reads_lookRequired_bind fun token ahead hrequire => ?_
  have hnext := Cursor.require_eq_ok_iff.1 hrequire
  have hnote : (note .definition token).run parser =
      (.ok (), parser.note .definition token) := rfl
  have hkept : (parser.note .definition token).depth = parser.depth := rfl
  dsimp only
  by_cases hbrace : token.rune = Punctuation.openBrace.rune
  · -- No level is left exactly where the counter has come to its bound.
    cases levels with
    | zero =>
        have hdeep : maxNesting ≤ parser.depth := by omega
        rw [run_bind_of_ok hnote, if_pos hbrace, if_pos hbrace, run_depth_bind, hkept,
          if_pos hdeep]
        exact .refused (.refl parser) hbrace hdeep
    | succ levels =>
        have hshallow : ¬ maxNesting ≤ parser.depth := by omega
        rw [if_pos hbrace]
        refine reads_bind_of_run hnote (Parser.passes_note_definition fun _ => by omega) ?_
        rw [if_pos hbrace, run_depth_bind, hkept, if_neg hshallow]
        exact reads_block (parser.note .definition token) hnested hlevels hnext hbrace
  · rw [if_neg hbrace]
    refine reads_bind_of_run hnote (Parser.passes_note_definition fun h => absurd h hbrace) ?_
    rw [if_neg hbrace]
    refine reads_bind (reads_signature _) fun text behind hdepth => ?_
    exact reads_pure _ hdepth

/-- An item with its terminator. -/
theorem reads_item (hnested : ReadsBelow nested levels)
    (hlevels : levels + parser.depth = maxNesting) :
    parser.Reads parser.depth
      (Source.item (blockWithin levels) (scopeAt parser.depth) parser.cursor)
      ((item nested).run parser) := by
  refine reads_bind (reads_name parser) fun name afterName hname => ?_
  refine reads_skip_bind fun beforeDefinition hspace hcursor => ?_
  have hdepth : beforeDefinition.depth = parser.depth := hspace.trans hname
  have hdefinition := reads_definition hnested
    (show levels + beforeDefinition.depth = maxNesting by omega)
  rw [hdepth, hcursor] at hdefinition
  refine reads_bind hdefinition fun leaves afterDefinition hkept => ?_
  refine reads_skip_bind fun beforeEnd hspace' hcursor' => ?_
  have hdepth' : beforeEnd.depth = parser.depth := hspace'.trans hkept
  have hend := reads_endOfItem beforeEnd
  rw [hdepth', hcursor'] at hend
  exact reads_bind_unit hend fun behind hclosed => reads_pure _ hclosed

/-- The leaves of the next item of a list, if there is one. -/
def nextItem (blocks : BlockReader) (scope : Scope) (cursor : Cursor) :
    Except ParseError (Option (List Leaf) × Cursor) := do
  let start := cursor.skipSeparators
  match ← start.next with
  | none => return (none, start)
  | some (token, _) =>
    if Rune.startsName token.rune then
      let (leaves, after) ← Source.item blocks scope start
      return (some leaves, after)
    else
      return (none, start)

/-- A list is read item by item. -/
theorem itemsAfter_eq_nextItem (blocks : BlockReader) (scope : Scope) (found : List Leaf)
    (cursor : Cursor) :
    Source.itemsAfter blocks scope found cursor =
      (nextItem blocks scope cursor >>= fun (leaves?, after) =>
        match leaves? with
        | some leaves => Source.itemsAfter blocks scope (leaves.reverseAux found) after
        | none => .ok (found.reverse, after)) := by
  rw [Source.itemsAfter, nextItem]
  cases hnext : cursor.skipSeparators.next with
  | error fault => rfl
  | ok step? =>
      cases step? with
      | none => rfl
      | some step =>
          simp only [ok_bind]
          split
          · cases Source.item blocks scope cursor.skipSeparators with
            | error fault => rfl
            | ok found => rfl
          · rfl

/-- One round of the loop over items. -/
theorem reads_itemStep (hnested : ReadsBelow nested levels)
    (hlevels : levels + parser.depth = maxNesting) :
    parser.Reads parser.depth
      (nextItem (blockWithin levels) (scopeAt parser.depth) parser.cursor)
      ((itemStep nested).run parser) := by
  refine reads_skipSeparators_bind fun start hdepth hcursor => ?_
  rw [nextItem, ← hcursor, ← hdepth]
  refine reads_look_bind fun step? _ => ?_
  cases step? with
  | none => exact reads_pure none rfl
  | some step =>
      dsimp only [Option.map_some]
      split
      · refine reads_bind (reads_item hnested (by omega)) fun leaves after hkept => ?_
        exact reads_pure _ hkept
      · exact reads_pure none rfl

/-- A list of items, behind those that have been found. -/
theorem reads_itemsAfter (hnested : ReadsBelow nested levels) (found : List Leaf)
    (parser : Parser) (hlevels : levels + parser.depth = maxNesting) :
    parser.Reads parser.depth
      (Source.itemsAfter (blockWithin levels) (scopeAt parser.depth) found.reverse parser.cursor)
      (itemsAfter nested found parser) := by
  -- Round by round; the loop without a counter keeps its leaves in reverse.
  fun_induction itemsAfter nested found parser with
  | case1 found parser leaves after hstep ih =>
      have hround := reads_itemStep hnested hlevels
      rw [hstep] at hround
      rw [itemsAfter_eq_nextItem]
      refine hround.bind ?_ (by rintro _ ⟨⟩)
      rintro _ ⟨⟩ hdepth
      have hkept : after.depth = parser.depth := hdepth
      have hmore := ih (by omega)
      rw [hkept, List.reverse_append, ← List.reverseAux_eq] at hmore
      exact hmore
  | case2 found parser after hstep =>
      have hround := reads_itemStep hnested hlevels
      rw [hstep] at hround
      rw [itemsAfter_eq_nextItem]
      refine hround.bind ?_ (by rintro _ ⟨⟩)
      rintro _ ⟨⟩ hdepth
      rw [List.reverse_reverse]
      exact .done (.refl after) hdepth
  | case3 found parser fault after hstep =>
      have hround := reads_itemStep hnested hlevels
      rw [hstep] at hround
      rw [itemsAfter_eq_nextItem]
      refine hround.bind (by rintro _ ⟨⟩) ?_
      rintro _ ⟨⟩
      rfl

/-- As deep as there is room for blocks, the lists inside of them are read. -/
theorem readsBelow_nested (overflow : Parsing (List Leaf)) (room : Nat) :
    ReadsBelow (Parsing.nested overflow room) room := by
  induction room with
  | zero =>
      intro inner hinner
      cases hinner
  | succ room ih =>
      intro inner hinner parser hlevels
      cases hinner
      exact reads_itemsAfter ih [] parser hlevels

/-- Whole files. -/
theorem reads_file (overflow : Parsing (List Leaf)) (parser : Parser) (hdepth : parser.depth = 0) :
    parser.Reads 0 (fileFrom parser.cursor) ((file overflow).run parser) := by
  have hlist := reads_itemsAfter (readsBelow_nested overflow maxNesting) [] parser (by omega)
  rw [hdepth] at hlist
  refine reads_bind hlist fun leaves after hafter => ?_
  refine reads_skipSeparators_bind fun start hstart hcursor => ?_
  dsimp only
  rw [← hcursor]
  refine reads_look_bind fun step? _ => ?_
  cases step? with
  | none => exact reads_pure leaves (by omega)
  | some step => exact reads_unexpected (by decide)

/-- Two steps do the same if the first ones do, and then the second ones. -/
theorem run_bind_congr {x x' : Parsing α} {f f' : α → Parsing β} (hx : x.run parser = x'.run parser)
    (hf : ∀ a behind, x.run parser = (.ok a, behind) → (f a).run behind = (f' a).run behind) :
    (x >>= f).run parser = (x' >>= f').run parser := by
  cases hrun : x.run parser with
  | mk outcome behind =>
      rw [hrun] at hx
      cases outcome with
      | error fault => rw [run_bind_of_error hrun, run_bind_of_error hx.symm]
      | ok a => rw [run_bind_of_ok hrun, run_bind_of_ok hx.symm, hf a behind hrun]

/-- Two parsers of the lists inside of blocks do the same where there are so many
levels of nesting left. -/
def AgreeBelow (nested nested' : Parsing (List Leaf)) (levels : Nat) : Prop :=
  ∀ inner, levels = inner + 1 → ∀ parser : Parser, inner + parser.depth = maxNesting →
    nested.run parser = nested'.run parser

variable {nested' : Parsing (List Leaf)}

/-- Passing white space opens and closes no block. -/
theorem depth_skip {test : Char → Bool} {behind : Parser}
    (h : (skip test).run parser = (.ok (), behind)) : behind.depth = parser.depth := by
  obtain ⟨-, -, hdepth, -⟩ := Parser.passWhile_eq test [] parser
  cases h
  exact hdepth

theorem run_block_congr (hagree : AgreeBelow nested nested' (levels + 1))
    (hlevels : levels + 1 + parser.depth = maxNesting) :
    (block nested).run parser = (block nested').run parser := by
  refine run_bind_congr rfl fun _ inside hopen => ?_
  refine run_bind_congr rfl fun _ beforeItems hskip => ?_
  have hinside : inside.depth = parser.depth + 1 := by
    obtain ⟨_, taken, htake, hdeepen⟩ := run_bind_eq_ok_iff.1 hopen
    cases hdeepen
    simp only [take] at htake
    split at htake <;> cases htake <;> rfl
  have hkept := depth_skip hskip
  refine run_bind_congr ?_ fun _ _ _ => rfl
  exact hagree levels rfl beforeItems (by omega)

theorem run_definition_congr (hagree : AgreeBelow nested nested' levels)
    (hlevels : levels + parser.depth = maxNesting) :
    (definition nested).run parser = (definition nested').run parser := by
  refine run_bind_congr rfl fun first looking hlook => ?_
  refine run_bind_congr rfl fun _ noted hnote => ?_
  have hlooking : looking = parser :=
    congrArg Prod.snd (hlook.symm.trans (run_lookRequired parser))
  have hnoted : noted.depth = parser.depth := by
    cases hnote
    rw [hlooking]
    rfl
  split
  · rw [run_depth_bind, run_depth_bind]
    split
    · rfl
    · obtain ⟨inner, rfl⟩ : ∃ inner, levels = inner + 1 := ⟨levels - 1, by omega⟩
      exact run_block_congr hagree (by omega)
  · rfl

theorem run_item_congr (hagree : AgreeBelow nested nested' levels)
    (hlevels : levels + parser.depth = maxNesting) :
    (item nested).run parser = (item nested').run parser := by
  refine run_bind_congr rfl fun name afterName hname => ?_
  refine run_bind_congr rfl fun _ beforeDefinition hskip => ?_
  have hafter : afterName.depth = parser.depth := by
    have hreads := reads_name parser
    rw [hname] at hreads
    exact hreads.depth_eq
  have hkept := depth_skip hskip
  refine run_bind_congr ?_ fun _ _ _ => rfl
  exact run_definition_congr hagree (by omega)

theorem run_itemStep_congr (hagree : AgreeBelow nested nested' levels)
    (hlevels : levels + parser.depth = maxNesting) :
    (itemStep nested).run parser = (itemStep nested').run parser := by
  refine run_bind_congr rfl fun _ start hskip => ?_
  refine run_bind_congr rfl fun token? looking hlook => ?_
  have hstart : start.depth = parser.depth := by
    cases hskip
    exact (Parser.skipSeparators_eq parser).2.1
  have hlooking : looking = start := congrArg Prod.snd hlook.symm
  cases token? with
  | none => rfl
  | some token =>
      dsimp only
      split
      · refine run_bind_congr ?_ fun _ _ _ => rfl
        exact run_item_congr hagree (by rw [hlooking, hstart, hlevels])
      · rfl

theorem itemsAfter_congr (hagree : AgreeBelow nested nested' levels)
    (hnested : ReadsBelow nested levels) (found : List Leaf) (parser : Parser)
    (hlevels : levels + parser.depth = maxNesting) :
    itemsAfter nested found parser = itemsAfter nested' found parser := by
  fun_induction itemsAfter nested found parser with
  | case1 found parser leaves after hstep ih =>
      have hround := run_itemStep_congr hagree hlevels
      have hreads := reads_itemStep hnested hlevels
      rw [hstep] at hround hreads
      rw [ih (by rw [hreads.depth_eq, hlevels]), itemsAfter.eq_def nested' found, ← hround]
  | case2 found parser after hstep =>
      have hround := run_itemStep_congr hagree hlevels
      rw [hstep] at hround
      rw [itemsAfter, ← hround]
  | case3 found parser fault after hstep =>
      have hround := run_itemStep_congr hagree hlevels
      rw [hstep] at hround
      rw [itemsAfter, ← hround]

/-- What is done where no room is left is never done below so many levels. -/
theorem agreeBelow_nested (overflow overflow' : Parsing (List Leaf)) (room : Nat) :
    AgreeBelow (Parsing.nested overflow room) (Parsing.nested overflow' room) room := by
  induction room with
  | zero =>
      intro inner hinner
      cases hinner
  | succ room ih =>
      intro inner hinner parser hlevels
      cases hinner
      exact itemsAfter_congr ih (readsBelow_nested overflow room) [] parser hlevels

/-- **No room is missing.**  A file is parsed without ever being short of room for
one more block. -/
theorem run_file_congr (overflow overflow' : Parsing (List Leaf)) (hdepth : parser.depth = 0) :
    (file overflow).run parser = (file overflow').run parser := by
  refine run_bind_congr ?_ fun _ _ _ => rfl
  exact itemsAfter_congr (agreeBelow_nested overflow overflow' maxNesting)
    (readsBelow_nested overflow maxNesting) [] parser (by omega)

/-- **The guard is exact.**  A source is parsed with a counter as it is parsed
without one.  What is done where no room is left for one more block is `overflow`,
and that it may be anything says that it is never done: no block is parsed inside of
as many blocks as may be open.

The counter is the number of blocks that have been opened and not yet closed, and
never more than may be open: so it is at the end, failed or not, and so it was at
every moment of the past, which has every rune that was taken.  It is zero behind a
source that has been parsed, and behind a list, an item or a definition it is what
it was in front of it.

A parse fails because a shallower nesting is expected at a brace exactly if a
definition began with this brace when as many blocks were open as may be.

Every round of the loops over runes, over separators and over items takes at least
one byte. -/
theorem nesting_guard_exact (overflow : Parsing (List Leaf)) (source : ByteArray) :
    ((file overflow).run (.start source)).1.map Store.ofLeaves = Store.parse source ∧
    (∀ overflow', (file overflow').run (.start source) = (file overflow).run (.start source)) ∧
    ((file overflow).run (.start source)).2.Accounted (Utf8.decode source).runes ∧
    (∀ store, Store.parse source = .ok store →
      ((file overflow).run (.start source)).2.depth = 0) ∧
    (∀ (room : Nat) (parser after : Parser) (leaves : List Leaf),
      room + parser.depth = maxNesting →
      (list (Parsing.nested overflow room)).run parser = (.ok leaves, after) ∨
        (item (Parsing.nested overflow room)).run parser = (.ok leaves, after) ∨
        (definition (Parsing.nested overflow room)).run parser = (.ok leaves, after) →
      after.depth = parser.depth) ∧
    (∀ brace, (∃ fault, Store.parse source = .error fault ∧ fault.AsksShallower brace) ↔
      ∃ moment earlier, moment :: earlier <:+ ((file overflow).run (.start source)).2.past ∧
        moment.site = .definition ∧ moment.token = brace ∧
        brace.rune = Punctuation.openBrace.rune ∧
        opened earlier = closed earlier + maxNesting) ∧
    (∀ (test : Char → Bool) (parser behind : Parser) (rune : Char),
      parser.passOne test = some (rune, behind) → parser.offset < behind.offset) ∧
    (∀ parser behind : Parser, parser.separatorStep = some behind →
      parser.offset < behind.offset) ∧
    (∀ (nested : Parsing (List Leaf)) (parser after : Parser) (leaves : List Leaf),
      (itemStep nested).run parser = (.ok (some leaves), after) →
        parser.offset < after.offset) := by
  have hsame : ∀ overflow',
      (file overflow').run (.start source) = (file overflow).run (.start source) :=
    fun overflow' => run_file_congr overflow' overflow rfl
  have hreads := reads_file overflow (.start source) rfl
  have haccounted := hreads.accounted (Parser.accounted_start source)
  have hrefused := hreads.refused_iff rfl
  generalize (file overflow).run (.start source) = run at hsame hreads haccounted hrefused ⊢
  obtain ⟨outcome, last⟩ := run
  have hparse : outcome.map Store.ofLeaves = Store.parse source := by
    have houtcome : leavesFrom (Parser.start source).cursor = outcome := by
      rw [leavesFrom_eq_map_fileFrom, ← hreads.result_eq]
      cases outcome <;> rfl
    rw [← houtcome]
    rfl
  refine ⟨hparse, hsame, haccounted, ?_, ?_, ?_, ?_, ?_, ?_⟩
  · intro store hok
    cases outcome with
    | error fault =>
        rw [← hparse] at hok
        cases hok
    | ok found => exact hreads.depth_eq
  · intro room parser after leaves hroom hrun
    have hnested := readsBelow_nested overflow room
    rcases hrun with hrun | hrun | hrun
    · have hlist : parser.Reads parser.depth _ ((list (Parsing.nested overflow room)).run parser) :=
        reads_itemsAfter hnested [] parser hroom
      rw [hrun] at hlist
      exact hlist.depth_eq
    · have hitem := reads_item hnested hroom
      rw [hrun] at hitem
      exact hitem.depth_eq
    · have hdefinition := reads_definition hnested hroom
      rw [hrun] at hdefinition
      exact hdefinition.depth_eq
  · intro brace
    have hfault : ∀ fault, outcome.map Store.ofLeaves = .error fault ↔ outcome = .error fault := by
      intro fault
      cases outcome <;> simp [Except.map]
    rw [← hparse, ← haccounted.refused_iff, hrefused]
    simp only [hfault]
  · intro test parser behind rune
    exact Parser.offset_passOne_lt
  · intro parser behind
    exact Parser.offset_separatorStep_lt
  · intro nested parser after leaves
    exact offset_itemStep_lt

end Parsing
end Source
end SymbolAnnotations
