import SymbolAnnotations.Proofs.CountingProductions

/-!
# What a counting parser keeps

The past of a parser tells which blocks it has opened and which of them it has
closed again, and its counter is the difference: where the parser is now, and at
every moment of its past.  No step breaks this, whether it succeeds or not.

A run of a parser is compared with a reading without a counter.  Either it is done
and has read the same, or it has failed with the same fault; and where the fault is
that the nesting is too deep, the guard has refused a block, and nowhere else.

* `Parser.Accounted` — the invariant: the past holds every rune that was taken, and
  the counter is the number of blocks that it leaves open;
* `Parser.Passes`, `Parser.Reads` — a part of a run, and a run with its outcome;
* `Parser.Reads.refused_iff` — what the past of a run tells of its fault;
* `Parsing.reads_bind` — runs are compared step by step.
-/

namespace SymbolAnnotations

/-- The fault is that a shallower nesting is expected at this brace. -/
def ParseError.AsksShallower (fault : ParseError) (brace : Token) : Prop :=
  ∃ expected : Expectation,
    fault = .unexpected brace expected ∧ expected.description = "a shallower nesting"

namespace Cursor

variable {test test' : Char → Bool} {cursor : Cursor} {rune : Char} {rest : List Char}

/-- A run that begins with the next rune goes on behind it. -/
theorem takeWhile_of_runes (hrunes : cursor.runes = rune :: rest) (htest : test rune = true) :
    cursor.takeWhile test =
      (rune :: ((cursor.advance 1).takeWhile test).1, (cursor.advance 1).skipWhile test) := by
  obtain ⟨runes, complete, position⟩ := cursor
  cases hrunes
  simp [takeWhile, skipWhile, advance, htest]

/-- A run is empty in front of a rune that does not belong to it. -/
theorem takeWhile_of_not (h : ∀ rune rest, cursor.runes = rune :: rest → test rune = false) :
    cursor.takeWhile test = ([], cursor) := by
  obtain ⟨runes, complete, position⟩ := cursor
  cases runes with
  | nil => rfl
  | cons rune rest => simp [takeWhile, h rune rest rfl]

/-- The beginning of a run can be skipped first. -/
theorem skipWhile_of_imp (himp : ∀ rune, test' rune = true → test rune = true)
    (cursor : Cursor) : (cursor.skipWhile test').skipWhile test = cursor.skipWhile test := by
  obtain ⟨runes, complete, position⟩ := cursor
  induction runes generalizing position with
  | nil => rfl
  | cons rune rest ih =>
      have hgo : ∀ {test : Char → Bool}, test rune = true →
          skipWhile test ⟨rune :: rest, complete, position⟩ =
            skipWhile test ⟨rest, complete, position.after rune⟩ := by
        intro test htest
        rw [skipWhile, takeWhile_of_runes rfl htest]
        rfl
      by_cases htest : test' rune = true
      · rw [hgo htest, ih, hgo (himp rune htest)]
      · have hstop : test' rune = false := by simpa using htest
        have hstay : skipWhile test' ⟨rune :: rest, complete, position⟩ =
            ⟨rune :: rest, complete, position⟩ := by
          refine congrArg Prod.snd (takeWhile_of_not ?_)
          rintro _ _ ⟨⟩
          exact hstop
        rw [hstay]

/-- White space can be passed first. -/
theorem skipSeparators_skipWhiteSpace (cursor : Cursor) :
    cursor.skipWhiteSpace.skipSeparators = cursor.skipSeparators :=
  skipWhile_of_imp (fun rune hrune => by rw [Rune.isSeparator, hrune, Bool.true_or]) cursor

/-- A semicolon behind white space is passed, and what stands behind it. -/
theorem skipSeparators_of_semicolon
    (hrunes : cursor.skipWhiteSpace.runes = Punctuation.semicolon.rune :: rest) :
    cursor.skipSeparators = (cursor.skipWhiteSpace.advance 1).skipSeparators := by
  rw [← skipSeparators_skipWhiteSpace, skipSeparators, skipWhile,
    takeWhile_of_runes hrunes (by rw [Rune.isSeparator, beq_self_eq_true, Bool.or_true])]
  rfl

/-- Any other rune behind white space is not passed. -/
theorem skipSeparators_of_not
    (h : ∀ rune rest, cursor.skipWhiteSpace.runes = rune :: rest →
      rune ≠ Punctuation.semicolon.rune) :
    cursor.skipSeparators = cursor.skipWhiteSpace := by
  rw [← skipSeparators_skipWhiteSpace, skipSeparators, skipWhile, takeWhile_of_not]
  intro rune rest hrunes
  have hspace : Rune.isWhiteSpace rune = false := by
    have hhead := List.head?_dropWhile_not Rune.isWhiteSpace cursor.runes
    have hdrop : cursor.runes.dropWhile Rune.isWhiteSpace = rune :: rest := hrunes
    simpa [hdrop] using hhead
  rw [Rune.isSeparator, hspace, beq_false_of_ne (h rune rest hrunes), Bool.false_or]

end Cursor

namespace Source

/-- The moment opened a block. -/
def Moment.opens (moment : Moment) : Bool :=
  moment.site == .opening && moment.token.rune == Punctuation.openBrace.rune

/-- The moment closed a block. -/
def Moment.closes (moment : Moment) : Bool :=
  moment.site == .closing && moment.token.rune == Punctuation.closeBrace.rune

/-- How many blocks were opened. -/
def opened (past : List Moment) : Nat :=
  past.countP (·.opens)

/-- How many blocks were closed. -/
def closed (past : List Moment) : Nat :=
  past.countP (·.closes)

/-- The runes that were taken, the first one first. -/
def taken (past : List Moment) : List Char :=
  ((past.filter (·.site ≠ .definition)).map (·.token.rune)).reverse

/-- The guard has refused the block that this brace would have opened. -/
def Refused (past : List Moment) (brace : Token) : Prop :=
  ∃ moment ∈ past, moment.site = .definition ∧ moment.token = brace ∧
    brace.rune = Punctuation.openBrace.rune ∧ maxNesting ≤ moment.depth

theorem refused_append {late early : List Moment} {brace : Token} :
    Refused (late ++ early) brace ↔ Refused late brace ∨ Refused early brace := by
  simp only [Refused, List.mem_append, or_and_right, exists_or]

namespace Parser

/-- The parser has kept its account of the source. -/
structure Accounted (source : List Char) (parser : Parser) : Prop where
  /-- Every rune that is not ahead has been taken. -/
  complete : taken parser.past ++ parser.cursor.runes = source
  /-- The counter is the number of blocks that were opened and not yet closed. -/
  balance : parser.depth + closed parser.past = opened parser.past
  bound : parser.depth ≤ maxNesting
  /-- So it was at every moment of the past. -/
  moments : ∀ moment earlier, moment :: earlier <:+ parser.past →
    moment.depth + closed earlier = opened earlier ∧ moment.depth ≤ maxNesting

theorem accounted_start (source : ByteArray) :
    (start source).Accounted (Utf8.decode source).runes where
  complete := rfl
  balance := rfl
  bound := Nat.zero_le _
  moments _ _ h := by cases List.suffix_nil.1 h

variable {parser behind after : Parser} {source : List Char} {token : Token} {ahead : Cursor}
  {depth : Nat}

/-- One more moment, with the counter as it was then. -/
theorem Accounted.behind_moment (h : parser.Accounted source) (moment : Moment)
    (hpast : behind.past = moment :: parser.past) (hmoment : moment.depth = parser.depth)
    (hcomplete : taken [moment] ++ behind.cursor.runes = parser.cursor.runes)
    (hbalance : behind.depth + closed [moment] = parser.depth + opened [moment])
    (hbound : behind.depth ≤ maxNesting) : behind.Accounted source where
  complete := by
    have htaken : taken (moment :: parser.past) = taken parser.past ++ taken [moment] := by
      rw [taken, taken, taken, ← List.reverse_append, ← List.map_append, ← List.filter_append]
      rfl
    rw [hpast, htaken, List.append_assoc, hcomplete, h.complete]
  balance := by
    have hcounted : ∀ test : Moment → Bool, (moment :: parser.past).countP test =
        [moment].countP test + parser.past.countP test := by
      intro test
      rw [← List.countP_append, List.singleton_append]
    have hstart := h.balance
    simp only [opened, closed, hpast, hcounted] at hstart hbalance ⊢
    omega
  bound := hbound
  moments := by
    intro found earlier hsuffix
    rw [hpast, List.suffix_cons_iff] at hsuffix
    rcases hsuffix with hnow | hbefore
    · cases hnow
      rw [hmoment]
      exact ⟨h.balance, h.bound⟩
    · exact h.moments found earlier hbefore

/-- The guard has refused a block exactly if a definition began with its brace when
as many blocks were open as may be. -/
theorem Accounted.refused_iff (h : parser.Accounted source) (brace : Token) :
    Refused parser.past brace ↔
      ∃ moment earlier, moment :: earlier <:+ parser.past ∧ moment.site = .definition ∧
        moment.token = brace ∧ brace.rune = Punctuation.openBrace.rune ∧
        opened earlier = closed earlier + maxNesting := by
  constructor
  · rintro ⟨moment, hmoment, hsite, htoken, hbrace, hdeep⟩
    obtain ⟨later, earlier, hpast⟩ := List.append_of_mem hmoment
    have hsuffix : moment :: earlier <:+ parser.past := ⟨later, hpast.symm⟩
    obtain ⟨hbalance, hbound⟩ := h.moments moment earlier hsuffix
    exact ⟨moment, earlier, hsuffix, hsite, htoken, hbrace, by omega⟩
  · rintro ⟨moment, earlier, hsuffix, hsite, htoken, hbrace, hopen⟩
    obtain ⟨hbalance, hbound⟩ := h.moments moment earlier hsuffix
    exact ⟨moment, hsuffix.subset List.mem_cons_self, hsite, htoken, hbrace, by omega⟩

/-- A token that is looked at and left. -/
theorem Accounted.note_definition (h : parser.Accounted source) (token : Token) :
    (parser.note .definition token).Accounted source :=
  h.behind_moment ⟨.definition, token, parser.depth⟩ rfl rfl rfl rfl h.bound

/-- A token that is taken as what it is. -/
theorem Accounted.take_of_not_brace (h : parser.Accounted source) {site : Site}
    (hnext : parser.cursor.next = .ok (some (token, ahead)))
    (hsite : site = .other ∨
      site = .closing ∧ token.rune ≠ Punctuation.closeBrace.rune) :
    (parser.take site token ahead).Accounted source := by
  have hruns := (Cursor.next_eq_ok_some_iff.1 hnext).1
  refine h.behind_moment ⟨site, token, parser.depth⟩ rfl rfl ?_ ?_ h.bound
  · rcases hsite with rfl | ⟨rfl, -⟩ <;> exact hruns.symm
  · rcases hsite with rfl | ⟨rfl, hbrace⟩
    · rfl
    · simp [closed, opened, Moment.closes, Moment.opens, take, note, hbrace]

/-- The parser has come this far, with its account in order and no block refused. -/
structure Passes (parser behind : Parser) : Prop where
  accounted : ∀ source, parser.Accounted source → behind.Accounted source
  past : ∃ late, behind.past = late ++ parser.past ∧ ∀ brace, ¬ Refused late brace

theorem Passes.refl (parser : Parser) : parser.Passes parser where
  accounted _ h := h
  past := ⟨[], rfl, by simp [Refused]⟩

theorem Passes.trans (h : parser.Passes behind) (h' : behind.Passes after) :
    parser.Passes after where
  accounted source hstart := h'.accounted source (h.accounted source hstart)
  past := by
    obtain ⟨early, hearly, hpassed⟩ := h.past
    obtain ⟨late, hlate, hpassed'⟩ := h'.past
    refine ⟨late ++ early, by rw [hlate, hearly, List.append_assoc], fun brace hrefused => ?_⟩
    rcases refused_append.1 hrefused with hrefused | hrefused
    · exact hpassed' brace hrefused
    · exact hpassed brace hrefused

/-- One more moment that refused nothing. -/
theorem Passes.of_moment (moment : Moment) (hpast : behind.past = moment :: parser.past)
    (hmoment : moment.site = .definition → moment.token.rune = Punctuation.openBrace.rune →
      moment.depth < maxNesting)
    (haccounted : ∀ source, parser.Accounted source → behind.Accounted source) :
    parser.Passes behind where
  accounted := haccounted
  past := by
    refine ⟨[moment], hpast, ?_⟩
    rintro brace ⟨found, hfound, hsite, rfl, hbrace, hdeep⟩
    cases List.mem_singleton.1 hfound
    exact absurd (hmoment hsite hbrace) (by omega)

theorem passes_take_other (hnext : parser.cursor.next = .ok (some (token, ahead))) :
    parser.Passes (parser.take .other token ahead) :=
  .of_moment ⟨.other, token, parser.depth⟩ rfl (by rintro ⟨⟩) fun _ h =>
    h.take_of_not_brace hnext (.inl rfl)

theorem passes_note_definition
    (h : token.rune = Punctuation.openBrace.rune → parser.depth < maxNesting) :
    parser.Passes (parser.note .definition token) :=
  .of_moment ⟨.definition, token, parser.depth⟩ rfl (fun _ => h) fun _ haccounted =>
    haccounted.note_definition token

theorem passes_passOne {test : Char → Bool} {rune : Char}
    (h : parser.passOne test = some (rune, behind)) : parser.Passes behind := by
  obtain ⟨token, ahead, hnext, -, -, rfl⟩ := passOne_eq_some_iff.1 h
  exact passes_take_other hnext

/-- How a run of a parser ends that reads what is read without a counter: it is
done, at this depth; or it has failed for another reason than the guard; or the
guard has refused a block. -/
inductive Reads {α : Type} (parser : Parser) (depth : Nat) :
    Except ParseError (α × Cursor) → Except ParseError α × Parser → Prop where
  | done {a : α} {behind : Parser} (hpasses : parser.Passes behind)
    (hdepth : behind.depth = depth) :
    Reads parser depth (.ok (a, behind.cursor)) (.ok a, behind)
  | failed {fault : ParseError} {behind : Parser} (hpasses : parser.Passes behind)
    (hfault : ∀ brace, ¬ fault.AsksShallower brace) :
    Reads parser depth (.error fault) (.error fault, behind)
  | refused {brace : Token} {behind : Parser} (hpasses : parser.Passes behind)
    (hbrace : brace.rune = Punctuation.openBrace.rune) (hdeep : maxNesting ≤ behind.depth) :
    Reads parser depth (.error (.unexpected brace .shallowerNesting))
      (.error (.unexpected brace .shallowerNesting), behind.note .definition brace)

variable {α β : Type} {result : Except ParseError (α × Cursor)}
  {run : Except ParseError α × Parser}

/-- What comes behind a part of a run. -/
theorem Passes.reads (h : parser.Passes behind) (h' : behind.Reads depth result run) :
    parser.Reads depth result run := by
  cases h' with
  | done hpasses hdepth => exact .done (h.trans hpasses) hdepth
  | failed hpasses hfault => exact .failed (h.trans hpasses) hfault
  | refused hpasses hbrace hdeep => exact .refused (h.trans hpasses) hbrace hdeep

/-- A reading that goes on where another one is done, and fails where it fails. -/
theorem Reads.bind {first : Except ParseError (α × Cursor)} {step : Except ParseError α × Parser}
    {rest : α × Cursor → Except ParseError (β × Cursor)} {run : Except ParseError β × Parser}
    {depth' : Nat} (h : parser.Reads depth first step)
    (hdone : ∀ a, step.1 = .ok a → step.2.depth = depth →
      step.2.Reads depth' (rest (a, step.2.cursor)) run)
    (hfault : ∀ fault, step.1 = .error fault → run = (.error fault, step.2)) :
    parser.Reads depth' (first >>= rest) run := by
  cases h with
  | done hpasses hdepth => exact hpasses.reads (hdone _ rfl hdepth)
  | failed hpasses hother =>
      rw [hfault _ rfl]
      exact .failed hpasses hother
  | refused hpasses hbrace hdeep =>
      rw [hfault _ rfl]
      exact .refused hpasses hbrace hdeep

/-- What is read: the leaves and the place behind them, or the fault. -/
theorem Reads.result_eq (h : parser.Reads depth result run) :
    run.1.map (fun a => (a, run.2.cursor)) = result := by
  cases h <;> rfl

theorem Reads.depth_eq {a : α} (h : parser.Reads depth result (.ok a, behind)) :
    behind.depth = depth := by
  cases h with
  | done hpasses hdepth => exact hdepth

/-- The account is in order however the run ends. -/
theorem Reads.accounted (h : parser.Reads depth result run) (hstart : parser.Accounted source) :
    run.2.Accounted source := by
  cases h with
  | done hpasses | failed hpasses => exact hpasses.accounted source hstart
  | refused hpasses => exact (hpasses.accounted source hstart).note_definition _

/-- **The guard.**  A run fails for too deep a nesting at a brace exactly if the
guard has refused the brace on the way. -/
theorem Reads.refused_iff (h : parser.Reads depth result run) (hstart : parser.past = [])
    (brace : Token) :
    Refused run.2.past brace ↔ ∃ fault, run.1 = .error fault ∧ fault.AsksShallower brace := by
  have hpassed : ∀ {behind : Parser}, parser.Passes behind → ¬ Refused behind.past brace := by
    intro behind hpasses
    obtain ⟨late, hlate, hnone⟩ := hpasses.past
    rw [hlate, hstart, List.append_nil]
    exact hnone brace
  cases h with
  | done hpasses => simp [hpassed hpasses]
  | failed hpasses hfault => simp [hpassed hpasses, hfault]
  | @refused found behind hpasses hbrace hdeep =>
      have hnote : (behind.note .definition found).past =
          [⟨.definition, found, behind.depth⟩] ++ behind.past := rfl
      rw [hnote, refused_append, or_iff_left (hpassed hpasses)]
      constructor
      · rintro ⟨moment, hmoment, -, rfl, -⟩
        cases List.mem_singleton.1 hmoment
        exact ⟨_, rfl, _, rfl, rfl⟩
      · rintro ⟨fault, hfault, expected, rfl, -⟩
        cases hfault
        exact ⟨_, List.mem_singleton.2 rfl, rfl, rfl, hbrace, hdeep⟩

end Parser

/-- A token that something else is expected for. -/
theorem not_asksShallower_unexpected {found : Token} {expected : Expectation}
    (h : expected.description ≠ "a shallower nesting") (brace : Token) :
    ¬ (ParseError.unexpected found expected).AsksShallower brace := by
  rintro ⟨other, hfault, hdescription⟩
  cases hfault
  exact h hdescription

/-- A token that is missing. -/
theorem not_asksShallower_require {cursor : Cursor} {fault : ParseError}
    (h : cursor.require = .error fault) (brace : Token) : ¬ fault.AsksShallower brace := by
  rintro ⟨expected, rfl, -⟩
  obtain ⟨runes, complete, position⟩ := cursor
  cases runes with
  | nil => cases complete <;> cases h
  | cons rune rest => cases h

/-- A token that cannot be looked at. -/
theorem not_asksShallower_next {cursor : Cursor} {fault : ParseError}
    (h : cursor.next = .error fault) : ∀ brace, ¬ fault.AsksShallower brace :=
  not_asksShallower_require (by rw [Cursor.require, h])

namespace Parser

variable {parser behind : Parser} {test : Char → Bool} {rune : Char}

/-- A round of a loop over runes takes the first rune of the run. -/
theorem cursor_of_passOne (h : parser.passOne test = some (rune, behind)) :
    test rune = true ∧ parser.cursor.runes = rune :: behind.cursor.runes ∧
      behind.cursor = parser.cursor.advance 1 ∧ behind.depth = parser.depth := by
  obtain ⟨token, ahead, hnext, htest, rfl, rfl⟩ := passOne_eq_some_iff.1 h
  exact ⟨htest, (Cursor.next_eq_ok_some_iff.1 hnext).1, Cursor.eq_advance_one_of_next hnext, rfl⟩

/-- The loop ends in front of a rune that fails the test. -/
theorem runes_of_passOne (h : parser.passOne test = none) :
    ∀ rune rest, parser.cursor.runes = rune :: rest → test rune = false := by
  intro rune rest hrunes
  obtain ⟨⟨runes, complete, position⟩, depth, past⟩ := parser
  cases hrunes
  simpa [passOne, Cursor.next] using h

/-- The run that a loop passes. -/
theorem passWhile_eq (test : Char → Bool) (read : List Char) (parser : Parser) :
    (parser.passWhile test read).1 = read ++ (parser.cursor.takeWhile test).1 ∧
      (parser.passWhile test read).2.cursor = parser.cursor.skipWhile test ∧
      (parser.passWhile test read).2.depth = parser.depth ∧
      parser.Passes (parser.passWhile test read).2 := by
  fun_induction passWhile test read parser with
  | case1 read parser rune behind hpass ih =>
      obtain ⟨htest, hrunes, hcursor, hdepth⟩ := cursor_of_passOne hpass
      obtain ⟨hread, hend, hkept, hpasses⟩ := ih
      have hrun := Cursor.takeWhile_of_runes hrunes htest
      rw [← hcursor] at hrun
      refine ⟨?_, ?_, hkept.trans hdepth, (passes_passOne hpass).trans hpasses⟩
      · rw [hread, hrun, List.append_assoc, List.singleton_append]
      · rw [hend, Cursor.skipWhile.eq_1 test parser.cursor, hrun]
  | case2 read parser hpass =>
      have hrun := Cursor.takeWhile_of_not (runes_of_passOne hpass)
      refine ⟨?_, ?_, rfl, .refl parser⟩
      · rw [hrun, List.append_nil]
      · rw [Cursor.skipWhile, hrun]

/-- The text that a loop passes. -/
theorem passText_eq (scope : Scope) (braces : Nat) (read : List Char) (parser : Parser) :
    (parser.passText scope braces read).1 =
        read ++ parser.cursor.runes.take (signatureLength scope braces 0 parser.cursor.runes) ∧
      (parser.passText scope braces read).2.cursor =
        parser.cursor.advance (signatureLength scope braces 0 parser.cursor.runes) ∧
      (parser.passText scope braces read).2.depth = parser.depth ∧
      parser.Passes (parser.passText scope braces read).2 := by
  fun_induction passText scope braces read parser with
  | case1 braces read parser rune behind hpass ih =>
      obtain ⟨htest, hrunes, hcursor, hdepth⟩ := cursor_of_passOne hpass
      obtain ⟨hread, hend, hkept, hpasses⟩ := ih
      have hlength : signatureLength scope braces 0 parser.cursor.runes =
          1 + signatureLength scope (bracesAfter rune braces) 0 behind.cursor.runes := by
        rw [Bool.not_eq_true'] at htest
        rw [hrunes, signatureLength, htest, if_neg Bool.false_ne_true, signatureLength_eq_add]
      refine ⟨?_, ?_, hkept.trans hdepth, (passes_passOne hpass).trans hpasses⟩
      · rw [hread, hlength, hrunes, Nat.add_comm, List.take_succ_cons, List.append_assoc,
          List.singleton_append]
      · rw [hend, hlength, hcursor, Cursor.advance_advance]
  | case2 braces read parser hpass =>
      have hlength : signatureLength scope braces 0 parser.cursor.runes = 0 := by
        have hstop := runes_of_passOne hpass
        cases hrunes : parser.cursor.runes with
        | nil => rfl
        | cons rune rest =>
            have hend := hstop rune rest hrunes
            rw [Bool.not_eq_false'] at hend
            rw [signatureLength, if_pos hend]
      refine ⟨?_, ?_, rfl, .refl parser⟩
      · rw [hlength, List.take_zero, List.append_nil]
      · rw [hlength, Cursor.advance_zero]

/-- What stands between items is passed. -/
theorem skipSeparators_eq (parser : Parser) :
    parser.skipSeparators.cursor = parser.cursor.skipSeparators ∧
      parser.skipSeparators.depth = parser.depth ∧ parser.Passes parser.skipSeparators := by
  fun_induction skipSeparators parser with
  | case1 parser behind hstep ih =>
      obtain ⟨-, hspaces, hdepth, hpasses⟩ := passWhile_eq Rune.isWhiteSpace [] parser
      obtain ⟨⟨rune, behind⟩, hpass, rfl⟩ := Option.map_eq_some_iff.1 hstep
      obtain ⟨htest, hrunes, hcursor, hkept⟩ := cursor_of_passOne hpass
      obtain ⟨hend, hkept', hpasses'⟩ := ih
      refine ⟨?_, hkept'.trans (hkept.trans hdepth),
        (hpasses.trans (passes_passOne hpass)).trans hpasses'⟩
      rw [hspaces, beq_iff_eq.1 htest] at hrunes
      rw [hend, hcursor, hspaces]
      exact (Cursor.skipSeparators_of_semicolon hrunes).symm
  | case2 parser hstep =>
      obtain ⟨-, hspaces, hdepth, hpasses⟩ := passWhile_eq Rune.isWhiteSpace [] parser
      have hpass := runes_of_passOne (Option.map_eq_none_iff.1 hstep)
      refine ⟨?_, hdepth, hpasses⟩
      rw [hspaces] at hpass ⊢
      refine (Cursor.skipSeparators_of_not ?_).symm
      intro rune rest hrunes
      exact ne_of_beq_false (hpass rune rest hrunes)

end Parser

namespace Parsing

variable {α β : Type} {parser behind : Parser} {depth depth' : Nat}
  {result : Except ParseError (β × Cursor)}

/-- The step before the others leaves its value and a parser behind it. -/
theorem reads_bind_of_run {x : Parsing α} {f : α → Parsing β} {a : α}
    (hrun : x.run parser = (.ok a, behind)) (hpasses : parser.Passes behind)
    (hrest : behind.Reads depth result ((f a).run behind)) :
    parser.Reads depth result ((x >>= f).run parser) := by
  rw [run_bind_of_ok hrun]
  exact hpasses.reads hrest

/-- The step before the others fails. -/
theorem reads_bind_of_fault {x : Parsing α} {f : α → Parsing β} {fault : ParseError}
    (hrun : x.run parser = (.error fault, behind)) (hpasses : parser.Passes behind)
    (hfault : ∀ brace, ¬ fault.AsksShallower brace) :
    parser.Reads depth (.error fault) ((x >>= f).run parser) := by
  rw [run_bind_of_error hrun]
  exact .failed hpasses hfault

/-- One reading after the other. -/
theorem reads_bind {x : Parsing α} {f : α → Parsing β} {first : Except ParseError (α × Cursor)}
    {rest : α × Cursor → Except ParseError (β × Cursor)}
    (hfirst : parser.Reads depth first (x.run parser))
    (hrest : ∀ a (behind : Parser), behind.depth = depth →
      behind.Reads depth' (rest (a, behind.cursor)) ((f a).run behind)) :
    parser.Reads depth' (first >>= rest) ((x >>= f).run parser) := by
  refine hfirst.bind ?_ ?_
  · intro a hok hdepth
    rw [run_bind_of_ok (Prod.ext hok rfl)]
    exact hrest a _ hdepth
  · intro fault hfault
    exact run_bind_of_error (Prod.ext hfault rfl)

/-- One reading after another that has no value. -/
theorem reads_bind_unit {x : Parsing Unit} {f : Unit → Parsing β}
    {first : Except ParseError Cursor} {rest : Cursor → Except ParseError (β × Cursor)}
    (hfirst : parser.Reads depth ((fun after => ((), after)) <$> first) (x.run parser))
    (hrest : ∀ behind : Parser, behind.depth = depth →
      behind.Reads depth' (rest behind.cursor) ((f ()).run behind)) :
    parser.Reads depth' (first >>= rest) ((x >>= f).run parser) := by
  have hpairs : (first >>= rest) =
      (((fun after => ((), after)) <$> first) >>= fun found : Unit × Cursor => rest found.2) := by
    cases first <;> rfl
  rw [hpairs]
  exact reads_bind hfirst fun _ => hrest

/-- Nothing is done any more. -/
theorem reads_pure (b : β) (h : parser.depth = depth) :
    parser.Reads depth (.ok (b, parser.cursor)) ((pure b : Parsing β).run parser) :=
  .done (.refl parser) h

/-- Another token is expected. -/
theorem reads_unexpected {found : Token} {expected : Expectation}
    (h : expected.description ≠ "a shallower nesting") :
    parser.Reads depth (.error (.unexpected found expected) : Except ParseError (β × Cursor))
      ((fail (.unexpected found expected) : Parsing β).run parser) :=
  .failed (.refl parser) (not_asksShallower_unexpected h)

theorem run_lookRequired (parser : Parser) :
    lookRequired.run parser = (parser.cursor.require.map (·.1), parser) := by
  obtain ⟨⟨runes, complete, position⟩, open_, past⟩ := parser
  cases runes with
  | nil => cases complete <;> rfl
  | cons rune rest => rfl

theorem run_take {token : Token} {ahead : Cursor} (site : Site)
    (hnext : parser.cursor.next = .ok (some (token, ahead))) :
    (take site).run parser = (.ok (some token), parser.take site token ahead) := by
  simp only [take, hnext]

theorem run_takeRequired (site : Site) (parser : Parser) :
    (takeRequired site).run parser =
      match parser.cursor.require with
      | .ok (token, ahead) => (.ok token, parser.take site token ahead)
      | .error fault => (.error fault, parser) := by
  obtain ⟨⟨runes, complete, position⟩, open_, past⟩ := parser
  cases runes with
  | nil => cases complete <;> rfl
  | cons rune rest => rfl

/-- Punctuation is taken where it stands. -/
theorem run_expect_of_rune {mark : Punctuation} {token : Token} {ahead : Cursor} (site : Site)
    (hrequire : parser.cursor.require = .ok (token, ahead)) (hmark : token.rune = mark.rune) :
    (expect site mark).run parser = (.ok (), parser.take site token ahead) := by
  have htake := run_takeRequired site parser
  rw [hrequire] at htake
  rw [expect, run_bind_of_ok htake, if_pos hmark]
  rfl

/-- Where another rune stands, it is taken as well, and then it is a fault. -/
theorem run_expect_of_ne {mark : Punctuation} {token : Token} {ahead : Cursor} (site : Site)
    (hrequire : parser.cursor.require = .ok (token, ahead)) (hmark : token.rune ≠ mark.rune) :
    (expect site mark).run parser =
      (.error (.unexpected token (.punctuation mark)), parser.take site token ahead) := by
  have htake := run_takeRequired site parser
  rw [hrequire] at htake
  rw [expect, run_bind_of_ok htake, if_neg hmark]
  rfl

theorem run_depth_bind (f : Nat → Parsing β) (parser : Parser) :
    (Parsing.depth >>= f).run parser = (f parser.depth).run parser := rfl

/-- Looking at a token that may be missing. -/
theorem reads_look_bind {f : Option Token → Parsing β}
    {rest : Option (Token × Cursor) → Except ParseError (β × Cursor)}
    (hrest : ∀ step?, parser.cursor.next = .ok step? →
      parser.Reads depth (rest step?) ((f (step?.map (·.1))).run parser)) :
    parser.Reads depth (parser.cursor.next >>= rest) ((look >>= f).run parser) := by
  have hlook : look.run parser = (parser.cursor.next.map (·.map (·.1)), parser) := rfl
  cases hnext : parser.cursor.next with
  | error fault =>
      rw [hnext] at hlook
      exact reads_bind_of_fault hlook (.refl parser) (not_asksShallower_next hnext)
  | ok step? =>
      rw [hnext] at hlook
      exact reads_bind_of_run hlook (.refl parser) (hrest step? hnext)

/-- Looking at a token that has to follow. -/
theorem reads_lookRequired_bind {f : Token → Parsing β}
    {rest : Token × Cursor → Except ParseError (β × Cursor)}
    (hrest : ∀ token ahead, parser.cursor.require = .ok (token, ahead) →
      parser.Reads depth (rest (token, ahead)) ((f token).run parser)) :
    parser.Reads depth (parser.cursor.require >>= rest) ((lookRequired >>= f).run parser) := by
  have hlook := run_lookRequired parser
  cases hrequire : parser.cursor.require with
  | error fault =>
      rw [hrequire] at hlook
      exact reads_bind_of_fault hlook (.refl parser) (not_asksShallower_require hrequire)
  | ok found =>
      rw [hrequire] at hlook
      exact reads_bind_of_run hlook (.refl parser) (hrest found.1 found.2 hrequire)

/-- Taking a token as what it is. -/
theorem reads_takeRequired_bind {f : Token → Parsing β}
    {rest : Token × Cursor → Except ParseError (β × Cursor)}
    (hrest : ∀ token ahead, parser.cursor.require = .ok (token, ahead) →
      (parser.take .other token ahead).Reads depth (rest (token, ahead))
        ((f token).run (parser.take .other token ahead))) :
    parser.Reads depth (parser.cursor.require >>= rest)
      ((takeRequired .other >>= f).run parser) := by
  have htake := run_takeRequired .other parser
  cases hrequire : parser.cursor.require with
  | error fault =>
      rw [hrequire] at htake
      exact reads_bind_of_fault htake (.refl parser) (not_asksShallower_require hrequire)
  | ok found =>
      rw [hrequire] at htake
      exact reads_bind_of_run htake
        (Parser.passes_take_other (Cursor.require_eq_ok_iff.1 hrequire))
        (hrest found.1 found.2 hrequire)

/-- A run of runes is passed on the way. -/
theorem reads_passWhile_bind {test : Char → Bool} {read : List Char}
    {f : List Char → Parsing β}
    (hrest : ∀ behind : Parser, behind.depth = parser.depth →
      behind.cursor = (parser.cursor.takeWhile test).2 →
      behind.Reads depth result
        ((f (read ++ (parser.cursor.takeWhile test).1)).run behind)) :
    parser.Reads depth result ((passWhile test read >>= f).run parser) := by
  obtain ⟨hread, hcursor, hdepth, hpasses⟩ := Parser.passWhile_eq test read parser
  have hrun : (passWhile test read).run parser =
      (.ok (read ++ (parser.cursor.takeWhile test).1), (parser.passWhile test read).2) := by
    rw [← hread]
    rfl
  exact reads_bind_of_run hrun hpasses (hrest _ hdepth hcursor)

/-- White space is passed on the way. -/
theorem reads_skip_bind {test : Char → Bool} {f : Unit → Parsing β}
    (hrest : ∀ behind : Parser, behind.depth = parser.depth →
      behind.cursor = parser.cursor.skipWhile test →
      behind.Reads depth result ((f ()).run behind)) :
    parser.Reads depth result ((skip test >>= f).run parser) := by
  obtain ⟨-, hcursor, hdepth, hpasses⟩ := Parser.passWhile_eq test [] parser
  exact reads_bind_of_run rfl hpasses (hrest _ hdepth hcursor)

/-- The rest of a text is passed on the way. -/
theorem reads_passText_bind {braces : Nat} {read : List Char} {f : List Char → Parsing β}
    (hrest : ∀ behind : Parser, behind.depth = parser.depth →
      behind.cursor = parser.cursor.advance
        (signatureLength (scopeAt parser.depth) braces 0 parser.cursor.runes) →
      behind.Reads depth result
        ((f (read ++ parser.cursor.runes.take
          (signatureLength (scopeAt parser.depth) braces 0 parser.cursor.runes))).run behind)) :
    parser.Reads depth result ((passText braces read >>= f).run parser) := by
  obtain ⟨hread, hcursor, hdepth, hpasses⟩ :=
    Parser.passText_eq (scopeAt parser.depth) braces read parser
  have hrun : (passText braces read).run parser =
      (.ok (read ++ parser.cursor.runes.take
        (signatureLength (scopeAt parser.depth) braces 0 parser.cursor.runes)),
      (parser.passText (scopeAt parser.depth) braces read).2) := by
    rw [← hread]
    rfl
  exact reads_bind_of_run hrun hpasses (hrest _ hdepth hcursor)

/-- What stands between items is passed on the way. -/
theorem reads_skipSeparators_bind {f : Unit → Parsing β}
    (hrest : ∀ behind : Parser, behind.depth = parser.depth →
      behind.cursor = parser.cursor.skipSeparators →
      behind.Reads depth result ((f ()).run behind)) :
    parser.Reads depth result ((skipSeparators >>= f).run parser) := by
  obtain ⟨hcursor, hdepth, hpasses⟩ := Parser.skipSeparators_eq parser
  exact reads_bind_of_run rfl hpasses (hrest _ hdepth hcursor)

end Parsing
end Source
end SymbolAnnotations
