import SymbolAnnotations.Proofs.ParseRun

/-!
# Reading from elsewhere

A reading decides by its phase, by the blocks that are open and by the next
rune.  Where it stands, and which leaves it has found, it only passes on.  So
from another place it takes and refuses the same runes, the places of its faults
move along, and leaves found earlier come first in what it yields.

* `afterAll_eq_behind` — what a place is when other text stands in front;
* `outcome_behind` — a reading that starts at another place;
* `cause_outcome` — what is wrong with a text does not depend on where it
  stands;
* `outcome_withEarlier` — a reading that has found leaves before.
-/

namespace SymbolAnnotations

/-- The place in a text as it is when the text begins at `start`. -/
def Position.behind (start place : Position) : Position where
  line := start.line + (place.line - 1)
  column := if place.line = 1 then start.column + (place.column - 1) else place.column
  byteOffset := start.byteOffset + place.byteOffset
  runeOffset := start.runeOffset + place.runeOffset

namespace Position

/-- Lines and columns are counted from one. -/
def IsCounted (place : Position) : Prop :=
  1 ≤ place.line ∧ 1 ≤ place.column

theorem IsCounted.after {place : Position} (h : place.IsCounted) (rune : Char) :
    (place.after rune).IsCounted := by
  obtain ⟨hline, hcolumn⟩ := h
  constructor
  · simp only [Position.after]
    split <;> omega
  · simp only [Position.after]
    split <;> omega

theorem isCounted_start : ({} : Position).IsCounted :=
  ⟨Nat.le_refl 1, Nat.le_refl 1⟩

theorem behind_start (start : Position) : start.behind {} = start := rfl

theorem behind_after (start : Position) {place : Position} (h : place.IsCounted) (rune : Char) :
    start.behind (place.after rune) = (start.behind place).after rune := by
  obtain ⟨hline, hcolumn⟩ := h
  by_cases hnewline : rune = '\n'
  · simp only [behind, after, hnewline, if_true, Position.mk.injEq]
    refine ⟨by omega, ?_, by omega, by omega⟩
    rw [if_neg (by omega)]
  · simp only [behind, after, hnewline, if_false, Position.mk.injEq]
    refine ⟨trivial, ?_, by omega, by omega⟩
    split <;> omega

theorem behind_afterAll (start : Position) {place : Position} (h : place.IsCounted)
    (runes : List Char) :
    start.behind (place.afterAll runes) = (start.behind place).afterAll runes := by
  induction runes generalizing place with
  | nil => rfl
  | cons rune rest ih =>
      rw [afterAll_cons, afterAll_cons, ih (h.after rune), behind_after start h]

/-- Behind runes, a place is what it would be behind them alone, moved along. -/
theorem afterAll_eq_behind (start : Position) (runes : List Char) :
    start.afterAll runes = start.behind (({} : Position).afterAll runes) := by
  rw [behind_afterAll start isCounted_start, behind_start]

end Position

/-- What is wrong, wherever it is. -/
inductive Cause where
  | malformed
  | unexpected (found : Char) (expected : Expectation)
  | truncated
deriving DecidableEq, Repr

namespace ParseError

/-- What is wrong, without its place. -/
def cause : ParseError → Cause
  | malformed _ => .malformed
  | unexpected found expected => .unexpected found.rune expected
  | truncated _ => .truncated

/-- The fault in a text as it is when the text begins at `start`. -/
def behind (start : Position) : ParseError → ParseError
  | malformed place => malformed (start.behind place)
  | unexpected found expected =>
    unexpected { found with position := start.behind found.position } expected
  | truncated place => truncated (start.behind place)

theorem cause_behind (start : Position) (error : ParseError) :
    (error.behind start).cause = error.cause := by
  cases error <;> rfl

/-- Faults of one cause are of one kind. -/
theorem kind_eq_of_cause_eq {error other : ParseError} (h : error.cause = other.cause) :
    error.kind = other.kind := by
  cases error <;> cases other <;> first | rfl | cases h

theorem offset_behind (start : Position) (error : ParseError) :
    (error.behind start).span.offset = start.byteOffset + error.span.offset := by
  cases error <;> rfl

theorem length_behind (start : Position) (error : ParseError) :
    (error.behind start).span.length = error.span.length := by
  cases error <;> rfl

theorem line_behind (start : Position) (error : ParseError) :
    (error.behind start).line = start.line + (error.line - 1) := by
  cases error <;> rfl

theorem column_behind (start : Position) (error : ParseError) :
    (error.behind start).column =
      if error.line = 1 then start.column + (error.column - 1) else error.column := by
  cases error <;> rfl

end ParseError

namespace Source
namespace Reading

/-- The faults of a reading are moved along with its place. -/
theorem run_behind (reading : Reading) (start : Position) {place : Position}
    (h : place.IsCounted) (runes : List Char) :
    reading.run (start.behind place) runes =
      (reading.run place runes).mapError (ParseError.behind start) := by
  induction runes generalizing reading place with
  | nil => rfl
  | cons rune rest ih =>
      rw [run, run]
      cases reading.step rune with
      | error expected => rfl
      | ok next =>
          simp only [← Position.behind_after start h]
          exact ih next (h.after rune)

/-- **Place does not matter.**  What a reading makes of a text is moved along
with the text. -/
theorem outcome_behind (reading : Reading) (start : Position) (runes : List Char)
    (complete : Bool) :
    reading.outcome ⟨runes, complete, start⟩ =
      (reading.outcome ⟨runes, complete, {}⟩).mapError (ParseError.behind start) := by
  have hrun := reading.run_behind start Position.isCounted_start runes
  rw [Position.behind_start] at hrun
  simp only [outcome, hrun, Position.afterAll_eq_behind start]
  cases reading.run {} runes with
  | error fault => rfl
  | ok last =>
      simp only [Except.mapError, close]
      cases complete with
      | false => rfl
      | true => cases last.result? <;> rfl

/-- What a reading makes of runes wherever they stand: the leaves, or what is
wrong. -/
def verdict (reading : Reading) (complete : Bool) : List Char → Except Cause (List Leaf)
  | [] => (reading.close complete {}).mapError ParseError.cause
  | rune :: rest =>
    match reading.step rune with
    | .ok next => next.verdict complete rest
    | .error expected => .error (.unexpected rune expected)

/-- A text is at fault for one and the same cause wherever it stands. -/
theorem cause_outcome (reading : Reading) (runes : List Char) (complete : Bool)
    (position : Position) :
    (reading.outcome ⟨runes, complete, position⟩).mapError ParseError.cause =
      reading.verdict complete runes := by
  induction runes generalizing reading position with
  | nil =>
      rw [outcome_behind, verdict]
      simp only [outcome, run, Position.afterAll_nil]
      cases reading.close complete {} with
      | error fault => simp only [Except.mapError, ParseError.cause_behind]
      | ok leaves => rfl
  | cons rune rest ih =>
      have hnext : (Cursor.mk (rune :: rest) complete position).next =
          .ok (some ({ rune, position }, ⟨rest, complete, position.after rune⟩)) := rfl
      rw [outcome_of_next_some hnext, take, verdict]
      cases reading.step rune with
      | error expected => rfl
      | ok next => exact ih next (position.after rune)

/-- Behind the same runes, texts that no reading tells apart are not told
apart. -/
theorem verdict_append_congr {complete : Bool} {back other : List Char}
    (h : ∀ reading : Reading, reading.verdict complete back = reading.verdict complete other)
    (reading : Reading) (front : List Char) :
    reading.verdict complete (front ++ back) = reading.verdict complete (front ++ other) := by
  induction front generalizing reading with
  | nil => exact h reading
  | cons rune rest ih =>
      rw [List.cons_append, List.cons_append, verdict, verdict]
      cases reading.step rune with
      | error expected => rfl
      | ok next => exact ih next

/-- The reading that has found other leaves before. -/
def withEarlier (earlier : List Leaf) (reading : Reading) : Reading :=
  { reading with leaves := earlier ++ reading.leaves }

theorem addLeaf_withEarlier (earlier : List Leaf) (reading : Reading) (name : ItemName)
    (text : List Char) :
    (reading.withEarlier earlier).addLeaf name text =
      (reading.addLeaf name text).withEarlier earlier := by
  simp [withEarlier, addLeaf]

theorem atItems_withEarlier (earlier : List Leaf) (reading : Reading) (rune : Char) :
    (reading.withEarlier earlier).atItems rune =
      (reading.atItems rune).map (withEarlier earlier) := by
  obtain ⟨phase, enclosing, leaves⟩ := reading
  cases enclosing with
  | nil =>
      simp only [atItems, apply_ite (Except.map (withEarlier earlier))]
      rfl
  | cons name outer =>
      simp only [atItems, apply_ite (Except.map (withEarlier earlier))]
      rfl

theorem atItemEnd_withEarlier (earlier : List Leaf) (reading : Reading) (rune : Char) :
    (reading.withEarlier earlier).atItemEnd rune =
      (reading.atItemEnd rune).map (withEarlier earlier) := by
  simp only [atItemEnd, apply_ite (Except.map (withEarlier earlier)), atItems_withEarlier]
  rfl

theorem atDefinition_withEarlier (earlier : List Leaf) (reading : Reading) (name : ItemName)
    (rune : Char) :
    (reading.withEarlier earlier).atDefinition name rune =
      (reading.atDefinition name rune).map (withEarlier earlier) := by
  simp only [atDefinition, apply_ite (Except.map (withEarlier earlier))]
  rfl

theorem atReceiverEnd_withEarlier (earlier : List Leaf) (reading : Reading) (typeName : String)
    (rune : Char) :
    (reading.withEarlier earlier).atReceiverEnd typeName rune =
      (reading.atReceiverEnd typeName rune).map (withEarlier earlier) := by
  simp only [atReceiverEnd, apply_ite (Except.map (withEarlier earlier))]
  rfl

/-- Whether a rune is taken does not depend on the leaves so far. -/
theorem step_withEarlier (earlier : List Leaf) (reading : Reading) (rune : Char) :
    (reading.withEarlier earlier).step rune =
      (reading.step rune).map (withEarlier earlier) := by
  obtain ⟨phase, enclosing, leaves⟩ := reading
  cases phase with
  | items => exact atItems_withEarlier earlier _ rune
  | identifier read =>
      simp only [step, apply_ite (Except.map (withEarlier earlier)), ← atDefinition_withEarlier]
      rfl
  | receiver | pointer =>
      simp only [step, apply_ite (Except.map (withEarlier earlier))]
      rfl
  | typeName read =>
      simp only [step, apply_ite (Except.map (withEarlier earlier)), ← atReceiverEnd_withEarlier]
      rfl
  | receiverEnd typeName => exact atReceiverEnd_withEarlier earlier _ typeName rune
  | definition name => exact atDefinition_withEarlier earlier _ name rune
  | signature name read braces =>
      simp only [step, apply_ite (Except.map (withEarlier earlier)), ← atItemEnd_withEarlier,
        ← addLeaf_withEarlier]
      rfl
  | itemEnd => exact atItemEnd_withEarlier earlier _ rune

theorem run_withEarlier (earlier : List Leaf) (reading : Reading) (position : Position)
    (runes : List Char) :
    (reading.withEarlier earlier).run position runes =
      (reading.run position runes).map (withEarlier earlier) := by
  induction runes generalizing reading position with
  | nil => rfl
  | cons rune rest ih =>
      rw [run, run, step_withEarlier]
      cases reading.step rune with
      | error expected => rfl
      | ok next => exact ih next (position.after rune)

theorem result?_withEarlier (earlier : List Leaf) (reading : Reading) :
    (reading.withEarlier earlier).result? = reading.result?.map (earlier ++ ·) := by
  obtain ⟨phase, enclosing, leaves⟩ := reading
  cases enclosing with
  | nil => cases phase <;> simp [result?, withEarlier, addLeaf]
  | cons name outer => rfl

/-- **Leaves found earlier come first,** and change nothing else. -/
theorem outcome_withEarlier (earlier : List Leaf) (reading : Reading) (cursor : Cursor) :
    (reading.withEarlier earlier).outcome cursor =
      (reading.outcome cursor).map (earlier ++ ·) := by
  simp only [outcome, run_withEarlier]
  cases reading.run cursor.position cursor.runes with
  | error fault => rfl
  | ok last =>
      simp only [Except.map, close, result?_withEarlier]
      cases cursor.complete with
      | false => rfl
      | true => cases last.result? <;> rfl

end Reading
end Source
end SymbolAnnotations
