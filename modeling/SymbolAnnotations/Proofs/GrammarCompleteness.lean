import Mathlib.Data.List.Induction
import SymbolAnnotations.Proofs.GrammarSoundness
import SymbolAnnotations.Proofs.ParseRun
import SymbolAnnotations.Proofs.RuneClasses

/-!
# What is in the grammar is read

A derivation leads the machine from what is ahead to what is left, uniformly in
the blocks around it and in what follows.  Together with the other direction
this says which sources are parsed: exactly those that the grammar derives.

* `leadsTo_of_items`, `leadsTo_of_item`, `leadsTo_of_definition` — a derivation
  is a stretch of reading;
* `leavesFrom_of_file` — the leaves of a derivation are read;
* `parse_eq_ok_iff`, `get?_ofLeaves` — parsing decides the grammar, and the store has
  the last leaf of each path.
-/

namespace SymbolAnnotations
namespace Source
namespace Reading

/-- Whatever comes behind `rest`, reading goes from `input` to `rest`, and on
from there as `next`. -/
def LeadsTo (reading : Reading) (input : List Char) (next : Reading) (rest : List Char) : Prop :=
  ∃ taken, input = taken ++ rest ∧ ∀ complete position,
    reading.outcome ⟨input, complete, position⟩ =
      next.outcome ⟨rest, complete, position.afterAll taken⟩

namespace LeadsTo

variable {reading middle next : Reading} {input between rest : List Char} {rune : Char}

theorem trans (h : LeadsTo reading input middle between) (h' : LeadsTo middle between next rest) :
    LeadsTo reading input next rest := by
  obtain ⟨taken, rfl, hread⟩ := h
  obtain ⟨taken', rfl, hread'⟩ := h'
  refine ⟨taken ++ taken', (List.append_assoc _ _ _).symm, ?_⟩
  intro complete position
  rw [hread, hread', Position.afterAll_append]

theorem of_step (h : reading.step rune = .ok next) : LeadsTo reading (rune :: rest) next rest :=
  ⟨[rune], rfl, fun _ _ => by rw [outcome_of_next_some rfl, take_of_step_ok _ h]; rfl⟩

/-- A rune that both readings treat alike is left for the second. -/
theorem of_step_eq (h : reading.step rune = next.step rune) :
    LeadsTo reading (rune :: rest) next (rune :: rest) := by
  refine ⟨[], rfl, ?_⟩
  intro complete position
  have hnext : (Cursor.mk (rune :: rest) complete position).next =
      .ok (some ({ rune, position }, ⟨rest, complete, position.after rune⟩)) := rfl
  rw [Position.afterAll_nil, outcome_of_next_some hnext, outcome_of_next_some hnext, take, take, h]

/-- At the end of the source only the result matters. -/
theorem of_result?_eq (h : reading.result? = next.result?) : LeadsTo reading [] next [] := by
  refine ⟨[], rfl, ?_⟩
  intro complete position
  simp only [outcome, run, close, h, Position.afterAll_nil]

/-- Runes that leave the reading as it is lead nowhere else. -/
theorem of_gap {test : Char → Bool}
    (hstay : ∀ rune, test rune = true → reading.step rune = .ok reading)
    (hgap : Grammar.Gap test input rest) : LeadsTo reading input reading rest := by
  obtain ⟨gap, rfl, hgap⟩ := hgap
  induction gap with
  | nil => exact ⟨[], rfl, fun _ _ => rfl⟩
  | cons rune gap ih =>
      rw [List.forall_mem_cons] at hgap
      exact (of_step (hstay rune hgap.1)).trans (ih hgap.2)

end LeadsTo

variable {enclosing : List ItemName} {found : List Leaf} {input rest : List Char}

/-- The runes of an identifier behind its first, and the rune that ends it. -/
theorem leadsTo_of_continues (along : List Char → Reading) (behind : String → Reading)
    (hstep : ∀ read rune, (along read).step rune =
      if Rune.continuesIdentifier rune then .ok (along (read ++ [rune]))
      else (behind (String.ofList read)).step rune) {more : List Char} {next : Char}
    (hmore : ∀ rune ∈ more, Rune.continuesIdentifier rune = true)
    (hnext : Rune.continuesIdentifier next = false) (read rest : List Char) :
    LeadsTo (along read) (more ++ next :: rest) (behind (String.ofList (read ++ more)))
      (next :: rest) := by
  induction more generalizing read with
  | nil =>
      rw [List.append_nil]
      exact .of_step_eq (by rw [hstep, hnext]; rfl)
  | cons rune more ih =>
      rw [List.forall_mem_cons] at hmore
      have hfirst : (along read).step rune = .ok (along (read ++ [rune])) := by
        rw [hstep, if_pos hmore.1]
      have hrest := ih hmore.2 (read ++ [rune])
      rw [List.append_assoc] at hrest
      exact (LeadsTo.of_step hfirst).trans hrest

/-- A gap of a receiver, and the punctuation behind it. -/
theorem leadsTo_of_mark {reading next : Reading} {mark : Punctuation}
    (hmark : mark ≠ .newline)
    (hstep : ∀ rune, reading.step rune =
      if Rune.isWhiteSpace rune then .ok reading
      else if rune = mark.rune then .ok next
      else .error (.punctuation mark))
    (hgap : Grammar.Gap Rune.isWhiteSpace input (mark.rune :: rest)) :
    LeadsTo reading input next rest := by
  have hspaces : LeadsTo reading input reading (mark.rune :: rest) :=
    .of_gap (fun rune hrune => by rw [hstep, if_pos hrune]) hgap
  exact hspaces.trans (.of_step (by simp [hstep, hmark]))

/-- In front of punctuation, behind a gap, no identifier goes on. -/
theorem exists_of_gap_mark {mark : Punctuation}
    (hgap : Grammar.Gap Rune.isWhiteSpace input (mark.rune :: rest)) :
    ∃ next behind, input = next :: behind ∧ Rune.continuesIdentifier next = false := by
  obtain ⟨gap, rfl, hgap⟩ := hgap
  cases gap with
  | nil => exact ⟨mark.rune, rest, rfl, Rune.continuesIdentifier_mark mark⟩
  | cons rune gap =>
      refine ⟨rune, _, rfl, ?_⟩
      rw [Bool.eq_false_iff]
      intro hcontinues
      have hspace := hgap rune (List.mem_cons_self ..)
      rw [Rune.continuesIdentifier_isWhiteSpace hcontinues] at hspace
      cases hspace

/-- A name. -/
theorem leadsTo_of_name {name : ItemName} (h : Grammar.Name input name rest) :
    LeadsTo ⟨.items, enclosing, found⟩ input ⟨.definition name, enclosing, found⟩ rest := by
  cases h with
  | @plain text rest next htext hnext =>
      cases text with
      | nil => exact htext.elim
      | cons first more =>
          obtain ⟨hstart, hmore⟩ := htext
          have hseparator : Rune.isSeparator first = false :=
            Rune.startsName_isSeparator (by simp [Rune.startsName, hstart])
          have hparen : first ≠ Punctuation.openParen.rune := by
            intro hrune
            simp [hrune] at hstart
          have hfirst : (Reading.mk .items enclosing found).step first =
              .ok ⟨.identifier [first], enclosing, found⟩ := by
            simp [step, atItems, hseparator, hparen, hstart]
          exact (LeadsTo.of_step hfirst).trans
            (leadsTo_of_continues (fun read => ⟨.identifier read, enclosing, found⟩)
              (fun text => ⟨.definition (.plain text), enclosing, found⟩)
              (fun read rune => rfl) hmore hnext [first] rest)
  | @receiver afterParen afterStar text afterType rest hparen hstar htext htype =>
      cases text with
      | nil => exact htext.elim
      | cons first more =>
          obtain ⟨hstart, hmore⟩ := htext
          have hopen : LeadsTo ⟨.items, enclosing, found⟩
              (Punctuation.openParen.rune :: afterParen) ⟨.receiver, enclosing, found⟩ afterParen :=
            .of_step rfl
          have hmark : LeadsTo ⟨.receiver, enclosing, found⟩ afterParen
              ⟨.pointer, enclosing, found⟩ afterStar :=
            leadsTo_of_mark (by decide) (fun rune => rfl) hparen
          have hspaces : LeadsTo ⟨.pointer, enclosing, found⟩ afterStar
              ⟨.pointer, enclosing, found⟩ (first :: (more ++ afterType)) :=
            .of_gap (fun rune hrune => by simp [step, hrune]) hstar
          have hfirst : (Reading.mk .pointer enclosing found).step first =
              .ok ⟨.typeName [first], enclosing, found⟩ := by
            simp [step, hstart, Rune.startsIdentifier_isWhiteSpace hstart]
          have hclose : LeadsTo ⟨.receiverEnd (String.ofList (first :: more)), enclosing, found⟩
              afterType ⟨.definition (.receiver (String.ofList (first :: more))), enclosing, found⟩
              rest :=
            leadsTo_of_mark (by decide) (fun rune => rfl) htype
          -- White space or the parenthesis ends the type name.
          obtain ⟨next, behind, rfl, hnext⟩ := exists_of_gap_mark htype
          have htypeName : LeadsTo ⟨.typeName [first], enclosing, found⟩ (more ++ next :: behind)
              ⟨.receiverEnd (String.ofList (first :: more)), enclosing, found⟩ (next :: behind) :=
            leadsTo_of_continues (fun read => ⟨.typeName read, enclosing, found⟩)
              (fun text => ⟨.receiverEnd text, enclosing, found⟩) (fun read rune => rfl) hmore
              hnext [first] behind
          exact hopen.trans (hmark.trans (hspaces.trans
            ((LeadsTo.of_step hfirst).trans (htypeName.trans hclose))))

/-- Looking at what follows changes nothing, because the reading will meet it. -/
theorem next_bind_outcome (reading : Reading) (cursor : Cursor) :
    (cursor.next >>= fun _ => reading.outcome cursor) = reading.outcome cursor := by
  cases hnext : cursor.next with
  | error fault => rw [error_bind, outcome_of_next_error hnext]
  | ok step => rfl

/-- The text of a signature, from its first rune on. -/
theorem leadsTo_of_signatureText {text : List Char} (name : ItemName)
    (h : Grammar.SignatureText enclosing.length text rest) :
    LeadsTo ⟨.definition name, enclosing, found⟩ (text ++ rest)
      (Reading.addLeaf ⟨.itemEnd, enclosing, found⟩ name text) rest := by
  have hlength : signatureLength (scopeAt enclosing.length) 0 0 (text ++ rest) = text.length :=
    Grammar.signatureLength_eq_length_iff.2 ⟨h.inside,
      fun hdepth => Grammar.balancedBehind_zero.2 (h.balanced hdepth), h.ends⟩
  have hsignature : LeadsTo ⟨.signature name [] 0, enclosing, found⟩ (text ++ rest)
      (Reading.addLeaf ⟨.itemEnd, enclosing, found⟩ name text) rest := by
    refine ⟨text, rfl, ?_⟩
    intro complete position
    have hadvance : (Cursor.mk (text ++ rest) complete position).advance text.length =
        ⟨rest, complete, position.afterAll text⟩ := by
      simp [Cursor.advance]
    rw [outcome_signature name [] 0 _ complete position hlength, hadvance, List.nil_append,
      List.take_left, next_bind_outcome]
  obtain ⟨first, more, rfl, hspace, hopen⟩ := h.begins
  have hterminator : Rune.isTerminator first = false := h.inside first (List.mem_cons_self ..)
  have hclose : (scopeAt enclosing.length).closes first = false := by
    rw [Bool.eq_false_iff]
    intro hcloses
    simp only [closes_scopeAt, Bool.and_eq_true, decide_eq_true_eq, beq_iff_eq] at hcloses
    have hbalanced := Grammar.balancedBehind_zero.2 (h.balanced hcloses.1)
    exact absurd ((Grammar.balancedBehind_cons.1 hbalanced).1 hcloses.2) (Nat.lt_irrefl 0)
  have hstep : (Reading.mk (.definition name) enclosing found).step first =
      (Reading.mk (.signature name [] 0) enclosing found).step first := by
    apply step_definition_eq_step_signature
    · simp [Rune.isInlineWhiteSpace, hspace]
    · simp [Rune.startsSignature, hterminator, hopen, hclose]
  exact (LeadsTo.of_step_eq hstep).trans hsignature

/-- The end of an item. -/
theorem leadsTo_of_endOfItem (h : Grammar.EndOfItem enclosing.length input rest) :
    LeadsTo ⟨.itemEnd, enclosing, found⟩ input ⟨.items, enclosing, found⟩ rest := by
  cases h with
  | source => exact .of_result?_eq (by cases enclosing <;> rfl)
  | terminator hterminator =>
      apply LeadsTo.of_step
      simp only [Rune.isTerminator, Bool.or_eq_true, beq_iff_eq] at hterminator
      rcases hterminator with rfl | rfl <;>
        simp [step, atItemEnd, Rune.isInlineWhiteSpace, Rune.isTerminator, closes_scopeAt]
  | brace hdepth =>
      have hstep : (Reading.mk .itemEnd enclosing found).step Punctuation.closeBrace.rune =
          (Reading.mk .items enclosing found).step Punctuation.closeBrace.rune := by
        simp [step, atItemEnd, atItems, Rune.isInlineWhiteSpace, closes_scopeAt, hdepth]
      exact .of_step_eq hstep

/-- The white space behind a signature is trimmed away. -/
theorem trim_append_blank {text blank : List Char}
    (hfirst : ∃ first more, text ++ blank = first :: more ∧ Rune.isWhiteSpace first = false)
    (htrimmed : Grammar.Trimmed text)
    (hblank : ∀ rune ∈ blank, Rune.isWhiteSpace rune = true) : trim (text ++ blank) = text := by
  have hdrop : (text ++ blank).dropWhile Rune.isWhiteSpace = text ++ blank := by
    obtain ⟨first, more, happend, hspace⟩ := hfirst
    simp [happend, hspace]
  have hback : ∀ rune ∈ blank.reverse, Rune.isWhiteSpace rune = true := by
    simpa using hblank
  have hlast : text.reverse.dropWhile Rune.isWhiteSpace = text.reverse := by
    cases hreverse : text.reverse with
    | nil => rfl
    | cons last front =>
        have hspace : Rune.isWhiteSpace last = false :=
          htrimmed.2 last (by rw [← List.head?_reverse, hreverse]; rfl)
        simp [hspace]
  rw [trim, hdrop, List.reverse_append, List.dropWhile_append_of_pos hback, hlast,
    List.reverse_reverse]

/-- The definition of an item that is a signature. -/
theorem leadsTo_of_signature {text blank : List Char} (name : ItemName)
    (htext : Grammar.SignatureText enclosing.length (text ++ blank) rest)
    (htrimmed : Grammar.Trimmed text)
    (hblank : ∀ rune ∈ blank, Rune.isWhiteSpace rune = true) :
    LeadsTo ⟨.definition name, enclosing, found⟩ (text ++ blank ++ rest)
      ⟨.itemEnd, enclosing,
        found ++ [Leaf.within (name :: enclosing) ⟨[], String.ofList text⟩]⟩ rest := by
  have hread : LeadsTo ⟨.definition name, enclosing, found⟩ (text ++ blank ++ rest)
      (Reading.addLeaf ⟨.itemEnd, enclosing, found⟩ name (text ++ blank)) rest :=
    leadsTo_of_signatureText name htext
  obtain ⟨first, more, happend, hspace, -⟩ := htext.begins
  rw [addLeaf, trim_append_blank ⟨first, more, happend, hspace⟩ htrimmed hblank] at hread
  exact hread

mutual

/-- A list of items. -/
theorem leadsTo_of_items {depth : Nat} {input rest : List Char} {leaves : List Leaf} :
    Grammar.Items depth input leaves rest →
      ∀ (enclosing : List ItemName) (found : List Leaf), enclosing.length = depth →
        LeadsTo ⟨.items, enclosing, found⟩ input
          ⟨.items, enclosing, found ++ leaves.map (Leaf.within enclosing)⟩ rest
  | .nil hgap, enclosing, found, _ => by
      rw [List.map_nil, List.append_nil]
      exact .of_gap (fun rune hrune => by simp [step, atItems, hrune]) hgap
  | .cons hgap hitem hmore, enclosing, found, hdepth => by
      have hspaces : LeadsTo ⟨.items, enclosing, found⟩ _ ⟨.items, enclosing, found⟩ _ :=
        .of_gap (fun rune hrune => by simp [step, atItems, hrune]) hgap
      rw [List.map_append, ← List.append_assoc]
      exact hspaces.trans ((leadsTo_of_item hitem enclosing found hdepth).trans
        (leadsTo_of_items hmore enclosing _ hdepth))

/-- An item with its end. -/
theorem leadsTo_of_item {depth : Nat} {input rest : List Char} {leaves : List Leaf} :
    Grammar.Item depth input leaves rest →
      ∀ (enclosing : List ItemName) (found : List Leaf), enclosing.length = depth →
        LeadsTo ⟨.items, enclosing, found⟩ input
          ⟨.items, enclosing, found ++ leaves.map (Leaf.within enclosing)⟩ rest
  | .mk hname hgap hdefinition hgap' hend, enclosing, found, hdepth => by
      have hspaces : ∀ name,
          LeadsTo ⟨.definition name, enclosing, found⟩ _ ⟨.definition name, enclosing, found⟩ _ :=
        fun name => .of_gap (fun rune hrune => by simp [step, atDefinition, hrune]) hgap
      have hspaces' : ∀ leaves,
          LeadsTo ⟨.itemEnd, enclosing, leaves⟩ _ ⟨.itemEnd, enclosing, leaves⟩ _ :=
        fun leaves => .of_gap (fun rune hrune => by simp [step, atItemEnd, hrune]) hgap'
      -- The depth is rewritten only where it is needed: the derivation of the definition
      -- must stay the part of this one that the recursion goes down to.
      rw [← hdepth] at hend
      have hread := (leadsTo_of_name hname).trans ((hspaces _).trans
        ((leadsTo_of_definition hdefinition enclosing found _ hdepth).trans
          ((hspaces' _).trans (leadsTo_of_endOfItem hend))))
      rw [← Leaf.map_within_map_under] at hread
      exact hread

/-- The definition of an item. -/
theorem leadsTo_of_definition {depth : Nat} {input rest : List Char} {leaves : List Leaf} :
    Grammar.Definition depth input leaves rest →
      ∀ (enclosing : List ItemName) (found : List Leaf) (name : ItemName),
        enclosing.length = depth →
          LeadsTo ⟨.definition name, enclosing, found⟩ input
            ⟨.itemEnd, enclosing, found ++ leaves.map (Leaf.within (name :: enclosing))⟩ rest
  | .block hlevel hitems, enclosing, found, name, hdepth => by
      have hmore : enclosing.length < maxNesting := by
        rw [hdepth]
        exact hlevel
      have hopen : (Reading.mk (.definition name) enclosing found).step
          Punctuation.openBrace.rune = .ok ⟨.items, name :: enclosing, found⟩ := by
        simp [step, atDefinition, Rune.isInlineWhiteSpace, hmore]
      have hclose : ∀ leaves, (Reading.mk .items (name :: enclosing) leaves).step
          Punctuation.closeBrace.rune = .ok ⟨.itemEnd, enclosing, leaves⟩ := by
        simp [step, atItems, Rune.isSeparator]
      exact (LeadsTo.of_step hopen).trans
        ((leadsTo_of_items hitems (name :: enclosing) found (congrArg Nat.succ hdepth)).trans
          (LeadsTo.of_step (hclose _)))
  | .signature htext htrimmed hblank, enclosing, found, name, hdepth => by
      rw [← hdepth] at htext
      exact leadsTo_of_signature name htext htrimmed hblank

end

end Reading

/-- **What is in the grammar is read.** -/
theorem leavesFrom_of_file {runes : List Char} {leaves : List Leaf}
    (h : Grammar.File runes leaves) (position : Position) :
    leavesFrom ⟨runes, true, position⟩ = .ok leaves := by
  obtain ⟨taken, -, hread⟩ := Reading.leadsTo_of_items h [] [] rfl
  rw [leavesFrom_eq_outcome, hread, Leaf.within_nil, List.map_id, List.nil_append]
  rfl

end Source

namespace Store

open Source

/-- **The last leaf counts.** -/
theorem get?_ofLeaves (leaves : List Leaf) (path : String) :
    (ofLeaves leaves).get? path =
      (leaves.reverse.find? (·.path == path)).map (·.signature) := by
  induction leaves using List.reverseRecOn with
  | nil => simp [ofLeaves]
  | append_singleton front leaf ih =>
      have happend : ofLeaves (front ++ [leaf]) =
          (ofLeaves front).insert leaf.path leaf.signature := by
        simp [ofLeaves]
      rw [happend, get?_insert, List.reverse_append, List.reverse_singleton,
        List.singleton_append, List.find?_cons, ih]
      by_cases hpath : leaf.path = path
      · simp [hpath]
      · have hother : (leaf.path == path) = false := beq_eq_false_iff_ne.2 hpath
        simp [hpath, hother]

/-- The store of a source is that of its leaves in the grammar. -/
theorem parse_eq_ok_iff {source : ByteArray} {store : Store} :
    parse source = .ok store ↔
      ∃ text : String, source = text.toByteArray ∧
        ∃ leaves, Grammar.File text.toList leaves ∧ store = ofLeaves leaves := by
  constructor
  · intro h
    have hcomplete := complete_of_parse_eq_ok h
    rw [parse, readFrom] at h
    cases hleaves : leavesFrom (.ofBytes source) with
    | error fault =>
        rw [hleaves] at h
        cases h
    | ok leaves =>
        rw [hleaves] at h
        cases h
        refine ⟨String.ofList (Utf8.decode source).runes, ?_, leaves, ?_, rfl⟩
        · rw [String.toByteArray_ofList]
          exact Utf8.eq_utf8Encode_of_complete hcomplete
        · rw [String.toList_ofList]
          exact Grammar.file_of_leavesFrom hleaves
  · intro hderived
    obtain ⟨text, rfl, leaves, hfile, rfl⟩ := hderived
    rw [parse, readFrom, Cursor.ofBytes, Utf8.decode_toByteArray, leavesFrom_of_file hfile]
    rfl

end Store
end SymbolAnnotations
