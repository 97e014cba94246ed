import Mathlib.Data.List.Basic
import SymbolAnnotations.Proofs.ReadingAgreement

/-!
# The grammar as a relation

Which runes belong to the language, and which leaves they stand for, said
without reading them.  Each nonterminal relates what is ahead to what is left
behind it, so that sequences compose, and what depends on nesting takes the
number of blocks around it.  Nothing here is chosen by looking ahead, except
that a name is as long as it can be and that a signature ends at a rune that
cannot be a part of it.

* `Items`, `Item`, `Definition` — the nested part of the grammar, with leaves;
* `File` — the sources of the language;
* `signatureLength_eq_length_iff` — the text of a signature is what is counted
  when one is read.
-/

namespace SymbolAnnotations
namespace Grammar

open Source

/-- Runes of one class lead from here to there. -/
def Gap (test : Char → Bool) (input rest : List Char) : Prop :=
  ∃ gap, input = gap ++ rest ∧ ∀ rune ∈ gap, test rune = true

/-- An identifier: a rune that begins one, and runes that go on with it. -/
def IsIdentifier : List Char → Prop
  | [] => False
  | first :: more =>
    Rune.startsIdentifier first = true ∧ ∀ rune ∈ more, Rune.continuesIdentifier rune = true

instance : DecidablePred IsIdentifier
  | [] => inferInstanceAs (Decidable False)
  | first :: more =>
    @instDecidableAnd (Rune.startsIdentifier first = true) _ inferInstance
      (List.decidableBAll (Rune.continuesIdentifier · = true) more)

/-- The name of an item.  Behind a plain name follows a rune that would not go
on with it; in a receiver, white space may stand between all parts. -/
inductive Name : List Char → ItemName → List Char → Prop
  | plain {text rest : List Char} {next : Char} (htext : IsIdentifier text)
      (hnext : Rune.continuesIdentifier next = false) :
      Name (text ++ next :: rest) (.plain (String.ofList text)) (next :: rest)
  | receiver {afterParen afterStar text afterType rest : List Char}
      (hparen : Gap Rune.isWhiteSpace afterParen (Punctuation.star.rune :: afterStar))
      (hstar : Gap Rune.isWhiteSpace afterStar (text ++ afterType))
      (htext : IsIdentifier text)
      (htype : Gap Rune.isWhiteSpace afterType (Punctuation.closeParen.rune :: rest)) :
      Name (Punctuation.openParen.rune :: afterParen) (.receiver (String.ofList text)) rest

/-- With `braces` open in front of the text, no brace in it closes more than is
open. -/
def BalancedBehind (braces : Nat) (text : List Char) : Prop :=
  ∀ front, front <+: text →
    front.count Punctuation.closeBrace.rune ≤ braces + front.count Punctuation.openBrace.rune

/-- Every beginning of the text has at least as many opening as closing
braces. -/
def Balanced (text : List Char) : Prop :=
  ∀ front, front <+: text →
    front.count Punctuation.closeBrace.rune ≤ front.count Punctuation.openBrace.rune

/-- Text without white space at either end. -/
def Trimmed (text : List Char) : Prop :=
  (∀ rune ∈ text.head?, Rune.isWhiteSpace rune = false) ∧
    ∀ rune ∈ text.getLast?, Rune.isWhiteSpace rune = false

/-- What ends the text of a signature: the end of the source, a terminator or,
in a block, a closing brace that no brace of the text has opened. -/
inductive EndOfText (depth braces : Nat) (text : List Char) : List Char → Prop
  | source : EndOfText depth braces text []
  | terminator {rune : Char} {rest : List Char} (hrune : Rune.isTerminator rune = true) :
      EndOfText depth braces text (rune :: rest)
  | brace {rest : List Char} (hdepth : 0 < depth)
      (hbraces : text.count Punctuation.closeBrace.rune =
        braces + text.count Punctuation.openBrace.rune) :
      EndOfText depth braces text (Punctuation.closeBrace.rune :: rest)

/-- The text of a signature, with the white space at its end, in front of
`rest`. -/
structure SignatureText (depth : Nat) (text rest : List Char) : Prop where
  /-- It does not begin with a semicolon or, in a block, with a closing brace
  either: the one would end it, and the other would not be balanced. -/
  begins : ∃ first more, text = first :: more ∧ Rune.isWhiteSpace first = false ∧
    first ≠ Punctuation.openBrace.rune
  inside : ∀ rune ∈ text, Rune.isTerminator rune = false
  balanced : 0 < depth → Balanced text
  ends : EndOfText depth 0 text rest

/-- What ends an item: the end of the source, a terminator or, in a block, the
brace that closes the block, which is left for the block. -/
inductive EndOfItem (depth : Nat) : List Char → List Char → Prop
  | source : EndOfItem depth [] []
  | terminator {rune : Char} {rest : List Char} (hrune : Rune.isTerminator rune = true) :
      EndOfItem depth (rune :: rest) rest
  | brace {rest : List Char} (hdepth : 0 < depth) :
      EndOfItem depth (Punctuation.closeBrace.rune :: rest) (Punctuation.closeBrace.rune :: rest)

mutual

/-- A list of items inside of `depth` blocks, and its leaves in order. -/
inductive Items : Nat → List Char → List Leaf → List Char → Prop
  | nil {depth : Nat} {input rest : List Char} (hgap : Gap Rune.isSeparator input rest) :
      Items depth input [] rest
  | cons {depth : Nat} {input start middle rest : List Char} {leaves more : List Leaf}
      (hgap : Gap Rune.isSeparator input start) (hitem : Item depth start leaves middle)
      (hmore : Items depth middle more rest) : Items depth input (leaves ++ more) rest

/-- An item with its end. -/
inductive Item : Nat → List Char → List Leaf → List Char → Prop
  | mk {depth : Nat} {input afterName start afterDefinition ending rest : List Char}
      {name : ItemName} {leaves : List Leaf} (hname : Name input name afterName)
      (hgap : Gap Rune.isInlineWhiteSpace afterName start)
      (hdefinition : Definition depth start leaves afterDefinition)
      (hgap' : Gap Rune.isInlineWhiteSpace afterDefinition ending)
      (hend : EndOfItem depth ending rest) :
      Item depth input (leaves.map fun leaf => ⟨name :: leaf.names, leaf.signature⟩) rest

/-- The definition of an item: a block, or a signature. -/
inductive Definition : Nat → List Char → List Leaf → List Char → Prop
  | block {depth : Nat} {inside rest : List Char} {leaves : List Leaf}
      (hdepth : depth < 128)
      (hitems : Items (depth + 1) inside leaves (Punctuation.closeBrace.rune :: rest)) :
      Definition depth (Punctuation.openBrace.rune :: inside) leaves rest
  | signature {depth : Nat} {text blank rest : List Char}
      (htext : SignatureText depth (text ++ blank) rest) (htrimmed : Trimmed text)
      (hblank : ∀ rune ∈ blank, Rune.isWhiteSpace rune = true) :
      Definition depth (text ++ blank ++ rest) [⟨[], String.ofList text⟩] rest

end

/-- A source of the language, and its leaves in order. -/
def File (runes : List Char) (leaves : List Leaf) : Prop :=
  Items 0 runes leaves []

namespace Gap

variable {test : Char → Bool} {input middle rest : List Char}

theorem refl (test : Char → Bool) (input : List Char) : Gap test input input :=
  ⟨[], rfl, by simp⟩

theorem trans (h : Gap test input middle) (h' : Gap test middle rest) : Gap test input rest := by
  obtain ⟨gap, rfl, hgap⟩ := h
  obtain ⟨gap', rfl, hgap'⟩ := h'
  refine ⟨gap ++ gap', (List.append_assoc _ _ _).symm, ?_⟩
  intro rune hrune
  rcases List.mem_append.1 hrune with hrune | hrune
  · exact hgap rune hrune
  · exact hgap' rune hrune

theorem mono {test' : Char → Bool} (himp : ∀ rune, test rune = true → test' rune = true)
    (h : Gap test input rest) : Gap test' input rest := by
  obtain ⟨gap, hinput, hgap⟩ := h
  exact ⟨gap, hinput, fun rune hrune => himp rune (hgap rune hrune)⟩

end Gap

/-- What stands between items may also stand in front of them. -/
theorem Items.of_gap {depth : Nat} {input start rest : List Char} {leaves : List Leaf}
    (hgap : Gap Rune.isSeparator input start) (h : Items depth start leaves rest) :
    Items depth input leaves rest := by
  cases h with
  | nil hgap' => exact .nil (hgap.trans hgap')
  | cons hgap' hitem hmore => exact .cons (hgap.trans hgap') hitem hmore

theorem balancedBehind_zero {text : List Char} : BalancedBehind 0 text ↔ Balanced text := by
  simp [BalancedBehind, Balanced]

/-- Behind a rune of the text `bracesAfter` are open, if a closing brace finds
one to close. -/
theorem count_bracesAfter {braces : Nat} {rune : Char}
    (hclose : rune = Punctuation.closeBrace.rune → 0 < braces) (text : List Char) :
    (rune :: text).count Punctuation.closeBrace.rune +
        (bracesAfter rune braces + text.count Punctuation.openBrace.rune) =
      text.count Punctuation.closeBrace.rune +
        (braces + (rune :: text).count Punctuation.openBrace.rune) := by
  have hmarks : Punctuation.openBrace.rune ≠ Punctuation.closeBrace.rune := by decide
  simp only [List.count_cons, bracesAfter, beq_iff_eq]
  by_cases hopen : rune = Punctuation.openBrace.rune
  · have hshut : rune ≠ Punctuation.closeBrace.rune := fun h => hmarks (hopen.symm.trans h)
    simp only [if_pos hopen, if_neg hshut]
    omega
  · by_cases hshut : rune = Punctuation.closeBrace.rune
    · have hsome := hclose hshut
      simp only [if_neg hopen, if_pos hshut]
      omega
    · simp only [if_neg hopen, if_neg hshut]
      omega

theorem balancedBehind_cons {braces : Nat} {rune : Char} {text : List Char} :
    BalancedBehind braces (rune :: text) ↔
      (rune = Punctuation.closeBrace.rune → 0 < braces) ∧
        BalancedBehind (bracesAfter rune braces) text := by
  constructor
  · intro h
    have hclose : rune = Punctuation.closeBrace.rune → 0 < braces := by
      intro hrune
      subst hrune
      have hmarks : Punctuation.closeBrace.rune ≠ Punctuation.openBrace.rune := by decide
      have hfirst := h [Punctuation.closeBrace.rune] (by simp)
      simp only [List.count_singleton_self, List.count_singleton, beq_iff_eq, if_neg hmarks]
        at hfirst
      omega
    refine ⟨hclose, ?_⟩
    intro front hfront
    have hmore := h (rune :: front) (by simpa using hfront)
    have hcount := count_bracesAfter hclose front
    omega
  · intro hrune front hfront
    obtain ⟨hclose, h⟩ := hrune
    rcases List.prefix_cons_iff.1 hfront with rfl | ⟨front, rfl, hrest⟩
    · simp
    · have hmore := h front hrest
      have hcount := count_bracesAfter hclose front
      omega

theorem endOfText_cons {depth braces : Nat} {rune : Char} {text rest : List Char}
    (hclose : 0 < depth → rune = Punctuation.closeBrace.rune → 0 < braces) :
    EndOfText depth braces (rune :: text) rest ↔
      EndOfText depth (bracesAfter rune braces) text rest := by
  constructor
  · intro h
    cases h with
    | source => exact .source
    | terminator hrune => exact .terminator hrune
    | brace hdepth hbraces =>
        have hcount := count_bracesAfter (hclose hdepth) text
        exact .brace hdepth (by omega)
  · intro h
    cases h with
    | source => exact .source
    | terminator hrune => exact .terminator hrune
    | brace hdepth hbraces =>
        have hcount := count_bracesAfter (hclose hdepth) text
        exact .brace hdepth (by omega)

/-- What is counted are the first of the runes ahead. -/
theorem exists_append_of_signatureLength (scope : Scope) (braces : Nat) (runes : List Char) :
    ∃ text rest, runes = text ++ rest ∧
      signatureLength scope braces 0 runes = text.length := by
  induction runes generalizing braces with
  | nil => exact ⟨[], [], rfl, rfl⟩
  | cons rune runes ih =>
      rw [signatureLength]
      split
      · exact ⟨[], rune :: runes, rfl, rfl⟩
      · obtain ⟨text, rest, rfl, hlength⟩ := ih (bracesAfter rune braces)
        refine ⟨rune :: text, rest, rfl, ?_⟩
        rw [signatureLength_eq_add, hlength, List.length_cons, Nat.add_comm]

/-- In front of what ends a text nothing more is counted. -/
theorem signatureLength_eq_zero_iff {depth braces : Nat} {rest : List Char} :
    signatureLength (scopeAt depth) braces 0 rest = 0 ↔ EndOfText depth braces [] rest := by
  cases rest with
  | nil => exact ⟨fun _ => .source, fun _ => rfl⟩
  | cons rune rest =>
      rw [signatureLength, closes_scopeAt]
      constructor
      · intro h
        split at h
        · rename_i hend
          rcases Bool.or_eq_true_iff.1 hend with hrune | hbrace
          · exact .terminator hrune
          · simp only [Bool.and_eq_true, beq_iff_eq, decide_eq_true_eq] at hbrace
            obtain ⟨hbraces, hdepth, rfl⟩ := hbrace
            exact .brace hdepth (by simp [hbraces])
        · rw [signatureLength_eq_add] at h
          omega
      · intro h
        cases h with
        | terminator hrune => simp [hrune]
        | brace hdepth hbraces =>
            have hnone : 0 = braces := by simpa using hbraces
            simp [hdepth, ← hnone]

/-- **The text of a signature is what is counted** when one is read. -/
theorem signatureLength_eq_length_iff {depth braces : Nat} {text rest : List Char} :
    signatureLength (scopeAt depth) braces 0 (text ++ rest) = text.length ↔
      (∀ rune ∈ text, Rune.isTerminator rune = false) ∧
        (0 < depth → BalancedBehind braces text) ∧ EndOfText depth braces text rest := by
  induction text generalizing braces with
  | nil =>
      have hnil : BalancedBehind braces [] := by
        intro front hfront
        rw [List.prefix_nil.1 hfront]
        simp
      simp [signatureLength_eq_zero_iff, hnil]
  | cons rune text ih =>
      rw [List.cons_append, signatureLength, closes_scopeAt, List.length_cons]
      by_cases hend : (Rune.isTerminator rune ||
          (braces == 0 && (decide (0 < depth) && rune == Punctuation.closeBrace.rune))) = true
      · -- What ends a text is neither inside of one nor balanced.
        rw [if_pos hend]
        refine ⟨fun h => absurd h (by omega), ?_⟩
        intro htext
        obtain ⟨hinside, hbalanced, -⟩ := htext
        rcases Bool.or_eq_true_iff.1 hend with hrune | hbrace
        · simp [hrune] at hinside
        · simp only [Bool.and_eq_true, beq_iff_eq, decide_eq_true_eq] at hbrace
          obtain ⟨rfl, hdepth, rfl⟩ := hbrace
          have hopen := (balancedBehind_cons.1 (hbalanced hdepth)).1 rfl
          omega
      · rw [if_neg hend, signatureLength_eq_add, Nat.add_comm 1, Nat.add_right_cancel_iff, ih]
        simp only [Bool.or_eq_true, Bool.and_eq_true, beq_iff_eq, decide_eq_true_eq, not_or,
          Bool.not_eq_true, not_and] at hend
        have hclose : 0 < depth → rune = Punctuation.closeBrace.rune → 0 < braces := by
          intro hdepth hrune
          exact Nat.pos_of_ne_zero fun hnone => hend.2 hnone hdepth hrune
        rw [endOfText_cons hclose, balancedBehind_cons, List.forall_mem_cons]
        constructor
        · intro htext
          obtain ⟨hinside, hbalanced, hends⟩ := htext
          exact ⟨⟨hend.1, hinside⟩, fun hdepth => ⟨hclose hdepth, hbalanced hdepth⟩, hends⟩
        · intro htext
          obtain ⟨⟨-, hinside⟩, hbalanced, hends⟩ := htext
          exact ⟨hinside, fun hdepth => (hbalanced hdepth).2, hends⟩

end Grammar
end SymbolAnnotations
