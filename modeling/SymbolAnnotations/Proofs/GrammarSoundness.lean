import Mathlib.Data.List.DropRight
import SymbolAnnotations.Proofs.Grammar

/-!
# What is read is in the grammar

Each production leads from what is ahead of its cursor to what is left there as
the nonterminal of its name does.  Blocks are settled, as in reading, by
induction on the levels of nesting that are left.

* `items_of_itemsAfter` — a list of items, given how blocks are read;
* `file_of_leavesFrom` — the leaves that are read are those that the grammar
  gives to the runes.
-/

namespace SymbolAnnotations
namespace Grammar

open Source

variable {cursor after : Cursor} {depth : Nat} {leaves : List Leaf}

theorem gap_skipWhile (test : Char → Bool) (cursor : Cursor) :
    Gap test cursor.runes (cursor.skipWhile test).runes :=
  ⟨(cursor.takeWhile test).1, (Cursor.runes_takeWhile test cursor).symm,
    fun _ hrune => List.mem_takeWhile_imp hrune⟩

theorem runes_of_require {token : Token} (h : cursor.require = .ok (token, after)) :
    cursor.runes = token.rune :: after.runes :=
  (Cursor.next_eq_ok_some_iff.1 (Cursor.require_eq_ok_iff.1 h)).1

theorem runes_of_next_none (h : cursor.next = .ok none) : cursor.runes = [] := by
  obtain ⟨runes, complete, position⟩ := cursor
  cases runes with
  | nil => rfl
  | cons rune rest => cases h

theorem runes_of_expect {mark : Punctuation} (h : expect mark cursor = .ok after) :
    cursor.runes = mark.rune :: after.runes := by
  simp only [expect, bind_eq_ok_iff, Prod.exists] at h
  obtain ⟨found, behind, hfound, h⟩ := h
  split at h
  · rename_i hmark
    cases h
    rw [runes_of_require hfound, hmark]
  · cases h

/-- An identifier, and the rune behind it that does not go on with it. -/
theorem isIdentifier_of_identifier {text : String}
    (h : identifier cursor = .ok (text, after)) :
    ∃ read next rest, IsIdentifier read ∧ text = String.ofList read ∧
      cursor.runes = read ++ after.runes ∧ after.runes = next :: rest ∧
      Rune.continuesIdentifier next = false := by
  simp only [identifier, bind_eq_ok_iff, Prod.exists] at h
  obtain ⟨first, inside, hfirst, h⟩ := h
  split at h
  · rename_i hstart
    simp only [bind_eq_ok_iff, Prod.exists] at h
    obtain ⟨next, behind, hnext, h⟩ := h
    cases h
    have hruns := Cursor.runes_takeWhile Rune.continuesIdentifier inside
    refine ⟨first.rune :: (inside.takeWhile Rune.continuesIdentifier).1, next.rune,
      behind.runes, ⟨hstart, fun _ hrune => List.mem_takeWhile_imp hrune⟩, rfl, ?_,
      runes_of_require hnext, require_skipWhile hnext⟩
    rw [runes_of_require hfirst, List.cons_append, hruns]
  · cases h

theorem name_of_receiver {name : ItemName} (h : Source.receiver cursor = .ok (name, after)) :
    Name cursor.runes name after.runes := by
  simp only [Source.receiver, bind_eq_ok_iff, Prod.exists] at h
  obtain ⟨afterParen, hparen, afterStar, hstar, typeName, afterType, htype, behind, hclose, h⟩ := h
  cases h
  obtain ⟨text, -, -, htext, rfl, hruns, -, -⟩ := isIdentifier_of_identifier htype
  have hgapParen := gap_skipWhile Rune.isWhiteSpace afterParen
  have hgapStar := gap_skipWhile Rune.isWhiteSpace afterStar
  have hgapType := gap_skipWhile Rune.isWhiteSpace afterType
  simp only [Cursor.skipWhiteSpace] at hstar hruns hclose
  rw [runes_of_expect hstar] at hgapParen
  rw [hruns] at hgapStar
  rw [runes_of_expect hclose] at hgapType
  rw [runes_of_expect hparen]
  exact .receiver hgapParen hgapStar htext hgapType

theorem name_of_name {name : ItemName} (h : Source.name cursor = .ok (name, after)) :
    Name cursor.runes name after.runes := by
  simp only [Source.name, bind_eq_ok_iff, Prod.exists] at h
  obtain ⟨first, inside, -, h⟩ := h
  split at h
  · exact name_of_receiver h
  · split at h
    · simp only [bind_eq_ok_iff, Prod.exists] at h
      obtain ⟨text, behind, htext, h⟩ := h
      cases h
      obtain ⟨read, next, rest, hread, rfl, hruns, hafter, hnext⟩ :=
        isIdentifier_of_identifier htext
      rw [hruns, hafter]
      exact .plain hread hnext
    · cases h

/-- Text that begins without white space is its trimmed text and white space
behind that. -/
theorem exists_blank_of_trim {text : List Char}
    (hfirst : ∀ rune ∈ text.head?, Rune.isWhiteSpace rune = false) :
    ∃ blank, text = trim text ++ blank ∧ Trimmed (trim text) ∧
      ∀ rune ∈ blank, Rune.isWhiteSpace rune = true := by
  have hdrop : text.dropWhile Rune.isWhiteSpace = text := by
    cases text with
    | nil => rfl
    | cons first more => simpa using hfirst
  have htrim : trim text = text.rdropWhile Rune.isWhiteSpace := by
    rw [trim, hdrop, List.rdropWhile]
  refine ⟨text.rtakeWhile Rune.isWhiteSpace, ?_, ?_, fun _ => List.mem_rtakeWhile_imp⟩
  · rw [htrim, List.rdropWhile_append_rtakeWhile]
  · rw [htrim]
    constructor
    · intro rune hrune
      have hprefix : text.rdropWhile Rune.isWhiteSpace <+: text := List.rdropWhile_prefix _ _
      obtain ⟨back, hback⟩ := hprefix
      apply hfirst rune
      rw [← hback, List.head?_append, Option.mem_def.1 hrune]
      rfl
    · intro rune hrune
      obtain ⟨hne, rfl⟩ := List.mem_getLast?_eq_getLast hrune
      simpa using List.rdropWhile_last_not Rune.isWhiteSpace text hne

/-- The text of a signature, given its first rune. -/
theorem signatureText_of_signatureLength {rune : Char} {runes text rest : List Char}
    (hruns : rune :: runes = text ++ rest)
    (hstart : (Rune.startsSignature rune && !(scopeAt depth).closes rune) = true)
    (hspace : Rune.isInlineWhiteSpace rune = false)
    (hlength : signatureLength (scopeAt depth) 0 0 (text ++ rest) = text.length) :
    SignatureText depth text rest := by
  obtain ⟨hinside, hbalanced, hends⟩ := signatureLength_eq_length_iff.1 hlength
  simp only [closes_scopeAt, Rune.startsSignature, Bool.and_eq_true, Bool.not_eq_true',
    bne_iff_ne, Bool.and_eq_false_iff, decide_eq_false_iff_not, beq_eq_false_iff_ne] at hstart
  obtain ⟨⟨hterminator, hopen⟩, hclose⟩ := hstart
  cases text with
  | nil =>
      exfalso
      rw [List.nil_append] at hruns
      subst hruns
      cases hends with
      | terminator hrune => simp [hrune] at hterminator
      | brace hdepth _ => simp [hdepth] at hclose
  | cons first more =>
      obtain ⟨rfl, -⟩ := List.cons.inj hruns
      have hnewline : rune ≠ Punctuation.newline.rune := by
        intro hrune
        simp [hrune, Rune.isTerminator] at hterminator
      have hblank : Rune.isWhiteSpace rune = false := by
        simpa [Rune.isInlineWhiteSpace, hnewline] using hspace
      exact ⟨⟨rune, more, rfl, hblank, hopen⟩, hinside,
        fun hdepth => balancedBehind_zero.1 (hbalanced hdepth), hends⟩

theorem definition_of_signature {text : String}
    (hspace : ∀ rune ∈ cursor.runes.head?, Rune.isInlineWhiteSpace rune = false)
    (h : Source.signature (scopeAt depth) cursor = .ok (text, after)) :
    Definition depth cursor.runes [⟨[], text⟩] after.runes := by
  simp only [Source.signature, bind_eq_ok_iff, Prod.exists] at h
  obtain ⟨first, inside, hfirst, h⟩ := h
  split at h
  · rename_i hstart
    simp only [bind_eq_ok_iff] at h
    obtain ⟨-, -, h⟩ := h
    cases h
    have hruns := runes_of_require hfirst
    obtain ⟨read, rest, happend, hlength⟩ :=
      exists_append_of_signatureLength (scopeAt depth) 0 cursor.runes
    have hread : cursor.runes.take (signatureLength (scopeAt depth) 0 0 cursor.runes) = read := by
      rw [hlength, happend, List.take_left]
    have hrest : (cursor.advance (signatureLength (scopeAt depth) 0 0 cursor.runes)).runes =
        rest := by
      rw [hlength, Cursor.advance, happend]
      exact List.drop_left
    have htext : SignatureText depth read rest :=
      signatureText_of_signatureLength (hruns.symm.trans happend) hstart
        (hspace first.rune (by simp [hruns])) (happend ▸ hlength)
    have hhead : ∀ rune ∈ read.head?, Rune.isWhiteSpace rune = false := by
      obtain ⟨rune, more, rfl, hblank, -⟩ := htext.begins
      simpa using hblank
    obtain ⟨blank, hblank, htrimmed, hspaces⟩ := exists_blank_of_trim hhead
    rw [hread, hrest, happend]
    generalize trim read = body at hblank htrimmed ⊢
    subst hblank
    exact .signature htext htrimmed hspaces
  · cases h

theorem endOfItem_of_endOfItem (h : Source.endOfItem (scopeAt depth) cursor = .ok after) :
    EndOfItem depth cursor.runes after.runes := by
  simp only [Source.endOfItem, bind_eq_ok_iff] at h
  obtain ⟨step?, hnext, h⟩ := h
  cases step? with
  | none =>
      cases h
      rw [runes_of_next_none hnext]
      exact .source
  | some step =>
      obtain ⟨token, behind⟩ := step
      simp only at h
      rw [(Cursor.next_eq_ok_some_iff.1 hnext).1]
      split at h
      · rename_i hclose
        cases h
        rw [(Cursor.next_eq_ok_some_iff.1 hnext).1]
        simp only [closes_scopeAt, Bool.and_eq_true, decide_eq_true_eq, beq_iff_eq] at hclose
        rw [hclose.2]
        exact .brace hclose.1
      · split at h
        · rename_i hterminator
          cases h
          exact .terminator hterminator
        · cases h

/-- Blocks are read as the grammar has them inside so many blocks. -/
def BlocksDerive (blocks : BlockReader) (depth : Nat) : Prop :=
  ∀ brace inside leaves after, blocks.read brace inside = .ok (leaves, after) →
    depth < maxNesting ∧
      Items (depth + 1) inside.runes leaves (Punctuation.closeBrace.rune :: after.runes)

variable {blocks : BlockReader}

theorem definition_of_definition (hblocks : BlocksDerive blocks depth)
    (hspace : ∀ rune ∈ cursor.runes.head?, Rune.isInlineWhiteSpace rune = false)
    (h : Source.definition blocks (scopeAt depth) cursor = .ok (leaves, after)) :
    Definition depth cursor.runes leaves after.runes := by
  simp only [Source.definition, bind_eq_ok_iff, Prod.exists] at h
  obtain ⟨first, inside, hfirst, h⟩ := h
  split at h
  · rename_i hbrace
    obtain ⟨hdepth, hitems⟩ := hblocks first inside leaves after h
    rw [runes_of_require hfirst, hbrace]
    exact .block hdepth hitems
  · simp only [bind_eq_ok_iff, Prod.exists] at h
    obtain ⟨text, behind, htext, h⟩ := h
    cases h
    exact definition_of_signature hspace htext

theorem item_of_item (hblocks : BlocksDerive blocks depth)
    (h : Source.item blocks (scopeAt depth) cursor = .ok (leaves, after)) :
    Item depth cursor.runes leaves after.runes := by
  simp only [Source.item, bind_eq_ok_iff, Prod.exists] at h
  obtain ⟨name, afterName, hname, inner, afterDefinition, hdefinition, behind, hend, h⟩ := h
  cases h
  have hspace : ∀ rune ∈ afterName.skipInlineWhiteSpace.runes.head?,
      Rune.isInlineWhiteSpace rune = false := by
    intro rune hrune
    have hhead := List.head?_dropWhile_not Rune.isInlineWhiteSpace afterName.runes
    have hskip : afterName.skipInlineWhiteSpace.runes =
        afterName.runes.dropWhile Rune.isInlineWhiteSpace := rfl
    rw [hskip] at hrune
    simpa [Option.mem_def.1 hrune] using hhead
  exact .mk (name_of_name hname) (gap_skipWhile _ afterName)
    (definition_of_definition hblocks hspace hdefinition) (gap_skipWhile _ afterDefinition)
    (endOfItem_of_endOfItem hend)

/-- A list of items, behind those that have been found before. -/
theorem items_of_itemsAfter {found : List Leaf} (hblocks : BlocksDerive blocks depth)
    (h : itemsAfter blocks (scopeAt depth) found cursor = .ok (leaves, after)) :
    ∃ more, leaves = found.reverse ++ more ∧ Items depth cursor.runes more after.runes := by
  generalize hscope : scopeAt depth = scope at h
  fun_induction itemsAfter blocks scope found cursor with
  | case1 | case3 => cases h
  | case2 found cursor start | case5 found cursor start =>
      simp only [Except.ok.injEq, Prod.mk.injEq] at h
      obtain ⟨rfl, rfl⟩ := h
      exact ⟨[], (List.append_nil _).symm, .nil (gap_skipWhile _ cursor)⟩
  | case4 found cursor start _ _ _ _ inner behind hitem ih =>
      obtain ⟨more, rfl, hmore⟩ := ih h
      rw [← hscope] at hitem
      refine ⟨inner ++ more, ?_, .cons (gap_skipWhile _ cursor) (item_of_item hblocks hitem) hmore⟩
      rw [List.reverseAux_eq, List.reverse_append, List.reverse_reverse, List.append_assoc]

/-- The inside of a block, up to the brace that closes it. -/
theorem items_of_body (hblocks : BlocksDerive blocks (depth + 1))
    (h : body blocks cursor = .ok (leaves, after)) :
    Items (depth + 1) cursor.runes leaves (Punctuation.closeBrace.rune :: after.runes) := by
  simp only [body, bind_eq_ok_iff, Prod.exists] at h
  obtain ⟨inner, afterItems, hitems, behind, hclose, h⟩ := h
  cases h
  rw [items] at hitems
  rw [(skip_of_itemsAfter hitems).2] at hclose
  have hlist : itemsAfter blocks (scopeAt (depth + 1)) [] cursor.skipWhiteSpace =
      .ok (leaves, afterItems) := hitems
  obtain ⟨more, rfl, hmore⟩ := items_of_itemsAfter hblocks hlist
  rw [← runes_of_expect hclose]
  refine Items.of_gap (Gap.mono ?_ (gap_skipWhile Rune.isWhiteSpace cursor)) hmore
  intro rune hrune
  simp [Rune.isSeparator, hrune]

/-- **Blocks derive,** as deep as there are levels of nesting left. -/
theorem blocksDerive_blockWithin (levels depth : Nat) (hlevels : levels + depth = maxNesting) :
    BlocksDerive (blockWithin levels) depth := by
  induction levels generalizing depth with
  | zero =>
      intro brace inside leaves after h
      cases h
  | succ levels ih =>
      intro brace inside leaves after h
      refine ⟨by omega, ?_⟩
      exact items_of_body (ih (depth + 1) (by omega)) h

/-- **What is read is in the grammar.**  The leaves that are read from a cursor
up to the end of the source are those of the runes that follow it. -/
theorem file_of_leavesFrom (h : leavesFrom cursor = .ok leaves) : File cursor.runes leaves := by
  simp only [leavesFrom, bind_eq_ok_iff, Prod.exists] at h
  obtain ⟨inner, afterItems, hitems, step?, hnext, h⟩ := h
  rw [items] at hitems
  rw [(skip_of_itemsAfter hitems).1] at hnext
  have hlist : itemsAfter (blockWithin maxNesting) (scopeAt 0) [] cursor =
      .ok (inner, afterItems) := hitems
  obtain ⟨more, rfl, hmore⟩ :=
    items_of_itemsAfter (blocksDerive_blockWithin maxNesting 0 (Nat.add_zero _)) hlist
  cases step? with
  | none =>
      cases h
      rw [runes_of_next_none hnext] at hmore
      exact hmore
  | some step => cases h

end Grammar
end SymbolAnnotations
