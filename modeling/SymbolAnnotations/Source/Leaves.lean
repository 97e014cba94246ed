import SymbolAnnotations.Source.Production

/-!
# The leaves of a source

Lists of items, blocks and whole files.  `leaves` reads a source into its
leaves, in the order in which they are written.

* `remaining_item_lt` — an item takes at least one rune, so a list of items
  comes to an end;
* `blockWithin` — blocks are read by recursion on the levels of nesting that
  are left, so the depth of the recursion is bounded by `maxNesting`.
-/

namespace SymbolAnnotations
namespace Source

/-- A composed reading succeeds exactly when its parts do. -/
theorem bind_eq_ok_iff {ε α β : Type} {x : Except ε α} {f : α → Except ε β} {b : β} :
    (x >>= f) = .ok b ↔ ∃ a, x = .ok a ∧ f a = .ok b := by
  cases x with
  | error e => simp [bind, Except.bind]
  | ok a => simp [bind, Except.bind]

theorem remaining_identifier_lt {cursor after : Cursor} {text : String}
    (h : identifier cursor = .ok (text, after)) : after.remaining < cursor.remaining := by
  simp only [identifier, bind_eq_ok_iff, Prod.exists] at h
  obtain ⟨first, inside, hfirst, h⟩ := h
  have hlt := Cursor.remaining_require hfirst
  have hle := Cursor.remaining_skipWhile_le Rune.continuesIdentifier inside
  split at h
  · simp only [bind_eq_ok_iff, Prod.exists] at h
    obtain ⟨_, _, _, h⟩ := h
    cases h
    rw [Cursor.skipWhile] at hle
    omega
  · cases h

theorem remaining_expect {mark : Punctuation} {cursor after : Cursor}
    (h : expect mark cursor = .ok after) : after.remaining + 1 = cursor.remaining := by
  simp only [expect, bind_eq_ok_iff, Prod.exists] at h
  obtain ⟨found, behind, hfound, h⟩ := h
  split at h
  · cases h
    exact Cursor.remaining_require hfound
  · cases h

theorem remaining_receiver_lt {cursor after : Cursor} {name : ItemName}
    (h : receiver cursor = .ok (name, after)) : after.remaining < cursor.remaining := by
  simp only [receiver, bind_eq_ok_iff, Prod.exists] at h
  obtain ⟨afterParen, hparen, afterStar, hstar, typeName, afterType, htype, behind, hclose, h⟩ := h
  cases h
  have := remaining_expect hparen
  have := remaining_expect hstar
  have := remaining_identifier_lt htype
  have := remaining_expect hclose
  have := Cursor.remaining_skipWhile_le Rune.isWhiteSpace afterParen
  have := Cursor.remaining_skipWhile_le Rune.isWhiteSpace afterStar
  have := Cursor.remaining_skipWhile_le Rune.isWhiteSpace afterType
  simp only [Cursor.skipWhiteSpace] at *
  omega

/-- A name takes at least one rune. -/
theorem remaining_name_lt {cursor after : Cursor} {found : ItemName}
    (h : name cursor = .ok (found, after)) : after.remaining < cursor.remaining := by
  simp only [name, bind_eq_ok_iff, Prod.exists] at h
  obtain ⟨first, _, _, h⟩ := h
  split at h
  · exact remaining_receiver_lt h
  · split at h
    · simp only [bind_eq_ok_iff, Prod.exists] at h
      obtain ⟨text, behind, htext, h⟩ := h
      cases h
      exact remaining_identifier_lt htext
    · cases h

theorem remaining_signature_le {scope : Scope} {cursor after : Cursor} {text : String}
    (h : signature scope cursor = .ok (text, after)) : after.remaining ≤ cursor.remaining := by
  simp only [signature, bind_eq_ok_iff, Prod.exists] at h
  obtain ⟨_, _, _, h⟩ := h
  split at h
  · simp only [bind_eq_ok_iff] at h
    obtain ⟨_, _, h⟩ := h
    cases h
    rw [Cursor.remaining_advance]
    omega
  · cases h

/-- A definition gives back no more than is ahead of it. -/
theorem remaining_definition_le {blocks : BlockReader} {scope : Scope} {cursor after : Cursor}
    {leaves : List Leaf} (h : definition blocks scope cursor = .ok (leaves, after)) :
    after.remaining ≤ cursor.remaining := by
  simp only [definition, bind_eq_ok_iff, Prod.exists] at h
  obtain ⟨first, inside, hfirst, h⟩ := h
  split at h
  · have := blocks.remaining_le h
    have := Cursor.remaining_require hfirst
    omega
  · simp only [bind_eq_ok_iff, Prod.exists] at h
    obtain ⟨text, behind, htext, h⟩ := h
    cases h
    exact remaining_signature_le htext

theorem remaining_endOfItem_le {scope : Scope} {cursor after : Cursor}
    (h : endOfItem scope cursor = .ok after) : after.remaining ≤ cursor.remaining := by
  simp only [endOfItem, bind_eq_ok_iff] at h
  obtain ⟨step, hstep, h⟩ := h
  cases step with
  | none =>
    cases h
    exact Nat.le_refl _
  | some step =>
    obtain ⟨token, behind⟩ := step
    have := Cursor.remaining_require (Cursor.require_eq_ok_iff.2 hstep)
    simp only at h
    split at h
    · cases h
      exact Nat.le_refl _
    · split at h
      · cases h
        omega
      · cases h

/-- **Progress.**  An item takes at least one rune. -/
theorem remaining_item_lt {blocks : BlockReader} {scope : Scope} {cursor after : Cursor}
    {leaves : List Leaf} (h : item blocks scope cursor = .ok (leaves, after)) :
    after.remaining < cursor.remaining := by
  simp only [item, bind_eq_ok_iff, Prod.exists] at h
  obtain ⟨name, afterName, hname, inner, afterDefinition, hdefinition, behind, hend, h⟩ := h
  cases h
  have := remaining_name_lt hname
  have := remaining_definition_le hdefinition
  have := remaining_endOfItem_le hend
  have := Cursor.remaining_skipWhile_le Rune.isInlineWhiteSpace afterName
  have := Cursor.remaining_skipWhile_le Rune.isInlineWhiteSpace afterDefinition
  simp only [Cursor.skipInlineWhiteSpace] at *
  omega

/-- Reads on in a list of items, where `found` holds the leaves of the items so
far, the last one first.  The list ends at the first token that begins no
name, and in front of it. -/
def itemsAfter (blocks : BlockReader) (scope : Scope) (found : List Leaf)
    (cursor : Cursor) : Except ParseError (List Leaf × Cursor) :=
  let start := cursor.skipSeparators
  match start.next with
  | .error fault => .error fault
  | .ok none => .ok (found.reverse, start)
  | .ok (some (token, _)) =>
    if Rune.startsName token.rune then
      match _ : item blocks scope start with
      | .error fault => .error fault
      | .ok (leaves, after) => itemsAfter blocks scope (leaves.reverseAux found) after
    else
      .ok (found.reverse, start)
termination_by cursor.remaining
decreasing_by
  have := remaining_item_lt ‹_ = Except.ok (leaves, after)›
  have := Cursor.remaining_skipWhile_le Rune.isSeparator cursor
  exact Nat.lt_of_lt_of_le ‹after.remaining < _› this

/-- A list of items. -/
def items (blocks : BlockReader) (scope : Scope) (cursor : Cursor) :
    Except ParseError (List Leaf × Cursor) :=
  itemsAfter blocks scope [] cursor

theorem remaining_itemsAfter_le {blocks : BlockReader} {scope : Scope}
    {found : List Leaf} {cursor after : Cursor} {leaves : List Leaf}
    (h : itemsAfter blocks scope found cursor = .ok (leaves, after)) :
    after.remaining ≤ cursor.remaining := by
  fun_induction itemsAfter blocks scope found cursor with
  | case1 | case3 => cases h
  | case2 _ cursor start | case5 _ cursor start =>
    simp only [Except.ok.injEq, Prod.mk.injEq] at h
    rw [← h.2]
    exact Cursor.remaining_skipWhile_le Rune.isSeparator cursor
  | case4 _ cursor start _ _ _ _ _ behind hitem ih =>
    have := ih h
    have := remaining_item_lt hitem
    have : start.remaining ≤ cursor.remaining :=
      Cursor.remaining_skipWhile_le Rune.isSeparator cursor
    omega

/-- The inside of a block and its closing brace, given how blocks inside it are
read. -/
def body (blocks : BlockReader) (cursor : Cursor) : Except ParseError (List Leaf × Cursor) := do
  let (leaves, afterItems) ← items blocks .block cursor.skipWhiteSpace
  let after ← expect .closeBrace afterItems.skipWhiteSpace
  return (leaves, after)

theorem remaining_body_le {blocks : BlockReader} {cursor after : Cursor} {leaves : List Leaf}
    (h : body blocks cursor = .ok (leaves, after)) : after.remaining ≤ cursor.remaining := by
  simp only [body, bind_eq_ok_iff, Prod.exists] at h
  obtain ⟨inner, afterItems, hitems, behind, hclose, h⟩ := h
  cases h
  have := remaining_itemsAfter_le hitems
  have := remaining_expect hclose
  have := Cursor.remaining_skipWhile_le Rune.isWhiteSpace cursor
  have := Cursor.remaining_skipWhile_le Rune.isWhiteSpace afterItems
  simp only [Cursor.skipWhiteSpace] at *
  omega

/-- Reads blocks that are at most `levels` deep.  The brace that would open one
level more is a fault. -/
def blockWithin : (levels : Nat) → BlockReader
  | 0 =>
    { read := fun brace _ => .error (.unexpected brace .shallowerNesting)
      remaining_le := fun h => by cases h }
  | levels + 1 =>
    { read := fun _ cursor => body (blockWithin levels) cursor
      remaining_le := remaining_body_le }

/-- The leaves from a cursor up to the end of the source.  Whatever follows the
items is not a name. -/
def leavesFrom (cursor : Cursor) : Except ParseError (List Leaf) := do
  let (leaves, after) ← items (blockWithin maxNesting) .file cursor
  match ← after.skipSeparators.next with
  | none => return leaves
  | some (token, _) => throw (.unexpected token .name)

/-- The leaves of a source, in the order in which they are written. -/
def leaves (source : ByteArray) : Except ParseError (List Leaf) :=
  leavesFrom (.ofBytes source)

end Source
end SymbolAnnotations
