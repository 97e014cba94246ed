import SymbolAnnotations.Proofs.Reading

/-!
# The productions read like the machine

A reading that has come to the place of a production makes of a source what it
makes, one phase further, of what the production leaves: first the production,
then the reading.  The statement is uniform in the blocks around the production
and in the leaves so far, so the productions compose as they do in the grammar,
and blocks are settled by induction on the levels of nesting that are left.

* `outcome_eq_itemsAfter` — a list of items, inside any blocks;
* `leavesFrom_eq_outcome` — the leaves of a source are the outcome of the
  reading that starts in front of it.
-/

namespace SymbolAnnotations
namespace Source

/-- Behind a skipped run stands no rune of its class. -/
theorem require_skipWhile {test : Char → Bool} {cursor after : Cursor} {token : Token}
    (h : (cursor.skipWhile test).require = .ok (token, after)) : test token.rune = false := by
  have hnext := Cursor.next_eq_ok_some_iff.1 (Cursor.require_eq_ok_iff.1 h)
  have hhead := List.head?_dropWhile_not test cursor.runes
  have hruns : cursor.runes.dropWhile test = token.rune :: after.runes := hnext.1
  simpa [hruns] using hhead

/-- Behind a skipped run nothing is left to skip. -/
theorem skipWhile_skipWhile {test test' : Char → Bool}
    (himp : ∀ rune, test' rune = true → test rune = true) (cursor : Cursor) :
    (cursor.skipWhile test).skipWhile test' = cursor.skipWhile test := by
  obtain ⟨runes, complete, position⟩ := cursor
  have hhead := List.head?_dropWhile_not test runes
  simp only [Cursor.skipWhile, Cursor.takeWhile]
  cases hrest : runes.dropWhile test with
  | nil => rfl
  | cons rune rest =>
      rw [hrest] at hhead
      have hstop : test' rune = false := by
        cases hpass : test' rune with
        | false => rfl
        | true => simp [himp rune hpass] at hhead
      simp [hstop]

/-- Where a list of items ends there is nothing left to skip. -/
theorem skip_of_itemsAfter {blocks : BlockReader} {scope : Scope} {found leaves : List Leaf}
    {cursor after : Cursor} (h : itemsAfter blocks scope found cursor = .ok (leaves, after)) :
    after.skipSeparators = after ∧ after.skipWhiteSpace = after := by
  have hspaces : ∀ rune, Rune.isWhiteSpace rune = true → Rune.isSeparator rune = true := by
    intro rune hrune
    simp [Rune.isSeparator, hrune]
  fun_induction itemsAfter blocks scope found cursor with
  | case1 | case3 => cases h
  | case2 _ cursor | case5 _ cursor =>
      simp only [Except.ok.injEq, Prod.mk.injEq] at h
      rw [← h.2]
      exact ⟨skipWhile_skipWhile (fun _ hrune => hrune) cursor,
        skipWhile_skipWhile hspaces cursor⟩
  | case4 _ _ _ _ _ _ _ _ _ _ ih => exact ih h

/-- A list of items ends in front of a rune that begins no name, if not at the
end of the source. -/
theorem startsName_of_itemsAfter {blocks : BlockReader} {scope : Scope}
    {found leaves : List Leaf} {cursor after behind : Cursor} {token : Token}
    (h : itemsAfter blocks scope found cursor = .ok (leaves, after))
    (hnext : after.next = .ok (some (token, behind))) :
    Rune.isSeparator token.rune = false ∧ Rune.startsName token.rune = false := by
  constructor
  · rw [← (skip_of_itemsAfter h).1] at hnext
    exact require_skipWhile (Cursor.require_eq_ok_iff.2 hnext)
  · fun_induction itemsAfter blocks scope found cursor with
    | case1 | case3 => cases h
    | case2 _ _ _ hend =>
        simp only [Except.ok.injEq, Prod.mk.injEq] at h
        rw [← h.2, hend] at hnext
        cases hnext
    | case4 _ _ _ _ _ _ _ _ _ _ ih => exact ih h
    | case5 _ _ _ first _ hfirst hstart =>
        simp only [Except.ok.injEq, Prod.mk.injEq] at h
        rw [← h.2, hfirst] at hnext
        cases hnext
        simpa using hstart

/-- The runes counted so far add up with those that are still to count. -/
theorem signatureLength_eq_add (scope : Scope) (braces length : Nat) (runes : List Char) :
    signatureLength scope braces length runes =
      length + signatureLength scope braces 0 runes := by
  induction runes generalizing braces length with
  | nil => rfl
  | cons rune rest ih =>
      simp only [signatureLength]
      split
      · rfl
      · rw [ih, ih _ 1, Nat.add_assoc]

namespace Reading

variable {reading next : Reading} {cursor : Cursor} {enclosing : List ItemName}
  {leaves : List Leaf}

/-- Punctuation behind white space. -/
theorem outcome_eq_expect {mark : Punctuation} (hopen : reading.result? = none)
    (hstep : ∀ rune, reading.step rune =
      if Rune.isWhiteSpace rune then .ok reading
      else if rune = mark.rune then .ok next
      else .error (.punctuation mark)) (cursor : Cursor) :
    reading.outcome cursor =
      (expect mark cursor.skipWhiteSpace >>= fun after => next.outcome after) := by
  have hskip : reading.outcome cursor.skipWhiteSpace = reading.outcome cursor :=
    outcome_skipWhile (fun rune h => by rw [hstep, if_pos h]) cursor
  rw [← hskip, outcome_eq_require hopen, expect, bind_assoc]
  cases hreq : cursor.skipWhiteSpace.require with
  | error fault => rfl
  | ok found =>
      obtain ⟨token, after⟩ := found
      have hspace : Rune.isWhiteSpace token.rune = false := require_skipWhile hreq
      have hfirst := hstep token.rune
      rw [if_neg (by simp [hspace])] at hfirst
      by_cases hmark : token.rune = mark.rune
      · rw [if_pos hmark] at hfirst
        simp [take_of_step_ok after hfirst, hmark]
      · rw [if_neg hmark] at hfirst
        simp [take_of_step_error after hfirst, hmark]

/-- The runes of an identifier, up to the first one that is none of its own.
That one is read as what follows the identifier. -/
theorem outcome_eq_takeWhile {along : List Char → Reading} {behind : String → Reading}
    (halong : ∀ read, (along read).result? = none)
    (hbehind : ∀ text, (behind text).result? = none)
    (hstep : ∀ read rune, (along read).step rune =
      if Rune.continuesIdentifier rune then .ok (along (read ++ [rune]))
      else (behind (String.ofList read)).step rune) (read : List Char) (cursor : Cursor) :
    (along read).outcome cursor =
      ((cursor.takeWhile Rune.continuesIdentifier).2.require >>= fun _ =>
        (behind (String.ofList (read ++ (cursor.takeWhile Rune.continuesIdentifier).1))).outcome
          (cursor.takeWhile Rune.continuesIdentifier).2) := by
  rw [outcome_takeWhile (fun read rune h => by rw [hstep, if_pos h]), outcome_eq_require (halong _),
    outcome_eq_require (hbehind _)]
  cases hreq : (cursor.takeWhile Rune.continuesIdentifier).2.require with
  | error fault => rfl
  | ok found =>
      obtain ⟨token, after⟩ := found
      have hother : Rune.continuesIdentifier token.rune = false := require_skipWhile hreq
      simp only [ok_bind, take, hstep, hother, Bool.false_eq_true, if_false]

/-- An identifier. -/
theorem outcome_eq_identifier (along : List Char → Reading) (behind : String → Reading)
    (hrequire : reading.outcome cursor = (cursor.require >>= fun (token, after) =>
      reading.take token after))
    (halong : ∀ read, (along read).result? = none)
    (hbehind : ∀ text, (behind text).result? = none)
    (hstart : ∀ token after, cursor.require = .ok (token, after) →
      reading.step token.rune =
        if Rune.startsIdentifier token.rune then .ok (along [token.rune])
        else .error .identifier)
    (hstep : ∀ read rune, (along read).step rune =
      if Rune.continuesIdentifier rune then .ok (along (read ++ [rune]))
      else (behind (String.ofList read)).step rune) :
    reading.outcome cursor = (identifier cursor >>= fun (text, after) =>
      (behind text).outcome after) := by
  rw [hrequire, identifier, bind_assoc]
  cases hreq : cursor.require with
  | error fault => rfl
  | ok found =>
      obtain ⟨token, inside⟩ := found
      have hfirst := hstart token inside hreq
      by_cases hletter : Rune.startsIdentifier token.rune = true
      · rw [if_pos hletter] at hfirst
        simp only [ok_bind, take_of_step_ok inside hfirst, hletter, if_true, bind_assoc,
          pure_eq_ok]
        exact outcome_eq_takeWhile halong hbehind hstep [token.rune] inside
      · rw [if_neg hletter] at hfirst
        simp [take_of_step_error inside hfirst, hletter]

/-- The receiver of a method, from its opening parenthesis on. -/
theorem outcome_eq_receiver {token : Token} {inside : Cursor}
    (hreq : cursor.require = .ok (token, inside))
    (hparen : token.rune = Punctuation.openParen.rune) :
    (Reading.mk .items enclosing leaves).outcome cursor =
      (Source.receiver cursor >>= fun (name, after) =>
        (Reading.mk (.definition name) enclosing leaves).outcome after) := by
  have hopen : (Reading.mk .items enclosing leaves).outcome cursor =
      (Reading.mk .receiver enclosing leaves).outcome inside := by
    rw [outcome_of_next_some (Cursor.require_eq_ok_iff.1 hreq), take, hparen]
    rfl
  have hexpect : expect .openParen cursor = .ok inside := by
    simp [expect, hreq, hparen]
  have hstar : (Reading.mk .receiver enclosing leaves).outcome inside =
      (expect .star inside.skipWhiteSpace >>= fun afterStar =>
        (Reading.mk .pointer enclosing leaves).outcome afterStar) :=
    outcome_eq_expect (by cases enclosing <;> rfl) (fun rune => rfl) inside
  have htype : ∀ afterStar, (Reading.mk .pointer enclosing leaves).outcome afterStar =
      (identifier afterStar.skipWhiteSpace >>= fun (typeName, afterType) =>
        (Reading.mk (.receiverEnd typeName) enclosing leaves).outcome afterType) := by
    intro afterStar
    have hskip : (Reading.mk .pointer enclosing leaves).outcome afterStar.skipWhiteSpace =
        (Reading.mk .pointer enclosing leaves).outcome afterStar :=
      outcome_skipWhile (fun rune h => by simp [step, h]) afterStar
    rw [← hskip]
    refine outcome_eq_identifier (fun read => ⟨.typeName read, enclosing, leaves⟩)
      (fun text => ⟨.receiverEnd text, enclosing, leaves⟩)
      (outcome_eq_require (by cases enclosing <;> rfl))
      (fun _ => by cases enclosing <;> rfl) (fun _ => by cases enclosing <;> rfl) ?_
      (fun read rune => rfl)
    intro first behind hfirst
    have hspace : Rune.isWhiteSpace first.rune = false := require_skipWhile hfirst
    simp [step, hspace]
  have hclose : ∀ typeName afterType,
      (Reading.mk (.receiverEnd typeName) enclosing leaves).outcome afterType =
        (expect .closeParen afterType.skipWhiteSpace >>= fun after =>
          (Reading.mk (.definition (.receiver typeName)) enclosing leaves).outcome after) :=
    fun typeName afterType =>
      outcome_eq_expect (by cases enclosing <;> rfl) (fun rune => rfl) afterType
  simp only [hopen, Source.receiver, hexpect, hstar, ok_bind, htype, hclose, bind_assoc,
    pure_eq_ok]

/-- The name of an item. -/
theorem outcome_eq_name {token : Token} {inside : Cursor}
    (hreq : cursor.require = .ok (token, inside))
    (hseparator : Rune.isSeparator token.rune = false)
    (hstart : Rune.startsName token.rune = true) :
    (Reading.mk .items enclosing leaves).outcome cursor =
      (Source.name cursor >>= fun (name, after) =>
        (Reading.mk (.definition name) enclosing leaves).outcome after) := by
  by_cases hparen : token.rune = Punctuation.openParen.rune
  · simp only [Source.name, hreq, ok_bind, if_pos hparen]
    exact outcome_eq_receiver hreq hparen
  · have hletter : Rune.startsIdentifier token.rune = true := by
      simpa [Rune.startsName, hparen] using hstart
    have hname : Source.name cursor =
        (identifier cursor >>= fun (text, after) => pure (.plain text, after)) := by
      simp only [Source.name, hreq, ok_bind, if_neg hparen, if_pos hletter]
    rw [hname, bind_assoc]
    refine outcome_eq_identifier (fun read => ⟨.identifier read, enclosing, leaves⟩)
      (fun text => ⟨.definition (.plain text), enclosing, leaves⟩) ?_
      (fun _ => by cases enclosing <;> rfl) (fun _ => by cases enclosing <;> rfl) ?_
      (fun read rune => rfl)
    · rw [outcome_of_next_some (Cursor.require_eq_ok_iff.1 hreq), hreq]
      rfl
    · intro first behind hfirst
      obtain ⟨rfl, rfl⟩ : first = token ∧ behind = inside := by
        simpa using hfirst.symm.trans hreq
      simp [step, atItems, hseparator, hparen, hletter]

/-- The rest of a signature, up to the end of its item. -/
theorem outcome_signature (name : ItemName) (read : List Char) (braces : Nat)
    (runes : List Char) (complete : Bool) (position : Position) {length : Nat}
    (hlength : signatureLength (scopeAt enclosing.length) braces 0 runes = length) :
    (Reading.mk (.signature name read braces) enclosing leaves).outcome
        ⟨runes, complete, position⟩ =
      (((Cursor.mk runes complete position).advance length).next >>= fun _ =>
        (Reading.addLeaf ⟨.itemEnd, enclosing, leaves⟩ name
          (read ++ runes.take length)).outcome
          ((Cursor.mk runes complete position).advance length)) := by
  induction runes generalizing read braces position length with
  | nil =>
      subst hlength
      cases complete <;> cases enclosing <;>
        simp [signatureLength, Cursor.advance, Cursor.next, outcome, run, close, result?,
          addLeaf]
  | cons rune rest ih =>
      have hnext : (Cursor.mk (rune :: rest) complete position).next =
          .ok (some ({ rune, position }, ⟨rest, complete, position.after rune⟩)) := rfl
      by_cases hend : (Rune.isTerminator rune ||
          (braces == 0 && (scopeAt enclosing.length).closes rune)) = true
      · have hadvance : (Cursor.mk (rune :: rest) complete position).advance 0 =
            ⟨rune :: rest, complete, position⟩ := rfl
        rw [signatureLength, if_pos hend] at hlength
        subst hlength
        simp only [hadvance, hnext, ok_bind, List.take_zero, List.append_nil,
          outcome_of_next_some hnext, take, step, if_pos hend]
        rfl
      · have hstep : (Reading.mk (.signature name read braces) enclosing leaves).step rune =
            .ok ⟨.signature name (read ++ [rune]) (bracesAfter rune braces), enclosing,
              leaves⟩ := by
          simp only [step, if_neg hend]
        rw [signatureLength, if_neg hend, signatureLength_eq_add, Nat.add_comm] at hlength
        subst hlength
        have hrest := ih (read ++ [rune]) (bracesAfter rune braces) (position.after rune) rfl
        rw [outcome_of_next_some hnext, take_of_step_ok _ hstep, hrest, List.take_succ_cons,
          List.append_assoc]
        rfl

/-- The end of an item. -/
theorem outcome_eq_endOfItem (cursor : Cursor) :
    (Reading.mk .itemEnd enclosing leaves).outcome cursor =
      (endOfItem (scopeAt enclosing.length) cursor.skipInlineWhiteSpace >>= fun after =>
        (Reading.mk .items enclosing leaves).outcome after) := by
  have hskip : (Reading.mk .itemEnd enclosing leaves).outcome cursor.skipInlineWhiteSpace =
      (Reading.mk .itemEnd enclosing leaves).outcome cursor :=
    outcome_skipWhile (fun rune h => by simp [step, atItemEnd, h]) cursor
  rw [← hskip, endOfItem, bind_assoc]
  cases hnext : cursor.skipInlineWhiteSpace.next with
  | error fault => rw [outcome_of_next_error hnext, error_bind]
  | ok step? =>
      cases step? with
      | none =>
          simp only [ok_bind, pure_eq_ok, outcome_of_next_none hnext]
          cases enclosing <;> rfl
      | some found =>
          obtain ⟨token, after⟩ := found
          have hspace : Rune.isInlineWhiteSpace token.rune = false :=
            require_skipWhile (Cursor.require_eq_ok_iff.2 hnext)
          simp only [ok_bind, outcome_of_next_some hnext]
          by_cases hclose : (scopeAt enclosing.length).closes token.rune = true
          · -- The brace is left where it is, and both phases treat it alike.
            have hstep : (Reading.mk .itemEnd enclosing leaves).step token.rune =
                (Reading.mk .items enclosing leaves).step token.rune := by
              simp only [step, atItemEnd, hspace, hclose, if_true, Bool.false_eq_true, if_false]
              rfl
            simp only [hclose, if_true, pure_eq_ok, ok_bind, take, hstep,
              outcome_of_next_some hnext]
          · by_cases hend : Rune.isTerminator token.rune = true
            · have hstep : (Reading.mk .itemEnd enclosing leaves).step token.rune =
                  .ok ⟨.items, enclosing, leaves⟩ := by
                simp [step, atItemEnd, hspace, hclose, hend]
              simp [take_of_step_ok after hstep, hclose, hend]
            · have hstep : (Reading.mk .itemEnd enclosing leaves).step token.rune =
                  .error .terminator := by
                simp [step, atItemEnd, hspace, hclose, hend]
              simp [take_of_step_error after hstep, hclose, hend]

/-- The rune that a signature begins with is taken like any rune of its text. -/
theorem step_definition_eq_step_signature (name : ItemName) {rune : Char}
    (hspace : Rune.isInlineWhiteSpace rune = false)
    (hstart : (Rune.startsSignature rune && !(scopeAt enclosing.length).closes rune) = true) :
    (Reading.mk (.definition name) enclosing leaves).step rune =
      (Reading.mk (.signature name [] 0) enclosing leaves).step rune := by
  have hstart' := hstart
  simp only [Rune.startsSignature, Bool.and_eq_true, Bool.not_eq_true', bne_iff_ne] at hstart'
  obtain ⟨⟨hterminator, hbrace⟩, hclose⟩ := hstart'
  have hgoesOn : (Rune.isTerminator rune ||
      (0 == 0 && (scopeAt enclosing.length).closes rune)) = false := by
    simp [hterminator, hclose]
  simp only [step, atDefinition, hspace, hbrace, if_pos hstart, hgoesOn, if_false,
    Bool.false_eq_true, List.nil_append]

/-- A signature, from its first rune on. -/
theorem outcome_eq_signature (name : ItemName) {first : Token} {inside : Cursor}
    (hreq : cursor.require = .ok (first, inside))
    (hspace : Rune.isInlineWhiteSpace first.rune = false)
    (hbrace : first.rune ≠ Punctuation.openBrace.rune) :
    (Reading.mk (.definition name) enclosing leaves).take first inside =
      (Source.signature (scopeAt enclosing.length) cursor >>= fun (text, after) =>
        (Reading.mk .itemEnd enclosing
          (leaves ++ [Leaf.within (name :: enclosing) ⟨[], text⟩])).outcome after) := by
  rw [Source.signature, hreq, ok_bind]
  by_cases hstart : (Rune.startsSignature first.rune &&
      !(scopeAt enclosing.length).closes first.rune) = true
  · have hinside : (Reading.mk (.definition name) enclosing leaves).take first inside =
        (Reading.mk (.signature name [] 0) enclosing leaves).outcome cursor := by
      rw [outcome_of_next_some (Cursor.require_eq_ok_iff.1 hreq), take, take,
        step_definition_eq_step_signature name hspace hstart]
    obtain ⟨runes, complete, position⟩ := cursor
    rw [hinside, outcome_signature name [] 0 runes complete position rfl]
    simp only [hstart, if_true, bind_assoc, pure_eq_ok, ok_bind]
    rfl
  · have hstep : (Reading.mk (.definition name) enclosing leaves).step first.rune =
        .error .signature := by
      simp only [step, atDefinition, hspace, hbrace, if_neg hstart, if_false,
        Bool.false_eq_true]
    simp only [take_of_step_error inside hstep, if_neg hstart, throw_eq_error, error_bind]

/-- Blocks read like the machine, inside these blocks, if what they are read
into is what the machine finds behind the opening brace. -/
def BlocksAgree (blocks : BlockReader) (enclosing : List ItemName) : Prop :=
  ∀ (name : ItemName) (leaves : List Leaf) (brace : Token) (inside : Cursor),
    brace.rune = Punctuation.openBrace.rune →
      (Reading.mk (.definition name) enclosing leaves).take brace inside =
        (blocks.read brace inside >>= fun (found, after) =>
          (Reading.mk .itemEnd enclosing
            (leaves ++ found.map (Leaf.within (name :: enclosing)))).outcome after)

/-- The definition of an item. -/
theorem outcome_eq_definition {blocks : BlockReader} (hblocks : BlocksAgree blocks enclosing)
    (name : ItemName) (cursor : Cursor) :
    (Reading.mk (.definition name) enclosing leaves).outcome cursor =
      (Source.definition blocks (scopeAt enclosing.length) cursor.skipInlineWhiteSpace >>=
        fun (found, after) =>
          (Reading.mk .itemEnd enclosing
            (leaves ++ found.map (Leaf.within (name :: enclosing)))).outcome after) := by
  have hskip : (Reading.mk (.definition name) enclosing leaves).outcome
      cursor.skipInlineWhiteSpace =
        (Reading.mk (.definition name) enclosing leaves).outcome cursor :=
    outcome_skipWhile (fun rune h => by simp [step, atDefinition, h]) cursor
  rw [← hskip, outcome_eq_require (by cases enclosing <;> rfl), Source.definition, bind_assoc]
  cases hreq : cursor.skipInlineWhiteSpace.require with
  | error fault => rfl
  | ok found =>
      obtain ⟨first, inside⟩ := found
      have hspace : Rune.isInlineWhiteSpace first.rune = false := require_skipWhile hreq
      by_cases hbrace : first.rune = Punctuation.openBrace.rune
      · simp only [ok_bind, hbrace, if_true]
        exact hblocks name leaves first inside hbrace
      · simp only [ok_bind, hbrace, if_false, bind_assoc]
        exact outcome_eq_signature name hreq hspace hbrace

/-- An item with its terminator. -/
theorem outcome_eq_item {blocks : BlockReader} (hblocks : BlocksAgree blocks enclosing)
    {token : Token} {inside : Cursor} (hreq : cursor.require = .ok (token, inside))
    (hseparator : Rune.isSeparator token.rune = false)
    (hstart : Rune.startsName token.rune = true) :
    (Reading.mk .items enclosing leaves).outcome cursor =
      (Source.item blocks (scopeAt enclosing.length) cursor >>= fun (found, after) =>
        (Reading.mk .items enclosing
          (leaves ++ found.map (Leaf.within enclosing))).outcome after) := by
  rw [outcome_eq_name hreq hseparator hstart]
  simp only [Source.item, bind_assoc, outcome_eq_definition hblocks, outcome_eq_endOfItem,
    pure_eq_ok, ok_bind, Leaf.map_within_map_under]

/-- A list of items, which ends in front of a rune that begins no name. -/
theorem outcome_eq_itemsAfter {blocks : BlockReader} (hblocks : BlocksAgree blocks enclosing)
    (leaves found : List Leaf) (cursor : Cursor) :
    (Reading.mk .items enclosing
        (leaves ++ found.reverse.map (Leaf.within enclosing))).outcome cursor =
      (itemsAfter blocks (scopeAt enclosing.length) found cursor >>= fun (found, after) =>
        (Reading.mk .items enclosing
          (leaves ++ found.map (Leaf.within enclosing))).outcome after) := by
  have hskip : ∀ leaves cursor,
      (Reading.mk .items enclosing leaves).outcome cursor.skipSeparators =
        (Reading.mk .items enclosing leaves).outcome cursor :=
    fun leaves cursor =>
      outcome_skipWhile (fun rune h => by simp [step, atItems, h]) cursor
  generalize hscope : scopeAt enclosing.length = scope
  fun_induction itemsAfter blocks scope found cursor with
  | case1 found cursor start fault hnext =>
      rw [← hskip, outcome_of_next_error hnext, error_bind]
  | case2 found cursor start hnext => rw [← hskip, ok_bind]
  | case3 found cursor start token _ hnext hstart fault hitem =>
      have hreq := Cursor.require_eq_ok_iff.2 hnext
      rw [← hskip, outcome_eq_item hblocks hreq (require_skipWhile hreq) hstart, hscope, hitem,
        error_bind, error_bind]
  | case4 found cursor start token _ hnext hstart more behind hitem ih =>
      have hreq := Cursor.require_eq_ok_iff.2 hnext
      have hleaves : (leaves ++ found.reverse.map (Leaf.within enclosing)) ++
          more.map (Leaf.within enclosing) =
            leaves ++ (more.reverseAux found).reverse.map (Leaf.within enclosing) := by
        simp [List.reverseAux_eq]
      rw [← hskip, outcome_eq_item hblocks hreq (require_skipWhile hreq) hstart, hscope, hitem,
        ok_bind, ← ih, ← hleaves]
  | case5 found cursor start token _ hnext hstart => rw [← hskip, ok_bind]

/-- A rune between items that begins no name closes a block or is refused. -/
theorem step_items_of_startsName {rune : Char} (hseparator : Rune.isSeparator rune = false)
    (hname : Rune.startsName rune = false) :
    (Reading.mk .items enclosing leaves).step rune =
      match enclosing with
      | [] => .error .name
      | _ :: outer =>
        if rune = Punctuation.closeBrace.rune then .ok ⟨.itemEnd, outer, leaves⟩
        else .error (.punctuation .closeBrace) := by
  simp only [Rune.startsName, Bool.or_eq_false_iff, beq_eq_false_iff_ne] at hname
  obtain ⟨hparen, hletter⟩ := hname
  cases enclosing with
  | nil => simp [step, atItems, hseparator, hparen, hletter]
  | cons name outer => simp [step, atItems, hseparator, hparen, hletter]

/-- The inside of a block and its closing brace. -/
theorem outcome_eq_body {blocks : BlockReader} {name : ItemName}
    (hblocks : BlocksAgree blocks (name :: enclosing)) (cursor : Cursor) :
    (Reading.mk .items (name :: enclosing) leaves).outcome cursor =
      (body blocks cursor >>= fun (found, after) =>
        (Reading.mk .itemEnd enclosing
          (leaves ++ found.map (Leaf.within (name :: enclosing)))).outcome after) := by
  have hskip : ∀ leaves cursor,
      (Reading.mk .items (name :: enclosing) leaves).outcome cursor.skipWhiteSpace =
        (Reading.mk .items (name :: enclosing) leaves).outcome cursor :=
    fun leaves cursor =>
      outcome_skipWhile (fun rune h => by simp [step, atItems, Rune.isSeparator, h]) cursor
  have hitems := outcome_eq_itemsAfter hblocks leaves [] cursor.skipWhiteSpace
  rw [List.reverse_nil, List.map_nil, List.append_nil] at hitems
  rw [← hskip, hitems, body, bind_assoc]
  cases hlist : items blocks .block cursor.skipWhiteSpace with
  | error fault =>
      rw [items] at hlist
      simp only [List.length_cons, scopeAt, hlist, error_bind]
  | ok found =>
      obtain ⟨found, afterItems⟩ := found
      rw [items] at hlist
      simp only [List.length_cons, scopeAt, hlist, ok_bind, (skip_of_itemsAfter hlist).2, expect,
        bind_assoc]
      rw [outcome_eq_require rfl]
      cases hreq : afterItems.require with
      | error fault => rfl
      | ok step =>
          obtain ⟨token, after⟩ := step
          obtain ⟨hseparator, hname⟩ :=
            startsName_of_itemsAfter hlist (Cursor.require_eq_ok_iff.1 hreq)
          have hstep : (Reading.mk .items (name :: enclosing)
              (leaves ++ found.map (Leaf.within (name :: enclosing)))).step token.rune = _ :=
            step_items_of_startsName hseparator hname
          by_cases hclose : token.rune = Punctuation.closeBrace.rune
          · simp only [if_pos hclose] at hstep
            simp [take_of_step_ok after hstep, hclose]
          · simp only [if_neg hclose] at hstep
            simp [take_of_step_error after hstep, hclose]

/-- **Blocks agree,** as deep as there are levels of nesting left. -/
theorem blocksAgree_blockWithin (levels : Nat) (enclosing : List ItemName)
    (hlevels : levels + enclosing.length = maxNesting) :
    BlocksAgree (blockWithin levels) enclosing := by
  induction levels generalizing enclosing with
  | zero =>
      intro name leaves brace inside hbrace
      have hstep : (Reading.mk (.definition name) enclosing leaves).step brace.rune =
          .error .shallowerNesting := by
        have hdeep : ¬ enclosing.length < maxNesting := by omega
        rw [hbrace]
        simp only [step, atDefinition, if_neg hdeep]
        rfl
      rw [take_of_step_error inside hstep]
      rfl
  | succ levels ih =>
      intro name leaves brace inside hbrace
      have hstep : (Reading.mk (.definition name) enclosing leaves).step brace.rune =
          .ok ⟨.items, name :: enclosing, leaves⟩ := by
        have hshallow : enclosing.length < maxNesting := by omega
        rw [hbrace]
        simp only [step, atDefinition, if_pos hshallow]
        rfl
      have hinner : BlocksAgree (blockWithin levels) (name :: enclosing) :=
        ih (name :: enclosing) (by simp only [List.length_cons]; omega)
      rw [take_of_step_ok inside hstep, outcome_eq_body hinner]
      rfl

end Reading

/-- **The productions read like the machine.**  The leaves from a cursor on are
what a new reading makes of what follows. -/
theorem leavesFrom_eq_outcome (cursor : Cursor) :
    leavesFrom cursor = ({} : Reading).outcome cursor := by
  have hblocks : Reading.BlocksAgree (blockWithin maxNesting) [] :=
    Reading.blocksAgree_blockWithin maxNesting [] (Nat.add_zero _)
  have hitems := Reading.outcome_eq_itemsAfter hblocks [] [] cursor
  simp only [List.reverse_nil, List.map_nil, List.append_nil, List.nil_append, Leaf.within_nil,
    List.map_id] at hitems
  rw [hitems, leavesFrom]
  cases hlist : items (blockWithin maxNesting) .file cursor with
  | error fault =>
      rw [items] at hlist
      simp only [List.length_nil, scopeAt, hlist, error_bind]
  | ok found =>
      obtain ⟨found, after⟩ := found
      rw [items] at hlist
      simp only [List.length_nil, scopeAt, hlist, ok_bind, (skip_of_itemsAfter hlist).1]
      cases hnext : after.next with
      | error fault => rw [Reading.outcome_of_next_error hnext, error_bind]
      | ok step? =>
          cases step? with
          | none => rw [Reading.outcome_of_next_none hnext]; rfl
          | some step =>
              obtain ⟨token, behind⟩ := step
              obtain ⟨hseparator, hname⟩ := startsName_of_itemsAfter hlist hnext
              have hstep : (Reading.mk .items [] found).step token.rune = .error .name :=
                Reading.step_items_of_startsName hseparator hname
              rw [Reading.outcome_of_next_some hnext, Reading.take_of_step_error behind hstep]
              rfl

end Source
end SymbolAnnotations
