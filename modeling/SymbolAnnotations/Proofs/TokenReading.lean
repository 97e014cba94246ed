import SymbolAnnotations.Proofs.EnclosingBlock
import SymbolAnnotations.Proofs.NestingGuard
import SymbolAnnotations.Proofs.TokenizerCalls
import SymbolAnnotations.TokenParser

/-!
# What a parser reads over a tokenizer

A parser over a tokenizer changes the tokenizer as it goes: it looks ahead, so that a
token is kept, and it takes tokens and has others skipped.  The productions of `Source`
read the runes ahead of a cursor instead.  Both do the same.  The parser always stands
where the cursor does, whatever token its tokenizer keeps at that moment, and so each of
its methods ends like the production of the cursor: behind the same runes, with what the
method makes of what the production finds, or with the same fault.

A loop of the parser meets its production round by round.  Identifiers and signatures go
on as long as there are runes ahead; items take at least one rune each.

* `StandsAt.peek_eq`, `StandsAt.advance`, `StandsAt.skipWhile` — the calls on the
  tokenizer, as moves of the cursor;
* `Ends.bind` — one step after the other, as one reading after the other;
* `ends_item`, `ends_itemLoop`, `endsBelow_nested` — the nested productions;
* `Store.readOn_eq_readFrom` — the whole, which comes to an end.
-/

namespace SymbolAnnotations

namespace Cursor

/-- A run that is skipped is a number of runes. -/
theorem skipWhile_eq_advance (test : Char → Bool) (cursor : Cursor) :
    cursor.skipWhile test = cursor.advance (cursor.runes.takeWhile test).length := by
  have hrun : cursor.runes.takeWhile test =
      cursor.runes.take (cursor.runes.takeWhile test).length :=
    List.prefix_iff_eq_take.1 (List.takeWhile_prefix test)
  have hrest : cursor.runes.drop (cursor.runes.takeWhile test).length =
      cursor.runes.dropWhile test := by
    conv_lhs => arg 2; rw [← cursor.runes_takeWhile test]
    exact List.drop_left' rfl
  rw [advance, hrest, ← hrun]
  rfl

end Cursor

namespace Tokenizer

/-- More runes further, a cursor has advanced by them. -/
theorem cursorBehind_add (source : ByteArray) (taken count : Nat) :
    cursorBehind source (taken + count) = (cursorBehind source taken).advance count :=
  (Cursor.advance_advance _ _ _).symm

end Tokenizer

namespace Source

/-- The rest of an identifier, behind the runes that have been read. -/
def identifierRest (read : List Char) (cursor : Cursor) : Except ParseError (String × Cursor) :=
  (cursor.skipWhile Rune.continuesIdentifier).require >>= fun _ =>
    .ok (String.ofList (read ++ (cursor.takeWhile Rune.continuesIdentifier).1),
      cursor.skipWhile Rune.continuesIdentifier)

theorem identifierRest_of_continues (read : List Char) {cursor ahead : Cursor} {token : Token}
    (hnext : cursor.next = .ok (some (token, ahead)))
    (hcontinues : Rune.continuesIdentifier token.rune = true) :
    identifierRest read cursor = identifierRest (read ++ [token.rune]) ahead := by
  have hrunes := (Cursor.next_eq_ok_some_iff.1 hnext).1
  rw [identifierRest, Cursor.skipWhile, Cursor.takeWhile_of_runes hrunes hcontinues,
    ← Cursor.eq_advance_one_of_next hnext, identifierRest, List.append_assoc,
    List.singleton_append]

theorem identifierRest_of_not (read : List Char) {cursor : Cursor}
    (hend : ∀ rune rest, cursor.runes = rune :: rest → Rune.continuesIdentifier rune = false) :
    identifierRest read cursor =
      (cursor.require >>= fun _ => .ok (String.ofList read, cursor)) := by
  rw [identifierRest, Cursor.skipWhile, Cursor.takeWhile_of_not hend, List.append_nil]

/-- The rest of an identifier is read rune by rune. -/
theorem identifierRest_eq_require_bind (read : List Char) (cursor : Cursor) :
    identifierRest read cursor = (cursor.require >>= fun found =>
      if Rune.continuesIdentifier found.1.rune then
        identifierRest (read ++ [found.1.rune]) found.2
      else
        .ok (String.ofList read, cursor)) := by
  cases hrequire : cursor.require with
  | error fault =>
      rw [identifierRest_of_not, hrequire, error_bind, error_bind]
      intro rune rest hrunes
      rw [Cursor.require, Cursor.next, hrunes] at hrequire
      cases hrequire
  | ok found =>
      obtain ⟨token, ahead⟩ := found
      have hnext := Cursor.require_eq_ok_iff.1 hrequire
      rw [ok_bind]
      split
      · rename_i hcontinues
        exact identifierRest_of_continues read hnext hcontinues
      · rename_i hcontinues
        rw [identifierRest_of_not, hrequire, ok_bind]
        intro rune rest hrunes
        cases hrunes.symm.trans (Cursor.next_eq_ok_some_iff.1 hnext).1
        exact Bool.eq_false_iff.2 hcontinues

/-- The rest of the text of a signature, behind the runes that have been read. -/
def signatureRest (scope : Scope) (braces : Nat) (read : List Char) (cursor : Cursor) :
    Except ParseError (String × Cursor) :=
  let length := signatureLength scope braces 0 cursor.runes
  (cursor.advance length).next >>= fun _ =>
    .ok (String.ofList (read ++ cursor.runes.take length), cursor.advance length)

theorem signatureRest_of_eq_zero {scope : Scope} {braces : Nat} (read : List Char)
    {cursor : Cursor} (hend : signatureLength scope braces 0 cursor.runes = 0) :
    signatureRest scope braces read cursor =
      (cursor.next >>= fun _ => .ok (String.ofList read, cursor)) := by
  rw [signatureRest, hend, List.take_zero, List.append_nil, Cursor.advance_zero]

/-- The rest of the text of a signature is read rune by rune. -/
theorem signatureRest_eq_next_bind (scope : Scope) (braces : Nat) (read : List Char)
    (cursor : Cursor) :
    signatureRest scope braces read cursor = (cursor.next >>= fun step? =>
      step?.elim (.ok (String.ofList read, cursor)) fun found =>
        if Rune.isTerminator found.1.rune || (braces == 0 && scope.closes found.1.rune) then
          .ok (String.ofList read, cursor)
        else
          signatureRest scope (bracesAfter found.1.rune braces) (read ++ [found.1.rune])
            found.2) := by
  cases hrunes : cursor.runes with
  | nil =>
      rw [signatureRest_of_eq_zero read (by rw [hrunes, signatureLength])]
      simp only [Cursor.next, hrunes]
      cases cursor.complete <;> rfl
  | cons rune rest =>
      have hnext : cursor.next = .ok (some ({ rune, position := cursor.position },
          cursor.advance 1)) := by
        rw [Cursor.next, Cursor.advance, hrunes]
        rfl
      have hahead : (cursor.advance 1).runes = rest := by
        rw [Cursor.advance, hrunes]
        rfl
      rw [hnext, ok_bind, Option.elim_some]
      split
      · rename_i hend
        rw [signatureRest_of_eq_zero read (by rw [hrunes, signatureLength, if_pos hend]), hnext,
          ok_bind]
      · rename_i hend
        have hlength : signatureLength scope braces 0 cursor.runes =
            1 + signatureLength scope (bracesAfter rune braces) 0 (cursor.advance 1).runes := by
          rw [hrunes, signatureLength, if_neg hend, signatureLength_eq_add, hahead]
        rw [signatureRest, signatureRest, hlength, ← Cursor.advance_advance, hrunes, hahead,
          Nat.add_comm 1, List.take_succ_cons, List.append_assoc, List.singleton_append]

/-- A signature is its first rune, and what belongs to its text behind that. -/
theorem signature_eq_signatureRest (scope : Scope) (cursor : Cursor) :
    signature scope cursor = (cursor.require >>= fun found =>
      if Rune.startsSignature found.1.rune && !scope.closes found.1.rune then
        signatureRest scope (bracesAfter found.1.rune 0) [found.1.rune] found.2 >>= fun read =>
          .ok (String.ofList (trim read.1.toList), read.2)
      else
        .error (.unexpected found.1 .signature)) := by
  rw [signature_eq_require_bind]
  simp only [signatureRest, bind_assoc, ok_bind, String.toList_ofList, List.singleton_append]

end Source

namespace Store

/-- A key that is renamed together with all the others is found as before. -/
theorem lookup_map_of_injective {rename : String → String} (h : Function.Injective rename)
    (entries : List (String × String)) (key : String) :
    (entries.map (Prod.map rename id)).lookup (rename key) = entries.lookup key := by
  induction entries with
  | nil => rfl
  | cons entry rest ih =>
      obtain ⟨path, signature⟩ := entry
      have hkey : (rename key == rename path) = (key == path) := by
        rw [Bool.eq_iff_iff, beq_iff_eq, beq_iff_eq]
        exact h.eq_iff
      rw [List.map_cons, Prod.map_apply, id, List.lookup_cons, List.lookup_cons, hkey, ih]

/-- Entries that make the same store still do when their keys are renamed. -/
theorem ofList_map_congr {rename : String → String} (h : Function.Injective rename)
    {entries other : List (String × String)} (hsame : ofList entries = ofList other) :
    ofList (entries.map (Prod.map rename id)) = ofList (other.map (Prod.map rename id)) := by
  have hlookup : ∀ (entries : List (String × String)) path,
      (ofList entries).get? path = entries.reverse.lookup path := by
    intro entries path
    rw [ofList, get?_insertAll, get?_empty, Option.or_none]
  apply ext_get?
  intro path
  rw [hlookup, hlookup, ← List.map_reverse, ← List.map_reverse]
  by_cases hpath : ∃ key, rename key = path
  · obtain ⟨key, rfl⟩ := hpath
    rw [lookup_map_of_injective h, lookup_map_of_injective h, ← hlookup, ← hlookup, hsame]
  · have hnone : ∀ entries : List (String × String),
        (entries.map (Prod.map rename id)).lookup path = none := by
      intro entries
      rw [List.lookup_eq_none_iff]
      intro entry hentry
      obtain ⟨before, -, rfl⟩ := List.mem_map.1 hentry
      rw [bne_iff_ne]
      rintro rfl
      exact hpath ⟨before.1, rfl⟩
    rw [hnone, hnone]

/-- **A name qualifies the paths of a store** as it does those of the leaves. -/
theorem ofList_map_qualify (name : ItemName) (leaves : List Leaf) :
    ofList ((ofLeaves leaves).toList.map (Prod.map (SymbolPath.qualify name.spelling) id)) =
      ofLeaves (leaves.map (Leaf.under name)) := by
  have hsame : ofList (ofLeaves leaves).toList =
      ofList (leaves.map fun leaf => (leaf.path, leaf.signature)) := by
    rw [ofList_toList, ofLeaves_eq_ofList]
  rw [ofList_map_congr (SymbolPath.qualify_injective name.spelling) hsame, ofLeaves_eq_ofList,
    List.map_map, List.map_map]
  rfl

end Store

namespace TokenParser

/-- The parser stands where the cursor does, and so many blocks are open. -/
structure StandsAt (parser : TokenParser) (source : ByteArray) (cursor : Cursor)
    (depth : Nat) : Prop where
  behind : ∃ taken, parser.tokens.StandsBehind source taken ∧
    cursor = Tokenizer.cursorBehind source taken
  depth_eq : parser.depth = depth

variable {α β γ δ : Type} {source : ByteArray} {cursor after : Cursor} {depth depth' : Nat}
  {parser behind : TokenParser} {token : Token}

namespace StandsAt

theorem peek_eq (h : parser.StandsAt source cursor depth) : parser.tokens.peek = cursor.peek := by
  obtain ⟨⟨taken, htokens, rfl⟩, -⟩ := h
  exact htokens.peek_eq

theorem truncation_eq (h : parser.StandsAt source cursor depth) :
    parser.tokens.truncation = cursor.truncation := by
  obtain ⟨⟨taken, htokens, rfl⟩, -⟩ := h
  exact congrArg ParseError.truncated htokens.position_eq

/-- Looking at a token leads nowhere. -/
theorem lookAhead (h : parser.StandsAt source cursor depth) :
    StandsAt { parser with tokens := parser.tokens.lookAhead } source cursor depth := by
  obtain ⟨⟨taken, htokens, hcursor⟩, hdepth⟩ := h
  exact ⟨⟨taken, htokens.lookAhead, hcursor⟩, hdepth⟩

/-- Taking a token leads behind it. -/
theorem take (h : parser.StandsAt source cursor depth)
    (hnext : cursor.next = .ok (some (token, after))) :
    StandsAt { parser with tokens := parser.tokens.take token } source after depth := by
  have hpeek : parser.tokens.peek = .ok (some token) := by
    rw [h.peek_eq, Cursor.peek, hnext]
    rfl
  obtain ⟨⟨taken, htokens, rfl⟩, hdepth⟩ := h
  refine ⟨⟨taken + 1, htokens.take hpeek, ?_⟩, hdepth⟩
  rw [Cursor.eq_advance_one_of_next hnext, Tokenizer.cursorBehind_add]

/-- Advancing takes the token that follows. -/
theorem advance (h : parser.StandsAt source cursor depth)
    (hnext : cursor.next = .ok (some (token, after))) :
    parser.tokens.advance.1 = .ok (some token) ∧
      StandsAt { parser with tokens := parser.tokens.advance.2 } source after depth := by
  have hpeek : parser.tokens.peek = .ok (some token) := by
    rw [h.peek_eq, Cursor.peek, hnext]
    rfl
  rw [Tokenizer.advance, hpeek]
  exact ⟨rfl, h.take hnext⟩

/-- Skipping leads behind what is skipped. -/
theorem skipWhile (h : parser.StandsAt source cursor depth) (test : Char → Bool) :
    StandsAt { parser with tokens := parser.tokens.skipWhile test } source
      (cursor.skipWhile test) depth := by
  obtain ⟨⟨taken, htokens, rfl⟩, hdepth⟩ := h
  refine ⟨⟨_, htokens.skipWhile test, ?_⟩, hdepth⟩
  rw [Cursor.skipWhile_eq_advance, Tokenizer.cursorBehind_add, Tokenizer.runes_cursorBehind]

/-- Opening a block leads nowhere. -/
theorem deepen (h : parser.StandsAt source cursor depth) :
    StandsAt { parser with depth := parser.depth + 1 } source cursor (depth + 1) :=
  ⟨h.behind, congrArg (· + 1) h.depth_eq⟩

/-- Closing a block leads nowhere. -/
theorem rise (h : parser.StandsAt source cursor (depth + 1)) :
    StandsAt { parser with depth := parser.depth - 1 } source cursor depth :=
  ⟨h.behind, congrArg (· - 1) h.depth_eq⟩

end StandsAt

/-! ### Runs -/

/-- Of two steps the second one goes on with what the first one has found. -/
theorem run_bind_of_ok {x : Method α} {f : α → Method β} {a : α}
    (h : x.run parser = some (.ok a, behind)) : (x >>= f).run parser = (f a).run behind := by
  have hbind : (x >>= f).run parser =
      (x.run parser >>= fun found => ExceptT.bindCont f found.1 found.2) := rfl
  rw [hbind, h]
  rfl

/-- Behind a fault nothing is done. -/
theorem run_bind_of_error {x : Method α} {f : α → Method β} {fault : ParseError}
    (h : x.run parser = some (.error fault, behind)) :
    (x >>= f).run parser = some (.error fault, behind) := by
  have hbind : (x >>= f).run parser =
      (x.run parser >>= fun found => ExceptT.bindCont f found.1 found.2) := rfl
  rw [hbind, h]
  rfl

theorem repeatM_eq_bind [Nonempty β] (step : α → Method (α ⊕ β)) (a : α) :
    repeatM step a = (step a >>= fun found => Sum.elim (repeatM step) pure found) := by
  rw [repeatM_eq_of_monadTail, repeatM.body]
  congr 1
  funext found
  cases found <;> rfl

/-- A round that is not the last one. -/
theorem run_repeatM_of_inl [Nonempty β] {step : α → Method (α ⊕ β)} {a next : α}
    (h : (step a).run parser = some (.ok (.inl next), behind)) :
    (repeatM step a).run parser = (repeatM step next).run behind := by
  rw [repeatM_eq_bind, run_bind_of_ok h]
  rfl

/-- The last round of a loop. -/
theorem run_repeatM_of_inr [Nonempty β] {step : α → Method (α ⊕ β)} {a : α} {b : β}
    (h : (step a).run parser = some (.ok (.inr b), behind)) :
    (repeatM step a).run parser = some (.ok b, behind) := by
  rw [repeatM_eq_bind, run_bind_of_ok h]
  rfl

theorem run_glance (parser : TokenParser) :
    glance.run parser =
      some (.ok parser.tokens.peek, { parser with tokens := parser.tokens.lookAhead }) := rfl

theorem run_peek (parser : TokenParser) :
    peek.run parser =
      some (parser.tokens.peek, { parser with tokens := parser.tokens.lookAhead }) := by
  have hlook : peek.run parser = (ofExcept parser.tokens.peek : Method _).run
      { parser with tokens := parser.tokens.lookAhead } := rfl
  rw [hlook]
  cases parser.tokens.peek <;> rfl

theorem run_advance (parser : TokenParser) :
    advance.run parser =
      some (parser.tokens.advance.1, { parser with tokens := parser.tokens.advance.2 }) := by
  have htake : advance.run parser = (ofExcept parser.tokens.advance.1 : Method _).run
      { parser with tokens := parser.tokens.advance.2 } := rfl
  rw [htake]
  cases parser.tokens.advance.1 <;> rfl

/-! ### Runs that do what is done on a cursor -/

/-- How a run ends that does what the reading of a cursor does: with what the method
makes of what the reading finds, in the same place and at this depth, or with the same
fault. -/
inductive Ends (source : ByteArray) (depth : Nat) (value : γ → α) :
    Except ParseError (γ × Cursor) → Option (Except ParseError α × TokenParser) → Prop where
  | done {found : γ} {a : α} {cursor : Cursor} {behind : TokenParser} (hvalue : value found = a)
    (h : behind.StandsAt source cursor depth) :
    Ends source depth value (.ok (found, cursor)) (some (.ok a, behind))
  | failed (fault : ParseError) (behind : TokenParser) :
    Ends source depth value (.error fault) (some (.error fault, behind))

variable {value : γ → α} {value' : δ → β} {result : Except ParseError (δ × Cursor)}

/-- The step before the others comes to its end. -/
theorem ends_bind_of_run {x : Method α} {f : α → Method β} {a : α}
    (hrun : x.run parser = some (.ok a, behind))
    (hrest : Ends source depth value' result ((f a).run behind)) :
    Ends source depth value' result ((x >>= f).run parser) := by
  rw [run_bind_of_ok hrun]
  exact hrest

/-- **One step after the other,** as one reading after the other. -/
theorem Ends.bind {x : Method α} {f : α → Method β} {first : Except ParseError (γ × Cursor)}
    {rest : γ × Cursor → Except ParseError (δ × Cursor)}
    (hfirst : Ends source depth value first (x.run parser))
    (hrest : ∀ found (cursor : Cursor) (behind : TokenParser), first = .ok (found, cursor) →
      behind.StandsAt source cursor depth →
      Ends source depth' value' (rest (found, cursor)) ((f (value found)).run behind)) :
    Ends source depth' value' (first >>= rest) ((x >>= f).run parser) := by
  generalize hrun : x.run parser = run at hfirst
  cases hfirst with
  | done hvalue h =>
      subst hvalue
      exact ends_bind_of_run hrun (hrest _ _ _ rfl h)
  | failed fault behind =>
      rw [run_bind_of_error hrun]
      exact .failed fault behind

/-- The run comes to an end, with what the method makes of the reading. -/
theorem Ends.outcome_eq {first : Except ParseError (γ × Cursor)}
    {run : Option (Except ParseError α × TokenParser)} (h : Ends source depth value first run) :
    run.map (·.1) = some (first.map fun found => value found.1) := by
  cases h with
  | done hvalue =>
      rw [← hvalue]
      rfl
  | failed => rfl

/-- The reading goes on to make something of what it has found. -/
theorem Ends.map {first : Except ParseError (γ × Cursor)}
    {run : Option (Except ParseError α × TokenParser)} {g : γ → δ} {value' : δ → α}
    (h : Ends source depth value first run) (hvalue : ∀ found, value' (g found) = value found) :
    Ends source depth value' (first >>= fun found => .ok (g found.1, found.2)) run := by
  cases h with
  | done hfound hbehind => exact .done ((hvalue _).trans hfound) hbehind
  | failed fault behind => exact .failed fault behind

/-- Nothing is done any more. -/
theorem ends_pure {found : γ} {a : α} (h : parser.StandsAt source cursor depth)
    (hvalue : value found = a) :
    Ends source depth value (.ok (found, cursor)) ((pure a : Method α).run parser) :=
  .done hvalue h

/-- A fault is found. -/
theorem ends_throw (fault : ParseError) (parser : TokenParser) :
    Ends source depth value (.error fault) ((throw fault : Method α).run parser) :=
  .failed fault parser

/-- Looking at a token that may be missing. -/
theorem ends_peek_bind (h : parser.StandsAt source cursor depth) {f : Option Token → Method β}
    {rest : Option (Token × Cursor) → Except ParseError (δ × Cursor)}
    (hrest : ∀ step? (behind : TokenParser), behind.StandsAt source cursor depth →
      cursor.next = .ok step? →
      Ends source depth' value' (rest step?) ((f (step?.map (·.1))).run behind)) :
    Ends source depth' value' (cursor.next >>= rest) ((peek >>= f).run parser) := by
  have hrun := run_peek parser
  rw [h.peek_eq, Cursor.peek] at hrun
  cases hnext : cursor.next with
  | error fault =>
      rw [hnext] at hrun
      rw [run_bind_of_error hrun]
      exact .failed fault _
  | ok step? =>
      rw [hnext] at hrun
      exact ends_bind_of_run hrun (hrest step? _ h.lookAhead hnext)

/-- Looking at a token that has to follow. -/
theorem ends_peekRequired_bind (h : parser.StandsAt source cursor depth) {f : Token → Method β}
    {rest : Token × Cursor → Except ParseError (δ × Cursor)}
    (hrest : ∀ token ahead (behind : TokenParser), behind.StandsAt source cursor depth →
      cursor.next = .ok (some (token, ahead)) →
      Ends source depth' value' (rest (token, ahead)) ((f token).run behind)) :
    Ends source depth' value' (cursor.require >>= rest) ((peekRequired >>= f).run parser) := by
  have hrequire : (cursor.require >>= rest) = (cursor.next >>= fun step? =>
      step?.elim (.error cursor.truncation) rest) := by
    rw [Cursor.require]
    rcases cursor.next with fault | _ | step <;> rfl
  rw [hrequire, peekRequired, bind_assoc]
  refine ends_peek_bind h fun step? behind hbehind hnext => ?_
  cases step? with
  | none =>
      rw [← hbehind.truncation_eq]
      exact .failed _ _
  | some step => exact hrest step.1 step.2 behind hbehind hnext

/-- What an advance does where a token follows. -/
theorem run_advance_of_next (h : parser.StandsAt source cursor depth)
    (hnext : cursor.next = .ok (some (token, after))) :
    ∃ behind, advance.run parser = some (.ok (some token), behind) ∧
      behind.StandsAt source after depth := by
  obtain ⟨hfound, hbehind⟩ := h.advance hnext
  refine ⟨_, ?_, hbehind⟩
  rw [run_advance, hfound]

/-- Taking a token that has to follow. -/
theorem ends_nextRequired (h : parser.StandsAt source cursor depth) :
    Ends source depth (fun found => found) cursor.require (nextRequired.run parser) := by
  have hrun := run_advance parser
  have hpeek := h.peek_eq
  rw [Cursor.peek] at hpeek
  rw [nextRequired, Cursor.require]
  cases hnext : cursor.next with
  | error fault =>
      rw [hnext] at hpeek
      simp only [Tokenizer.advance, hpeek, Except.map] at hrun
      rw [run_bind_of_error hrun]
      exact .failed fault _
  | ok step? =>
      cases step? with
      | none =>
          rw [hnext] at hpeek
          simp only [Tokenizer.advance, hpeek, Except.map, Option.map_none] at hrun
          rw [run_bind_of_ok hrun, ← h.truncation_eq]
          exact .failed _ _
      | some step =>
          obtain ⟨behind, htake, hbehind⟩ := run_advance_of_next h hnext
          rw [run_bind_of_ok htake]
          exact .done rfl hbehind

/-- White space is skipped on the way. -/
theorem ends_skipWhiteSpace_bind (h : parser.StandsAt source cursor depth) {f : Unit → Method β}
    (hrest : ∀ behind : TokenParser, behind.StandsAt source cursor.skipWhiteSpace depth →
      Ends source depth' value' result ((f ()).run behind)) :
    Ends source depth' value' result ((skipWhiteSpace >>= f).run parser) :=
  ends_bind_of_run rfl (hrest _ (h.skipWhile Rune.isWhiteSpace))

/-- White space on one line is skipped on the way. -/
theorem ends_skipInlineWhiteSpace_bind (h : parser.StandsAt source cursor depth)
    {f : Unit → Method β}
    (hrest : ∀ behind : TokenParser, behind.StandsAt source cursor.skipInlineWhiteSpace depth →
      Ends source depth' value' result ((f ()).run behind)) :
    Ends source depth' value' result ((skipInlineWhiteSpace >>= f).run parser) :=
  ends_bind_of_run rfl (hrest _ (h.skipWhile Rune.isInlineWhiteSpace))

/-- Whether a token closes a block is a matter of the depth. -/
theorem run_closesBlock (h : parser.StandsAt source cursor depth) (token : Token) :
    (closesBlock token).run parser =
      some (.ok ((Source.scopeAt depth).closes token.rune), parser) := by
  rw [Source.closes_scopeAt, ← h.depth_eq]
  rfl

/-! ### Loops over runes -/

/-- One round of the loop over separators. -/
theorem run_separatorStep (h : parser.StandsAt source cursor depth) :
    (∃ rest behind, cursor.skipWhiteSpace.runes = Punctuation.semicolon.rune :: rest ∧
        (separatorStep ()).run parser = some (.ok (.inl ()), behind) ∧
        behind.StandsAt source (cursor.skipWhiteSpace.advance 1) depth) ∨
      ∃ behind, cursor.skipSeparators = cursor.skipWhiteSpace ∧
        (separatorStep ()).run parser = some (.ok (.inr ()), behind) ∧
        behind.StandsAt source cursor.skipWhiteSpace depth := by
  have hspaces : StandsAt { parser with tokens := parser.tokens.skipWhiteSpace } source
      cursor.skipWhiteSpace depth := h.skipWhile Rune.isWhiteSpace
  have hskip : skipWhiteSpace.run parser =
      some (.ok (), { parser with tokens := parser.tokens.skipWhiteSpace }) := rfl
  have hpeek := hspaces.peek_eq
  rw [Cursor.peek] at hpeek
  have hstay : (∀ token after, cursor.skipWhiteSpace.next = .ok (some (token, after)) →
      token.rune ≠ Punctuation.semicolon.rune) →
        cursor.skipSeparators = cursor.skipWhiteSpace := by
    intro hnext
    refine Cursor.skipSeparators_of_not fun rune rest hrunes => ?_
    have hrune := hnext { rune, position := cursor.skipWhiteSpace.position }
    rw [Cursor.next, hrunes] at hrune
    exact hrune _ rfl
  rw [separatorStep, run_bind_of_ok hskip, run_bind_of_ok (run_glance _), hpeek]
  cases hnext : cursor.skipWhiteSpace.next with
  | error fault =>
      refine Or.inr ⟨_, hstay ?_, rfl, hspaces.lookAhead⟩
      intro token after hsome
      cases hnext.symm.trans hsome
  | ok step? =>
      cases step? with
      | none =>
          refine Or.inr ⟨_, hstay ?_, rfl, hspaces.lookAhead⟩
          intro token after hsome
          cases hnext.symm.trans hsome
      | some step =>
          obtain ⟨token, after⟩ := step
          dsimp only [Except.map, Option.map_some]
          by_cases hsemicolon : token.rune = Punctuation.semicolon.rune
          · have hrunes := (Cursor.next_eq_ok_some_iff.1 hnext).1
            have hbehind := (hspaces.lookAhead.advance hnext).2
            rw [hsemicolon] at hrunes
            rw [Cursor.eq_advance_one_of_next hnext] at hbehind
            rw [if_pos hsemicolon]
            exact Or.inl ⟨_, _, hrunes, rfl, hbehind⟩
          · rw [if_neg hsemicolon]
            refine Or.inr ⟨_, hstay ?_, rfl, hspaces.lookAhead⟩
            intro token' after' hsome
            cases hnext.symm.trans hsome
            exact hsemicolon

/-- **What stands between items is skipped,** round by round. -/
theorem run_skipSeparators (h : parser.StandsAt source cursor depth) :
    ∃ behind, skipSeparators.run parser = some (.ok (), behind) ∧
      behind.StandsAt source cursor.skipSeparators depth := by
  generalize hremaining : cursor.remaining = remaining
  induction remaining using Nat.strongRecOn generalizing parser cursor with
  | ind remaining ih =>
      rcases run_separatorStep h with
        ⟨rest, behind, hrunes, hstep, hbehind⟩ | ⟨behind, hstay, hstep, hbehind⟩
      · have hless : (cursor.skipWhiteSpace.advance 1).remaining < remaining := by
          have hle := Cursor.remaining_skipWhile_le Rune.isWhiteSpace cursor
          have hsome : 0 < cursor.skipWhiteSpace.remaining := by
            rw [Cursor.remaining, hrunes]
            exact Nat.succ_pos _
          change cursor.skipWhiteSpace.remaining ≤ _ at hle
          rw [Cursor.remaining_advance]
          omega
        rw [skipSeparators, run_repeatM_of_inl hstep, Cursor.skipSeparators_of_semicolon hrunes]
        exact ih _ hless hbehind rfl
      · rw [skipSeparators, run_repeatM_of_inr hstep, hstay]
        exact ⟨behind, rfl, hbehind⟩

/-- What stands between items is skipped on the way. -/
theorem ends_skipSeparators_bind (h : parser.StandsAt source cursor depth) {f : Unit → Method β}
    (hrest : ∀ behind : TokenParser, behind.StandsAt source cursor.skipSeparators depth →
      Ends source depth' value' result ((f ()).run behind)) :
    Ends source depth' value' result ((skipSeparators >>= f).run parser) := by
  obtain ⟨behind, hrun, hbehind⟩ := run_skipSeparators h
  exact ends_bind_of_run hrun (hrest behind hbehind)

/-- The rest of an identifier, round by round. -/
theorem ends_identifierLoop (h : parser.StandsAt source cursor depth) (text : String) :
    Ends source depth (fun found => found) (Source.identifierRest text.toList cursor)
      ((repeatM identifierStep text).run parser) := by
  generalize hrunes : cursor.runes = runes
  induction runes generalizing parser cursor text with
  | nil =>
      rw [Source.identifierRest_eq_require_bind, repeatM_eq_bind, identifierStep, bind_assoc]
      refine ends_peekRequired_bind h fun token ahead behind _ hnext => ?_
      cases hrunes.symm.trans (Cursor.next_eq_ok_some_iff.1 hnext).1
  | cons rune rest ih =>
      rw [Source.identifierRest_eq_require_bind, repeatM_eq_bind, identifierStep, bind_assoc]
      refine ends_peekRequired_bind h fun token ahead behind hbehind hnext => ?_
      split
      · obtain ⟨after, htake, hafter⟩ := run_advance_of_next hbehind hnext
        have hrest := hrunes.symm.trans (Cursor.next_eq_ok_some_iff.1 hnext).1
        rw [bind_assoc]
        refine ends_bind_of_run htake ?_
        rw [← String.toList_push]
        exact ih hafter _ (List.cons.inj hrest).2.symm
      · exact ends_pure hbehind String.ofList_toList

/-- The rest of the text of a signature, round by round.  The token of the passage has
been taken. -/
theorem ends_signatureLoop (h : parser.StandsAt source cursor depth) (passage : Passage) :
    Ends source depth (fun found => found)
      (Source.signatureRest (Source.scopeAt depth)
        (Source.bracesAfter passage.token.rune passage.braces)
        (passage.text.push passage.token.rune).toList cursor)
      ((repeatM signatureStep passage).run parser) := by
  generalize hrunes : cursor.runes = runes
  induction runes generalizing parser cursor passage with
  | nil =>
      rw [Source.signatureRest_eq_next_bind, repeatM_eq_bind, signatureStep, bind_assoc]
      refine ends_peek_bind h fun step? behind hbehind hnext => ?_
      cases step? with
      | none => exact ends_pure hbehind String.ofList_toList
      | some step => cases hrunes.symm.trans (Cursor.next_eq_ok_some_iff.1 hnext).1
  | cons rune rest ih =>
      rw [Source.signatureRest_eq_next_bind, repeatM_eq_bind, signatureStep, bind_assoc]
      refine ends_peek_bind h fun step? behind hbehind hnext => ?_
      cases step? with
      | none => exact ends_pure hbehind String.ofList_toList
      | some step =>
          obtain ⟨token, ahead⟩ := step
          dsimp only [Option.map_some, Option.elim_some]
          by_cases hterminator : Rune.isTerminator token.rune = true
          · rw [hterminator, Bool.true_or, if_pos rfl, if_pos rfl]
            exact ends_pure hbehind String.ofList_toList
          · rw [if_neg hterminator, bind_assoc, Bool.eq_false_iff.2 hterminator, Bool.false_or]
            refine ends_bind_of_run (run_closesBlock hbehind token) ?_
            split
            · exact ends_pure hbehind String.ofList_toList
            · obtain ⟨after, htake, hafter⟩ := run_advance_of_next hbehind hnext
              have hrest := hrunes.symm.trans (Cursor.next_eq_ok_some_iff.1 hnext).1
              rw [bind_assoc]
              refine ends_bind_of_run htake ?_
              rw [← String.toList_push]
              exact ih hafter ⟨token, _, _⟩ (List.cons.inj hrest).2.symm

/-! ### Productions -/

/-- Punctuation is expected on the way. -/
theorem ends_expect_bind (mark : Punctuation) (h : parser.StandsAt source cursor depth)
    {f : Token → Method β} {rest : Cursor → Except ParseError (δ × Cursor)}
    (hrest : ∀ token (ahead : Cursor) (behind : TokenParser), behind.StandsAt source ahead depth →
      Ends source depth' value' (rest ahead) ((f token).run behind)) :
    Ends source depth' value' (Source.expect mark cursor >>= rest)
      ((expect mark >>= f).run parser) := by
  rw [Source.expect, expect, bind_assoc, bind_assoc]
  refine (ends_nextRequired h).bind fun token ahead behind _ hbehind => ?_
  dsimp only
  split
  · exact hrest token ahead behind hbehind
  · exact ends_throw _ _

/-- An identifier. -/
theorem ends_identifier (h : parser.StandsAt source cursor depth) :
    Ends source depth (fun found => found) (Source.identifier cursor) (identifier.run parser) := by
  refine (ends_nextRequired h).bind fun token ahead behind _ hbehind => ?_
  dsimp only
  split
  · have hloop := ends_identifierLoop hbehind (String.singleton token.rune)
    rw [String.toList_singleton] at hloop
    exact hloop
  · exact ends_throw _ _

/-- A pointer receiver. -/
theorem ends_receiver (h : parser.StandsAt source cursor depth) :
    Ends source depth ItemName.spelling (Source.receiver cursor) (receiver.run parser) := by
  refine ends_expect_bind .openParen h fun _ _ _ hparen => ?_
  refine ends_skipWhiteSpace_bind hparen fun _ hspace => ?_
  refine ends_expect_bind .star hspace fun _ _ _ hstar => ?_
  refine ends_skipWhiteSpace_bind hstar fun _ hspace' => ?_
  refine (ends_identifier hspace').bind fun typeName _ _ _ htype => ?_
  refine ends_skipWhiteSpace_bind htype fun _ hspace'' => ?_
  refine ends_expect_bind .closeParen hspace'' fun _ _ _ hclose => ?_
  exact ends_pure hclose rfl

/-- The name of an item. -/
theorem ends_name (h : parser.StandsAt source cursor depth) :
    Ends source depth ItemName.spelling (Source.name cursor) (name.run parser) := by
  refine ends_peekRequired_bind h fun token _ behind hbehind _ => ?_
  dsimp only
  split
  · exact ends_receiver hbehind
  · split
    · exact (ends_identifier hbehind).map fun _ => rfl
    · exact ends_throw _ _

/-- The text of a signature. -/
theorem ends_signature (h : parser.StandsAt source cursor depth) :
    Ends source depth (fun found => found) (Source.signature (Source.scopeAt depth) cursor)
      (signature.run parser) := by
  rw [Source.signature_eq_signatureRest]
  refine (ends_nextRequired h).bind fun token ahead behind _ hbehind => ?_
  refine ends_bind_of_run (run_closesBlock hbehind token) ?_
  have hflip : (!Rune.startsSignature token.rune || (Source.scopeAt depth).closes token.rune) =
      !(Rune.startsSignature token.rune && !(Source.scopeAt depth).closes token.rune) := by
    rw [Bool.not_and, Bool.not_not]
  rw [hflip]
  cases Rune.startsSignature token.rune && !(Source.scopeAt depth).closes token.rune with
  | true =>
      have hloop := ends_signatureLoop hbehind { token }
      rw [String.toList_push, String.toList_empty, List.nil_append] at hloop
      refine hloop.bind fun text after behind _ hafter => ?_
      exact ends_pure hafter rfl
  | false => exact ends_throw _ _

/-- The end of an item. -/
theorem ends_endOfItem_bind (h : parser.StandsAt source cursor depth) {f : Unit → Method β}
    {rest : Cursor → Except ParseError (δ × Cursor)}
    (hrest : ∀ (after : Cursor) (behind : TokenParser), behind.StandsAt source after depth →
      Ends source depth' value' (rest after) ((f ()).run behind)) :
    Ends source depth' value' (Source.endOfItem (Source.scopeAt depth) cursor >>= rest)
      ((endOfItem >>= f).run parser) := by
  rw [Source.endOfItem, endOfItem, bind_assoc, bind_assoc]
  refine ends_peek_bind h fun step? behind hbehind hnext => ?_
  cases step? with
  | none => exact hrest cursor behind hbehind
  | some step =>
      obtain ⟨token, ahead⟩ := step
      dsimp only [Option.map_some]
      rw [bind_assoc]
      refine ends_bind_of_run (run_closesBlock hbehind token) ?_
      split
      · exact hrest cursor behind hbehind
      · split
        · obtain ⟨after, htake, hafter⟩ := run_advance_of_next hbehind hnext
          rw [bind_assoc]
          exact ends_bind_of_run htake (hrest ahead after hafter)
        · exact ends_throw _ _

/-! ### Blocks and lists -/

/-- The lists inside of blocks are read as the productions on a cursor read them, where
there are so many levels of nesting left. -/
def EndsBelow (source : ByteArray) (nested : Method Store) (levels : Nat) : Prop :=
  ∀ inner, levels = inner + 1 → ∀ (parser : TokenParser) (cursor : Cursor) (depth : Nat),
    inner + depth = Source.maxNesting → parser.StandsAt source cursor depth →
    Ends source depth Store.ofLeaves
      (Source.items (Source.blockWithin inner) (Source.scopeAt depth) cursor)
      (nested.run parser)

variable {nested : Method Store} {levels : Nat}

/-- A block, from its opening brace on. -/
theorem ends_block (hnested : EndsBelow source nested (levels + 1))
    (hlevels : levels + 1 + depth = Source.maxNesting) (h : parser.StandsAt source cursor depth)
    (hnext : cursor.next = .ok (some (token, after))) :
    Ends source depth Store.ofLeaves (Source.body (Source.blockWithin levels) after)
      ((block nested).run parser) := by
  obtain ⟨afterBrace, htake, hbrace⟩ := run_advance_of_next h hnext
  refine ends_bind_of_run htake ?_
  refine ends_bind_of_run rfl ?_
  refine ends_skipWhiteSpace_bind hbrace.deepen fun beforeItems hspace => ?_
  have hitems := hnested levels rfl beforeItems _ (depth + 1) (by omega) hspace
  refine hitems.bind fun leaves _ _ _ hinside => ?_
  refine ends_skipWhiteSpace_bind hinside fun _ hspace' => ?_
  refine ends_expect_bind .closeBrace hspace' fun _ _ outside hclose => ?_
  exact ends_bind_of_run rfl (ends_pure hclose.rise rfl)

/-- What an item gives its name: a block only where there is a level of nesting left
for it. -/
theorem ends_definition (hnested : EndsBelow source nested levels)
    (hlevels : levels + depth = Source.maxNesting) (h : parser.StandsAt source cursor depth) :
    Ends source depth Store.ofLeaves
      (Source.definition (Source.blockWithin levels) (Source.scopeAt depth) cursor)
      ((definition nested).run parser) := by
  refine ends_peekRequired_bind h fun token ahead behind hbehind hnext => ?_
  have hdepth : (get : Method TokenParser).run behind = some (.ok behind, behind) := rfl
  dsimp only
  split
  · refine ends_bind_of_run hdepth ?_
    rw [hbehind.depth_eq]
    split
    · -- The counter has come to its bound exactly where no level is left.
      obtain rfl : levels = 0 := by omega
      exact ends_throw _ _
    · obtain ⟨inner, rfl⟩ : ∃ inner, levels = inner + 1 := ⟨levels - 1, by omega⟩
      exact ends_block hnested hlevels hbehind hnext
  · refine (ends_signature hbehind).bind fun text after behind _ hafter => ?_
    exact ends_pure hafter rfl

/-- An item with its terminator. -/
theorem ends_item (hnested : EndsBelow source nested levels)
    (hlevels : levels + depth = Source.maxNesting) (h : parser.StandsAt source cursor depth) :
    Ends source depth Store.ofLeaves
      (Source.item (Source.blockWithin levels) (Source.scopeAt depth) cursor)
      ((item nested).run parser) := by
  refine (ends_name h).bind fun name _ _ _ hname => ?_
  refine ends_skipInlineWhiteSpace_bind hname fun _ hspace => ?_
  refine (ends_definition hnested hlevels hspace).bind fun leaves _ _ _ hdefinition => ?_
  refine ends_skipInlineWhiteSpace_bind hdefinition fun _ hspace' => ?_
  refine ends_endOfItem_bind hspace' fun after _ hafter => ?_
  exact ends_pure hafter (Store.ofList_map_qualify name leaves).symm

/-- A list of items, round by round, behind those that have been found. -/
theorem ends_itemLoop (hnested : EndsBelow source nested levels)
    (hlevels : levels + depth = Source.maxNesting) (found : List Leaf)
    (h : parser.StandsAt source cursor depth) :
    Ends source depth Store.ofLeaves
      (Source.itemsAfter (Source.blockWithin levels) (Source.scopeAt depth) found cursor)
      ((repeatM (itemStep nested) (Store.ofLeaves found.reverse)).run parser) := by
  generalize hremaining : cursor.remaining = remaining
  induction remaining using Nat.strongRecOn generalizing parser cursor found with
  | ind remaining ih =>
      rw [Source.Parsing.itemsAfter_eq_nextItem, Source.Parsing.nextItem, repeatM_eq_bind,
        itemStep, bind_assoc, bind_assoc]
      refine ends_skipSeparators_bind h fun start hstart => ?_
      rw [bind_assoc]
      refine ends_peek_bind hstart fun step? behind hbehind _ => ?_
      cases step? with
      | none => exact ends_pure hbehind rfl
      | some step =>
          dsimp only [Option.map_some]
          split
          · rw [bind_assoc, bind_assoc]
            refine (ends_item hnested hlevels hbehind).bind
              fun leaves after _ hitem hafter => ?_
            have hless : after.remaining < remaining := by
              have hlt := Source.remaining_item_lt hitem
              have hle := Cursor.remaining_skipWhile_le Rune.isSeparator cursor
              change cursor.skipSeparators.remaining ≤ _ at hle
              omega
            have hmore := ih _ hless (leaves.reverseAux found) hafter rfl
            rw [List.reverseAux_eq, List.reverse_append, List.reverse_reverse,
              Store.ofLeaves_append, ← List.reverseAux_eq] at hmore
            exact hmore
          · exact ends_pure hbehind rfl

/-- **As deep as there is room for blocks,** the lists inside of them are read. -/
theorem endsBelow_nested (source : ByteArray) (room : Nat) :
    EndsBelow source (TokenParser.nested room) room := by
  induction room with
  | zero =>
      intro inner hinner
      cases hinner
  | succ room ih =>
      intro inner hinner parser cursor depth hlevels h
      cases hinner
      exact ends_itemLoop ih hlevels [] h

/-- A whole source. -/
theorem ends_parse (h : parser.StandsAt source cursor 0) :
    Ends source 0 Store.ofLeaves (Source.fileFrom cursor) (TokenParser.parse.run parser) := by
  have hlist : Ends source 0 Store.ofLeaves
      (Source.items (Source.blockWithin Source.maxNesting) .file cursor)
      ((list (TokenParser.nested Source.maxNesting)).run parser) :=
    ends_itemLoop (endsBelow_nested source Source.maxNesting) (by omega) [] h
  refine hlist.bind fun leaves after _ _ hafter => ?_
  refine ends_skipSeparators_bind hafter fun start hstart => ?_
  refine ends_peek_bind hstart fun step? behind hbehind _ => ?_
  cases step? with
  | none => exact ends_pure hbehind rfl
  | some step => exact ends_throw _ _

end TokenParser

/-- **Parsing comes to an end,** and reads what stands behind the runes that the
tokenizer has taken, whatever it has looked at. -/
theorem Store.readOn_eq_readFrom {tokens : Tokenizer} {source : ByteArray} {taken : Nat}
    (h : tokens.StandsBehind source taken) :
    readOn tokens = some (readFrom (Tokenizer.cursorBehind source taken)) := by
  have hstart : TokenParser.StandsAt { tokens } source (Tokenizer.cursorBehind source taken) 0 :=
    ⟨⟨taken, h, rfl⟩, rfl⟩
  rw [readOn, (TokenParser.ends_parse hstart).outcome_eq, readFrom,
    Source.leavesFrom_eq_map_fileFrom]
  cases Source.fileFrom (Tokenizer.cursorBehind source taken) <;> rfl

/-- A parser over a tokenizer that has not been used parses the source. -/
theorem Store.readOn_ofBytes (source : ByteArray) :
    readOn (.ofBytes source) = some (parse source) :=
  readOn_eq_readFrom (Tokenizer.standsBehind_ofBytes source)

end SymbolAnnotations
