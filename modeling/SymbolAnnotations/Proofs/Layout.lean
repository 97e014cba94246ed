import Mathlib.Logic.Relation
import SymbolAnnotations.Proofs.Displacement
import SymbolAnnotations.Proofs.RuneClasses

/-!
# Layout does not matter

Blank lines, indentation, white space at the end of a line, and semicolons
behind a semicolon can be put into a source without changing what it stands
for, or what is wrong with it.  White space in front of a newline ends up in a
gap or at the end of a signature, where it is trimmed away; behind a newline or
a semicolon that has been taken, every reading stays as it is.

* `exists_step_blank` — white space on a line leads to a reading that treats the
  end of the line and of the source alike;
* `stays_of_step_newline`, `stays_of_step_semicolon` — what readings skip behind
  a terminator;
* `cause_parse_congr` — runes that all readings treat alike can be exchanged
  anywhere in a source;
* `InsertsLayout.cause_parse`, `cause_parse_of_layout` — layout at one place, and
  at any number of places;
* `parse_iff_of_layout` — what this means for stores and for faults.
-/

namespace SymbolAnnotations
namespace Source

/-- White space at the end of text is trimmed away. -/
theorem trim_concat {rune : Char} (h : Rune.isWhiteSpace rune = true) (text : List Char) :
    trim (text ++ [rune]) = trim text := by
  rw [trim, trim, List.dropWhile_append]
  cases hdrop : text.dropWhile Rune.isWhiteSpace with
  | nil => simp [h]
  | cons first more => simp [h]

namespace Reading

variable {reading next : Reading} {rune : Char}

/-- White space on a line leads to a reading that treats terminators and the end
of the source as the one before.  It ends an identifier, and a terminator would
have done so too; it is kept in a signature, but for the trimming. -/
theorem exists_step_blank (reading : Reading) (h : Rune.isInlineWhiteSpace rune = true) :
    ∃ next, reading.step rune = .ok next ∧
      (∀ terminator, Rune.isTerminator terminator = true →
        next.step terminator = reading.step terminator) ∧
      next.result? = reading.result? := by
  obtain ⟨phase, enclosing, leaves⟩ := reading
  have hwhite := Rune.isWhiteSpace_of_isInlineWhiteSpace h
  have hname := Rune.isWhiteSpace_continuesIdentifier hwhite
  cases phase with
  | items =>
      refine ⟨_, ?_, fun _ _ => rfl, rfl⟩
      simp [step, atItems, Rune.isSeparator, hwhite]
  | identifier read =>
      refine ⟨⟨.definition (.plain (String.ofList read)), enclosing, leaves⟩, ?_, ?_, ?_⟩
      · simp [step, atDefinition, hname, h]
      · intro terminator hends
        simp [step, atDefinition, Rune.isTerminator_continuesIdentifier hends]
      · cases enclosing <;> rfl
  | receiver | pointer =>
      refine ⟨_, ?_, fun _ _ => rfl, rfl⟩
      simp [step, hwhite]
  | typeName read =>
      refine ⟨⟨.receiverEnd (String.ofList read), enclosing, leaves⟩, ?_, ?_, ?_⟩
      · simp [step, atReceiverEnd, hname, hwhite]
      · intro terminator hends
        simp [step, atReceiverEnd, Rune.isTerminator_continuesIdentifier hends]
      · cases enclosing <;> rfl
  | receiverEnd typeName =>
      refine ⟨_, ?_, fun _ _ => rfl, rfl⟩
      simp [step, atReceiverEnd, hwhite]
  | definition name =>
      refine ⟨_, ?_, fun _ _ => rfl, rfl⟩
      simp [step, atDefinition, h]
  | signature name read braces =>
      have htrim := trim_concat hwhite read
      refine ⟨⟨.signature name (read ++ [rune]) braces, enclosing, leaves⟩, ?_, ?_, ?_⟩
      · have hopen := Rune.isInlineWhiteSpace_ne_mark h .openBrace
        have hclose := Rune.isInlineWhiteSpace_ne_mark h .closeBrace
        simp [step, closes_scopeAt, Rune.isInlineWhiteSpace_isTerminator h, bracesAfter, hopen,
          hclose]
      · intro terminator hends
        simp [step, hends, addLeaf, htrim, atItemEnd, atItems]
      · cases enclosing with
        | nil => simp [result?, addLeaf, htrim]
        | cons name outer => rfl
  | itemEnd =>
      refine ⟨_, ?_, fun _ _ => rfl, rfl⟩
      simp [step, atItemEnd, h]

/-- Between two items all separators are skipped. -/
theorem step_items_of_isSeparator (enclosing : List ItemName) (leaves : List Leaf)
    (h : Rune.isSeparator rune = true) :
    (Reading.mk .items enclosing leaves).step rune = .ok ⟨.items, enclosing, leaves⟩ := by
  simp [step, atItems, h]

/-- A semicolon that is taken leads between two items. -/
theorem phase_of_step_semicolon (h : reading.step Punctuation.semicolon.rune = .ok next) :
    next.phase = .items := by
  obtain ⟨phase, enclosing, leaves⟩ := reading
  cases phase <;>
    simp [step, atItems, atDefinition, atReceiverEnd, atItemEnd, addLeaf, closes_scopeAt,
      Rune.isSeparator, Rune.isInlineWhiteSpace, Rune.isTerminator, Rune.startsSignature] at h <;>
    simp [← h]

/-- A newline that is taken leads between two items, or into a receiver. -/
theorem phase_of_step_newline (h : reading.step Punctuation.newline.rune = .ok next) :
    next.phase = .items ∨ next.phase = .receiver ∨ next.phase = .pointer ∨
      ∃ typeName, next.phase = .receiverEnd typeName := by
  obtain ⟨phase, enclosing, leaves⟩ := reading
  cases phase <;>
    simp [step, atItems, atDefinition, atReceiverEnd, atItemEnd, addLeaf, closes_scopeAt,
      Rune.isSeparator, Rune.isInlineWhiteSpace, Rune.isTerminator, Rune.startsSignature] at h <;>
    simp [← h]

/-- Behind a newline that is taken, white space leaves the reading as it is. -/
theorem stays_of_step_newline (h : reading.step Punctuation.newline.rune = .ok next)
    (hwhite : Rune.isWhiteSpace rune = true) : next.step rune = .ok next := by
  obtain ⟨phase, enclosing, leaves⟩ := next
  rcases phase_of_step_newline h with rfl | rfl | rfl | ⟨typeName, rfl⟩
  · exact step_items_of_isSeparator enclosing leaves (Rune.isSeparator_of_isWhiteSpace hwhite)
  · simp [step, hwhite]
  · simp [step, hwhite]
  · simp [step, atReceiverEnd, hwhite]

/-- Behind a semicolon that is taken, separators leave the reading as it is. -/
theorem stays_of_step_semicolon (h : reading.step Punctuation.semicolon.rune = .ok next)
    (hseparator : Rune.isSeparator rune = true) : next.step rune = .ok next := by
  obtain ⟨phase, enclosing, leaves⟩ := next
  cases phase_of_step_semicolon h
  exact step_items_of_isSeparator enclosing leaves hseparator

variable {complete : Bool} {inserted : List Char}

/-- Runes that leave a reading as it is make no difference to it. -/
theorem verdict_skip (hstay : ∀ rune ∈ inserted, reading.step rune = .ok reading)
    (rest : List Char) :
    reading.verdict complete (inserted ++ rest) = reading.verdict complete rest := by
  induction inserted with
  | nil => rfl
  | cons rune more ih =>
      obtain ⟨hrune, hmore⟩ := List.forall_mem_cons.1 hstay
      rw [List.cons_append, verdict, hrune]
      exact ih hmore

/-- Runes behind a mark can be left out if they leave the reading as it is
there. -/
theorem verdict_behind {mark : Punctuation}
    (hstay : ∀ {next}, reading.step mark.rune = .ok next →
      ∀ rune ∈ inserted, next.step rune = .ok next) (rest : List Char) :
    reading.verdict complete (mark.rune :: (inserted ++ rest)) =
      reading.verdict complete (mark.rune :: rest) := by
  rw [verdict, verdict]
  cases hstep : reading.step mark.rune with
  | error expected => rfl
  | ok next => exact verdict_skip (hstay hstep) rest

/-- White space in front of the end of a line can be left out. -/
theorem verdict_before_newline
    (hblank : ∀ rune ∈ inserted, Rune.isInlineWhiteSpace rune = true) (reading : Reading)
    (rest : List Char) :
    reading.verdict complete (inserted ++ Punctuation.newline.rune :: rest) =
      reading.verdict complete (Punctuation.newline.rune :: rest) := by
  induction inserted generalizing reading with
  | nil => rfl
  | cons rune more ih =>
      obtain ⟨hrune, hmore⟩ := List.forall_mem_cons.1 hblank
      obtain ⟨next, hstep, hnewline, -⟩ := reading.exists_step_blank hrune
      calc reading.verdict complete (rune :: (more ++ Punctuation.newline.rune :: rest))
          = next.verdict complete (more ++ Punctuation.newline.rune :: rest) := by
            rw [verdict, hstep]
        _ = next.verdict complete (Punctuation.newline.rune :: rest) := ih hmore next
        _ = reading.verdict complete (Punctuation.newline.rune :: rest) := by
            rw [verdict, verdict, hnewline _ rfl]

/-- White space at the end of the source can be left out. -/
theorem verdict_at_end
    (hblank : ∀ rune ∈ inserted, Rune.isInlineWhiteSpace rune = true) (reading : Reading) :
    reading.verdict complete inserted = reading.verdict complete [] := by
  induction inserted generalizing reading with
  | nil => rfl
  | cons rune more ih =>
      obtain ⟨hrune, hmore⟩ := List.forall_mem_cons.1 hblank
      obtain ⟨next, hstep, -, hresult⟩ := reading.exists_step_blank hrune
      calc reading.verdict complete (rune :: more)
          = next.verdict complete more := by rw [verdict, hstep]
        _ = next.verdict complete [] := ih hmore next
        _ = reading.verdict complete [] := by rw [verdict, verdict, close, close, hresult]

end Reading
end Source

namespace Store

open Source

/-- What is wrong with a source, or else its store. -/
theorem cause_parse (source : ByteArray) :
    (parse source).mapError ParseError.cause =
      (({} : Reading).verdict (Utf8.decode source).complete (Utf8.decode source).runes).map
        ofLeaves := by
  rw [parse, readFrom, leavesFrom_eq_outcome, Cursor.ofBytes, ← Reading.cause_outcome]
  cases ({} : Reading).outcome _ <;> rfl

/-- **Runes that all readings treat alike** can be exchanged anywhere in a
source. -/
theorem cause_parse_congr {runes other : List Char} (hne : runes ≠ []) (hne' : other ≠ [])
    (halike : ∀ (reading : Reading) (complete : Bool) (rest : List Char),
      reading.verdict complete (runes ++ rest) = reading.verdict complete (other ++ rest))
    (front back : ByteArray) :
    (parse (front ++ (runes.utf8Encode ++ back))).mapError ParseError.cause =
      (parse (front ++ (other.utf8Encode ++ back))).mapError ParseError.cause := by
  rw [cause_parse, cause_parse]
  cases hfront : (Utf8.decode front).complete with
  | false =>
      -- No reading gets to what stands behind malformed bytes.
      rw [Utf8.decode_append_of_incomplete hfront hne, Utf8.decode_append_of_incomplete hfront hne']
  | true =>
      rw [Utf8.eq_utf8Encode_of_complete hfront]
      simp only [Utf8.decode_utf8Encode_append_bytes]
      rw [Reading.verdict_append_congr fun reading => halike reading _ _]

/-- Layout that is put into a source at one place.  Nothing is asked of what
stands around it, which may be malformed. -/
inductive InsertsLayout : (source relaid : ByteArray) → Prop
  | atStart (back : ByteArray) (inserted : String)
      (h : ∀ rune ∈ inserted.toList, Rune.isWhiteSpace rune = true) :
      InsertsLayout back (inserted.toByteArray ++ back)
  | behindNewline (front back : ByteArray) (inserted : String)
      (h : ∀ rune ∈ inserted.toList, Rune.isWhiteSpace rune = true) :
      InsertsLayout (front ++ "\n".toByteArray ++ back)
        (front ++ "\n".toByteArray ++ inserted.toByteArray ++ back)
  | beforeNewline (front back : ByteArray) (inserted : String)
      (h : ∀ rune ∈ inserted.toList, Rune.isInlineWhiteSpace rune = true) :
      InsertsLayout (front ++ "\n".toByteArray ++ back)
        (front ++ inserted.toByteArray ++ "\n".toByteArray ++ back)
  | atEnd (front : ByteArray) (inserted : String)
      (h : ∀ rune ∈ inserted.toList, Rune.isInlineWhiteSpace rune = true) :
      InsertsLayout front (front ++ inserted.toByteArray)
  | behindSemicolon (front back : ByteArray) (inserted : String)
      (h : ∀ rune ∈ inserted.toList, Rune.isSeparator rune = true) :
      InsertsLayout (front ++ ";".toByteArray ++ back)
        (front ++ ";".toByteArray ++ inserted.toByteArray ++ back)

/-- A mark and what is put behind it. -/
theorem cause_parse_behind (mark : Punctuation) {inserted : List Char}
    (hstay : ∀ {reading next : Reading}, reading.step mark.rune = .ok next →
      ∀ rune ∈ inserted, next.step rune = .ok next) (front back : ByteArray) :
    (parse (front ++ [mark.rune].utf8Encode ++ inserted.utf8Encode ++ back)).mapError
        ParseError.cause =
      (parse (front ++ [mark.rune].utf8Encode ++ back)).mapError ParseError.cause := by
  have hexchange := cause_parse_congr (List.cons_ne_nil mark.rune inserted)
    (List.cons_ne_nil mark.rune [])
    (fun reading complete rest => reading.verdict_behind hstay rest) front back
  rw [List.utf8Encode_cons] at hexchange
  simpa only [ByteArray.append_assoc] using hexchange

/-- A newline and the white space that is put in front of it. -/
theorem cause_parse_before_newline {inserted : List Char}
    (hblank : ∀ rune ∈ inserted, Rune.isInlineWhiteSpace rune = true) (front back : ByteArray) :
    (parse (front ++ inserted.utf8Encode ++ [Punctuation.newline.rune].utf8Encode ++
        back)).mapError ParseError.cause =
      (parse (front ++ [Punctuation.newline.rune].utf8Encode ++ back)).mapError
        ParseError.cause := by
  have hexchange := cause_parse_congr (List.concat_ne_nil Punctuation.newline.rune inserted)
    (List.cons_ne_nil Punctuation.newline.rune [])
    (fun reading complete rest => by
      simpa using reading.verdict_before_newline hblank rest) front back
  rw [List.utf8Encode_append] at hexchange
  simpa only [ByteArray.append_assoc] using hexchange

/-- The end of a source and the white space that is put there. -/
theorem cause_parse_at_end {inserted : List Char}
    (hblank : ∀ rune ∈ inserted, Rune.isInlineWhiteSpace rune = true) (front : ByteArray) :
    (parse (front ++ inserted.utf8Encode)).mapError ParseError.cause =
      (parse front).mapError ParseError.cause := by
  rw [cause_parse, cause_parse]
  cases hfront : (Utf8.decode front).complete with
  | false =>
      by_cases hne : inserted = []
      · simp [hne, hfront]
      · have hdecode := Utf8.decode_append_of_incomplete hfront hne ByteArray.empty
        rw [ByteArray.append_empty] at hdecode
        rw [hdecode, hfront]
  | true =>
      rw [Utf8.eq_utf8Encode_of_complete hfront, ← List.utf8Encode_append]
      simp only [Utf8.decode_utf8Encode]
      rw [Reading.verdict_append_congr (Reading.verdict_at_end hblank), List.append_nil]

/-- Layout that is put in at one place makes no difference. -/
theorem InsertsLayout.cause_parse {source relaid : ByteArray} (h : InsertsLayout source relaid) :
    (parse relaid).mapError ParseError.cause = (parse source).mapError ParseError.cause := by
  cases h with
  | atStart _ inserted h =>
      rw [Store.cause_parse, Store.cause_parse, ← String.utf8Encode_toList,
        Utf8.decode_utf8Encode_append_bytes]
      rw [Reading.verdict_skip fun rune hmem => Reading.step_items_of_isSeparator [] []
        (Rune.isSeparator_of_isWhiteSpace (h rune hmem))]
  | behindNewline front back inserted h =>
      rw [← inserted.utf8Encode_toList]
      exact cause_parse_behind .newline
        (fun hstep rune hmem => Reading.stays_of_step_newline hstep (h rune hmem)) front back
  | beforeNewline front back inserted h =>
      rw [← inserted.utf8Encode_toList]
      exact cause_parse_before_newline h front back
  | atEnd _ inserted h =>
      rw [← inserted.utf8Encode_toList]
      exact cause_parse_at_end h source
  | behindSemicolon front back inserted h =>
      rw [← inserted.utf8Encode_toList]
      exact cause_parse_behind .semicolon
        (fun hstep rune hmem => Reading.stays_of_step_semicolon hstep (h rune hmem)) front back

/-- Layout that is put in at any number of places makes no difference. -/
theorem cause_parse_of_layout {source relaid : ByteArray}
    (h : Relation.ReflTransGen InsertsLayout source relaid) :
    (parse relaid).mapError ParseError.cause = (parse source).mapError ParseError.cause := by
  induction h with
  | refl => rfl
  | tail _ hlast ih => rw [hlast.cause_parse, ih]

/-- **Layout is insignificant.**  However often layout is put into a source, at
whatever places, the source stands for the same store.  If it has a fault, it has
a fault of the same kind, and the same rune is refused where the same is
expected. -/
theorem parse_iff_of_layout (source relaid : ByteArray)
    (h : Relation.ReflTransGen InsertsLayout source relaid) :
    (∀ store, parse relaid = .ok store ↔ parse source = .ok store) ∧
    ∀ error, parse source = .error error →
      ∃ found, parse relaid = .error found ∧ found.kind = error.kind ∧
        found.cause = error.cause := by
  have hcause := cause_parse_of_layout h
  cases hsource : parse source with
  | ok store =>
      cases hrelaid : parse relaid with
      | ok other =>
          rw [hsource, hrelaid] at hcause
          cases hcause
          exact ⟨fun _ => Iff.rfl, fun error h => by cases h⟩
      | error found =>
          rw [hsource, hrelaid] at hcause
          cases hcause
  | error error =>
      cases hrelaid : parse relaid with
      | ok other =>
          rw [hsource, hrelaid] at hcause
          cases hcause
      | error found =>
          rw [hsource, hrelaid] at hcause
          have hsame : found.cause = error.cause := Except.error.inj hcause
          refine ⟨fun store => by simp, ?_⟩
          intro error' h
          cases h
          exact ⟨found, rfl, ParseError.kind_eq_of_cause_eq hsame, hsame⟩

/-- A carriage return, a blank line and a tab in a block whose item lacks its
signature. -/
theorem parse_iff_of_blank_line :
    Relation.ReflTransGen InsertsLayout "T \x7b\nx ;".toByteArray
      "T \x7b\r\n\n\tx ;".toByteArray ∧
    parse "T \x7b\nx ;".toByteArray =
      .error (.unexpected { rune := ';', position := ⟨2, 3, 6, 6⟩ } .signature) ∧
    ∃ found, parse "T \x7b\r\n\n\tx ;".toByteArray = .error found ∧
      found.kind = .grammar ∧ found.cause = .unexpected ';' .signature := by
  have hline : InsertsLayout "T \x7b\nx ;".toByteArray "T \x7b\n\n\tx ;".toByteArray :=
    .behindNewline "T \x7b".toByteArray "x ;".toByteArray "\n\t"
      (List.all_eq_true.1 (by decide +kernel))
  have hreturn : InsertsLayout "T \x7b\n\n\tx ;".toByteArray "T \x7b\r\n\n\tx ;".toByteArray :=
    .beforeNewline "T \x7b".toByteArray "\n\tx ;".toByteArray "\r"
      (List.all_eq_true.1 (by decide +kernel))
  have hlayout := (Relation.ReflTransGen.single hline).tail hreturn
  have hparse : parse "T \x7b\nx ;".toByteArray =
      .error (.unexpected { rune := ';', position := ⟨2, 3, 6, 6⟩ } .signature) := by
    apply parse_eq_error
    rw [Utf8.decode_toByteArray]
    decide +kernel
  exact ⟨hlayout, hparse, (parse_iff_of_layout _ _ hlayout).2 _ hparse⟩

end Store
end SymbolAnnotations
