import SymbolAnnotations.Proofs.Layout
import SymbolAnnotations.Registry

/-!
# Sources one after the other

Two sources with the end of a line or a semicolon between them are read like the
two of them, and their stores are merged.  A source that is parsed may end in an
open signature, behind a block or between items; whatever ends an item, and the
white space around it, leads from there to where reading began, except for the
leaves found so far.

* `run_between` — from the end of a source to the start of the next one;
* `parse_join` — parsing two sources one after the other;
* `parse_join_eq_merge` — the promise of the registry: adding two sources is adding
  them as one.
-/

namespace SymbolAnnotations
namespace Source
namespace Reading

variable {reading : Reading} {leaves : List Leaf} {between : List Char}

/-- Where a source may end, what ends an item leads between two items. -/
theorem step_terminator (h : reading.result? = some leaves) {rune : Char}
    (hends : Rune.isTerminator rune = true) :
    reading.step rune = .ok ⟨.items, [], leaves⟩ := by
  have hseparator := Rune.isSeparator_of_isTerminator hends
  have hblank := Rune.isTerminator_isInlineWhiteSpace hends
  obtain ⟨phase, enclosing, found⟩ := reading
  cases enclosing with
  | cons name outer => cases h
  | nil =>
      cases phase with
      | items =>
          cases h
          exact step_items_of_isSeparator [] found hseparator
      | signature name read braces =>
          cases h
          simp [step, hends, atItemEnd, hblank, closes_scopeAt, addLeaf]
      | itemEnd =>
          cases h
          simp [step, atItemEnd, hblank, closes_scopeAt, hends]
      | _ => cases h

/-- Between two items, separators are skipped. -/
theorem run_items_separators (hbetween : ∀ rune ∈ between, Rune.isSeparator rune = true)
    (position : Position) :
    (Reading.mk .items [] leaves).run position between = .ok ⟨.items, [], leaves⟩ := by
  induction between generalizing position with
  | nil => rfl
  | cons rune more ih =>
      obtain ⟨hrune, hmore⟩ := List.forall_mem_cons.1 hbetween
      rw [run, step_items_of_isSeparator [] leaves hrune]
      exact ih hmore (position.after rune)

/-- **From one source to the next.**  White space and semicolons that end an item
lead from where a source may end to where reading begins. -/
theorem run_between (h : reading.result? = some leaves)
    (hbetween : ∀ rune ∈ between, Rune.isSeparator rune = true)
    (hends : ∃ rune ∈ between, Rune.isTerminator rune = true) (position : Position) :
    reading.run position between = .ok ⟨.items, [], leaves⟩ := by
  induction between generalizing reading position with
  | nil =>
      obtain ⟨rune, hmem, -⟩ := hends
      cases hmem
  | cons rune more ih =>
      obtain ⟨hrune, hmore⟩ := List.forall_mem_cons.1 hbetween
      cases hfirst : Rune.isTerminator rune with
      | true =>
          rw [run, step_terminator h hfirst]
          exact run_items_separators hmore (position.after rune)
      | false =>
          -- White space on the line keeps the end of the source possible.
          have hblank := Rune.isInlineWhiteSpace_of_isSeparator hrune hfirst
          obtain ⟨next, hstep, -, hresult⟩ := reading.exists_step_blank hblank
          rw [run, hstep]
          refine ih (hresult.trans h) hmore ?_ (position.after rune)
          obtain ⟨terminator, hmem, hterminator⟩ := hends
          rcases List.mem_cons.1 hmem with rfl | hmem
          · rw [hterminator] at hfirst
            cases hfirst
          · exact ⟨terminator, hmem, hterminator⟩

end Reading
end Source

namespace Store

open Source

variable {first second : ByteArray} {store : Store}

/-- **Two sources one after the other** are parsed like each on its own.  Faults
of the second are moved along, and its entries replace those of the first. -/
theorem parse_join {between : List Char} (h : parse first = .ok store)
    (hbetween : ∀ rune ∈ between, Rune.isSeparator rune = true)
    (hends : ∃ rune ∈ between, Rune.isTerminator rune = true) (second : ByteArray) :
    parse (first ++ between.utf8Encode ++ second) =
      ((parse second).map store.merge).mapError
        (ParseError.behind (({} : Position).afterAll ((Utf8.decode first).runes ++ between))) := by
  obtain ⟨last, leaves, hfirst, hresult, rfl⟩ := run_of_parse_eq_ok h
  have hrun : ({} : Reading).run {} ((Utf8.decode first).runes ++ between) =
      .ok (({} : Reading).withEarlier leaves) := by
    rw [Reading.run_append, hfirst, ok_bind, Reading.run_between hresult hbetween hends]
    simp [Reading.withEarlier]
  have hfront : first ++ between.utf8Encode =
      ((Utf8.decode first).runes ++ between).utf8Encode := by
    rw [List.utf8Encode_append, ← Utf8.eq_utf8Encode_of_complete (complete_of_parse_eq_ok h)]
  rw [hfront, parse_of_run_eq_ok hrun, Reading.outcome_withEarlier, Reading.outcome_behind]
  rw [parse, readFrom, leavesFrom_eq_outcome, Cursor.ofBytes]
  cases ({} : Reading).outcome _ with
  | error fault => rfl
  | ok more => exact congrArg Except.ok (ofLeaves_append leaves more)

/-- Where the second of two sources begins. -/
theorem byteOffset_join {between : List Char} (h : parse first = .ok store) :
    (({} : Position).afterAll ((Utf8.decode first).runes ++ between)).byteOffset =
      (first ++ between.utf8Encode).size := by
  rw [Position.byteOffset_afterAll, Nat.zero_add, ← Utf8.size_utf8Encode, List.utf8Encode_append,
    ← Utf8.eq_utf8Encode_of_complete (complete_of_parse_eq_ok h)]

/-- **Joining sources is merging stores.**  Behind a source that is parsed, and
white space and semicolons that end an item, another one adds its entries to the
store, and they replace those with the same path; to a registry it makes no
difference whether the two come separately.  If the other one has a fault, the
two together have it as well, as many bytes further on as stand in front. -/
theorem parse_join_eq_merge (first second : ByteArray) (between : String) (store : Store)
    (h : parse first = .ok store)
    (hbetween : ∀ rune ∈ between.toList, Rune.isSeparator rune = true)
    (hends : ∃ rune ∈ between.toList, Rune.isTerminator rune = true) :
    (∀ other, parse second = .ok other →
      parse (first ++ between.toByteArray ++ second) = .ok (store.merge other) ∧
      (∀ path, (store.merge other).get? path = (other.get? path).or (store.get? path)) ∧
      ∀ (registry : Registry) (package : String), ∃ added final,
        registry.addSource package first = .ok added ∧
        added.addSource package second = .ok final ∧
        registry.addSource package (first ++ between.toByteArray ++ second) = .ok final) ∧
    ∀ error, parse second = .error error →
      ∃ found, parse (first ++ between.toByteArray ++ second) = .error found ∧
        found.kind = error.kind ∧ found.cause = error.cause ∧
        found.span.offset = (first ++ between.toByteArray).size + error.span.offset := by
  rw [← between.utf8Encode_toList]
  have hjoin := parse_join h hbetween hends second
  constructor
  · intro other hother
    rw [hother] at hjoin
    refine ⟨hjoin, get?_merge store other, ?_⟩
    intro registry package
    refine ⟨registry.insert package store, registry.insert package (store.merge other), ?_, ?_, ?_⟩
    · rw [Registry.addSource, h]
      rfl
    · rw [Registry.addSource, hother, ← Registry.insert_insert]
      rfl
    · rw [Registry.addSource, hjoin]
      rfl
  · intro error herror
    rw [herror] at hjoin
    refine ⟨_, hjoin, ParseError.kind_eq_of_cause_eq (error.cause_behind _),
      error.cause_behind _, ?_⟩
    rw [ParseError.offset_behind, byteOffset_join h]

/-- A signature that is left open, and another one for the same name. -/
theorem parse_join_open_signature :
    parse "f int".toByteArray = .ok (ofLeaves [⟨[.plain "f"], "int"⟩]) ∧
    parse "f bool".toByteArray = .ok (ofLeaves [⟨[.plain "f"], "bool"⟩]) ∧
    parse ("f int".toByteArray ++ " ;\n".toByteArray ++ "f bool".toByteArray) =
      .ok ((ofLeaves [⟨[.plain "f"], "int"⟩]).merge (ofLeaves [⟨[.plain "f"], "bool"⟩])) := by
  have hint : parse "f int".toByteArray = .ok (ofLeaves [⟨[.plain "f"], "int"⟩]) := by
    have hrun : ({} : Reading).run {} (Utf8.decode "f int".toByteArray).runes =
        .ok ⟨.signature (.plain "f") ['i', 'n', 't'] 0, [], []⟩ := by
      rw [Utf8.decode_toByteArray]
      decide +kernel
    rw [parse_eq_close hrun, Utf8.decode_toByteArray]
    rfl
  have hbool : parse "f bool".toByteArray = .ok (ofLeaves [⟨[.plain "f"], "bool"⟩]) := by
    have hrun : ({} : Reading).run {} (Utf8.decode "f bool".toByteArray).runes =
        .ok ⟨.signature (.plain "f") ['b', 'o', 'o', 'l'] 0, [], []⟩ := by
      rw [Utf8.decode_toByteArray]
      decide +kernel
    rw [parse_eq_close hrun, Utf8.decode_toByteArray]
    rfl
  have hjoin := parse_join_eq_merge "f int".toByteArray "f bool".toByteArray " ;\n" _ hint
    (List.all_eq_true.1 (by decide +kernel)) ⟨';', by decide, by decide⟩
  exact ⟨hint, hbool, (hjoin.1 _ hbool).1⟩

end Store
end SymbolAnnotations
