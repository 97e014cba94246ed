import Mathlib.Data.List.Infix
import Mathlib.Data.List.Nodup
import SymbolAnnotations.Proofs.JoinedSources
import SymbolAnnotations.Proofs.StoreImage

/-!
# Sources inside a block

A source can be put into a block, under a name, and is read there as it is on its
own, except for two things.  One more block is open everywhere, which counts against
the nesting limit, and a closing brace may end the block: so a signature that stands
outside of all blocks must not close more braces than it opens.  The machine does not
look at the blocks around the innermost one, and the names that lead to a leaf get the
new one in front.

* `step_inside`, `run_inside` — reading with one more block around all others;
* `exists_leaf_of_run` — the text that is being read becomes a leaf;
* `leaves_block` — the leaves of a source inside a block;
* `parse_block_qualifies_paths` — what this means for the store.
-/

namespace SymbolAnnotations
namespace Grammar

/-- White space is no brace. -/
theorem bracesAfter_of_isWhiteSpace {rune : Char} (h : Rune.isWhiteSpace rune = true)
    (braces : Nat) :
    rune ≠ Punctuation.closeBrace.rune ∧ Source.bracesAfter rune braces = braces := by
  have hmark : ∀ mark : Punctuation, mark ≠ .newline → rune ≠ mark.rune := by
    rintro mark hmark rfl
    simp [hmark] at h
  have hopen := hmark .openBrace (by decide)
  have hclose := hmark .closeBrace (by decide)
  exact ⟨hclose, by rw [Source.bracesAfter, if_neg hopen, if_neg hclose]⟩

variable {braces : Nat} {blank text : List Char}

theorem balancedBehind_blank_append (hblank : ∀ rune ∈ blank, Rune.isWhiteSpace rune = true) :
    BalancedBehind braces (blank ++ text) ↔ BalancedBehind braces text := by
  induction blank with
  | nil => rfl
  | cons rune more ih =>
      obtain ⟨hrune, hmore⟩ := List.forall_mem_cons.1 hblank
      obtain ⟨hclose, hbraces⟩ := bracesAfter_of_isWhiteSpace hrune braces
      rw [List.cons_append, balancedBehind_cons, hbraces, ih hmore]
      simp [hclose]

theorem balancedBehind_append_blank (hblank : ∀ rune ∈ blank, Rune.isWhiteSpace rune = true) :
    BalancedBehind braces (text ++ blank) ↔ BalancedBehind braces text := by
  induction text generalizing braces with
  | nil =>
      have hgap := @balancedBehind_blank_append braces blank [] hblank
      rwa [List.append_nil] at hgap
  | cons rune more ih => rw [List.cons_append, balancedBehind_cons, balancedBehind_cons, ih]

instance : DecidablePred Balanced := fun text =>
  decidable_of_iff (∀ front ∈ text.inits,
      front.count Punctuation.closeBrace.rune ≤ front.count Punctuation.openBrace.rune)
    (forall_congr' fun front => by rw [List.mem_inits])

/-- White space at the ends of a text does not matter to its braces. -/
theorem balanced_trim_iff : Balanced (Source.trim text) ↔ Balanced text := by
  have hfront := @balancedBehind_blank_append 0 (text.takeWhile Rune.isWhiteSpace)
    (text.dropWhile Rune.isWhiteSpace) (fun _ => List.mem_takeWhile_imp)
  have hback := @balancedBehind_append_blank 0
    ((text.dropWhile Rune.isWhiteSpace).rtakeWhile Rune.isWhiteSpace)
    ((text.dropWhile Rune.isWhiteSpace).rdropWhile Rune.isWhiteSpace)
    (fun _ => List.mem_rtakeWhile_imp)
  rw [List.rdropWhile_append_rtakeWhile] at hback
  rw [List.takeWhile_append_dropWhile] at hfront
  rw [← balancedBehind_zero, ← balancedBehind_zero, hfront, hback]
  rfl

end Grammar

namespace Source
namespace Reading

/-- The reading as it is when one more block is open, around all others. -/
def inside (name : ItemName) (reading : Reading) : Reading :=
  { reading with
    enclosing := reading.enclosing ++ [name]
    leaves := reading.leaves.map (Leaf.under name) }

variable {reading next : Reading} {rune : Char} {name : ItemName}

theorem addLeaf_inside (reading : Reading) (name found : ItemName) (text : List Char) :
    (reading.inside name).addLeaf found text = (reading.addLeaf found text).inside name := by
  simp [inside, addLeaf, Leaf.within, Leaf.under]

theorem length_enclosing_inside (name : ItemName) (reading : Reading) :
    (reading.inside name).enclosing.length = reading.enclosing.length + 1 :=
  List.length_append

/-- Outside of blocks a closing brace is taken only by signatures. -/
theorem closes_inside (reading : Reading) (name : ItemName)
    (h : reading.enclosing = [] → rune ≠ Punctuation.closeBrace.rune) :
    (scopeAt (reading.inside name).enclosing.length).closes rune =
      (scopeAt reading.enclosing.length).closes rune := by
  rw [closes_scopeAt, closes_scopeAt]
  by_cases hnil : reading.enclosing = []
  · have hrune : (rune == Punctuation.closeBrace.rune) = false := beq_eq_false_iff_ne.2 (h hnil)
    simp [hrune]
  · have hpos := List.length_pos_iff.2 hnil
    simp [hpos, inside]

theorem atItems_inside (name : ItemName) (h : reading.atItems rune = .ok next) :
    (reading.inside name).atItems rune = .ok (next.inside name) := by
  obtain ⟨phase, enclosing, leaves⟩ := reading
  cases enclosing with
  | nil =>
      simp only [atItems, inside] at h ⊢
      split_ifs at h ⊢ <;> cases h <;> rfl
  | cons inner outer =>
      simp only [atItems, inside, List.cons_append] at h ⊢
      split_ifs at h ⊢ <;> cases h <;> rfl

theorem atItemEnd_inside (name : ItemName) (h : reading.atItemEnd rune = .ok next) :
    (reading.inside name).atItemEnd rune = .ok (next.inside name) := by
  by_cases hout : reading.enclosing = [] ∧ rune = Punctuation.closeBrace.rune
  · obtain ⟨hnil, rfl⟩ := hout
    simp [atItemEnd, hnil, scopeAt, Scope.closes, Rune.isInlineWhiteSpace, Rune.isTerminator] at h
  · have hcloses := reading.closes_inside name (not_and.1 hout)
    simp only [atItemEnd, hcloses] at h ⊢
    split_ifs at h ⊢
    · cases h
      rfl
    · exact atItems_inside name h
    · cases h
      rfl

theorem atDefinition_inside (name : ItemName) {found : ItemName}
    (h : reading.atDefinition found rune = .ok next)
    (hdepth : next.enclosing.length < maxNesting)
    (hout : reading.enclosing = [] → rune ≠ Punctuation.closeBrace.rune) :
    (reading.inside name).atDefinition found rune = .ok (next.inside name) := by
  have hcloses := reading.closes_inside name hout
  simp only [atDefinition, hcloses] at h ⊢
  split_ifs at h ⊢
  · cases h
    rfl
  · cases h
    rfl
  · rename_i hdeep _
    cases h
    rw [length_enclosing_inside] at hdeep
    exact absurd hdepth hdeep
  · cases h
    rfl

theorem atReceiverEnd_inside (name : ItemName) {typeName : String}
    (h : reading.atReceiverEnd typeName rune = .ok next) :
    (reading.inside name).atReceiverEnd typeName rune = .ok (next.inside name) := by
  simp only [atReceiverEnd] at h ⊢
  split_ifs at h ⊢ <;> cases h <;> rfl

/-- **A rune inside one more block.**  It is taken as it is without the block, unless
it opens a block too many or is a closing brace that no brace of a signature has
opened. -/
theorem step_inside (name : ItemName) (h : reading.step rune = .ok next)
    (hdepth : next.enclosing.length < maxNesting)
    (hout : reading.enclosing = [] → rune = Punctuation.closeBrace.rune →
      ∃ found read braces, reading.phase = .signature found read braces ∧ 0 < braces) :
    (reading.inside name).step rune = .ok (next.inside name) := by
  obtain ⟨phase, enclosing, leaves⟩ := reading
  have hnone : (∀ found read braces, phase ≠ .signature found read braces) →
      enclosing = [] → rune ≠ Punctuation.closeBrace.rune := by
    intro hphase hnil hrune
    obtain ⟨found, read, braces, hsignature, -⟩ := hout hnil hrune
    exact hphase found read braces hsignature
  cases phase with
  | items => exact atItems_inside name h
  | identifier read =>
      simp only [step, inside] at h ⊢
      split_ifs at h ⊢
      · cases h
        rfl
      · exact atDefinition_inside name h hdepth (hnone (by simp))
  | receiver | pointer =>
      simp only [step, inside] at h ⊢
      split_ifs at h ⊢ <;> cases h <;> rfl
  | typeName read =>
      simp only [step, inside] at h ⊢
      split_ifs at h ⊢
      · cases h
        rfl
      · exact atReceiverEnd_inside name h
  | receiverEnd typeName => exact atReceiverEnd_inside name h
  | definition found => exact atDefinition_inside name h hdepth (hnone (by simp))
  | signature found read braces =>
      have hends : (braces == 0 && (scopeAt (enclosing ++ [name]).length).closes rune) =
          (braces == 0 && (scopeAt enclosing.length).closes rune) := by
        by_cases hbrace : enclosing = [] ∧ rune = Punctuation.closeBrace.rune
        · obtain ⟨found', read', open', hphase, hpos⟩ := hout hbrace.1 hbrace.2
          cases hphase
          have hsome : (braces == 0) = false := beq_eq_false_iff_ne.2 (Nat.ne_of_gt hpos)
          rw [hsome, Bool.false_and, Bool.false_and]
        · have hcloses := closes_inside ⟨.signature found read braces, enclosing, leaves⟩ name
            (not_and.1 hbrace)
          exact congrArg _ hcloses
      simp only [step, inside, hends] at h ⊢
      split_ifs at h ⊢
      · have hend := atItemEnd_inside name h
        rw [← addLeaf_inside] at hend
        exact hend
      · cases h
        rfl
  | itemEnd => exact atItemEnd_inside name h

variable {found : ItemName} {read : List Char} {braces : Nat}

/-- Between items no signature is being read. -/
theorem phase_of_atItems (h : reading.atItems rune = .ok next) :
    next.phase ≠ .signature found read braces := by
  obtain ⟨phase, enclosing, leaves⟩ := reading
  cases enclosing with
  | nil =>
      simp only [atItems] at h
      split_ifs at h <;> cases h <;> exact Phase.noConfusion
  | cons inner outer =>
      simp only [atItems] at h
      split_ifs at h <;> cases h <;> exact Phase.noConfusion

theorem phase_of_atItemEnd (h : reading.atItemEnd rune = .ok next) :
    next.phase ≠ .signature found read braces := by
  simp only [atItemEnd] at h
  split_ifs at h
  · cases h
    exact Phase.noConfusion
  · exact phase_of_atItems h
  · cases h
    exact Phase.noConfusion

/-- A signature that is being read behind a rune was being read in front of it as
well, or begins with the rune. -/
theorem signature_of_step (h : reading.step rune = .ok next)
    (hphase : next.phase = .signature found read braces) :
    ∃ front outer, read = front ++ [rune] ∧ braces = bracesAfter rune outer ∧
      next.enclosing = reading.enclosing ∧
      (reading.phase = .signature found front outer ∨ front = [] ∧ outer = 0) := by
  obtain ⟨phase, enclosing, leaves⟩ := reading
  cases phase with
  | items => exact absurd hphase (phase_of_atItems h)
  | itemEnd => exact absurd hphase (phase_of_atItemEnd h)
  | identifier _ | definition _ =>
      refine ⟨[], 0, ?_⟩
      simp only [step, atDefinition] at h
      split_ifs at h <;> cases h <;> cases hphase
      exact ⟨rfl, rfl, rfl, Or.inr ⟨rfl, rfl⟩⟩
  | signature _ front outer =>
      refine ⟨front, outer, ?_⟩
      simp only [step] at h
      split_ifs at h
      · exact absurd hphase (phase_of_atItemEnd h)
      · cases h
        cases hphase
        exact ⟨rfl, rfl, rfl, Or.inl rfl⟩
  | receiver | pointer | typeName _ | receiverEnd _ =>
      simp only [step, atReceiverEnd] at h
      split_ifs at h <;> cases h <;> cases hphase

/-- Outside of blocks a closing brace belongs to the text of a signature. -/
theorem exists_signature_of_step_closeBrace (hout : reading.enclosing = [])
    (h : reading.step Punctuation.closeBrace.rune = .ok next) :
    ∃ found read braces, next.phase = .signature found read braces := by
  obtain ⟨phase, enclosing, leaves⟩ := reading
  cases hout
  cases phase <;>
    simp [step, atItems, atDefinition, atReceiverEnd, atItemEnd, scopeAt, Scope.closes,
      Rune.isSeparator, Rune.isInlineWhiteSpace, Rune.isTerminator, Rune.startsSignature] at h <;>
    simp [← h]

/-- The text of a signature outside of all blocks is balanced as far as it has been
read, and as many of its braces are open as are counted. -/
def Settled (reading : Reading) : Prop :=
  reading.enclosing = [] → ∀ found read braces, reading.phase = .signature found read braces →
    Grammar.Balanced read ∧
      read.count Punctuation.closeBrace.rune + braces = read.count Punctuation.openBrace.rune

/-- Balanced text closes only braces that are open. -/
theorem Settled.counts_of_step (hsettled : reading.Settled) (h : reading.step rune = .ok next)
    (hout : next.enclosing = []) (hphase : next.phase = .signature found read braces)
    (htext : Grammar.Balanced read) :
    read.count Punctuation.closeBrace.rune + braces = read.count Punctuation.openBrace.rune ∧
      (rune = Punctuation.closeBrace.rune →
        ∃ front outer, reading.phase = .signature found front outer ∧ 0 < outer) := by
  obtain ⟨front, outer, rfl, rfl, henclosing, hfront⟩ := signature_of_step h hphase
  have hcount : front.count Punctuation.closeBrace.rune + outer =
      front.count Punctuation.openBrace.rune := by
    rcases hfront with hbefore | ⟨rfl, rfl⟩
    · exact (hsettled (henclosing ▸ hout) _ _ _ hbefore).2
    · rfl
  have hopen : rune = Punctuation.closeBrace.rune → 0 < outer := by
    rintro rfl
    have hmarks : Punctuation.closeBrace.rune ≠ Punctuation.openBrace.rune := by decide
    have hall := htext _ (List.prefix_refl _)
    simp only [List.count_append, List.count_singleton_self, List.count_singleton, beq_iff_eq,
      if_neg hmarks] at hall
    omega
  constructor
  · have hafter := Grammar.count_bracesAfter hopen []
    simp only [List.count_nil] at hafter
    rw [List.count_append, List.count_append]
    omega
  · intro hrune
    have hpos := hopen hrune
    rcases hfront with hbefore | ⟨rfl, rfl⟩
    · exact ⟨front, outer, hbefore, hpos⟩
    · exact absurd hpos (Nat.lt_irrefl 0)

theorem Settled.step (hsettled : reading.Settled) (h : reading.step rune = .ok next)
    (hbalanced : next.enclosing = [] → ∀ found read braces,
      next.phase = .signature found read braces → Grammar.Balanced read) :
    next.Settled := by
  intro hout found read braces hphase
  have htext := hbalanced hout found read braces hphase
  exact ⟨htext, (hsettled.counts_of_step h hout hphase htext).1⟩

/-- Outside of blocks, a closing brace in balanced text finds one to close. -/
theorem Settled.exists_open (hsettled : reading.Settled) (h : reading.step rune = .ok next)
    (hbalanced : next.enclosing = [] → ∀ found read braces,
      next.phase = .signature found read braces → Grammar.Balanced read)
    (hout : reading.enclosing = []) (hrune : rune = Punctuation.closeBrace.rune) :
    ∃ found read braces, reading.phase = .signature found read braces ∧ 0 < braces := by
  subst hrune
  obtain ⟨found, read, braces, hphase⟩ := exists_signature_of_step_closeBrace hout h
  obtain ⟨_, _, -, -, henclosing, -⟩ := signature_of_step h hphase
  have hout' : next.enclosing = [] := henclosing.trans hout
  have hcounts := hsettled.counts_of_step h hout' hphase (hbalanced hout' _ _ _ hphase)
  obtain ⟨front, outer, hbefore, hpos⟩ := hcounts.2 rfl
  exact ⟨found, front, outer, hbefore, hpos⟩

variable {runes : List Char} {position : Position} {last : Reading} {leaves : List Leaf}

/-- Leaves that have been found stay. -/
theorem leaves_subset_of_run (hrun : reading.run position runes = .ok last)
    (hresult : last.result? = some leaves) : reading.leaves ⊆ leaves := by
  have hearlier : reading =
      ({ reading with leaves := [] } : Reading).withEarlier reading.leaves := by
    simp [withEarlier]
  rw [hearlier, run_withEarlier] at hrun
  cases hrest : ({ reading with leaves := [] } : Reading).run position runes with
  | error fault =>
      rw [hrest] at hrun
      cases hrun
  | ok final =>
      rw [hrest] at hrun
      cases hrun
      rw [result?_withEarlier, Option.map_eq_some_iff] at hresult
      obtain ⟨more, -, rfl⟩ := hresult
      exact List.subset_append_left _ _

/-- The text that is read outside of all blocks is the beginning of a signature. -/
theorem exists_leaf_of_run (hrun : reading.run position runes = .ok last)
    (hresult : last.result? = some leaves) (hout : reading.enclosing = [])
    (hphase : reading.phase = .signature found read braces) :
    ∃ text, read <+: text ∧ ⟨[found], String.ofList (trim text)⟩ ∈ leaves := by
  obtain ⟨phase, enclosing, earlier⟩ := reading
  cases hout
  cases hphase
  induction runes generalizing read braces position with
  | nil =>
      cases hrun
      cases hresult
      exact ⟨read, List.prefix_refl read, by simp [addLeaf, Leaf.within]⟩
  | cons rune more ih =>
      rw [run] at hrun
      cases hends : Rune.isTerminator rune with
      | true =>
          have hleaf : (Reading.mk (.signature found read braces) [] earlier).result? =
              some (earlier ++ [⟨[found], String.ofList (trim read)⟩]) := rfl
          rw [step_terminator hleaf hends] at hrun
          have hsubset := leaves_subset_of_run hrun hresult
          exact ⟨read, List.prefix_refl read, hsubset (by simp)⟩
      | false =>
          have hstep : (Reading.mk (.signature found read braces) [] earlier).step rune =
              .ok ⟨.signature found (read ++ [rune]) (bracesAfter rune braces), [], earlier⟩ := by
            simp [step, hends, closes_scopeAt]
          rw [hstep] at hrun
          obtain ⟨text, hprefix, hmem⟩ := ih hrun
          exact ⟨text, (List.prefix_append read [rune]).trans hprefix, hmem⟩

/-- **Reading inside one more block.**  What is read to a possible end of the source,
with room for one more block and balanced signatures outside of all blocks, is read
inside a block as well. -/
theorem run_inside (name : ItemName) {place : Position} (position : Position)
    (hrun : reading.run place runes = .ok last) (hresult : last.result? = some leaves)
    (hdepth : ∀ front middle, front <+: runes → reading.run place front = .ok middle →
      middle.enclosing.length < maxNesting)
    (hbalanced : ∀ leaf ∈ leaves, leaf.names.length = 1 →
      Grammar.Balanced leaf.signature.toList)
    (hsettled : reading.Settled) :
    (reading.inside name).run position runes = .ok (last.inside name) := by
  induction runes generalizing reading place position with
  | nil =>
      cases hrun
      rfl
  | cons rune more ih =>
      rw [run] at hrun
      cases hstep : reading.step rune with
      | error expected =>
          rw [hstep] at hrun
          cases hrun
      | ok next =>
          rw [hstep] at hrun
          have hnext : ∀ front middle, front <+: more →
              next.run (place.after rune) front = .ok middle →
              middle.enclosing.length < maxNesting := by
            intro front middle hfront hmiddle
            refine hdepth (rune :: front) middle (by simpa using hfront) ?_
            rw [run, hstep]
            exact hmiddle
          have htext : next.enclosing = [] → ∀ found read braces,
              next.phase = .signature found read braces → Grammar.Balanced read := by
            intro hout found read braces hphase
            obtain ⟨text, ⟨back, rfl⟩, hmem⟩ := exists_leaf_of_run hrun hresult hout hphase
            have hleaf := hbalanced _ hmem rfl
            rw [String.toList_ofList, Grammar.balanced_trim_iff] at hleaf
            exact hleaf.of_append
          -- The step stays within the limit, and closes nothing that it should not.
          have hinside := step_inside name hstep (hnext [] next List.nil_prefix rfl)
            (hsettled.exists_open hstep htext)
          rw [run, hinside]
          exact ih (position.after rune) hrun hnext (hsettled.step hstep htext)

/-- No text has been read yet. -/
theorem settled_start : ({} : Reading).Settled := by
  intro _ found read braces hphase
  cases hphase

end Reading

/-- Nowhere in the source are more than so many blocks open. -/
def NestsWithin (levels : Nat) (source : ByteArray) : Prop :=
  ∀ front last, front <+: (Utf8.decode source).runes →
    ({} : Reading).run {} front = .ok last → last.enclosing.length ≤ levels

/-- It is enough to read each beginning of the source. -/
theorem nestsWithin_of_inits {levels : Nat} {source : ByteArray}
    (h : ∀ front ∈ (Utf8.decode source).runes.inits,
      ∀ last ∈ (({} : Reading).run {} front).toOption, last.enclosing.length ≤ levels) :
    NestsWithin levels source := by
  intro front last hfront hlast
  refine h front ((List.mem_inits _ _).2 hfront) last ?_
  rw [hlast]
  rfl

/-- Of the signatures that are read outside of all blocks, replaced ones included, none
closes more braces than it has opened. -/
def BalancedOutside (source : ByteArray) : Prop :=
  ∀ found, leaves source = .ok found → ∀ leaf ∈ found, leaf.names.length = 1 →
    Grammar.Balanced leaf.signature.toList

/-- The source inside a block for the name. -/
def block (name : ItemName) (body : ByteArray) : ByteArray :=
  (name.spelling ++ " \x7b\n").toByteArray ++ body ++ "\n\x7d".toByteArray

/-- In front of a block stand its name and its brace. -/
theorem leadsTo_block {name : ItemName} (h : name.IsValid) (rest : List Char) :
    Reading.LeadsTo {} (name.spelling.toList ++ ' ' :: '\x7b' :: '\n' :: rest)
      (({} : Reading).inside name) rest := by
  have hends : Rune.continuesIdentifier ' ' = false := by decide +kernel
  have hname : Reading.LeadsTo ⟨.items, [], []⟩
      (name.spelling.toList ++ ' ' :: '\x7b' :: '\n' :: rest) ⟨.definition name, [], []⟩
      (' ' :: '\x7b' :: '\n' :: rest) :=
    Reading.leadsTo_of_name (Grammar.name_of_isValid h hends ('\x7b' :: '\n' :: rest))
  have hspace : (Reading.mk (.definition name) [] []).step ' ' =
      .ok ⟨.definition name, [], []⟩ := by
    have hblank : Rune.isInlineWhiteSpace ' ' = true := by decide +kernel
    simp [Reading.step, Reading.atDefinition, hblank]
  have hbrace : (Reading.mk (.definition name) [] []).step '\x7b' =
      .ok ⟨.items, [name], []⟩ := by
    have hblank : Rune.isInlineWhiteSpace '\x7b' = false := by decide +kernel
    simp [Reading.step, Reading.atDefinition, hblank, Punctuation.rune, maxNesting]
  have hnewline : (Reading.mk .items [name] []).step '\n' = .ok ⟨.items, [name], []⟩ :=
    Reading.step_items_of_isSeparator [name] [] (by decide +kernel)
  exact hname.trans ((Reading.LeadsTo.of_step hspace).trans
    ((Reading.LeadsTo.of_step hbrace).trans (Reading.LeadsTo.of_step hnewline)))

/-- The end of the line and the closing brace lead out of the block. -/
theorem outcome_inside_end {last : Reading} {found : List Leaf} (name : ItemName)
    (hresult : last.result? = some found) (position : Position) :
    (last.inside name).outcome ⟨['\n', '\x7d'], true, position⟩ =
      .ok (found.map (Leaf.under name)) := by
  have hnewline : (last.inside name).step '\n' = .ok ((Reading.mk .items [] found).inside name) :=
    Reading.step_inside name (Reading.step_terminator hresult (by decide)) (Nat.succ_pos 127)
      (fun _ hrune => absurd hrune (by decide))
  have hbrace : ((Reading.mk .items [] found).inside name).step '\x7d' =
      .ok ⟨.itemEnd, [], found.map (Leaf.under name)⟩ := by
    have hseparator : Rune.isSeparator '\x7d' = false := by decide +kernel
    have hstarts : Rune.startsIdentifier '\x7d' = false := by decide +kernel
    simp [Reading.step, Reading.atItems, Reading.inside, hseparator, hstarts, Punctuation.rune]
  simp only [Reading.outcome, Reading.run, hnewline, hbrace]
  rfl

/-- **The leaves of a block** are those of its inside, under its name. -/
theorem leaves_block {name : ItemName} {body : ByteArray} {last : Reading} {found : List Leaf}
    (hname : name.IsValid) (hcomplete : (Utf8.decode body).complete = true)
    (hrun : ({} : Reading).run {} (Utf8.decode body).runes = .ok last)
    (hresult : last.result? = some found) (hnests : NestsWithin 127 body)
    (hbalanced : BalancedOutside body) :
    leaves (block name body) = .ok (found.map (Leaf.under name)) := by
  have hleaves := leaves_of_run hcomplete hrun hresult
  have hdepth : ∀ front middle, front <+: (Utf8.decode body).runes →
      ({} : Reading).run {} front = .ok middle → middle.enclosing.length < maxNesting :=
    fun front middle hfront hmiddle => Nat.lt_succ_of_le (hnests front middle hfront hmiddle)
  have hinside := fun position => Reading.run_inside name position hrun hresult hdepth
    (hbalanced found hleaves) Reading.settled_start
  have htext : block name body = (String.ofList (name.spelling.toList ++ ' ' :: '\x7b' :: '\n' ::
      ((Utf8.decode body).runes ++ ['\n', '\x7d']))).toByteArray := by
    have hbody := Utf8.eq_utf8Encode_of_complete hcomplete
    generalize (Utf8.decode body).runes = runes at hbody ⊢
    rw [block, hbody, ← String.utf8Encode_toList, ← String.utf8Encode_toList,
      ← List.utf8Encode_append, ← List.utf8Encode_append, String.toByteArray_ofList]
    simp
  obtain ⟨taken, -, hread⟩ := leadsTo_block hname ((Utf8.decode body).runes ++ ['\n', '\x7d'])
  rw [leaves, leavesFrom_eq_outcome, Cursor.ofBytes, htext, Utf8.decode_toByteArray,
    String.toList_ofList, hread, Reading.outcome_append, hinside, ok_bind]
  exact outcome_inside_end name hresult _

end Source

/-- What is behind a name is told apart by its path from there. -/
theorem SymbolPath.qualify_injective (outer : String) : Function.Injective (qualify outer) := by
  have hdot : ∀ inner, outer ≠ outer ++ "." ++ inner := by
    intro inner h
    have hlength := congrArg String.length h
    simp only [String.length_append] at hlength
    have hone : ".".length = 1 := rfl
    omega
  intro inner other h
  unfold qualify at h
  split at h <;> split at h
  · simp_all
  · exact absurd h (hdot other)
  · exact absurd h.symm (hdot inner)
  · simpa using h

namespace Store

open Source

/-- Behind a name, a path has the signature that it has without the name. -/
theorem get?_ofLeaves_under (name : ItemName) (leaves : List Leaf) (key : String) :
    (ofLeaves (leaves.map (Leaf.under name))).get? (SymbolPath.qualify name.spelling key) =
      (ofLeaves leaves).get? key := by
  have hpath : ∀ leaf : Leaf, ((leaf.under name).path == SymbolPath.qualify name.spelling key) =
      (leaf.path == key) := by
    intro leaf
    rw [Bool.eq_iff_iff, beq_iff_eq, beq_iff_eq]
    exact (SymbolPath.qualify_injective name.spelling).eq_iff
  simp only [get?_ofLeaves, ← List.map_reverse, List.find?_map, Option.map_map, Function.comp_def,
    hpath]
  rfl

/-- Every path behind a name is qualified by it. -/
theorem exists_qualify_of_ofLeaves_under {name : ItemName} {leaves : List Leaf} {path : String}
    (h : path ∈ (ofLeaves (leaves.map (Leaf.under name))).paths) :
    ∃ key, path = SymbolPath.qualify name.spelling key := by
  rw [mem_paths_iff, get?_ofLeaves, Option.isSome_map, List.find?_isSome] at h
  obtain ⟨leaf, hmem, hpath⟩ := h
  obtain ⟨inner, -, rfl⟩ := List.mem_map.1 (List.mem_reverse.1 hmem)
  exact ⟨inner.path, (beq_iff_eq.1 hpath).symm⟩

theorem nodup_paths (store : Store) : store.paths.Nodup :=
  Std.ExtTreeMap.nodup_keys

/-- Under a name there are the same paths, each of them qualified. -/
theorem paths_ofLeaves_under (name : ItemName) (leaves : List Leaf) :
    ((ofLeaves (leaves.map (Leaf.under name))).paths).Perm
      ((ofLeaves leaves).paths.map (SymbolPath.qualify name.spelling)) := by
  have hinjective := SymbolPath.qualify_injective name.spelling
  have hnodup := List.Nodup.map hinjective (nodup_paths (ofLeaves leaves))
  refine (List.perm_ext_iff_of_nodup (nodup_paths _) hnodup).2 ?_
  intro path
  rw [List.mem_map]
  constructor
  · intro h
    obtain ⟨key, rfl⟩ := exists_qualify_of_ofLeaves_under h
    refine ⟨key, ?_, rfl⟩
    rwa [mem_paths_iff, get?_ofLeaves_under, ← mem_paths_iff] at h
  · rintro ⟨key, hkey, rfl⟩
    rwa [mem_paths_iff, get?_ofLeaves_under, ← mem_paths_iff]

/-- **Blocks qualify paths.**  A source that is parsed, has room for one more level of
nesting, and does not close a brace too many in a signature outside of its blocks, can
be put into a block.  The store has the same signatures under qualified paths, none of
them lost and no others. -/
theorem parse_block_qualifies_paths (name : ItemName) (body : ByteArray) (store : Store)
    (hname : name.IsValid) (h : parse body = .ok store) (hnests : Source.NestsWithin 127 body)
    (hbalanced : Source.BalancedOutside body) :
    ∃ wrapped, parse (Source.block name body) = .ok wrapped ∧
      (∀ key, wrapped.get? (SymbolPath.qualify name.spelling key) = store.get? key) ∧
      wrapped.paths.Perm (store.paths.map (SymbolPath.qualify name.spelling)) := by
  obtain ⟨last, leaves, hrun, hresult, rfl⟩ := run_of_parse_eq_ok h
  have hleaves := leaves_block hname (complete_of_parse_eq_ok h) hrun hresult hnests hbalanced
  refine ⟨ofLeaves (leaves.map (Leaf.under name)), ?_, get?_ofLeaves_under name leaves,
    paths_ofLeaves_under name leaves⟩
  exact congrArg (Except.map ofLeaves) hleaves

-- A brace too many would end the block.
example :
    (({} : Reading).run {} "f a\x7d".toList).isOk = true ∧
      (({} : Reading).run {} "T \x7b\nf a\x7d\n\x7d".toList).isOk = false := by
  decide +kernel

/-- A block for a receiver, with a block and a balanced signature inside. -/
theorem parse_block_receiver :
    ∃ wrapped,
      parse (Source.block (.receiver "R")
        "f struct\x7b\x7d; T \x7b\n  g int\n\x7d".toByteArray) = .ok wrapped ∧
      wrapped.get? "(*R).f" = some "struct\x7b\x7d" ∧ wrapped.get? "(*R).T.g" = some "int" ∧
      wrapped.paths.Perm ["(*R).T.g", "(*R).f"] := by
  let body := "f struct\x7b\x7d; T \x7b\n  g int\n\x7d".toByteArray
  let found : List Leaf := [⟨[.plain "f"], "struct\x7b\x7d"⟩, ⟨[.plain "T", .plain "g"], "int"⟩]
  have hrun : ({} : Reading).run {} (Utf8.decode body).runes = .ok ⟨.itemEnd, [], found⟩ := by
    rw [Utf8.decode_toByteArray]
    decide +kernel
  have hcomplete : (Utf8.decode body).complete = true := by
    rw [Utf8.decode_toByteArray]
  have hparse : parse body = .ok (ofLeaves found) := by
    rw [parse_eq_close hrun, hcomplete]
    rfl
  have hnests : Source.NestsWithin 127 body := by
    refine Source.nestsWithin_of_inits ?_
    rw [Utf8.decode_toByteArray]
    decide +kernel
  have hbalanced : Source.BalancedOutside body := by
    intro leaves hleaves leaf hleaf _
    rw [Source.leaves_of_run hcomplete hrun rfl] at hleaves
    cases hleaves
    have hall : ∀ leaf ∈ found, Grammar.Balanced leaf.signature.toList := by
      decide +kernel
    exact hall leaf hleaf
  have hname : (ItemName.receiver "R").IsValid := by
    have hidentifier : Grammar.IsIdentifier ['R'] := by decide +kernel
    simpa [ItemName.IsValid] using hidentifier
  obtain ⟨wrapped, hwrapped, hget, hpaths⟩ :=
    parse_block_qualifies_paths (.receiver "R") body _ hname hparse hnests hbalanced
  refine ⟨wrapped, hwrapped, ?_, ?_, ?_⟩
  · refine (hget "f").trans ?_
    rw [get?_ofLeaves]
    decide +kernel
  · refine (hget "T.g").trans ?_
    rw [get?_ofLeaves]
    decide +kernel
  · refine hpaths.trans (List.Perm.of_eq ?_)
    decide +kernel

end Store
end SymbolAnnotations
