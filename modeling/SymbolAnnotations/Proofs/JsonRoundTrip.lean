import SymbolAnnotations.Proofs.JsonGrammar

/-!
# Reading JSON back

What is written can be read by the grammar in one way only, in either layout: a string has the
runes that it was written from, whatever these are, and an object has its members in the order
in which they were written.

* `runes_escaped_iff`, `reads_quoted_iff` — escaping is undone;
* `members_member_iff` — one member of an object;
* `reads_write_iff` — a whole value, whatever is behind it;
* `isDocument_write_iff` — a document.
-/

namespace SymbolAnnotations
namespace Json

variable {text runes rest : List Char} {value : Value} {members : List (String × Value)}

/-- The two digits of a control spell its number. -/
theorem codeUnit?_control {number : Nat} (h : number < 0x20) :
    codeUnit? '0' '0' (Nat.digitChar (number / 16)) (Nat.digitChar (number % 16)) =
      some number := by
  have hdigits : ∀ number < 0x20,
      codeUnit? '0' '0' (Nat.digitChar (number / 16)) (Nat.digitChar (number % 16)) =
        some number := by
    decide +kernel
  exact hdigits number h

/-- **A rune is read back** from the way it is escaped. -/
theorem runes_escaped_iff (rune : Char) :
    Runes (escaped rune ++ text) runes rest ↔
      ∃ more, runes = rune :: more ∧ Runes text more rest := by
  fun_cases escaped rune with
  | case1 | case2 | case3 | case4 | case5 | case6 | case7 => exact runes_escape_iff rfl
  | case8 _ hcontrol =>
      rw [if_pos hcontrol]
      have hscalar : rune.toNat < 0xD800 := by omega
      refine (runes_unit_iff (codeUnit?_control hcontrol) hscalar).trans ?_
      rw [Char.ofNat_toNat]
      rfl
  | case9 _ hcontrol hquote hbackslash =>
      rw [if_neg hcontrol]
      exact runes_plain_iff (Nat.not_lt.1 hcontrol) hquote hbackslash

/-- The inside of a string, rune by rune. -/
theorem runes_flatMap_escaped_iff (inside : List Char) :
    Runes (inside.flatMap escaped ++ '"' :: text) runes rest ↔ runes = inside ∧ rest = text := by
  induction inside generalizing runes with
  | nil => exact runes_quote_iff
  | cons rune more ih =>
      rw [List.flatMap_cons, List.append_assoc, runes_escaped_iff]
      simp only [ih]
      constructor
      · rintro ⟨_, rfl, rfl, hrest⟩
        exact ⟨rfl, hrest⟩
      · rintro ⟨rfl, hrest⟩
        exact ⟨more, rfl, rfl, hrest⟩

theorem toList_quoted (name : String) :
    (quoted name).toList = '"' :: (name.toList.flatMap escaped ++ ['"']) := by
  simp [quoted]

/-- **A string is read back**, whatever is in it. -/
theorem reads_quoted_iff (name : String) :
    Reads ((quoted name).toList ++ text) value rest ↔ value = .text name ∧ rest = text := by
  rw [toList_quoted, List.cons_append, List.append_assoc, List.singleton_append, reads_quote_iff]
  simp only [runes_flatMap_escaped_iff]
  constructor
  · rintro ⟨runes, rfl, rfl, hrest⟩
    exact ⟨by rw [String.ofList_toList], hrest⟩
  · rintro ⟨rfl, hrest⟩
    exact ⟨_, by rw [String.ofList_toList], rfl, hrest⟩

theorem skip_cons_of_isBlank {rune : Char} (h : isBlank rune = true) :
    skip (rune :: text) = skip text :=
  List.dropWhile_cons_of_pos h

theorem skip_cons_of_not_isBlank {rune : Char} (h : isBlank rune = false) :
    skip (rune :: text) = rune :: text :=
  List.dropWhile_cons_of_neg (Bool.eq_false_iff.1 h)

theorem skip_replicate_space (count : Nat) :
    skip (List.replicate count ' ' ++ text) = skip text := by
  induction count with
  | zero => rfl
  | succ count ih => rw [List.replicate_succ, List.cons_append, skip_cons_of_isBlank rfl, ih]

/-- A new line is white space, in either layout. -/
theorem skip_newline (layout : Layout) (depth : Nat) :
    skip ((layout.newline depth).toList ++ text) = skip text := by
  cases layout with
  | compact => simp [Layout.newline]
  | pretty =>
      simp only [Layout.newline, indentation, String.toList_append, String.toList_ofList,
        List.append_assoc]
      exact (skip_cons_of_isBlank rfl).trans (skip_replicate_space _)

/-- The colon behind a name, and the space that may follow it. -/
theorem exists_skip_colon (layout : Layout) (text : List Char) :
    ∃ behind, skip (layout.colon.toList ++ text) = ':' :: behind ∧ skip behind = skip text := by
  cases layout with
  | compact => exact ⟨text, skip_cons_of_not_isBlank rfl, rfl⟩
  | pretty => exact ⟨' ' :: text, skip_cons_of_not_isBlank rfl, skip_cons_of_isBlank rfl⟩

mutual

/-- What a document stands for. -/
def toValue : Json → Value
  | .text value => .text value
  | .object members => .object (memberValues members)

/-- What the members of an object stand for. -/
def memberValues : List (String × Json) → List (String × Value)
  | [] => []
  | (name, json) :: rest => (name, json.toValue) :: memberValues rest

end

theorem toList_write_empty (layout : Layout) (depth : Nat) :
    (write layout depth (.object [])).toList = ['{', '}'] := by
  simp [write]

/-- The text of the members of an object and of the brace behind them. -/
def membersText (layout : Layout) (depth : Nat) (members : List (String × Json)) : String :=
  ("," ++ layout.newline (depth + 1)).intercalate (writeMembers layout (depth + 1) members) ++
    layout.newline depth ++ "\x7d"

theorem toList_write_object (layout : Layout) (depth : Nat) (member : String × Json)
    (more : List (String × Json)) :
    (write layout depth (.object (member :: more))).toList =
      '{' :: ((layout.newline (depth + 1)).toList ++
        (membersText layout depth (member :: more)).toList) := by
  simp [write, membersText]

/-- A document begins with a token. -/
theorem skip_write (layout : Layout) (depth : Nat) (json : Json) :
    skip ((json.write layout depth).toList ++ text) = (json.write layout depth).toList ++ text := by
  cases json with
  | text name =>
      rw [write, toList_quoted]
      exact skip_cons_of_not_isBlank rfl
  | object members =>
      cases members with
      | nil =>
          rw [toList_write_empty]
          exact skip_cons_of_not_isBlank rfl
      | cons member more =>
          rw [toList_write_object]
          exact skip_cons_of_not_isBlank rfl

/-- The text of one member of an object. -/
def memberText (layout : Layout) (depth : Nat) (name : String) (json : Json) : String :=
  quoted name ++ layout.colon ++ json.write layout depth

theorem toList_memberText (layout : Layout) (depth : Nat) (name : String) (json : Json) :
    (memberText layout depth name json).toList =
      '"' :: (name.toList.flatMap escaped ++
        '"' :: (layout.colon.toList ++ (json.write layout depth).toList)) := by
  simp [memberText, toList_quoted]

theorem toList_membersText_singleton (layout : Layout) (depth : Nat) (name : String)
    (json : Json) :
    (membersText layout depth [(name, json)]).toList =
      (memberText layout (depth + 1) name json).toList ++
        ((layout.newline depth).toList ++ ['}']) := by
  simp [membersText, writeMembers, memberText]

theorem toList_membersText_cons_cons (layout : Layout) (depth : Nat) (name : String)
    (json : Json) (next : String × Json) (more : List (String × Json)) :
    (membersText layout depth ((name, json) :: next :: more)).toList =
      (memberText layout (depth + 1) name json).toList ++
        ',' :: ((layout.newline (depth + 1)).toList ++
          (membersText layout depth (next :: more)).toList) := by
  simp [membersText, writeMembers, memberText]

/-- The members begin with a name, which is no closing brace and no white space. -/
theorem exists_toList_membersText_eq (layout : Layout) (depth : Nat) (member : String × Json)
    (more : List (String × Json)) :
    ∃ inside, (membersText layout depth (member :: more)).toList = '"' :: inside := by
  cases more with
  | nil =>
      rw [toList_membersText_singleton, toList_memberText]
      exact ⟨_, rfl⟩
  | cons next more =>
      rw [toList_membersText_cons_cons, toList_memberText]
      exact ⟨_, rfl⟩

theorem skip_membersText (layout : Layout) (depth : Nat) (member : String × Json)
    (more : List (String × Json)) :
    skip ((membersText layout depth (member :: more)).toList ++ text) =
      (membersText layout depth (member :: more)).toList ++ text := by
  obtain ⟨inside, hinside⟩ := exists_toList_membersText_eq layout depth member more
  rw [hinside]
  exact skip_cons_of_not_isBlank rfl

/-- **One member is read back,** if its value is. -/
theorem members_member_iff (layout : Layout) (depth : Nat) (name : String) (json : Json)
    (h : ∀ {text value rest}, Reads ((json.write layout depth).toList ++ text) value rest ↔
      value = json.toValue ∧ rest = text) :
    Members ((memberText layout depth name json).toList ++ text) members rest ↔
      skip text = '}' :: rest ∧ members = [(name, json.toValue)] ∨
        ∃ behind more, skip text = ',' :: behind ∧ Members (skip behind) more rest ∧
          members = (name, json.toValue) :: more := by
  obtain ⟨behind, hcolon, hbehind⟩ :=
    exists_skip_colon layout ((json.write layout depth).toList ++ text)
  rw [skip_write] at hbehind
  rw [toList_memberText, List.cons_append, List.append_assoc, List.cons_append, List.append_assoc,
    members_quote_iff]
  constructor
  · rintro ⟨name', afterName, behind', value, after, hname, hcolon', hvalue, hmembers⟩
    obtain ⟨rfl, rfl⟩ := (runes_flatMap_escaped_iff name.toList).1 hname
    obtain ⟨-, rfl⟩ := List.cons.inj (hcolon.symm.trans hcolon')
    rw [hbehind] at hvalue
    obtain ⟨rfl, rfl⟩ := h.1 hvalue
    rwa [String.ofList_toList] at hmembers
  · intro hmembers
    refine ⟨name.toList, _, behind, json.toValue, text,
      (runes_flatMap_escaped_iff _).2 ⟨rfl, rfl⟩, hcolon, ?_, ?_⟩
    · rw [hbehind]
      exact h.2 ⟨rfl, rfl⟩
    · rwa [String.ofList_toList]

-- by recursion on the document, with the text behind it free: a member is followed by the rest
-- of its object, and an object by whatever it stands in
mutual

/-- **A document is read back,** whatever is behind it. -/
theorem reads_write_iff (layout : Layout) (depth : Nat) (json : Json) {text rest : List Char}
    {value : Value} :
    Reads ((json.write layout depth).toList ++ text) value rest ↔
      value = json.toValue ∧ rest = text := by
  match json with
  | .text name =>
      rw [write, toValue]
      exact reads_quoted_iff name
  | .object [] =>
      rw [toList_write_empty, List.cons_append, reads_brace_iff, List.singleton_append,
        skip_cons_of_not_isBlank rfl, toValue, memberValues]
      constructor
      · rintro (⟨hend, rfl⟩ | ⟨members, -, hmembers⟩)
        · exact ⟨rfl, (List.cons.inj hend).2.symm⟩
        · exact absurd hmembers not_members_brace
      · rintro ⟨rfl, rfl⟩
        exact Or.inl ⟨rfl, rfl⟩
  | .object (member :: more) =>
      have hmembers : ∀ {members rest},
          Members ((membersText layout depth (member :: more)).toList ++ text) members rest ↔
            members = memberValues (member :: more) ∧ rest = text :=
        members_membersText_iff layout depth (member :: more) (List.cons_ne_nil _ _)
      rw [toList_write_object, List.cons_append, List.append_assoc, reads_brace_iff, skip_newline,
        skip_membersText, toValue]
      simp only [hmembers]
      constructor
      · rintro (⟨hend, -⟩ | ⟨members, rfl, rfl, hrest⟩)
        · -- an object with members is not empty, as no name begins with a brace
          obtain ⟨inside, hinside⟩ := exists_toList_membersText_eq layout depth member more
          rw [hinside] at hend
          cases hend
        · exact ⟨rfl, hrest⟩
      · rintro ⟨rfl, hrest⟩
        exact Or.inr ⟨_, rfl, rfl, hrest⟩

/-- The members of an object are read back, one after the other. -/
theorem members_membersText_iff (layout : Layout) (depth : Nat) (written : List (String × Json))
    (hne : written ≠ []) {text rest : List Char} {members : List (String × Value)} :
    Members ((membersText layout depth written).toList ++ text) members rest ↔
      members = memberValues written ∧ rest = text := by
  match written with
  | [] => exact absurd rfl hne
  | [(name, json)] =>
      rw [toList_membersText_singleton, List.append_assoc, List.append_assoc,
        members_member_iff _ _ name json (reads_write_iff layout (depth + 1) json), skip_newline,
        List.singleton_append, skip_cons_of_not_isBlank rfl]
      simp only [memberValues]
      constructor
      · rintro (⟨hend, rfl⟩ | ⟨behind, more, hcomma, -⟩)
        · exact ⟨rfl, (List.cons.inj hend).2.symm⟩
        · cases hcomma
      · rintro ⟨rfl, rfl⟩
        exact Or.inl ⟨rfl, rfl⟩
  | (name, json) :: next :: more =>
      have hmore : ∀ {members rest},
          Members ((membersText layout depth (next :: more)).toList ++ text) members rest ↔
            members = memberValues (next :: more) ∧ rest = text :=
        members_membersText_iff layout depth (next :: more) (List.cons_ne_nil _ _)
      rw [toList_membersText_cons_cons, List.append_assoc, List.cons_append, List.append_assoc,
        members_member_iff _ _ name json (reads_write_iff layout (depth + 1) json),
        skip_cons_of_not_isBlank rfl, memberValues]
      constructor
      · rintro (⟨hend, -⟩ | ⟨behind, others, hcomma, hothers, rfl⟩)
        · cases hend
        · obtain ⟨-, rfl⟩ := List.cons.inj hcomma
          rw [skip_newline, skip_membersText, hmore] at hothers
          exact ⟨by rw [hothers.1], hothers.2⟩
      · rintro ⟨rfl, rfl⟩
        refine Or.inr ⟨_, _, rfl, ?_, rfl⟩
        rw [skip_newline, skip_membersText]
        exact hmore.2 ⟨rfl, rfl⟩

end

/-- A document may have white space behind it. -/
theorem isDocument_write_iff (layout : Layout) (json : Json) {behind : List Char}
    (hbehind : skip behind = []) :
    IsDocument ((json.write layout 0).toList ++ behind) value ↔ value = json.toValue := by
  rw [IsDocument, skip_write]
  simp only [reads_write_iff]
  constructor
  · rintro ⟨_, ⟨hvalue, -⟩, -⟩
    exact hvalue
  · intro hvalue
    exact ⟨behind, ⟨hvalue, rfl⟩, hbehind⟩

end Json
end SymbolAnnotations
