import SymbolAnnotations.Source.Leaves

/-!
# Reading rune by rune

The productions of the grammar call each other and look one rune ahead.  The
same language can be read by a machine that takes one rune after the other and
never looks ahead: a `Reading` holds the phase inside the current item, the
names of the blocks that are open, and the leaves found so far.  A rune either
moves it on or is refused on the spot, for a reason that depends on nothing
behind that rune.

* `run_append` — a reading of two texts one after the other is a reading of
  the first and then, from where that ended, of the second;
* `outcome_of_next_some`, `outcome_of_next_none`, `outcome_of_next_error` — what
  a reading makes of a source, by the first token of the source;
* `outcome_skipWhile` — runes that leave a reading as it is can be skipped.

That the productions read exactly like this machine is shown separately.
-/

namespace SymbolAnnotations

/-- The leaf as seen from outside of these blocks, of which the innermost comes
first. -/
def Leaf.within (enclosing : List ItemName) (leaf : Leaf) : Leaf :=
  { leaf with names := enclosing.reverse ++ leaf.names }

theorem Leaf.within_nil : Leaf.within [] = id := rfl

/-- What is inside an item that is itself inside of blocks. -/
theorem Leaf.map_within_map_under (name : ItemName) (enclosing : List ItemName)
    (leaves : List Leaf) :
    (leaves.map (Leaf.under name)).map (Leaf.within enclosing) =
      leaves.map (Leaf.within (name :: enclosing)) := by
  simp [within, under]

namespace Source

section Composition

variable {ε α β : Type}

@[simp] theorem ok_bind (a : α) (f : α → Except ε β) : (Except.ok a >>= f) = f a := rfl

@[simp] theorem error_bind (e : ε) (f : α → Except ε β) :
    (Except.error e >>= f) = Except.error e := rfl

@[simp] theorem pure_eq_ok (a : α) : (pure a : Except ε α) = .ok a := rfl

@[simp] theorem throw_eq_error (e : ε) : (throw e : Except ε α) = .error e := rfl

end Composition

/-- What a reading is in the middle of. -/
inductive Phase where
  /-- Between two items. -/
  | items
  /-- In an identifier that names an item. -/
  | identifier (read : List Char)
  /-- Behind the parenthesis that opens a receiver. -/
  | receiver
  /-- Behind the star of a receiver. -/
  | pointer
  /-- In the type name of a receiver. -/
  | typeName (read : List Char)
  /-- Behind the type name of a receiver. -/
  | receiverEnd (typeName : String)
  /-- Behind the name of an item. -/
  | definition (name : ItemName)
  /-- In the signature of an item, with so many braces of its text open. -/
  | signature (name : ItemName) (read : List Char) (braces : Nat)
  /-- Behind the definition of an item. -/
  | itemEnd
deriving DecidableEq, Repr

/-- A reading in progress. -/
structure Reading where
  phase : Phase := .items
  /-- The names of the open blocks, the innermost first. -/
  enclosing : List ItemName := []
  /-- The leaves of the items so far, in order. -/
  leaves : List Leaf := []
deriving DecidableEq, Repr

/-- Where an item inside so many blocks stands. -/
def scopeAt : (depth : Nat) → Scope
  | 0 => .file
  | _ + 1 => .block

theorem closes_scopeAt (depth : Nat) (rune : Char) :
    (scopeAt depth).closes rune = (decide (0 < depth) && rune == Punctuation.closeBrace.rune) := by
  cases depth with
  | zero => rfl
  | succ outer => simp [scopeAt, Scope.closes]

namespace Reading

/-- The reading with a leaf for this name and signature. -/
def addLeaf (reading : Reading) (name : ItemName) (text : List Char) : Reading :=
  { reading with
    leaves := reading.leaves ++
      [Leaf.within (name :: reading.enclosing) ⟨[], String.ofList (trim text)⟩] }

/-- A rune between items.  The brace that closes a block leads behind the
definition of the item that the block belongs to. -/
def atItems (reading : Reading) (rune : Char) : Except Expectation Reading :=
  if Rune.isSeparator rune then .ok { reading with phase := .items }
  else if rune = Punctuation.openParen.rune then .ok { reading with phase := .receiver }
  else if Rune.startsIdentifier rune then .ok { reading with phase := .identifier [rune] }
  else
    match reading.enclosing with
    | [] => .error .name
    | _ :: outer =>
      if rune = Punctuation.closeBrace.rune then
        .ok { reading with phase := .itemEnd, enclosing := outer }
      else
        .error (.punctuation .closeBrace)

/-- A rune behind the definition of an item. -/
def atItemEnd (reading : Reading) (rune : Char) : Except Expectation Reading :=
  if Rune.isInlineWhiteSpace rune then .ok { reading with phase := .itemEnd }
  else if (scopeAt reading.enclosing.length).closes rune then reading.atItems rune
  else if Rune.isTerminator rune then .ok { reading with phase := .items }
  else .error .terminator

/-- A rune behind the name of an item. -/
def atDefinition (reading : Reading) (name : ItemName) (rune : Char) :
    Except Expectation Reading :=
  if Rune.isInlineWhiteSpace rune then .ok { reading with phase := .definition name }
  else if rune = Punctuation.openBrace.rune then
    if reading.enclosing.length < maxNesting then
      .ok { reading with phase := .items, enclosing := name :: reading.enclosing }
    else
      .error .shallowerNesting
  else if Rune.startsSignature rune && !(scopeAt reading.enclosing.length).closes rune then
    .ok { reading with phase := .signature name [rune] (bracesAfter rune 0) }
  else
    .error .signature

/-- A rune behind the type name of a receiver. -/
def atReceiverEnd (reading : Reading) (typeName : String) (rune : Char) :
    Except Expectation Reading :=
  if Rune.isWhiteSpace rune then .ok { reading with phase := .receiverEnd typeName }
  else if rune = Punctuation.closeParen.rune then
    .ok { reading with phase := .definition (.receiver typeName) }
  else
    .error (.punctuation .closeParen)

/-- Takes one rune, or tells what would have been taken in its place.  The rune
behind an identifier or a signature belongs to what follows. -/
def step (reading : Reading) (rune : Char) : Except Expectation Reading :=
  match reading.phase with
  | .items => reading.atItems rune
  | .identifier read =>
    if Rune.continuesIdentifier rune then
      .ok { reading with phase := .identifier (read ++ [rune]) }
    else
      reading.atDefinition (.plain (String.ofList read)) rune
  | .receiver =>
    if Rune.isWhiteSpace rune then .ok reading
    else if rune = Punctuation.star.rune then .ok { reading with phase := .pointer }
    else .error (.punctuation .star)
  | .pointer =>
    if Rune.isWhiteSpace rune then .ok reading
    else if Rune.startsIdentifier rune then .ok { reading with phase := .typeName [rune] }
    else .error .identifier
  | .typeName read =>
    if Rune.continuesIdentifier rune then
      .ok { reading with phase := .typeName (read ++ [rune]) }
    else
      reading.atReceiverEnd (String.ofList read) rune
  | .receiverEnd typeName => reading.atReceiverEnd typeName rune
  | .definition name => reading.atDefinition name rune
  | .signature name read braces =>
    if Rune.isTerminator rune ||
        (braces == 0 && (scopeAt reading.enclosing.length).closes rune) then
      (reading.addLeaf name read).atItemEnd rune
    else
      .ok { reading with phase := .signature name (read ++ [rune]) (bracesAfter rune braces) }
  | .itemEnd => reading.atItemEnd rune

/-- The leaves of a source that ends here.  It must not end inside a block, nor
in an item that has no definition yet. -/
def result? (reading : Reading) : Option (List Leaf) :=
  match reading.enclosing, reading.phase with
  | [], .items => some reading.leaves
  | [], .itemEnd => some reading.leaves
  | [], .signature name read _ => some (reading.addLeaf name read).leaves
  | _, _ => none

/-- Takes runes that stand at a position, up to the first one that is
refused. -/
def run (reading : Reading) (position : Position) : List Char → Except ParseError Reading
  | [] => .ok reading
  | rune :: rest =>
    match reading.step rune with
    | .ok next => next.run (position.after rune) rest
    | .error expected => .error (.unexpected { rune, position } expected)

/-- What is read from a source whose runes end at a position, and which may go
on with malformed bytes there. -/
def close (reading : Reading) (complete : Bool) (position : Position) :
    Except ParseError (List Leaf) :=
  if complete then
    match reading.result? with
    | some leaves => .ok leaves
    | none => .error (.truncated position)
  else
    .error (.malformed position)

/-- What a reading makes of all that follows a cursor. -/
def outcome (reading : Reading) (cursor : Cursor) : Except ParseError (List Leaf) :=
  match reading.run cursor.position cursor.runes with
  | .ok last => last.close cursor.complete (cursor.position.afterAll cursor.runes)
  | .error fault => .error fault

variable {reading : Reading} {cursor : Cursor}

/-- **Reading in two parts.**  Two texts are read one after the other. -/
theorem run_append (reading : Reading) (position : Position) (front back : List Char) :
    reading.run position (front ++ back) =
      (reading.run position front >>= fun middle =>
        middle.run (position.afterAll front) back) := by
  induction front generalizing reading position with
  | nil => rfl
  | cons rune rest ih =>
      simp only [List.cons_append, run, Position.afterAll_cons]
      cases reading.step rune with
      | error expected => rfl
      | ok next => exact ih next (position.after rune)

/-- What a reading makes of a token and of what follows it. -/
def take (reading : Reading) (token : Token) (after : Cursor) :
    Except ParseError (List Leaf) :=
  match reading.step token.rune with
  | .ok next => next.outcome after
  | .error expected => .error (.unexpected token expected)

theorem take_of_step_ok {next : Reading} {token : Token} (after : Cursor)
    (h : reading.step token.rune = .ok next) :
    reading.take token after = next.outcome after := by
  rw [take, h]

theorem take_of_step_error {expected : Expectation} {token : Token} (after : Cursor)
    (h : reading.step token.rune = .error expected) :
    reading.take token after = .error (.unexpected token expected) := by
  rw [take, h]

/-- Where a token follows, the reading takes it first. -/
theorem outcome_of_next_some {token : Token} {after : Cursor}
    (h : cursor.next = .ok (some (token, after))) :
    reading.outcome cursor = reading.take token after := by
  obtain ⟨runes, complete, position⟩ := cursor
  cases runes with
  | nil => cases complete <;> cases h
  | cons rune rest =>
      cases h
      simp only [outcome, run, take]
      cases reading.step rune <;> rfl

/-- At the end of the source, the reading has to be at an end as well. -/
theorem outcome_of_next_none (h : cursor.next = .ok none) :
    reading.outcome cursor = reading.close true cursor.position := by
  obtain ⟨runes, complete, position⟩ := cursor
  cases runes with
  | nil => cases complete <;> first | rfl | cases h
  | cons rune rest => cases h

/-- Malformed bytes are at fault in whatever phase they are met. -/
theorem outcome_of_next_error {fault : ParseError} (h : cursor.next = .error fault) :
    reading.outcome cursor = .error fault := by
  obtain ⟨runes, complete, position⟩ := cursor
  cases runes with
  | nil => cases complete <;> cases h; rfl
  | cons rune rest => cases h

/-- Inside an item a token has to follow, and the reading takes it. -/
theorem outcome_eq_require (hopen : reading.result? = none) :
    reading.outcome cursor = (cursor.require >>= fun (token, after) =>
      reading.take token after) := by
  rw [Cursor.require]
  cases hnext : cursor.next with
  | error fault => exact outcome_of_next_error hnext
  | ok step? =>
      cases step? with
      | none =>
          rw [outcome_of_next_none hnext, close, hopen]
          rfl
      | some step => exact outcome_of_next_some hnext

/-- A run of runes that each move the reading on by appending to what it holds
is taken as a whole. -/
theorem outcome_takeWhile {test : Char → Bool} {along : List Char → Reading}
    (hstep : ∀ read rune, test rune = true →
      (along read).step rune = .ok (along (read ++ [rune])))
    (read : List Char) (cursor : Cursor) :
    (along read).outcome cursor =
      (along (read ++ (cursor.takeWhile test).1)).outcome (cursor.takeWhile test).2 := by
  obtain ⟨runes, complete, position⟩ := cursor
  induction runes generalizing read position with
  | nil => simp [Cursor.takeWhile]
  | cons rune rest ih =>
      by_cases htest : test rune = true
      · have hnext : (Cursor.mk (rune :: rest) complete position).next =
            .ok (some ({ rune, position }, ⟨rest, complete, position.after rune⟩)) := rfl
        rw [outcome_of_next_some hnext, take_of_step_ok _ (hstep read rune htest)]
        simpa [Cursor.takeWhile, htest] using ih (read ++ [rune]) (position.after rune)
      · simp [Cursor.takeWhile, htest]

/-- Runes that leave the reading as it is can be skipped. -/
theorem outcome_skipWhile {test : Char → Bool}
    (hstay : ∀ rune, test rune = true → reading.step rune = .ok reading) (cursor : Cursor) :
    reading.outcome (cursor.skipWhile test) = reading.outcome cursor :=
  (@outcome_takeWhile test (fun _ => reading) (fun _ => hstay) [] cursor).symm

end Reading
end Source
end SymbolAnnotations
