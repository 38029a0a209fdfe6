/-!
# Readers

A reader takes a value off the front of a text, or fails. A failed reader takes nothing, so another one
can be tried in its place.
-/

namespace BatchTraversal

/-- Takes a value off the front of a text. -/
abbrev Reader := StateT (List Char) Option

namespace Reader

variable {α β : Type}

/-- A character of a class. -/
def char (p : Char → Bool) : Reader Char
  | c :: rest => if p c then some (c, rest) else none
  | [] => none

/-- A given character. -/
def one (c : Char) : Reader Unit := do let _ ← char (· == c)

/-- Given characters, one after the other. -/
def word : List Char → Reader Unit
  | [] => pure ()
  | c :: rest => do one c; word rest

/-- As many characters of a class as there are. -/
def span (p : Char → Bool) : Reader (List Char) := fun s => some (s.takeWhile p, s.dropWhile p)

/-- As many characters of a class as there are, at least one. -/
def span1 (p : Char → Bool) : Reader (List Char) := do
  let c ← char p
  return c :: (← span p)

/-- A fixed number of characters of a class. -/
def exactly (p : Char → Bool) : Nat → Reader (List Char)
  | 0 => pure []
  | n + 1 => do
    let c ← char p
    return c :: (← exactly p n)

/-- The end of the text. -/
def atEnd : Reader Unit
  | [] => some ((), [])
  | _ :: _ => none

/-- A value if there is one. -/
def maybe (r : Reader α) : Reader (Option α) := fun s =>
  match r s with
  | some (a, rest) => some (some a, rest)
  | none => some (none, s)

/-- A value that has to pass a test. -/
def refine (r : Reader α) (f : α → Option β) : Reader β := do
  let a ← r
  match f a with
  | some b => pure b
  | none => failure

/-- The values at the front of a text up to where there is none or where one takes nothing. -/
def takeMany (r : Reader α) (s : List Char) : List α × List Char :=
  match r s with
  | none => ([], s)
  | some (a, rest) =>
    if rest.length < s.length then
      let (more, rest) := takeMany r rest
      (a :: more, rest)
    else ([], s)
termination_by s.length

/-- As many values as there are. -/
def many (r : Reader α) : Reader (List α) := fun s => some (takeMany r s)

/-- One value or several ones with separators between them. -/
def separated1 (r : Reader α) (separator : Reader Unit) : Reader (List α) := do
  let first ← r
  let more ← many (do separator; r)
  return first :: more

/-- No value, one, or several ones with separators between them. -/
def separated (r : Reader α) (separator : Reader Unit) : Reader (List α) := do
  return (← maybe (separated1 r separator)).getD []

/-- The value that the whole text stands for. -/
def whole? (r : Reader α) (s : List Char) : Option α :=
  match r s with
  | some (a, []) => some a
  | _ => none

end Reader

end BatchTraversal
