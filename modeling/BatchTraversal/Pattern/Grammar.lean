import BatchTraversal.Pattern.Basic
import BatchTraversal.Text.Blank
import BatchTraversal.Text.Letter

/-!
# The grammar of patterns

A pattern is a text of branches with bars between them. A branch is a sequence of items, each with a
sign for repetition behind it or none: characters, sets in brackets, groups in parentheses, signs for
places and escapes. A group may begin with letters that turn modes on and off, for itself or for what
follows it in the group around it.

Groups, repetitions, sets, and what consists of several parts may be nested in one another up to a
limit (`depthLimit`). Nothing here knows the characters beyond ASCII by their kind. What would have to is
refused: classes such as the digits and letters of all scripts, their case, and words made of them. Where
the mode `wide` is off, classes hold characters of ASCII only, and they may not be complemented. Counts
in braces are refused as well.
-/

namespace BatchTraversal.Pattern

/-- The modes that letters turn on and off. -/
structure Mode where
  /-- `i`: letters stand for either case. -/
  caseless : Bool := false
  /-- `m`: the signs for start and end ask for those of a line. -/
  lines : Bool := false
  /-- `s`: the point stands for the end of a line too. -/
  dotAll : Bool := false
  /-- `U`: what is greedy and what is lazy change places. -/
  swapped : Bool := false
  /-- `u`: classes hold characters of all scripts. -/
  wide : Bool := true
  /-- `R`: a carriage return ends a line as well. -/
  returns : Bool := false
  /-- `x`: blanks and comments are passed over. -/
  spaced : Bool := false
  deriving DecidableEq, Repr

namespace Mode

/-- The mode with the one of a letter turned on or off. -/
def turn? (m : Mode) (on : Bool) : Char → Option Mode
  | 'i' => some { m with caseless := on }
  | 'm' => some { m with lines := on }
  | 's' => some { m with dotAll := on }
  | 'U' => some { m with swapped := on }
  | 'u' => some { m with wide := on }
  | 'R' => some { m with returns := on }
  | 'x' => some { m with spaced := on }
  | _ => none

/-- The text behind blanks and comments, where they are passed over. -/
def skip (m : Mode) (s : List Char) : List Char := if m.spaced then go false s else s
where
  go (comment : Bool) : List Char → List Char
    | [] => []
    | c :: rest =>
      if comment then go (c != '\n') rest
      else if c == '#' then go true rest
      else if Text.isBlank c then go false rest
      else c :: rest

/-- The letters for modes up to a colon or a closing parenthesis. A letter stands once, a minus sign
once and not in the last place; what is behind it is turned off. Answers also which of the two marks
ended the letters. -/
def readLetters (m : Mode) (on : Bool) (seen : List Char) :
    List Char → Option (Mode × Char × List Char)
  | [] => none
  | c :: rest =>
    if c == ':' || c == ')' then
      if seen.head? == some '-' || (c == ')' && seen.isEmpty) then none else some (m, c, rest)
    else if seen.contains c then none
    else if c == '-' then m.readLetters false ('-' :: seen) rest
    else (m.turn? on c).bind fun m => m.readLetters on (c :: seen) rest

/-- A set of characters named in the text, complemented or not; none if the mode refuses it. -/
def set? (m : Mode) (complemented : Bool) (s : CharSet) : Option CharSet :=
  if m.wide then
    if m.caseless then none else some (if complemented then .complement s else s)
  else if complemented then none
  else some (if m.caseless then .caseless s else s)

/-- What a point stands for. -/
def dot? (m : Mode) : Option CharSet :=
  if !m.wide then none
  else if m.dotAll then some .all
  else if m.returns then some (.complement (.union (.single '\n') (.single '\r')))
  else some (.complement (.single '\n'))

def start (m : Mode) : Look :=
  if m.lines then if m.returns then .anyLineStart else .lineStart else .textStart

def stop (m : Mode) : Look :=
  if m.lines then if m.returns then .anyLineEnd else .lineEnd else .textEnd

end Mode

/-! ## Escapes -/

/-- What an escape stands for. -/
inductive Escape where
  /-- A character; `isByte` if it is given by two digits, which may stand for a byte. -/
  | char (c : Char) (isByte : Bool)
  | set (s : CharSet)
  | look (l : Look)
  deriving DecidableEq, Repr

/-- The value of a digit to the base sixteen. -/
def hexDigit? (c : Char) : Option Nat :=
  if c.isDigit then some (c.toNat - '0'.toNat)
  else if 'a' ≤ c ∧ c ≤ 'f' then some (c.toNat - 'a'.toNat + 10)
  else if 'A' ≤ c ∧ c ≤ 'F' then some (c.toNat - 'A'.toNat + 10)
  else none

/-- A number of so many digits to the base sixteen, behind those of `value`. -/
def hexNumber? (m : Mode) : Nat → (value : Nat) → List Char → Option (Nat × List Char)
  | 0, value, s => some (value, s)
  | n + 1, value, s =>
    match m.skip s with
    | [] => none
    | c :: rest => (hexDigit? c).bind fun d => hexNumber? m n (16 * value + d) rest

/-- The character given by so many digits. -/
def coded? (m : Mode) (digits : Nat) (s : List Char) : Option (Escape × List Char) :=
  (hexNumber? m digits 0 s).bind fun (n, rest) =>
    if n.isValidChar then some (.char (Char.ofNat n) (digits == 2), m.skip rest) else none

/-- The characters that a letter stands for. -/
def control? : Char → Option Char
  | 'a' => some '\x07'
  | 'f' => some '\x0c'
  | 't' => some '\t'
  | 'n' => some '\n'
  | 'r' => some '\r'
  | 'v' => some '\x0b'
  | _ => none

/-- The place that a letter or an angle asks for. Words are known in ASCII only. -/
def place? (m : Mode) : Char → Option Look
  | 'A' => some .textStart
  | 'z' => some .textEnd
  | 'b' => if m.wide then none else some .wordEdge
  | 'B' => if m.wide then none else some .noWordEdge
  | '<' => if m.wide then none else some .wordStart
  | '>' => if m.wide then none else some .wordEnd
  | _ => none

/-- The class that a letter stands for. -/
def class? (m : Mode) (c : Char) : Option CharSet :=
  if m.wide then none
  else match c with
    | 'd' => m.set? false .digit
    | 's' => m.set? false .space
    | 'w' => m.set? false .word
    | _ => none

/-- What is escaped by a backslash. Every sign of ASCII but the angles stands for itself, while of
letters and digits only some stand for anything. -/
def escape? (m : Mode) : List Char → Option (Escape × List Char)
  | [] => none
  | 'x' :: rest => coded? m 2 rest
  | 'u' :: rest => coded? m 4 rest
  | 'U' :: rest => coded? m 8 rest
  | c :: rest =>
    match control? c, place? m c, class? m c with
    | some c, _, _ => some (.char c false, rest)
    | _, some l, _ => some (.look l, rest)
    | _, _, some s => some (.set s, rest)
    | _, _, _ =>
      if c.isAlphanum || c == '<' || c == '>' || 0x80 ≤ c.toNat then none
      else some (.char c false, rest)

/-! ## Sets in brackets -/

/-- The ways to combine the sets in a bracket. -/
inductive Combination where
  | intersection
  | without
  | difference
  deriving DecidableEq, Repr

/-- Something read, and how deep it is nested. -/
structure Nested (α : Type) where
  value : α
  depth : Nat := 0

/-- What has been read of a bracket since it began or since sets were last combined. -/
structure Members where
  set : CharSet := .empty
  count : Nat := 0
  depth : Nat := 0

namespace Members

/-- One more member. -/
def add (u : Members) (s : Nested CharSet) : Members :=
  { set := .union u.set s.value, count := u.count + 1, depth := max u.depth s.depth }

/-- The members as one set. Several members are nested in their union. -/
def joined (u : Members) : Nested CharSet :=
  { value := u.set, depth := if u.count ≤ 1 then u.depth else u.depth + 1 }

/-- The members combined with the set in front of them. -/
def combined (u : Members) (before : Option (Nested CharSet × Combination)) : Nested CharSet :=
  let s := u.joined
  match before with
  | none => s
  | some (a, way) =>
    { value := match way with
        | .intersection => .both a.value s.value
        | .without => .without a.value s.value
        | .difference => .difference a.value s.value
      depth := max a.depth s.depth + 1 }

end Members

/-- The set of a character in brackets. -/
def member? (m : Mode) (c : Char) : Option CharSet :=
  if !m.wide && 0x80 ≤ c.toNat then none else some (.single c)

/-- A character or an escape in brackets. -/
def bracketItem? (m : Mode) : List Char → Option (Escape × List Char)
  | [] => none
  | '\\' :: rest => escape? m rest
  | c :: rest => some (.char c false, rest)

/-- Whether a minus sign in front of a text makes a range. -/
def isRange (m : Mode) (s : List Char) : Bool :=
  match m.skip s with
  | ']' :: _ | '-' :: _ => false
  | _ => true

/-- A character, a range or a class in brackets. -/
def bracketRange? (m : Mode) (s : List Char) : Option (CharSet × List Char) := do
  let (first, s) ← bracketItem? m s
  match m.skip s, first with
  | '-' :: rest, .char first _ =>
    if isRange m rest then
      let (last, rest) ← bracketItem? m (m.skip rest)
      match last with
      | .char last _ =>
        let _ ← member? m first
        let _ ← member? m last
        if first ≤ last then some (.range first last, rest) else none
      | _ => none
    else (member? m first).map (·, '-' :: rest)
  | s, .char c _ => (member? m c).map (·, s)
  | '-' :: rest, .set set => if isRange m rest then none else some (set, '-' :: rest)
  | s, .set set => some (set, s)
  | _, .look _ => none

/-- A class with a name, behind the bracket that opens it. -/
def namedSet? (m : Mode) (s : List Char) : Option (Option CharSet × List Char) :=
  match s with
  | ':' :: s =>
    let (complemented, s) := match s with
      | '^' :: s => (true, s)
      | s => (false, s)
    match s.dropWhile (· != ':') with
    | ':' :: ']' :: rest =>
      (CharSet.named? (String.ofList (s.takeWhile (· != ':')))).map fun set =>
        (m.set? complemented set, rest)
    | _ => none
  | _ => none

/-- The minus signs at the front, as members of a set, and the text behind them. -/
def dashes (m : Mode) (s : List Char) : Members × List Char :=
  let isDash (c : Char) : Bool := c == '-' || (m.spaced && Text.isBlank c)
  let count := ((s.takeWhile isDash).filter (· == '-')).length
  ({ set := if count = 0 then .empty else .single '-', count }, m.skip (s.dropWhile isDash))

mutual

/-- A set, behind the bracket that opens it. It is complemented behind a caret. Minus signs in front and a
closing bracket in the first place are characters of the set. -/
def bracket? (m : Mode) : (fuel : Nat) → List Char → Option (Nested CharSet × List Char)
  | 0, _ => none
  | fuel + 1, s =>
    let (complemented, s) := match m.skip s with
      | '^' :: s => (true, m.skip s)
      | s => (false, s)
    let (union, s) := match dashes m s with
      | ({ count := 0, .. }, ']' :: s) => ({ set := .single ']', count := 1 }, m.skip s)
      | (union, s) => (union, s)
    (members? m fuel none union s).bind fun (inner, s) =>
      (m.set? complemented inner.value).map fun value =>
        ({ value, depth := inner.depth + 1 }, s)

/-- The rest of a set, with what stands in front of it: a set with the way to combine it, and the members
since then. -/
def members? (m : Mode) : (fuel : Nat) → Option (Nested CharSet × Combination) → Members →
    List Char → Option (Nested CharSet × List Char)
  | 0, _, _, _ => none
  | fuel + 1, before, union, s =>
    match m.skip s with
    | [] => none
    | ']' :: rest => some (union.combined before, rest)
    | '[' :: rest =>
      match namedSet? m rest with
      | some (set, rest) =>
        set.bind fun value => members? m fuel before (union.add { value }) rest
      | none =>
        (bracket? m fuel rest).bind fun (set, rest) => members? m fuel before (union.add set) rest
    | '&' :: '&' :: rest =>
      members? m fuel (some (union.combined before, .intersection)) {} rest
    | '-' :: '-' :: rest => members? m fuel (some (union.combined before, .without)) {} rest
    | '~' :: '~' :: rest => members? m fuel (some (union.combined before, .difference)) {} rest
    | s =>
      (bracketRange? m s).bind fun (value, rest) =>
        members? m fuel before (union.add { value }) rest

end

/-! ## Branches -/

/-- The pattern of a single character. -/
def literal? (m : Mode) (c : Char) (isByte : Bool) : Option Pattern :=
  if !m.caseless then
    if !m.wide && isByte && 0x80 ≤ c.toNat then none else some (.one (.single c))
  else if m.wide || (isByte && 0x80 ≤ c.toNat) then none
  else some (.one (.caseless (.single c)))

/-- The pattern of an escape. -/
def escaped? (m : Mode) : Escape → Option Pattern
  | .char c isByte => literal? m c isByte
  | .set s => some (.one s)
  | .look l => some (.look l)

/-- What has been read of a branch, the last item first; where modes were changed there is no item that
could be repeated. -/
abbrev Items := List (Option (Nested Pattern))

namespace Items

/-- One more item that is not nested. -/
def add (items : Items) (value : Pattern) : Items := some { value } :: items

/-- The items one after the other. Several items are nested in their sequence. -/
def joined (items : Items) : Nested Pattern :=
  let depth := items.foldl (fun depth item => max depth (item.elim 0 (·.depth))) 0
  { value := items.foldl (fun p item => match item with
      | none => p
      | some q => if p = .empty then q.value else .seq q.value p) .empty
    depth := if items.length ≤ 1 then depth else depth + 1 }

end Items

/-- The last item repeated, as the sign says that stands behind it; a question mark behind the sign makes
it lazy. -/
def repeated? (m : Mode) (sign : Char) (items : Items) (s : List Char) :
    Option (Items × List Char) :=
  match items with
  | some p :: items =>
    let (lazy, s) := match s with
      | '?' :: s => (true, s)
      | s => (false, s)
    let greedy := lazy == m.swapped
    let value : Pattern := match sign with
      | '?' => .maybe greedy p.value
      | '*' => .star greedy p.value
      | _ => .many greedy p.value
    some (some { value, depth := p.depth + 1 } :: items, s)
  | _ => none

/-- The name of a group up to the angle that ends it: letters, digits and some marks. -/
def groupName? (s : List Char) : Option (String × List Char) :=
  let isInner (c : Char) : Bool :=
    c == '_' || c == '.' || c == '[' || c == ']' || Text.isAlphanumeric c
  match s with
  | c :: _ =>
    if c == '_' || Text.isLetter c then
      match s.dropWhile isInner with
      | '>' :: rest => some (String.ofList (s.takeWhile isInner), rest)
      | _ => none
    else none
  | [] => none

/-- How a parenthesis goes on. -/
inductive Opening where
  | group (m : Mode)
  | named (name : String)
  /-- The modes for the rest of the group around it. -/
  | change (m : Mode)
  deriving DecidableEq, Repr

/-- How a group begins, behind its parenthesis. What looks ahead or behind is refused. -/
def opening? (m : Mode) (s : List Char) : Option (Opening × List Char) :=
  match m.skip s with
  | '?' :: 'P' :: '<' :: rest => (groupName? rest).map fun (name, rest) => (.named name, rest)
  | '?' :: '<' :: rest => (groupName? rest).map fun (name, rest) => (.named name, rest)
  | '?' :: rest =>
    (m.readLetters true [] rest).map fun (m, mark, rest) =>
      (if mark == ':' then .group m else .change m, rest)
  | s => some (.group m, s)

/-- Where the reading of branches stands: the modes, and the names of the groups so far, which are all
different. -/
structure Setting where
  mode : Mode := {}
  names : List String := []

mutual

/-- Branches up to a closing parenthesis or the end, behind some others. Several branches are nested in
their alternation. -/
def branches? : (fuel : Nat) → Setting → List (Nested Pattern) → List Char →
    Option (Nested Pattern × Setting × List Char)
  | 0, _, _, _ => none
  | fuel + 1, here, before, s =>
    (items? fuel here [] s).bind fun (p, here, s) =>
      match s, before with
      | '|' :: rest, _ => branches? fuel here (p :: before) rest
      | _, [] => some (p, here, s)
      | _, _ =>
        let depth := before.foldl (fun depth q => max depth q.depth) p.depth
        let value := before.foldl (fun p q => .alt q.value p) p.value
        some ({ value, depth := depth + 1 }, here, s)

/-- The rest of a branch, behind some items. -/
def items? : (fuel : Nat) → Setting → Items → List Char →
    Option (Nested Pattern × Setting × List Char)
  | 0, _, _, _ => none
  | fuel + 1, here, items, s =>
    let m := here.mode
    match m.skip s with
    | [] => some (items.joined, here, [])
    | c :: rest =>
      match c with
      | ')' | '|' => some (items.joined, here, c :: rest)
      | '?' | '*' | '+' =>
        (repeated? m c items rest).bind fun (items, rest) => items? fuel here items rest
      | '(' =>
        (opening? m rest).bind fun (opening, rest) =>
          match opening with
          | .change mode => items? fuel { here with mode } (none :: items) rest
          | .group mode => group? fuel { here with mode } m items rest
          | .named name =>
            if here.names.contains name then none
            else group? fuel { here with names := name :: here.names } m items rest
      | '[' =>
        (bracket? m (2 * rest.length + 2) rest).bind fun (set, rest) =>
          items? fuel here (some { value := .one set.value, depth := set.depth } :: items) rest
      | '.' => m.dot?.bind fun set => items? fuel here (items.add (.one set)) rest
      | '^' => items? fuel here (items.add (.look m.start)) rest
      | '$' => items? fuel here (items.add (.look m.stop)) rest
      | '\\' =>
        (escape? m rest).bind fun (escape, rest) =>
          (escaped? m escape).bind fun p => items? fuel here (items.add p) rest
      | _ =>
        if c == '\x7b' then none
        else (literal? m c false).bind fun p => items? fuel here (items.add p) rest

/-- A group up to its closing parenthesis, and the rest of the branch around it in its own modes. -/
def group? : (fuel : Nat) → Setting → (outer : Mode) → Items → List Char →
    Option (Nested Pattern × Setting × List Char)
  | 0, _, _, _, _ => none
  | fuel + 1, here, outer, items, s =>
    (branches? fuel here [] s).bind fun (p, here, s) =>
      match s with
      | ')' :: rest =>
        let item : Nested Pattern := { p with depth := p.depth + 1 }
        items? fuel { here with mode := outer } (some item :: items) rest
      | _ => none

end

/-- How deep a pattern may be nested. -/
def depthLimit : Nat := 250

/-- The pattern that a text writes. Every character takes at most three steps. -/
def parse? (text : String) : Option Pattern :=
  let s := text.toList
  match branches? (3 * s.length + 2) {} [] s with
  | some (p, _, []) => if p.depth ≤ depthLimit then some p.value else none
  | _ => none

end BatchTraversal.Pattern
