import BatchTraversal.Pattern.Basic

/-!
# Searching for a pattern

A pattern is searched for by a machine whose threads read a text together, one character at a time. The
threads are kept in the order in which the pattern prefers them, no two of them at the same step; those
behind a thread that has found a match are given up. So the match found is the leftmost one that the
pattern prefers, and a text is accepted (`Pattern.reachesEnd`) when that match ends where the text ends.
-/

namespace BatchTraversal

/-- A step of a machine. Steps are named by their places in the machine. -/
inductive Step where
  /-- Reads a character of a set. -/
  | read (s : CharSet) (next : Nat)
  /-- Goes on at two steps, of which the first one is preferred. -/
  | fork (first second : Nat)
  /-- Goes on where something holds. -/
  | check (l : Look) (next : Nat)
  /-- A match has been found. -/
  | accept
  deriving DecidableEq, Repr

namespace Step

def isAccept : Step → Bool
  | accept => true
  | _ => false

/-- A fork that prefers to go on if it is greedy, and to stop otherwise. -/
def choice (greedy : Bool) (goOn stop : Nat) : Step :=
  if greedy then fork goOn stop else fork stop goOn

end Step

/-- Adds the steps that read a pattern and go on at `next`. Answers where they begin. -/
def Pattern.assemble : Pattern → (next : Nat) → Array Step → Nat × Array Step
  | empty, next, steps => (next, steps)
  | one s, next, steps => (steps.size, steps.push (.read s next))
  | look l, next, steps => (steps.size, steps.push (.check l next))
  | seq p q, next, steps =>
    let (start, steps) := q.assemble next steps
    p.assemble start steps
  | alt p q, next, steps =>
    let (second, steps) := q.assemble next steps
    let (first, steps) := p.assemble next steps
    (steps.size, steps.push (.fork first second))
  | maybe greedy p, next, steps =>
    let (start, steps) := p.assemble next steps
    (steps.size, steps.push (.choice greedy start next))
  | many greedy p, next, steps =>
    let again := steps.size
    let (start, steps) := p.assemble again (steps.push .accept)
    (start, steps.setIfInBounds again (.choice greedy start next))

/-- A machine. -/
structure Machine where
  start : Nat
  steps : Array Step
  deriving DecidableEq, Repr

namespace Machine

/-- The machine that searches for a pattern from the start of a text on, and prefers to find it early. -/
def of (p : Pattern) : Machine :=
  let (start, steps) := (Pattern.seq (.star false (.one .all)) p).assemble 0 #[.accept]
  { start, steps }

/-- The steps that threads at some steps get to without reading, in order, behind those already got to.
Where a thread comes to a step that another one has got to, it ends. -/
def spread (m : Machine) (holds : Look → Bool) :
    (fuel : Nat) → (threads got : List Nat) → List Nat
  | 0, _, got => got
  | _, [], got => got
  | fuel + 1, t :: threads, got =>
    if got.contains t then m.spread holds fuel threads got
    else
      let got := got ++ [t]
      match m.steps[t]? with
      | some (.fork first second) => m.spread holds fuel (first :: second :: threads) got
      | some (.check l next) =>
        if holds l then m.spread holds fuel (next :: threads) got
        else m.spread holds fuel threads got
      | _ => m.spread holds fuel threads got

/-- The threads between two characters. Every step adds at most two threads, once. -/
def between (m : Machine) (behind ahead : Option Char) (threads : List Nat) : List Nat :=
  m.spread (Look.holds behind ahead) (threads.length + 2 * m.steps.size) threads []

/-- Whether a thread has found a match. -/
def hasFound (m : Machine) (t : Nat) : Bool := m.steps[t]?.any Step.isAccept

/-- Where a thread goes on behind a character, if it can read that. -/
def goOn? (m : Machine) (c : Char) (t : Nat) : Option Nat :=
  match m.steps[t]? with
  | some (.read s next) => if s.contains c then some next else none
  | _ => none

/-- Whether a thread has found a match at the end of the text, when all the threads have read the rest of
it. -/
def endsIn (m : Machine) (behind : Option Char) (threads : List Nat) : List Char → Bool
  | [] => (m.between behind none threads).any m.hasFound
  | c :: rest =>
    let live := (m.between behind (some c) threads).takeWhile (!m.hasFound ·)
    m.endsIn (some c) (live.filterMap (m.goOn? c)) rest

end Machine

/-- Whether the leftmost match of a pattern in a text ends where the text ends. -/
def Pattern.reachesEnd (p : Pattern) (text : String) : Bool :=
  let m := Machine.of p
  m.endsIn none [m.start] text.toList

end BatchTraversal
