/-!
# Sets of characters

The sets that a pattern writes between brackets: single characters and ranges, joined, intersected,
taken away from one another and complemented. Membership is read off the way a set is written
(`CharSet.contains`).
-/

namespace BatchTraversal

/-- A set of characters. -/
inductive CharSet where
  | empty
  /-- The characters from `first` to `last`, both included. -/
  | range (first last : Char)
  | union (a b : CharSet)
  | both (a b : CharSet)
  | without (a b : CharSet)
  | complement (a : CharSet)
  /-- A set with the letters of ASCII in either case as soon as it has them in one. -/
  | caseless (a : CharSet)
  deriving DecidableEq, Repr

namespace CharSet

/-- A letter of ASCII in its other case; any other character is itself. -/
def otherCase (c : Char) : Char := if c.isUpper then c.toLower else c.toUpper

/-- Whether a character is in the set. -/
def contains : CharSet → Char → Bool
  | empty, _ => false
  | range first last, c => first ≤ c && c ≤ last
  | union a b, c => a.contains c || b.contains c
  | both a b, c => a.contains c && b.contains c
  | without a b, c => a.contains c && !b.contains c
  | complement a, c => !a.contains c
  | caseless a, c => a.contains c || a.contains (otherCase c)

/-- The set of one character. -/
def single (c : Char) : CharSet := range c c

/-- The set of all characters. -/
def all : CharSet := complement empty

/-- The characters that are in one of two sets only. -/
def difference (a b : CharSet) : CharSet := union (without a b) (without b a)

/-- The union of some ranges. -/
def ofRanges (ranges : List (Char × Char)) : CharSet :=
  ranges.foldl (fun s r => union s (range r.1 r.2)) empty

/-! ## Sets with a name -/

def digit : CharSet := range '0' '9'

def upper : CharSet := range 'A' 'Z'

def lower : CharSet := range 'a' 'z'

def alpha : CharSet := union upper lower

def alnum : CharSet := union digit alpha

/-- Letters, digits and the low line. -/
def word : CharSet := union alnum (single '_')

/-- The blanks of ASCII: the space and the characters from the tab to the carriage return. -/
def space : CharSet := union (range '\t' '\r') (single ' ')

/-- The set that has a name between colons. All of them hold characters of ASCII only. -/
def named? : String → Option CharSet
  | "alnum" => some alnum
  | "alpha" => some alpha
  | "ascii" => some (range '\x00' '\x7f')
  | "blank" => some (union (single '\t') (single ' '))
  | "cntrl" => some (union (range '\x00' '\x1f') (single '\x7f'))
  | "digit" => some digit
  | "graph" => some (range '!' '~')
  | "lower" => some lower
  | "print" => some (range ' ' '~')
  | "punct" => some (without (range '!' '~') alnum)
  | "space" => some space
  | "upper" => some upper
  | "word" => some word
  | "xdigit" => some (ofRanges [('0', '9'), ('A', 'F'), ('a', 'f')])
  | _ => none

end CharSet

end BatchTraversal
