import BatchTraversal.Pattern.CharSet

/-!
# Patterns

A pattern says what a stretch of text looks like. Where several stretches fit, a pattern prefers one of
them: the first branch before the second, one more repetition before none, or the other way round if it
is lazy.
-/

namespace BatchTraversal

/-- What a pattern asks of a place between two characters. -/
inductive Look where
  | textStart
  | textEnd
  /-- The start of a line that a line feed ends. -/
  | lineStart
  | lineEnd
  /-- The start of a line that a line feed, a carriage return or both end. -/
  | anyLineStart
  | anyLineEnd
  /-- A word begins or ends. -/
  | wordEdge
  | noWordEdge
  | wordStart
  | wordEnd
  deriving DecidableEq, Repr

namespace Look

/-- Whether there is a letter, a digit or a low line of ASCII. -/
def isWord (c : Option Char) : Bool := c.any CharSet.word.contains

/-- Whether it is so between two characters, the first one being missing at the start of the text and the
second one at its end. A carriage return and a line feed behind it are not parted. -/
def holds (behind ahead : Option Char) : Look → Bool
  | textStart => behind.isNone
  | textEnd => ahead.isNone
  | lineStart => behind.all (· == '\n')
  | lineEnd => ahead.all (· == '\n')
  | anyLineStart => behind.all fun c => c == '\n' || (c == '\r' && ahead != some '\n')
  | anyLineEnd => ahead.all fun c => c == '\r' || (c == '\n' && behind != some '\r')
  | wordEdge => isWord behind != isWord ahead
  | noWordEdge => isWord behind == isWord ahead
  | wordStart => !isWord behind && isWord ahead
  | wordEnd => isWord behind && !isWord ahead

end Look

/-- A pattern. -/
inductive Pattern where
  /-- No character. -/
  | empty
  /-- One character of a set. -/
  | one (s : CharSet)
  /-- No character, at a place of a kind. -/
  | look (l : Look)
  | seq (first second : Pattern)
  | alt (first second : Pattern)
  /-- Once or not at all; `greedy` prefers once. -/
  | maybe (greedy : Bool) (p : Pattern)
  /-- Once or more often; `greedy` prefers more often. -/
  | many (greedy : Bool) (p : Pattern)
  deriving DecidableEq, Repr

namespace Pattern

/-- Any number of times, none included. -/
def star (greedy : Bool) (p : Pattern) : Pattern := maybe greedy (many greedy p)

end Pattern

end BatchTraversal
