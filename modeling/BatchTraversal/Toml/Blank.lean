import BatchTraversal.Text.Reader

/-!
# Space between the parts of a TOML document

Blanks, comments and the ends of lines. Control characters other than the tabulator are not allowed
anywhere in a document.
-/

namespace BatchTraversal.Toml

open Reader

/-- Whether a character may stand in a comment: everything but control characters, the tabulator
excepted. -/
def isPlain (c : Char) : Bool := c == '\t' || (0x20 ≤ c.toNat && c.toNat != 0x7F)

def isBlank (c : Char) : Bool := c == ' ' || c == '\t'

/-- Blanks, if there are any. -/
def blanks : Reader Unit := do let _ ← span isBlank

/-- The end of a line, with or without a carriage return. -/
def newline : Reader Unit := one '\n' <|> word ['\r', '\n']

/-- A comment up to the end of its line. -/
def comment : Reader Unit := do
  one '#'
  let _ ← span isPlain

/-- The end of a line or of the document. -/
def lineEnd : Reader Unit := newline <|> atEnd

/-- What may stand behind the last part of a line. -/
def lineRest : Reader Unit := do
  blanks
  let _ ← maybe comment
  lineEnd

/-- Blanks, comments and ends of lines, if there are any. -/
def space : Reader Unit := do
  let _ ← many ((do let _ ← span1 isBlank) <|> newline <|> comment)

end BatchTraversal.Toml
