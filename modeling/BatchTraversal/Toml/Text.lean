import BatchTraversal.Toml.Blank

/-!
# TOML strings

A string is basic, between quotation marks and with escapes, or literal, between apostrophes and
without. Either may be written between three marks instead of one, and may then run over several lines:
an end of line right after the opening marks does not count, one or two marks may stand in the string,
also right before the closing ones, and in a basic string a backslash at the end of a line takes away
all the space that follows.
-/

namespace BatchTraversal.Toml

open Reader

/-- The value of a hexadecimal digit. -/
def hexDigit? (c : Char) : Option Nat :=
  if c.isDigit then some (c.toNat - '0'.toNat)
  else if 'a' ≤ c ∧ c ≤ 'f' then some (c.toNat - 'a'.toNat + 10)
  else if 'A' ≤ c ∧ c ≤ 'F' then some (c.toNat - 'A'.toNat + 10)
  else none

/-- The number that hexadecimal digits write. -/
def hexValue (digits : List Char) : Nat :=
  digits.foldl (fun n c => 16 * n + (hexDigit? c).getD 0) 0

/-- The character with a code point, if there is one. -/
def charOf? (n : Nat) : Option Char := if n.isValidChar then some (Char.ofNat n) else none

/-- A character given by so many hexadecimal digits. -/
def hexEscape (digits : Nat) : Reader Char :=
  refine (exactly (fun c => (hexDigit? c).isSome) digits) fun ds => charOf? (hexValue ds)

/-- What an escape stands for, after its backslash. -/
def escape : Reader Char := do
  match ← char fun _ => true with
  | 'b' => return '\x08'
  | 't' => return '\t'
  | 'n' => return '\n'
  | 'f' => return '\x0c'
  | 'r' => return '\r'
  | '"' => return '"'
  | '\\' => return '\\'
  | 'u' => hexEscape 4
  | 'U' => hexEscape 8
  | _ => failure

/-- A piece of a basic string. -/
def basicPiece : Reader (List Char) :=
  span1 (fun c => isPlain c && c != '"' && c != '\\') <|>
    (do one '\\'; return [← escape])

def basicString : Reader String := do
  one '"'
  let pieces ← many basicPiece
  one '"'
  return String.ofList pieces.flatten

def literalString : Reader String := do
  one '\''
  let text ← span fun c => isPlain c && c != '\''
  one '\''
  return String.ofList text

/-- A backslash at the end of a line with the space that it takes away. -/
def continuation : Reader (List Char) := do
  one '\\'
  blanks
  newline
  let _ ← many ((do let _ ← span1 isBlank) <|> newline)
  return []

/-- The end of a line in a string. -/
def lineBreak : Reader (List Char) := do
  newline
  return ['\n']

/-- Marks that stand in a string: one or two, with something other than a mark behind them. -/
def innerMarks (mark : Char) : Reader (List Char) := do
  let marks ← span1 (· == mark)
  if marks.length ≤ 2 then return marks else failure

/-- The marks at the end of a string of several lines: those that belong to it, up to two, and the
three closing ones. -/
def closingMarks (mark : Char) : Reader (List Char) := do
  let marks ← span1 (· == mark)
  if 3 ≤ marks.length ∧ marks.length ≤ 5 then return marks.drop 3 else failure

/-- A string of several lines made of some pieces. -/
def multiline (mark : Char) (piece : Reader (List Char)) : Reader String := do
  word [mark, mark, mark]
  let _ ← maybe newline
  let pieces ← many (piece <|> innerMarks mark)
  let marks ← closingMarks mark
  return String.ofList (pieces.flatten ++ marks)

def multilineBasic : Reader String := multiline '"' (continuation <|> basicPiece <|> lineBreak)

def multilineLiteral : Reader String :=
  multiline '\'' (span1 (fun c => isPlain c && c != '\'') <|> lineBreak)

/-- A string of any of the four forms. -/
def text : Reader String := multilineBasic <|> basicString <|> multilineLiteral <|> literalString

end BatchTraversal.Toml
