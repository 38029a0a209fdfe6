import BatchTraversal.Text.Hidden

/-!
# Quoted texts

A message shows a text it complains about in double quotes. A quote and a backslash in it are
preceded by a backslash, the usual control characters have a letter, and a character without a glyph
of its own is written by its code point (`\u{301}`), so that what is shown can be read off exactly.
-/

namespace BatchTraversal.Text

/-- How one character is written between quotes. -/
def quotedChar (c : Char) : List Char :=
  match c with
  | '\x00' => ['\\', '0']
  | '\t' => ['\\', 't']
  | '\r' => ['\\', 'r']
  | '\n' => ['\\', 'n']
  | '"' => ['\\', '"']
  | '\\' => ['\\', '\\']
  | _ => if isHidden c then ['\\', 'u', '\x7b'] ++ Nat.toDigits 16 c.toNat ++ ['\x7d'] else [c]

/-- A text between double quotes. -/
def quoted (s : String) : String :=
  "\"" ++ String.ofList (s.toList.flatMap quotedChar) ++ "\""

/-- Texts with a comma between each two. -/
def separated (items : List String) : String := ", ".intercalate items

/-- A list of quoted texts in square brackets. -/
def quotedList (items : List String) : String := "[" ++ separated (items.map quoted) ++ "]"

/-- A set of quoted texts in braces. -/
def quotedSet (items : List String) : String := "\x7b" ++ separated (items.map quoted) ++ "\x7d"

/-- A value shown by the name of its kind and its labelled fields: `Point { x: 1, y: 2 }`. -/
def labelled (kind : String) (fields : List (String × String)) : String :=
  kind ++ " \x7b " ++ separated (fields.map fun f => f.1 ++ ": " ++ f.2) ++ " \x7d"

/-- A truth value in words. -/
def truth (b : Bool) : String := if b then "true" else "false"

end BatchTraversal.Text
