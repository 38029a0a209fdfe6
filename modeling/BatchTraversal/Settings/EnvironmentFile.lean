import BatchTraversal.Settings.Environment
import BatchTraversal.Text.Blank
import BatchTraversal.Text.Letter

/-!
# Environment files

A file of `NAME=value` lines that adds variables to an environment; a variable that is set already keeps
its value. A value may be between quotation marks, in which escapes and references to variables count,
or between apostrophes, in which they do not; a quoted value may run over several lines. A reference is
a dollar sign with the letters and digits of a name, or with a name in braces. A number sign begins a
comment where a line or a blank comes before it. The first line that cannot be read ends the file.
-/

namespace BatchTraversal.EnvironmentFile

/-! ## Lines -/

/-- Where in a line a character stands. -/
inductive Place where
  | plain
  /-- After a blank outside quotes. -/
  | blank
  /-- After a backslash outside quotes. -/
  | escaped
  /-- Between quotation marks. -/
  | quoted
  /-- After a backslash between quotation marks. -/
  | quotedEscaped
  /-- Between apostrophes. -/
  | literal
  /-- After a backslash between apostrophes. -/
  | literalEscaped
  deriving DecidableEq, Repr

namespace Place

/-- The place of a character outside quotes. -/
def outside (c : Char) : Place :=
  if c = '\\' then escaped
  else if c = '"' then quoted
  else if c = '\'' then literal
  else plain

/-- The place after one more character. -/
def next (c : Char) : Place → Place
  | plain => if Text.isBlank c && c != '\n' && c != '\r' then blank else outside c
  | blank => outside c
  | escaped => plain
  | quoted => if c = '\\' then quotedEscaped else if c = '"' then plain else quoted
  | quotedEscaped => quoted
  | literal => if c = '\\' then literalEscaped else if c = '\'' then plain else literal
  | literalEscaped => literal

/-- The place at the end of a piece of text, or the text in front of a comment. -/
def scan : Place → List Char → Place ⊕ List Char
  | place, [] => .inl place
  | place, c :: rest =>
    if place = blank && c = '#' then .inr []
    else match scan (place.next c) rest with
      | .inl place => .inl place
      | .inr before => .inr (c :: before)

end Place

/-- The pieces of a text up to and with every end of line. -/
def pieces : List Char → List (List Char)
  | [] => []
  | c :: rest =>
    if c = '\n' then [c] :: pieces rest
    else match pieces rest with
      | [] => [[c]]
      | p :: more => (c :: p) :: more

/-- A line without its end. -/
def withoutEnd (cs : List Char) : List Char :=
  match cs.reverse with
  | '\n' :: '\r' :: rest | '\n' :: rest => rest.reverse
  | _ => cs

/-- The lines of a file, from the pieces that are left. A quoted value joins pieces. A file that ends
within a line loses that line. -/
def joined (place : Place) (before : List Char) : List (List Char) → List (List Char)
  | [] => []
  | piece :: rest =>
    let all := before ++ piece
    if (all.dropWhile Text.isBlank).head? = some '#' then [] :: joined .plain [] rest
    else match place.scan piece with
      | .inr front => (before ++ front) :: joined .plain [] rest
      | .inl .plain => withoutEnd all :: joined .plain [] rest
      | .inl place => joined place all rest

/-- The lines of a file. -/
def lines (source : List Char) : List (List Char) := joined .plain [] (pieces source)

/-! ## Values -/

/-- What a value has been read to. -/
structure Draft where
  /-- The characters read, the last one first. -/
  output : List Char := []
  literal : Bool := false
  quoted : Bool := false
  escaped : Bool := false
  /-- The value is over, only a comment may follow. -/
  ended : Bool := false
  /-- The reference under way: whether its name is in braces, and the characters of the name, the last
  one first. -/
  reference : Option (Bool × List Char) := none

namespace Draft

def push (d : Draft) (c : Char) : Draft := { d with output := c :: d.output }

/-- Ends a reference: the value of the variable takes its place. -/
def resolve (env : Environment) (d : Draft) (name : List Char) : Draft :=
  let value := (env.lookup (String.ofList name.reverse)).getD ""
  { d with output := value.toList.reverse ++ d.output, reference := none }

/-- One more character; none if it may not stand there. -/
def add (env : Environment) (d : Draft) (c : Char) : Option Draft :=
  if d.ended then if c = ' ' ∨ c = '\t' then some d else none
  else if d.escaped then
    if ['\\', '\'', '"', '$', ' '].contains c then some { d.push c with escaped := false }
    else if c = 'n' then some { d.push '\n' with escaped := false }
    else none
  else if d.literal then
    some (if c = '\'' then { d with literal := false } else d.push c)
  else
    match d.reference with
    | some (true, name) =>
      some (if c = '}' then d.resolve env name else { d with reference := some (true, c :: name) })
    | some (false, name) =>
      if Text.isAlphanumeric c then some { d with reference := some (false, c :: name) }
      else if c = '{' && name.isEmpty then some { d with reference := some (true, []) }
      else
        let d := d.resolve env name
        some (if c = '$' then { d with reference := some (false, []) } else d.push c)
    | none =>
      if c = '$' then some { d with reference := some (false, []) }
      else if c = '\\' then some { d with escaped := true }
      else if c = '"' then some { d with quoted := !d.quoted }
      else if d.quoted then some (d.push c)
      else if c = '\'' then some { d with literal := true }
      else if c = ' ' ∨ c = '\t' then some { d with ended := true }
      else some (d.push c)

/-- Reads the characters of a value, up to a comment behind it. -/
def addAll (env : Environment) (d : Draft) : List Char → Option Draft
  | [] => some d
  | c :: rest =>
    if d.ended && c = '#' then some d
    else (d.add env c).bind fun d => d.addAll env rest

/-- The value, if all that was opened is closed. -/
def close? (env : Environment) (d : Draft) : Option String :=
  if d.literal || d.quoted then none
  else match d.reference with
    | some (true, _) => none
    | some (false, name) => some (String.ofList (d.resolve env name).output.reverse)
    | none => some (String.ofList d.output.reverse)

end Draft

/-! ## Assignments -/

/-- Splits a name off. -/
def name? (cs : List Char) : Option (String × List Char) :=
  let isInner (c : Char) : Bool := c.isAlphanum || c == '_' || c == '.'
  match cs with
  | c :: _ =>
    if c.isAlpha || c == '_' then
      some (String.ofList (cs.takeWhile isInner), (cs.dropWhile isInner).dropWhile Text.isBlank)
    else none
  | [] => none

/-- The name that a line assigns to and the text of its value. The word `export` may come before the
name. -/
def target? (cs : List Char) : Option (String × List Char) :=
  match name? cs with
  | none => none
  | some (name, '=' :: rest) => some (name, rest.dropWhile Text.isBlank)
  | some (name, rest) =>
    if name = "export" then
      match name? rest with
      | some (name, '=' :: rest) => some (name, rest.dropWhile Text.isBlank)
      | _ => none
    else none

/-- The environment after an assignment. -/
def assign (env : Environment) (name value : String) : Environment :=
  if (env.lookup name).isSome then env else env ++ [(name, value)]

/-- The environment after a line; none if the line cannot be read. -/
def read? (env : Environment) (line : List Char) : Option Environment :=
  let cs := Text.trim line
  match cs with
  | [] | '#' :: _ => some env
  | _ =>
    match target? cs with
    | none => none
    | some (name, []) | some (name, '#' :: _) => some (assign env name "")
    | some (name, value) => (({} : Draft).addAll env value).bind fun d =>
        (d.close? env).map fun value => assign env name value

/-- The environment after some lines, up to one that cannot be read. -/
def applyAll (env : Environment) : List (List Char) → Environment
  | [] => env
  | line :: rest =>
    match read? env line with
    | none => env
    | some env => applyAll env rest

/-- Drops a byte order mark. -/
def withoutMark : List Char → List Char
  | '\uFEFF' :: rest => rest
  | cs => cs

/-- The environment with the variables of a file. -/
def load (env : Environment) (source : String) : Environment :=
  applyAll env (lines (withoutMark source.toList))

end BatchTraversal.EnvironmentFile
