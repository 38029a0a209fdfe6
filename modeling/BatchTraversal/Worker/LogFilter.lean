import BatchTraversal.Pattern.Grammar
import BatchTraversal.Pattern.Machine
import BatchTraversal.Text.Blank
import BatchTraversal.Text.Bytes
import BatchTraversal.Text.Letter
import BatchTraversal.Worker.Notice

/-!
# Log filters

A filter is a list of directives with commas between them. A directive `target[span{field=value}]=level`,
any part of which may be left out, concerns the notices whose target begins with its own, which are told
within a span of that name, and which have that field; it shows those that are at least as important as
its level. A value is a pattern that is searched for in the value of the field, where it has to reach the
end.

Of directives that ask for the same things the last one counts. Of those without a span or a value that
concern a notice only the most specific one counts; one with a span or a field shows what is told within
the spans it concerns in any case.
-/

namespace BatchTraversal

/-- What a field is to be. -/
inductive FieldValue where
  /-- A truth value or a number. -/
  | literal (text : String)
  /-- What a pattern says, with its text. -/
  | pattern (text : String) (p : Pattern)
  deriving DecidableEq, Repr

/-- A field that a directive asks for, and the value if it asks for one. -/
structure FieldPattern where
  name : String
  value : Option FieldValue := none
  deriving DecidableEq, Repr

/-- One directive of a filter. -/
structure Directive where
  target : Option String := none
  span : Option String := none
  field : Option FieldPattern := none
  /-- The rank up to which notices are shown. -/
  rank : Nat := 5
  deriving DecidableEq, Repr

/-- Why a filter cannot be read. -/
inductive FilterFault where
  | malformed
  /-- A part would begin or end within a character. -/
  | torn
  deriving DecidableEq, Repr

namespace FieldValue

/-- The value that a text asks for. -/
def of? (text : List Char) : Option FieldValue :=
  let whole := String.ofList text
  if whole = "true" || whole = "false" || Numeral.isDecimal text then some (.literal whole)
  else (Pattern.parse? whole).map (.pattern whole)

/-- Whether the value of a field of a span, which is a text, is as asked for. -/
def accepts (v : FieldValue) (value : String) : Bool :=
  match v with
  | literal _ => false
  | pattern _ p => p.reachesEnd value

end FieldValue

/-- What a text between braces asks for: the name of a field, and behind an equals sign its value, up to
another one. -/
def FieldPattern.of? (text : List Char) : Option FieldPattern :=
  let isPlain (c : Char) : Bool := c != '='
  let name := String.ofList (text.takeWhile isPlain)
  match text.dropWhile isPlain with
  | [] => if text.isEmpty then none else some { name }
  | _ :: rest => (FieldValue.of? (rest.takeWhile isPlain)).map fun value =>
      { name, value := some value }

namespace Directive

/-! ## Reading

Blanks around a directive are passed over when its marks are looked for, but the places of the marks are
counted from the first character that is not blank, and the parts between them are cut out of the text
with its blanks. So blanks in front shift all parts. -/

/-- The names of the levels by their ranks. Rank `0` shows nothing. -/
def levelNames : List String := ["off", "error", "warn", "info", "debug", "trace"]

/-- The rank that a level stands for, given by name or number. -/
def rankOf? (text : List Char) : Option Nat :=
  (Numeral.natural? 5 text).or (levelNames.idxOf? (String.ofList (text.map Char.toLower)))

/-- What stands alone: a level, or else a target. -/
def ofSole (text : List Char) : Directive :=
  match rankOf? text with
  | some rank => { rank }
  | none => { target := some (String.ofList text) }

/-- The part of a text from a place on, so many bytes of it. -/
def part (text : List Char) (start count : Nat) : Except FilterFault (List Char) :=
  match Text.cut? start count text with
  | none => .error .torn
  | some part => .ok part

/-- A directive with the level that begins at a place; without a level everything is shown. -/
def withLevel (d : Directive) (text : List Char) (start : Nat) : Except FilterFault Directive := do
  match ← part text start (Text.byteCount text - start) with
  | [] => return d
  | level =>
    match rankOf? level with
    | none => throw .malformed
    | some rank => return { d with rank }

/-- What stands behind the brackets, whose marks are looked for in `marks`. -/
def withEnd (d : Directive) (text : List Char) (start : Nat) (marks : List Char) :
    Except FilterFault Directive :=
  match marks with
  | [] => .ok d
  | '=' :: _ => d.withLevel text (start + 1)
  | _ => .error .malformed

/-- What stands between the brackets and behind them, from the place behind the opening bracket on. -/
def withScope (d : Directive) (text : List Char) (start : Nat) (marks : List Char) :
    Except FilterFault Directive := do
  let isName (c : Char) : Bool := c != ']' && c != '\x7b'
  let isField (c : Char) : Bool := c != '\x7d'
  let size := Text.byteCount (marks.takeWhile isName)
  match marks.dropWhile isName with
  | [] => throw .malformed
  | ']' :: rest =>
    let name ← part text start size
    withEnd { d with span := some (String.ofList name) } text (start + size + 1) rest
  | _ :: inner =>
    let name ← part text start size
    let start := start + size + 1
    let size := Text.byteCount (inner.takeWhile isField)
    match inner.dropWhile isField with
    | [] => throw .malformed
    | _ :: rest =>
      match FieldPattern.of? (← part text start size), rest with
      | some field, ']' :: rest =>
        let span := if name.isEmpty then none else some (String.ofList name)
        withEnd { d with span, field := some field } text (start + size + 2) rest
      | _, _ => throw .malformed

/-- Whether a directive may begin with a character, if not with a bracket. -/
def isStart (c : Char) : Bool := Text.isAlphanumeric c || c == '-' || c == ':' || c == '_'

/-- The directive that a text stands for. -/
def parse (text : List Char) : Except FilterFault Directive :=
  let marks := Text.trim text
  let isTarget (c : Char) : Bool := c != '=' && c != '['
  let target := marks.takeWhile isTarget
  let size := Text.byteCount target
  match target.head?.map isStart, marks.dropWhile isTarget with
  | none, '[' :: rest => withScope {} text 1 rest
  | some true, [] => .ok (ofSole text)
  | some true, '=' :: _ => do
    let target ← part text 0 size
    withLevel { target := some (String.ofList target) } text (size + 1)
  | some true, _ :: rest => do
    let target ← part text 0 size
    withScope { target := some (String.ofList target) } text (size + 1) rest
  | _, _ => .error .malformed

/-! ## Deciding -/

/-- Whether a directive asks for a span or a field. -/
def isScoped (d : Directive) : Bool := d.span.isSome || d.field.isSome

/-- Whether a directive can be decided by a notice alone. -/
def isPlain (d : Directive) : Bool := d.span.isNone && !d.field.any (·.value.isSome)

/-- Whether two directives ask for the same things. -/
def asksAs (d e : Directive) : Bool := d.target = e.target && d.span = e.span && d.field = e.field

/-- Whether a target begins with that of the directive. -/
def coversTarget (d : Directive) (target : String) : Bool :=
  match d.target with
  | none => true
  | some t => t.toList.isPrefixOf target.toList

/-- Whether a plain directive concerns a notice. -/
def concerns (d : Directive) (n : Notice) : Bool :=
  d.coversTarget n.target && d.field.all fun f => n.fieldNames.contains f.name

/-- Whether a directive concerns a span. -/
def concernsSpan (d : Directive) (s : Span) : Bool :=
  d.coversTarget s.target && d.span.all (· == s.name) &&
    d.field.all fun f => (s.fields.lookup f.name).any fun value => f.value.all (·.accepts value)

/-- Whether `d` is more specific than `e`: by the length of its target, then by asking for a field, then
by the name of that. -/
def isMoreSpecific (d e : Directive) : Bool :=
  let size (t : Directive) : Nat := match t.target with
    | none => 0
    | some text => text.utf8ByteSize + 1
  size e < size d || (size d == size e && match e.field, d.field with
    | none, some _ => true
    | some f, some g => f.name < g.name
    | _, none => false)

/-- The directives that no later one replaces. -/
def withoutReplaced : List Directive → List Directive
  | [] => []
  | d :: rest =>
    if rest.any d.asksAs then withoutReplaced rest else d :: withoutReplaced rest

end Directive

/-- A filter. -/
structure LogFilter where
  directives : List Directive
  deriving DecidableEq, Repr

namespace LogFilter

/-- The parts of a text between commas. -/
def parts (text : List Char) : List (List Char) := text.splitBy fun c d => c != ',' && d != ','

/-- The filter that a text stands for. Without any directive only errors are shown. -/
def parse (text : String) : Except FilterFault LogFilter := do
  let directives ← ((parts text.toList).filter (· ≠ [','])).mapM Directive.parse
  return { directives :=
    if directives.isEmpty then [{ rank := 1 }] else Directive.withoutReplaced directives }

/-- The filter that shows everything from the level `info` on. -/
def info : LogFilter := { directives := [{ rank := 3 }] }

/-- The filter of a text, and `info` for a malformed one; none for a text that would be torn. -/
def ofText? (text : String) : Option LogFilter :=
  match parse text with
  | .ok f => some f
  | .error .malformed => some info
  | .error .torn => none

/-- The plain directive that decides on a notice: of those that concern it the most specific one. -/
def deciding? (f : LogFilter) (n : Notice) : Option Directive :=
  (f.directives.filter fun d => d.isPlain && d.concerns n).foldl (fun best d =>
    match best with
    | none => some d
    | some b => if b.isMoreSpecific d then some b else some d) none

/-- Whether a notice is shown. -/
def shows (f : LogFilter) (n : Notice) : Bool :=
  (f.deciding? n).any (n.level.rank ≤ ·.rank) ||
    n.span?.any fun s => f.directives.any fun d =>
      d.isScoped && d.concernsSpan s && n.level.rank ≤ d.rank

end LogFilter

end BatchTraversal
