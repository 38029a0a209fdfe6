import BatchTraversal.Toml.Moment
import BatchTraversal.Toml.Number
import BatchTraversal.Toml.Table

/-!
# TOML keys and values

A key is bare or a string, or several of these with dots between them. A value is a string, a number, a
truth value, a date or time, an array or an inline table. Arrays may run over several lines and have a
comma at their end, inline tables may not. Values are nested less than `nesting` deep, and a key has
fewer parts than that.
-/

namespace BatchTraversal.Toml

open Reader

/-- The depth that values do not reach. -/
def nesting : Nat := 80

/-- Whether a character may stand in a bare key. -/
def isBare (c : Char) : Bool := c.isAlphanum || c == '_' || c == '-'

/-- One part of a key. -/
def keyPart : Reader String := do
  blanks
  let part ← basicString <|> literalString <|> (do return String.ofList (← span1 isBare))
  blanks
  return part

/-- A key: the parts in front of the last one, and the last one. -/
def key : Reader (List String × String) := do
  let parts ← separated1 keyPart (one '.')
  match parts.getLast? with
  | some last => if parts.length < nesting then return (parts.dropLast, last) else failure
  | none => failure

/-- A key with its value, which `value` reads. -/
def keyValue (value : Reader Datum) : Reader ((List String × String) × Datum) := do
  let k ← key
  one '='
  blanks
  return (k, ← value)

/-- An array whose items `value` reads. -/
def array (value : Reader Datum) : Reader Datum := do
  one '['
  let items ← separated (do space; let d ← value; space; return d) (one ',')
  if !items.isEmpty then let _ ← maybe (one ',')
  space
  one ']'
  return .list items

/-- An inline table whose values `value` reads. -/
def inlineTable (value : Reader Datum) : Reader Datum := do
  one '{'
  let pairs ← separated (do let pair ← keyValue value; blanks; return pair) (one ',')
  blanks
  one '}'
  let entries ← pairs.foldlM (fun entries (k, d) => Entries.define entries k.1 k.2 d) []
  return Entries.toDatum entries

def truth : Reader Datum :=
  (do word ['t', 'r', 'u', 'e']; return .truth true) <|>
    (do word ['f', 'a', 'l', 's', 'e']; return .truth false)

/-- A value with arrays and inline tables at most so deep. -/
def value : (depth : Nat) → Reader Datum
  | 0 => scalar
  | depth + 1 => array (value depth) <|> inlineTable (value depth) <|> scalar
where
  /-- A value that holds no other ones. -/
  scalar : Reader Datum :=
    (do return .text (← text)) <|> moment <|> number <|> truth

end BatchTraversal.Toml
