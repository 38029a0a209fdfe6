import BatchTraversal.Text.Numeral

/-!
# Structured documents

Values are exchanged as documents of texts, numbers, lists and records. What a document stands for
is read field by field: a `FieldSource` offers the fields of a record by name, or the items of a list
in the order of the fields.
-/

namespace BatchTraversal

/-- A structured document. -/
inductive Datum where
  | null
  | truth (b : Bool)
  | integer (n : Int)
  /-- A number with a fraction or an exponent. No field holds one. -/
  | decimal
  /-- A date or a time. It counts as a record without fields. -/
  | moment
  | text (s : String)
  | list (items : List Datum)
  | record (fields : List (String × Datum))
  deriving Repr, Inhabited

namespace Datum

/-- The text, if the document is one. -/
def text? : Datum → Option String
  | text s => some s
  | _ => none

/-- The natural number up to `max`, if the document is one. -/
def natural? (max : Nat) : Datum → Option Nat
  | integer n => if 0 ≤ n ∧ n ≤ max then some n.toNat else none
  | _ => none

def natural64? : Datum → Option Nat := natural? Numeral.max64

/-- A document of a natural number. -/
def ofNat (n : Nat) : Datum := integer n

/-- A document of an optional natural number. -/
def ofNat? (n : Option Nat) : Datum := (n.map ofNat).getD null

/-- The texts by name, if the document is a record of texts. -/
def texts? : Datum → Option (List (String × String))
  | record fields => fields.mapM fun f => f.2.text?.map (f.1, ·)
  | moment => some []
  | _ => none

/-- The items, if the document is a list. -/
def items? : Datum → Option (List Datum)
  | list items => some items
  | _ => none

/-- A list cut down to its first items, if the document is one. -/
def firstItems (n : Nat) : Datum → Datum
  | list items => list (items.take n)
  | d => d

/-- The name and the content of a tagged value: a text names a tag without content, a record of one
field names the tag and its content. -/
def tagged? : Datum → Option (String × Option Datum)
  | text tag => some (tag, none)
  | record [(tag, content)] => some (tag, some content)
  | _ => none

end Datum

/-- Where the fields of a value are found. -/
inductive FieldSource where
  | byName (fields : List (String × Datum))
  | byPlace (items : List Datum)

namespace FieldSource

/-- The fields of a document that has `size` of them: those of a record, of which unknown ones are
ignored, or the items of a list, of which there are at most `size`. -/
def of? (size : Nat) : Datum → Option FieldSource
  | .record fields => some (.byName fields)
  | .moment => some (.byName [])
  | .list items => if items.length ≤ size then some (.byPlace items) else none
  | _ => none

/-- The document of the field called `name`, which is the `place`-th one. -/
def field? (s : FieldSource) (place : Nat) (name : String) : Option Datum :=
  match s with
  | byName fields => fields.lookup name
  | byPlace items => items[place]?

variable {α : Type}

/-- A field that has to be there. -/
def required (s : FieldSource) (place : Nat) (name : String) (read : Datum → Option α) : Option α :=
  (s.field? place name).bind read

/-- A field that may be left out. -/
def defaulted (s : FieldSource) (place : Nat) (name : String) (default : α)
    (read : Datum → Option α) : Option α :=
  match s.field? place name with
  | none => some default
  | some d => read d

/-- A field of an optional value: `null`, and in a record also its absence, means that there is
none. -/
def optional (s : FieldSource) (place : Nat) (name : String) (read : Datum → Option α) :
    Option (Option α) :=
  match s.field? place name, s with
  | some .null, _ => some none
  | some d, _ => (read d).map some
  | none, byName _ => some none
  | none, byPlace _ => none

end FieldSource

end BatchTraversal
