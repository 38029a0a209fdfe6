import BatchTraversal.Document.Datum

/-!
# TOML tables

A table grows while a document is read. It may come to be on the way to a table with a header, by a
dotted key, or by a header of its own. A header may take over a table that only other headers have led
through; a dotted key may only add to tables that dotted keys made. Nothing may be defined twice.
-/

namespace BatchTraversal.Toml

/-- How a table came to be. -/
inductive Origin where
  /-- It lies on the way to a table with a header. -/
  | passage
  /-- By a dotted key. -/
  | dotted
  /-- By its own header. -/
  | header
  deriving DecidableEq, Repr

/-- What a key of a growing table stands for. -/
inductive Item where
  | value (d : Datum)
  | table (origin : Origin) (entries : List (String × Item))
  /-- A list of tables, made by headers in double brackets; the last one may still grow. -/
  | tables (items : List (List (String × Item)))

/-- The entries of a table. -/
abbrev Entries := List (String × Item)

namespace Entries

/-- Puts an item in the place of that of a key, or at the end. -/
def put (entries : Entries) (key : String) (item : Item) : Entries :=
  match entries with
  | [] => [(key, item)]
  | (k, old) :: rest => if k = key then (k, item) :: rest else (k, old) :: put rest key item

/-- Changes the table at the end of a path, where tables are made that are missing on the way. A dotted
key does not lead into a table with a header. -/
def change (dotted : Bool) (f : Origin → Entries → Option Entries) :
    List String → Origin → Entries → Option Entries
  | [], origin, entries => f origin entries
  | key :: path, _, entries =>
    match entries.lookup key with
    | none =>
      let origin := if dotted then .dotted else .passage
      (change dotted f path origin []).map fun inner => entries.put key (.table origin inner)
    | some (.value _) => none
    | some (.tables items) =>
      (change dotted f path .header (items.getLast?.getD [])).map fun last =>
        entries.put key (.tables (items.dropLast ++ [last]))
    | some (.table origin inner) =>
      if dotted && origin = .header then none
      else (change dotted f path origin inner).map fun inner =>
        entries.put key (.table origin inner)

/-- Adds a value under a dotted key, which is given in front of its last part. -/
def define (entries : Entries) (path : List String) (key : String) (d : Datum) : Option Entries :=
  change true (fun origin inner =>
    if !path.isEmpty && origin ≠ .dotted || (inner.lookup key).isSome then none
    else some (inner.put key (.value d))) path .header entries

/-- Adds a table with a header. -/
def openTable (entries : Entries) (path : List String) (key : String) : Option Entries :=
  change false (fun _ inner =>
    match inner.lookup key with
    | none => some (inner.put key (.table .header []))
    | some (.table .passage old) => some (inner.put key (.table .header old))
    | some _ => none) path .header entries

/-- Adds a table at the end of a list of tables. -/
def appendTable (entries : Entries) (path : List String) (key : String) : Option Entries :=
  change false (fun _ inner =>
    match inner.lookup key with
    | none => some (inner.put key (.tables [[]]))
    | some (.tables items) => some (inner.put key (.tables (items ++ [[]])))
    | some _ => none) path .header entries

end Entries

mutual

/-- The document that an item stands for. -/
def Item.toDatum : Item → Datum
  | .value d => d
  | .table _ entries => .record (fieldsOf entries)
  | .tables items => .list (recordsOf items)

/-- The fields that the entries of a table stand for. -/
def fieldsOf : List (String × Item) → List (String × Datum)
  | [] => []
  | (key, item) :: rest => (key, item.toDatum) :: fieldsOf rest

/-- The records that some tables stand for. -/
def recordsOf : List (List (String × Item)) → List Datum
  | [] => []
  | entries :: rest => .record (fieldsOf entries) :: recordsOf rest

end

/-- The document that a table stands for. -/
def Entries.toDatum (entries : Entries) : Datum := .record (fieldsOf entries)

end BatchTraversal.Toml
