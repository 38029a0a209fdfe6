import BatchTraversal.Toml.Value

/-!
# TOML documents

A document is a sequence of lines: keys with their values, headers of tables, comments. Keys belong to
the table of the last header, those in front of the first header to the document itself.
-/

namespace BatchTraversal.Toml

open Reader

/-- A line of a document. -/
inductive Line where
  | empty
  /-- A key with its value. -/
  | pair (path : List String) (key : String) (d : Datum)
  /-- The header of a table. -/
  | table (path : List String) (key : String)
  /-- The header of the next one of a list of tables. -/
  | element (path : List String) (key : String)

/-- The header of the next one of a list of tables. -/
def elementHeader : Reader Line := do
  word ['[', '[']
  let k ← key
  word [']', ']']
  return .element k.1 k.2

/-- The header of a table. -/
def tableHeader : Reader Line := do
  one '['
  let k ← key
  one ']'
  return .table k.1 k.2

def pairLine : Reader Line := do
  let (k, d) ← keyValue (value (nesting - 1))
  return .pair k.1 k.2 d

/-- A line with its end. -/
def line : Reader Line := do
  blanks
  let content ← elementHeader <|> tableHeader <|> pairLine <|> pure .empty
  lineRest
  return content

/-- A document that is being read: what it holds, and the path of the table that keys belong to. -/
structure Draft where
  entries : Entries := []
  current : List String := []

/-- The draft with one more line. -/
def Draft.add (draft : Draft) : Line → Option Draft
  | .empty => some draft
  | .pair path key d =>
    (draft.entries.change false (fun _ inner => inner.define path key d) draft.current
      .header).map fun entries => { draft with entries }
  | .table path key =>
    (draft.entries.openTable path key).map fun entries => { entries, current := path ++ [key] }
  | .element path key =>
    (draft.entries.appendTable path key).map fun entries => { entries, current := path ++ [key] }

/-- Drops a byte order mark. -/
def withoutMark : List Char → List Char
  | '\uFEFF' :: rest => rest
  | cs => cs

/-- The document that a text stands for. -/
def parse? (source : String) : Option Datum := do
  let lines ← whole? (many line) (withoutMark source.toList)
  let draft ← lines.foldlM Draft.add {}
  return draft.entries.toDatum

end BatchTraversal.Toml
