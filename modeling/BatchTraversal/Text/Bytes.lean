/-!
# Parts of a text by bytes

The places in a text are counted in bytes of its encoding (UTF-8), in which a character beyond ASCII takes
several. A part that would begin or end within a character cannot be cut out.
-/

namespace BatchTraversal.Text

/-- The number of bytes of some characters. -/
def byteCount (cs : List Char) : Nat := (cs.map Char.utf8Size).foldl (· + ·) 0

/-- The characters behind so many bytes. -/
def dropBytes? : Nat → List Char → Option (List Char)
  | 0, cs => some cs
  | _ + 1, [] => none
  | n + 1, c :: rest => if c.utf8Size ≤ n + 1 then dropBytes? (n + 1 - c.utf8Size) rest else none

/-- The characters of so many bytes at the front. -/
def takeBytes? : Nat → List Char → Option (List Char)
  | 0, _ => some []
  | _ + 1, [] => none
  | n + 1, c :: rest =>
    if c.utf8Size ≤ n + 1 then (takeBytes? (n + 1 - c.utf8Size) rest).map (c :: ·) else none

/-- The characters from the byte `start` on, `count` bytes of them. -/
def cut? (start count : Nat) (cs : List Char) : Option (List Char) :=
  (dropBytes? start cs).bind (takeBytes? count)

end BatchTraversal.Text
