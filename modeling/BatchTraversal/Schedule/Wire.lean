import BatchTraversal.Schedule.Basic
import BatchTraversal.Text.Blank
import BatchTraversal.Text.Numeral

/-!
# The text form of a schedule

A schedule is stored and exchanged as one line,

    [#]name:load:retryDelayMillis:start-end[:start-end...]

where the leading `#` marks a disabled schedule and a delay of `-1` turns polling off. The delay may
be missing (the oldest form), in which case a default applies: the third field is a delay exactly if
it is an integer, which an interval never is. White space around a field and blank interval fields
are ignored.
-/

namespace BatchTraversal

namespace RetryDelay

/-- The delay of a schedule text that gives none, in milliseconds. -/
def defaultMillis : Nat := 300000

/-- The delay that the number of a schedule text means. -/
def ofWire (value : Int) : Except ScheduleError RetryDelay :=
  if value = -1 then .ok .pollingDisabled
  else if 0 ≤ value then .ok (.millis value.toNat)
  else .error (.badRetryDelay value)

/-- The number a schedule text has for the delay, an integer of 64 bits with a sign. -/
def toWire : RetryDelay → Int
  | millis ms => Numeral.asSigned64 ms
  | pollingDisabled => -1

end RetryDelay

/-- The hours as `start-end`. -/
def HourInterval.render (i : HourInterval) : String := toString i.start ++ "-" ++ toString i.stop

namespace Schedule

/-- The text form. -/
def render (s : Schedule) : String :=
  (if s.disabled then "#" else "") ++ s.name ++ ":" ++ toString s.load ++ ":" ++
    toString s.retryDelay.toWire ++ ":" ++ ":".intercalate (s.intervals.map (·.render))

/-- The hours of one interval field: numbers on both sides of its first hyphen. -/
def pairOfField (field : List Char) : Except ScheduleError (Nat × Nat) :=
  let hour (cs : List Char) := Numeral.natural? Numeral.max32 (Text.trim cs)
  match field.dropWhile (· != '-') with
  | [] => .error (.badInterval (String.ofList field))
  | _ :: stop =>
    match hour (field.takeWhile (· != '-')), hour stop with
    | some s, some e => .ok (s, e)
    | _, _ => .error (.badInterval (String.ofList field))

/-- The hours of the interval fields; the first one that is no interval refuses them. -/
def pairsOfFields : List (List Char) → Except ScheduleError (List (Nat × Nat))
  | [] => .ok []
  | field :: rest =>
    match pairOfField field with
    | .error e => .error e
    | .ok pair =>
      match pairsOfFields rest with
      | .error e => .error e
      | .ok pairs => .ok (pair :: pairs)

/-- Splits the fields after the load into the delay and the interval fields. -/
def delayOfFields : List (List Char) → Except ScheduleError (RetryDelay × List (List Char))
  | [] => .ok (.millis RetryDelay.defaultMillis, [])
  | field :: rest =>
    match Numeral.signed64? (Text.trim field) with
    | none => .ok (.millis RetryDelay.defaultMillis, field :: rest)
    | some value =>
      match RetryDelay.ofWire value with
      | .error e => .error e
      | .ok delay => .ok (delay, rest)

/-- The schedule of a line without white space at its ends. -/
def ofLine (line : List Char) : Except ScheduleError Schedule :=
  let (disabled, body) := match line with
    | '#' :: body => (true, body)
    | _ => (false, line)
  match body.splitOn ':' with
  | name :: loadField :: rest =>
    match Numeral.natural? Numeral.max32 (Text.trim loadField) with
    | none => .error (.badLoad (String.ofList loadField))
    | some load =>
      match delayOfFields rest with
      | .error e => .error e
      | .ok (delay, fields) =>
        match pairsOfFields ((fields.map Text.trim).filter (· ≠ [])) with
        | .error e => .error e
        | .ok pairs => build (String.ofList (Text.trim name)) disabled load delay pairs
  | _ => .error (.missingFields (String.ofList line))

/-- The schedule that a text describes. -/
def parse (text : String) : Except ScheduleError Schedule :=
  match Text.trim text.toList with
  | [] => .error .blank
  | line => ofLine line

end Schedule

end BatchTraversal
