import BatchTraversal.Text.Quoted
import BatchTraversal.Time.Duration

/-!
# Traversal schedules

A schedule says when a connector may be traversed and how hard: the hours of the day (local time), a
load ceiling in documents per minute, and the delay after the repository had nothing new. It can be
disabled as a whole.

The hours are given as pairs `(start, end)`. An end of `0` is midnight, an end before the start
wraps past midnight, and a pair whose ends are equal disables the schedule. `Schedule.build` reads
the pairs into half-open intervals within one day, strictly ascending, so that two lists of pairs
that say the same in another order or with repetitions give equal schedules.
-/

namespace BatchTraversal

/-- Why a schedule is refused. -/
inductive ScheduleError where
  /-- The text is blank. -/
  | blank
  /-- The text has no load field. -/
  | missingFields (text : String)
  | invalidName (name : String)
  | badLoad (value : String)
  | badRetryDelay (millis : Int)
  | badInterval (text : String)
  | hourOutOfRange (hour : Nat)
  deriving DecidableEq, Repr

/-- The reason in words. -/
def ScheduleError.message : ScheduleError → String
  | blank => "empty schedule string"
  | missingFields text => "expected at least name and load, got " ++ Text.quoted text
  | invalidName name => "invalid connector name " ++ Text.quoted name
  | badLoad value => "invalid load value " ++ Text.quoted value
  | badRetryDelay millis => "invalid retry delay " ++ toString millis
  | badInterval text => "invalid interval " ++ Text.quoted text
  | hourOutOfRange hour => "hour " ++ toString hour ++ " out of range"

/-- How long to wait before a connector that ran out of new content is asked again. -/
inductive RetryDelay where
  | millis (ms : Nat)
  /-- Not at all: the schedule is disabled once the content is exhausted. -/
  | pollingDisabled
  deriving DecidableEq, Repr, Inhabited

/-- The wait, if the connector is to be asked again. -/
def RetryDelay.duration? : RetryDelay → Option Duration
  | millis ms => some (.ofMillis ms)
  | pollingDisabled => none

/-- Hours of a day from `start` up to but not including `stop`. -/
structure HourInterval where
  start : Nat
  stop : Nat
  deriving DecidableEq, Repr, Inhabited

namespace HourInterval

def contains (i : HourInterval) (hour : Nat) : Bool := i.start ≤ hour && hour < i.stop

/-- The same hours of the next day. -/
def nextDay (i : HourInterval) : HourInterval := ⟨i.start + 24, i.stop + 24⟩

/-- Earlier starts come first, and of two with one start the earlier stop. -/
def precedes (i j : HourInterval) : Bool :=
  i.start < j.start || (i.start == j.start && i.stop < j.stop)

/-- Puts an interval in its place of an ascending list, unless it is there. -/
def insertInto (i : HourInterval) : List HourInterval → List HourInterval
  | [] => [i]
  | j :: rest =>
    if i.precedes j then i :: j :: rest
    else if i = j then j :: rest
    else j :: insertInto i rest

/-- The intervals of a list, each once and in ascending order. -/
def sorted (l : List HourInterval) : List HourInterval := l.foldr insertInto []

end HourInterval

/-- When a connector may be traversed and how hard. -/
structure Schedule where
  name : String
  disabled : Bool
  /-- The load ceiling in documents per minute. -/
  load : Nat
  retryDelay : RetryDelay
  /-- The hours of local time in which batches may start, ascending. -/
  intervals : List HourInterval
  deriving DecidableEq, Repr

namespace Schedule

/-- Whether `name` can stand in a schedule: it is not empty, has no colon and does not start with
the sign of a disabled schedule. -/
def validName (name : String) : Bool :=
  match name.toList with
  | [] => false
  | c :: rest => c != '#' && !(c :: rest).contains ':'

/-- What one pair of hours says: the intervals it allows, none if it disables the schedule. -/
def intervalsOfPair (start stop : Nat) : Except ScheduleError (List HourInterval) :=
  if start > 23 then .error (.hourOutOfRange start)
  else if stop > 24 then .error (.hourOutOfRange stop)
  else if start = stop then .ok []
  else
    let stop := if stop = 0 then 24 else stop
    if stop < start then .ok [⟨start, 24⟩, ⟨0, stop⟩] else .ok [⟨start, stop⟩]

/-- The intervals that the pairs allow, in the order of the pairs; the first pair with an hour out of
range refuses the list. -/
def intervalsOfPairs : List (Nat × Nat) → Except ScheduleError (List HourInterval)
  | [] => .ok []
  | (start, stop) :: rest =>
    match intervalsOfPair start stop with
    | .error e => .error e
    | .ok these =>
      match intervalsOfPairs rest with
      | .error e => .error e
      | .ok those => .ok (these ++ those)

/-- The schedule that the pairs of hours describe. -/
def build (name : String) (disabled : Bool) (load : Nat) (retryDelay : RetryDelay)
    (pairs : List (Nat × Nat)) : Except ScheduleError Schedule :=
  if validName name then
    match intervalsOfPairs pairs with
    | .error e => .error e
    | .ok intervals => .ok
        { name, load, retryDelay
          disabled := disabled || pairs.any fun p => p.1 == p.2
          intervals := HourInterval.sorted intervals }
  else .error (.invalidName name)

/-- The schedule with its disabled flag replaced. -/
def withDisabled (s : Schedule) (disabled : Bool) : Schedule := { s with disabled }

/-- Whether a batch may start at this hour of local time. -/
def allows (s : Schedule) (hour : Nat) : Bool :=
  !s.disabled && s.intervals.any (·.contains hour)

/-- The first interval of the next day, for looking ahead past midnight. -/
def tomorrow (s : Schedule) : Option HourInterval := s.intervals.head?.map (·.nextDay)

/-- The hours until a batch may start: `0` inside an allowed interval, none if there is no such
hour. -/
def hoursUntilOpen (s : Schedule) (hour : Nat) : Option Nat :=
  if s.disabled then none
  else if s.allows hour then some 0
  else
    (((s.intervals ++ s.tomorrow.toList).map (·.start)).find? (· > hour)).map (· - hour)

end Schedule

end BatchTraversal
