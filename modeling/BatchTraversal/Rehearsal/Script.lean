import BatchTraversal.Connector.Kind

/-!
# Scripted adapters

In a rehearsal the answers of an adapter follow a script: for every connector a list of calls to
come, each saying whether the call waits first and how it ends. A call beyond the script finds
nothing new. Two kinds of connectors are only for rehearsals: `scripted`, whose configurations say
whether they are refused, and `broken`, which accepts every configuration and never works.
-/

namespace BatchTraversal

namespace ConnectorKind

/-- The kind whose adapters follow a script. Its parameter `reject` refuses the configuration and its
parameter `refuse` the making of an adapter, for the reason given. -/
def scripted : ConnectorKind where
  name := "scripted"
  validate config := match config.param? "reject" with
    | some reason => .error reason
    | none => .ok ()
  instantiate _ config := match config.param? "refuse" with
    | some reason => .error reason
    | none => .ok .external

/-- The kind that never works. -/
def broken : ConnectorKind where
  name := "broken"
  validate _ := .ok ()
  instantiate connector _ := .error (connector ++ " cannot work")

end ConnectorKind

namespace Rehearsal

/-- How a call waits before it goes on. -/
inductive Wait where
  /-- Until it is let go; if it is cancelled before, it fails. -/
  | coop
  /-- Until it is let go or cancelled. -/
  | finish
  /-- Until it is let go, whatever happens. -/
  | stubborn
  deriving DecidableEq, Repr

/-- What a call does besides handing over its page. -/
inductive Aside where
  | nothing
  /-- Trips the token of its batch. -/
  | tripToken
  /-- Asks the traverser to cancel the batch under way. -/
  | cancelBatch
  deriving DecidableEq, Repr

/-- The checkpoint of a scripted page. -/
inductive NextCheckpoint where
  /-- The number resumed from, `0` if there is none, plus the count; positions end at 2⁶⁴ − 1. -/
  | position
  | absent
  | text (checkpoint : String)
  deriving DecidableEq, Repr

/-- How a call ends. -/
inductive Ending where
  | noContent
  | fail (reason : String)
  | crash
  /-- A page of `count` items, or as many as were asked for if that is less; an oversized page does not
  keep to that. -/
  | page (count : Nat) (oversized : Bool) (next : NextCheckpoint) (aside : Aside)
  deriving DecidableEq, Repr

/-- A call of a script. -/
structure ScriptedCall where
  wait : Option Wait := none
  ending : Ending := .noContent
  deriving DecidableEq, Repr, Inhabited

namespace ScriptedCall

/-- The answer of a call that goes on. -/
def answer (c : ScriptedCall) (checkpoint : Option String) (maxItems : Nat) : Answer :=
  match c.ending with
  | .noContent => .noContent
  | .fail reason => .failed (.repository reason)
  | .crash => .crashed
  | .page count oversized next _ =>
    let count := if oversized then count else min count maxItems
    let resumed := (checkpoint.bind fun text =>
      Numeral.natural? Numeral.max64 text.toList).getD 0
    .page { count, checkpoint := match next with
      | .position => some (toString (min (resumed + count) Numeral.max64))
      | .absent => none
      | .text s => some s }

/-- What the call does besides. -/
def aside (c : ScriptedCall) : Aside :=
  match c.ending with
  | .page _ _ _ aside => aside
  | _ => .nothing

/-- Whether a call that was or was not let go, and whose token is or is not tripped, still waits. -/
def waits (c : ScriptedCall) (letGo tripped : Bool) : Bool :=
  match c.wait with
  | none => false
  | some .stubborn => !letGo
  | some _ => !letGo && !tripped

/-- Whether the call fails because it was cancelled while it waited. -/
def givesUp (c : ScriptedCall) (letGo tripped : Bool) : Bool :=
  c.wait = some .coop && tripped && !letGo

end ScriptedCall

end Rehearsal

end BatchTraversal
