import BatchTraversal.Connector.Adapter
import BatchTraversal.Text.Blank
import BatchTraversal.Text.Numeral

/-!
# Synthetic connectors

A built-in kind of connector that generates a fixed number of items in pages. Its checkpoint is the
position reached, as a decimal number. Parameters are `total` (1000), `page_size` (100) and
`page_delay_ms` (0), the time the simulated repository takes for a page; a call that is cancelled
during that time fails.
-/

namespace BatchTraversal

/-- The parameters of a synthetic connector. -/
structure SyntheticParams where
  total : Nat := 1000
  pageSize : Nat := 100
  delay : Duration := .zero
  deriving DecidableEq, Repr

namespace SyntheticParams

/-- A parameter that is a number of 64 bits. -/
def number (config : ConnectorConfig) (key : String) (default : Nat) : Except String Nat :=
  match config.param? key with
  | none => .ok default
  | some raw =>
    match Numeral.natural? Numeral.max64 (Text.trim raw.toList) with
    | some n => .ok n
    | none => .error ("parameter `" ++ key ++ "` is not a number: " ++ Text.quoted raw)

/-- The parameters that a configuration gives, or the reason why it is refused. -/
def ofConfig (config : ConnectorConfig) : Except String SyntheticParams :=
  match number config "total" 1000 with
  | .error reason => .error reason
  | .ok total =>
    match number config "page_size" 100 with
    | .error reason => .error reason
    | .ok pageSize =>
      match number config "page_delay_ms" 0 with
      | .error reason => .error reason
      | .ok delay =>
        if pageSize = 0 then .error "parameter `page_size` must be positive"
        else .ok { total, pageSize, delay := .ofMillis delay }

/-- The page from a position on, of at most `maxItems` items. -/
def pageAt (p : SyntheticParams) (position maxItems : Nat) (cancelled : Bool) : Answer :=
  if p.total ≤ position then .noContent
  else if !p.delay.isZero && cancelled then .failed .cancelled
  else
    let count := min (min (p.total - position) p.pageSize) maxItems
    .page { count, checkpoint := some (toString (position + count)) }

/-- The answer to a call that starts, or resumes from a checkpoint. -/
def answer (p : SyntheticParams) (checkpoint : Option String) (maxItems : Nat)
    (cancelled : Bool) : Answer :=
  match checkpoint with
  | none => p.pageAt 0 maxItems cancelled
  | some text =>
    match Numeral.natural? Numeral.max64 text.toList with
    | some position => p.pageAt position maxItems cancelled
    | none => .failed (.repository ("bad checkpoint " ++ Text.quoted text))

end SyntheticParams

end BatchTraversal
