import TileScript.Bridge.Value
import TileScript.Manager.Monitor

/-!
Values of the configuration that may depend on the monitor they are asked for.
-/

namespace TileScript

/-- A value for the monitor that a reference means. -/
structure MonitorRule (α : Type) where
  monitor : MonitorRef
  value : α
  deriving Repr, Inhabited

inductive Dynamic (α : Type) where
  | constant (value : α)
  /-- The first rule that means the monitor asked for decides. -/
  | perMonitor (rules : List (MonitorRule α)) (fallback : α)
  /-- The function is asked every time, with `id` and what is known about the monitor. -/
  | callback (function : Bridge.Handle) (id : Bridge.Value)
  deriving Repr, Inhabited

namespace Dynamic

variable {α : Type}

/-- Whether a rule means the monitor asked for, among monitors in their order. -/
def MonitorRule.applies (rule : MonitorRule α) (sorted : List Monitor) (asked : Monitor) : Bool :=
  (rule.monitor.resolve sorted).any (·.sameCorner asked)

def perMonitorValue (rules : List (MonitorRule α)) (fallback : α) (asked : Monitor)
    (monitors : List Monitor) : α :=
  let sorted := Monitor.sort monitors
  ((rules.find? fun rule => MonitorRule.applies rule sorted asked).map (·.value)).getD fallback

def same [BEq α] : Dynamic α → Dynamic α → Bool
  | .constant a, .constant b => a == b
  | .perMonitor rules fallback, .perMonitor otherRules otherFallback =>
    sameRules rules otherRules && fallback == otherFallback
  | .callback function id, .callback other otherId => function.same other && id.same otherId
  | _, _ => false
where
  sameRules : List (MonitorRule α) → List (MonitorRule α) → Bool
    | [], [] => true
    | a :: as, b :: bs => a.monitor.same b.monitor && a.value == b.value && sameRules as bs
    | _, _ => false

/-- The handles a value holds. -/
def handles : Dynamic α → List Bridge.Handle
  | .callback function id => function :: id.handle?.toList
  | _ => []

end Dynamic
end TileScript
