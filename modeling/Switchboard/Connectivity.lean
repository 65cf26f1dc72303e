import Switchboard.Endpoint

/-!
# Connectivity and health

A connection reports one of five states; two of them are stale.  A health policy
says in which states a connection may be handed out again.
-/

namespace Switchboard

/-- The states that a connection reports. -/
inductive Connectivity
  | idle
  | connecting
  | ready
  | transientFailure
  | shutdown
  deriving DecidableEq, Repr

namespace Connectivity

/-- All states, in the order of their numbers. -/
def all : List Connectivity :=
  [.idle, .connecting, .ready, .transientFailure, .shutdown]

/-- The number of a state. -/
def number : Connectivity → Nat
  | .idle => 0
  | .connecting => 1
  | .ready => 2
  | .transientFailure => 3
  | .shutdown => 4

/-- The name of a state as messages show it. -/
def display : Connectivity → String
  | .idle => "idle"
  | .connecting => "connecting"
  | .ready => "ready"
  | .transientFailure => "transient-failure"
  | .shutdown => "shutdown"

/-- The name of a state as records show it. -/
def name : Connectivity → String
  | .idle => "Idle"
  | .connecting => "Connecting"
  | .ready => "Ready"
  | .transientFailure => "TransientFailure"
  | .shutdown => "Shutdown"

/-- The state with a displayed name. -/
def ofDisplay? (text : String) : Option Connectivity :=
  all.find? (·.display == text)

/-- A state in which a connection is of no use any more. -/
def isStale : Connectivity → Bool
  | .transientFailure | .shutdown => true
  | .idle | .connecting | .ready => false

end Connectivity

/-- When a cached connection may be handed out again. -/
inductive HealthPolicy
  /-- Only while its state is not stale. -/
  | transportState
  /-- Whatever its state is. -/
  | alwaysHealthy
  deriving DecidableEq, Repr

namespace HealthPolicy

/-- Whether a connection in a state may be handed out again. -/
def reusable : HealthPolicy → Connectivity → Bool
  | .transportState, state => !state.isStale
  | .alwaysHealthy, _ => true

/-- The name of a policy. -/
def name : HealthPolicy → String
  | .transportState => "TransportState"
  | .alwaysHealthy => "AlwaysHealthy"

/-- The policy of a family unless another one is chosen. -/
def ofFamily : Family → HealthPolicy
  | .agent => .transportState
  | .authentication => .alwaysHealthy

end HealthPolicy
end Switchboard
