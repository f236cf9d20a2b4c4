import Southbound.Log

/-!
# Probes

A probe opens a plain connection to the management endpoint of a device and closes it again without
a word.  The device counts as reachable only if the connection opened in time and still had a peer
then.  Every other outcome is told to the operator and counts as unreachable.
-/

namespace Southbound

/-- How the endpoint of a device meets a connection. -/
inductive Endpoint
  /-- Takes the connection after so many milliseconds. -/
  | listening (delay : Nat)
  /-- Refuses the connection: nobody listens, or nobody has room for one more. -/
  | refusing (detail : String)
  /-- Takes the connection and is gone at once. -/
  | vanishing
deriving DecidableEq

/-- What came of a probe. -/
structure ProbeOutcome where
  reachable : Bool
  /-- How many bytes the device was sent. -/
  sent : Nat
  line : LogLine

namespace Endpoint

/-- Tries to connect within so many milliseconds. -/
def connect (timeout : Nat) : Endpoint → Except ProbeFailure Unit
  | listening delay => if delay ≤ timeout then .ok () else .error (.timedOut timeout)
  | refusing detail => .error (.notConnected detail)
  | vanishing => .error .closedEarly

/-- Probes a device. -/
def probe (timeout : Nat) (id : Identity) (e : Endpoint) : ProbeOutcome :=
  match e.connect timeout with
  | .ok () => ⟨true, 0, .reachable id⟩
  | .error failure => ⟨false, 0, .notReachable id failure⟩

end Endpoint

end Southbound
