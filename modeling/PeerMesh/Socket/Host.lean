/-
**What a machine lets its sockets do.**

A `Host` says why its sockets cannot connect to anybody, cannot join a group, or cannot listen somewhere, if they
cannot. Besides, no two sockets listen at one address (`Host.bind`).
-/

import PeerMesh.Socket.Endpoint
import PeerMesh.Transport.Error

namespace PeerMesh.Socket

/-- A machine. -/
structure Host where
  /-- Why sockets cannot connect, if they cannot. -/
  connectFailure : Option IoFailure
  /-- Why sockets cannot join a group, if they cannot. -/
  joinFailure : Option IoFailure
  /-- Where sockets cannot listen, and why. -/
  bindFailures : List (Endpoint × IoFailure)
  deriving DecidableEq, Repr, Inhabited

namespace Host

/-- A machine whose network works. -/
def connected : Host := ⟨none, none, []⟩

/-- A machine none of whose network interfaces is up. -/
def isolated : Host where
  connectFailure := some ⟨.other, "Network is unreachable (os error 101)"⟩
  joinFailure := some ⟨.other, "No such device (os error 19)"⟩
  bindFailures := []

end Host

/-- What an attempt to connect to a port ends with if nobody listens there. -/
def refusal : IoFailure := ⟨.connectionRefused, "Connection refused (os error 111)"⟩

/-- Connect to whoever listens, if anybody does. -/
def Host.connect {α : Type} (host : Host) (listening : Option α) : Except IoFailure α :=
  match host.connectFailure, listening with
  | some failure, _ => .error failure
  | none, none => .error refusal
  | none, some far => .ok far

/-- What an attempt to listen at an address ends with if somebody else does. -/
def occupied : IoFailure := ⟨.other, "Address already in use (os error 98)"⟩

/-- The ports among which one is chosen for a socket that may listen at any. -/
def firstFreePort : Nat := 32768

/-- A port at which nobody listens. -/
def freePort? (taken : List Endpoint) (wanted : Endpoint) : Option Nat :=
  ((List.range (taken.length + 1)).map (firstFreePort + ·)).find? fun port =>
    taken.all fun other => !(wanted.withPort port).overlaps other

/-- Listen at an endpoint, where others listen at some already. The answer is the endpoint with the port that was
chosen, if any may be. -/
def Host.bind (host : Host) (taken : List Endpoint) (wanted : Endpoint) : Except IoFailure Endpoint :=
  match host.bindFailures.find? (·.1 = wanted) with
  | some (_, failure) => .error failure
  | none =>
    if wanted.port = 0 then
      match freePort? taken wanted with
      | some port => .ok (wanted.withPort port)
      | none => .error occupied
    else if taken.any wanted.overlaps then .error occupied
    else .ok wanted

end PeerMesh.Socket
