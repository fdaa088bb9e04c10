/-
**Exchanges over connections, of which there are only so many at a time.**

A client has at most so many exchanges with one endpoint under way at once: each of them holds a permit of the
endpoint until it ends. Whoever finds all permits taken waits for the one that is free first, behind those who have
asked earlier, and the wait counts towards the timeout.

* `Behaviour.endingAfter` — how an exchange ends that has to wait for a permit.
* `Permits.exchange` — an exchange with one target; `Permits.sendMany` — with many targets at once.
-/

import PeerMesh.Socket.Endpoint
import PeerMesh.Table
import PeerMesh.Transport.Fanout

namespace PeerMesh

/-- How an exchange ends whose permit is free after so many milliseconds, and when. A permit that is free only when
the timeout is over comes too late. -/
def Behaviour.endingAfter (wait : Nat) (timeout : Duration) (behaviour : Behaviour) :
    Except TransportError (Option Bytes) × Nat :=
  if 0 < wait ∧ timeout.ticks ≤ wait then (.error .timeout, timeout.ticks)
  else
    let (result, after) := behaviour.ending (.ofMillis (timeout.ticks - wait))
    (result, wait + after)

/-- The permits of a client. -/
structure Permits where
  /-- How many exchanges with one endpoint there may be at a time. -/
  limit : Nat
  /-- From when on each permit of an endpoint is free, for the endpoints that it has had to do with. -/
  freeFrom : Table Socket.Endpoint (List Nat)

namespace Permits

/-- The permits of a client that has had to do with nobody; it has at least one for each endpoint. -/
def new (limit : Nat) : Permits := ⟨max limit 1, .empty⟩

/-- From when on each permit of an endpoint is free. -/
def of (permits : Permits) (endpoint : Socket.Endpoint) : List Nat :=
  (permits.freeFrom.get? endpoint).getD (List.replicate permits.limit 0)

/-- Make an exchange at a moment: how it ends, and after how many milliseconds. It holds the permit that is free
first, unless it comes too late for it. At an address that is no endpoint there is nobody to have a permit for. -/
def exchange (timeout : Duration) (time : Nat) (permits : Permits) (target : Address × Behaviour) :
    (Except TransportError (Option Bytes) × Nat) × Permits :=
  match target.1.endpoint? with
  | none => (target.2.ending timeout, permits)
  | some endpoint =>
    match (permits.of endpoint).min? with
    | none => ((.error .timeout, timeout.ticks), permits)
    | some first =>
      let ending := target.2.endingAfter (first - time) timeout
      let held := max first (time + ending.2) :: (permits.of endpoint).erase first
      (ending, { permits with freeFrom := permits.freeFrom.insert endpoint held })

/-- Make the exchange with the next target. -/
def launch (timeout : Duration) (begun : Fanout × Permits) (target : Address × Behaviour) : Fanout × Permits :=
  let (ending, permits) := begun.2.exchange timeout begun.1.time target
  (begun.1.enter target.1 ending, permits)

/-- Send to many targets at once; the answer comes with the moment at which it is complete. -/
def sendMany (timeout : Duration) (permits : Permits) (targets : List (Address × Behaviour)) (time : Nat) :
    (Responses × Nat) × Permits :=
  let (fanout, permits) := targets.foldl (launch timeout) (⟨[], [], time⟩, permits)
  let finished := Fanout.finishWithin targets.length fanout
  ((finished.responses, finished.time), permits)

end Permits

end PeerMesh
