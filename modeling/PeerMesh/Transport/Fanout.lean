/-
**Sending to many targets at once.**

A `Fanout` is a set of exchanges that run side by side. Each has a slot for its response; an exchange
ends at its own moment, and the whole is over when every slot is filled. The responses come in the
order of the targets, whatever the order in which the exchanges end.
-/

import PeerMesh.Duration
import PeerMesh.Transport.Response

namespace PeerMesh

/-- What a target does with a request. -/
inductive Behaviour where
  /-- The request fails at once. -/
  | fails (error : TransportError)
  /-- The target answers after a while. -/
  | answers (delay : Duration) (data : Option Bytes)
  /-- The target never answers. -/
  | keepsSilent
  deriving DecidableEq, Repr, Inhabited

/-- How an exchange with a target ends, and after how many milliseconds. An answer that is ready at
the very end of the timeout still counts. -/
def Behaviour.ending (timeout : Duration) :
    Behaviour → Except TransportError (Option Bytes) × Nat
  | .fails error => (.error error, 0)
  | .answers delay data =>
    if delay.ticks ≤ timeout.ticks then (.ok data, delay.ticks)
    else (.error .timeout, timeout.ticks)
  | .keepsSilent => (.error .timeout, timeout.ticks)

/-- An exchange that is under way. -/
structure Exchange where
  slot : Nat
  /-- The moment at which it ends. -/
  due : Nat
  response : Response
  deriving Repr, Inhabited

/-- Exchanges that run side by side, and the responses so far. -/
structure Fanout where
  slots : List (Option Response)
  underWay : List Exchange
  time : Nat
  deriving Repr, Inhabited

namespace Fanout

/-- Begin the exchange with one more address, which ends in a known way after so many milliseconds. -/
def enter (fanout : Fanout) (address : Address) (ending : Except TransportError (Option Bytes) × Nat) : Fanout :=
  let exchange : Exchange :=
    ⟨fanout.slots.length, fanout.time + ending.2, .ofResult address ending.1⟩
  { fanout with
    slots := fanout.slots ++ [none]
    underWay := fanout.underWay ++ [exchange] }

/-- Begin the exchange with the next target. -/
def launch (timeout : Duration) (fanout : Fanout) (target : Address × Behaviour) : Fanout :=
  fanout.enter target.1 (target.2.ending timeout)

/-- Begin the exchanges with all targets. -/
def launchAll (timeout : Duration) (targets : List (Address × Behaviour)) (time : Nat) : Fanout :=
  targets.foldl (launch timeout) ⟨[], [], time⟩

/-- An exchange fills its slot. -/
def fill (fanout : Fanout) (exchange : Exchange) : Fanout :=
  { fanout with slots := fanout.slots.set exchange.slot (some exchange.response) }

/-- Whether every slot is filled. -/
def isComplete (fanout : Fanout) : Bool := fanout.slots.all Option.isSome

/-- The moment at which the next exchange ends. -/
def nextDue? (fanout : Fanout) : Option Nat := (fanout.underWay.map Exchange.due).min?

/-- Let time pass to a moment, and end the exchanges that are due. -/
def advance (fanout : Fanout) (moment : Nat) : Fanout :=
  let due := fanout.underWay.filter (·.due ≤ moment)
  let later := { fanout with
    time := max fanout.time moment
    underWay := fanout.underWay.filter (moment < ·.due) }
  due.foldl fill later

/-- Let time pass until every exchange has ended, through at most `fuel` moments. -/
def finishWithin : (fuel : Nat) → Fanout → Fanout
  | 0, fanout => fanout
  | fuel + 1, fanout =>
    match fanout.nextDue? with
    | some moment => finishWithin fuel (fanout.advance moment)
    | none => fanout

/-- The responses in the order of the targets. -/
def responses (fanout : Fanout) : Responses := fanout.slots.filterMap id

end Fanout

/-- Send to many targets at once; the answer comes with the moment at which it is complete. -/
def sendMany (timeout : Duration) (targets : List (Address × Behaviour)) (time : Nat) :
    Responses × Nat :=
  let finished := Fanout.finishWithin targets.length (.launchAll timeout targets time)
  (finished.responses, finished.time)

end PeerMesh
