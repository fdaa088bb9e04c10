/-
**Waiting for peers while others wait.**

Everybody who waits for peers of a view shares one signal. It is given by the steps that publish the number
of peers and by a shutdown (`View.signals`). Whoever waits looks at the view when the wait begins and once
more after a signal; without a signal, only the end of the timeout ends a wait.

A `Lobby` is a view with all calls that were made to wait for peers of it. Steps on the view, calls, the turns
of those who wait and the passing of time may come in any order (`Lobby.Move`).
-/

import PeerMesh.View.Step

namespace PeerMesh

/-- Whether a step signals those who wait for peers. -/
def View.signals (view : View) (now : Reading) : ViewStep → Bool
  | .addHost _ id | .heartbeat _ id | .observe _ id _ => (view.refusal? id).isNone
  | .removeDead _ | .removeLeaving _ | .clear | .shutdown => true
  | .cleanup grace => 0 < (view.cleanup now grace).answer
  | .suspect _ | .touch _ | .checkState _ _ | .observeVersion _ _ | .get _ | .addressOf _ | .isLive _
  | .isDead _ | .normal | .staleness | .advance _ | .set _ => false

/-- A call to wait for peers. -/
structure PeerCall where
  minimum : Nat
  timeout : Duration
  /-- The moment of the call. -/
  begun : Nat
  /-- Whether there was a signal after which the view was not looked at yet. -/
  signalled : Bool
  /-- What the call returned, if it has. -/
  verdict : Option (Except ViewError Nat)
  deriving Repr

namespace PeerCall

/-- How many peers are waited for. -/
def wanted (call : PeerCall) : Nat := max call.minimum 1

/-- The earliest moment at which the timer of a call rings. -/
def deadline (call : PeerCall) : Nat := call.begun + call.timeout.ticks

/-- What a call that waits returns when its turn comes, if it returns then. -/
def verdictOn? (call : PeerCall) (view : View) (rung : Bool) : Option (Except ViewError Nat) :=
  if call.signalled && (call.wanted ≤ view.peerCount || view.closed) then
    some (if view.closed then .error .interrupted else .ok view.peerCount)
  else if rung then some (.error (.awaitTimeout call.wanted view.nodeCount))
  else none

/-- The turn of a call comes. -/
def look (call : PeerCall) (view : View) (rung : Bool) : PeerCall :=
  match call.verdict with
  | some _ => call
  | none => { call with signalled := false, verdict := call.verdictOn? view rung }

/-- A signal is given. -/
def signal (call : PeerCall) : PeerCall := { call with signalled := true }

end PeerCall

/-- A view and the calls to wait for peers of it, earliest first. -/
structure Lobby where
  view : View
  /-- The running time in milliseconds. -/
  time : Nat
  calls : List PeerCall

/-- What can happen in a lobby. -/
inductive Lobby.Move where
  | step (now : Reading) (step : ViewStep)
  | call (timeout : Duration) (minimum : Nat)
  /-- The turn of a call comes; its timer may have rung if it is due. -/
  | turn (number : Nat) (rung : Bool)
  | pass (millis : Nat)

namespace Lobby

/-- A view for whose peers nobody has waited. -/
def new (view : View) (time : Nat) : Lobby := ⟨view, time, []⟩

/-- The turn of a call comes. -/
def turn (lobby : Lobby) (number : Nat) (rung : Bool) : Lobby :=
  { lobby with calls := lobby.calls.modify number fun call =>
      call.look lobby.view (rung && call.deadline ≤ lobby.time) }

/-- Something happens. -/
def move (lobby : Lobby) : Move → Lobby
  | .step now step =>
    let (_, kept, _) := Kept.perform ⟨lobby.view, .manual now⟩ 0 step
    { lobby with
      view := kept.view
      calls := if lobby.view.signals now step then lobby.calls.map PeerCall.signal else lobby.calls }
  | .call timeout minimum =>
    let made : PeerCall := ⟨minimum, timeout, lobby.time, true, none⟩
    { lobby with calls := lobby.calls ++ [made] : Lobby }.turn lobby.calls.length false
  | .turn number rung => lobby.turn number rung
  | .pass millis => { lobby with time := lobby.time + millis }

/-- One thing happens after another. -/
def run (lobby : Lobby) (moves : List Move) : Lobby := moves.foldl move lobby

end Lobby

end PeerMesh
