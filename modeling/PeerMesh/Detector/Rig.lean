/-
**A failure detector with contacts of known behaviour.**

A `Rig` is a detector whose questions and messages go to `Contact`s: each has a fixed manner of
answering, and may do something to the detector's view before it answers. All questions, messages and
events that leave the detector are recorded.

* `Rig.station` — how the detector reaches its contacts;
* `Rig.checkStatus`, `Rig.sendControl` — a control round or a send by hand;
* `Rig.receive` — a control message arrives;
* `Rig.passUntil` — time passes, and the scheduler lets rounds begin.
-/

import PeerMesh.Detector.Rounds

namespace PeerMesh

/-- How a contact answers a question. -/
inductive Say where
  | bytes (data : Bytes)
  /-- Without payload. -/
  | nothing
  /-- Not in time. -/
  | stall
  | refuse
  | unreachable
  deriving DecidableEq, Repr, Inhabited

/-- What comes back from an address, and after how many milliseconds. -/
def Say.reply (say : Say) (address : Address) (timeout : Duration) : Reply × Nat :=
  match say with
  | .bytes data => (.ok (some data), 0)
  | .nothing => (.ok none, 0)
  | .stall => (.error .timeout, timeout.ticks)
  | .refuse => (.error (.connectionRefused address.text), 0)
  | .unreachable => (.error (.unreachable address.text), 0)

/-- Somebody whom the detector asks and tells. -/
structure Contact where
  ping : Say
  check : Say
  /-- Whether messages are accepted. -/
  accepts : Bool
  /-- What is done to the view of the detector before a question is answered. -/
  meanwhile : Option ViewStep
  deriving Repr, Inhabited

namespace Contact

/-- A contact that answers pings, reaches nobody and accepts messages. -/
def standard : Contact :=
  ⟨.bytes SyncReply.pong.bytes, .bytes (SyncReply.reachable false).bytes, true, none⟩

/-- How a contact answers a request. -/
def say (contact : Contact) : SyncRequest → Say
  | .ping => contact.ping
  | .healthCheck _ _ => contact.check

end Contact

/-- What has left the detector. -/
inductive RigRecord where
  | asked (question : Question) (timeout : Duration)
  | told (address : Address) (message : ControlMessage)
  | broadcast (message : ControlMessage)
  | delivered (event : Event)
  deriving Repr, Inhabited

/-- A failure detector with its contacts. -/
structure Rig where
  detector : Detector
  contacts : Table Address Contact
  /-- Why broadcasts fail, if they do. -/
  broadcastError : Option TransportError
  /-- Whether anything is counted. -/
  hasMetrics : Bool
  time : Nat
  /-- What has left the detector, latest first. -/
  records : List RigRecord

namespace Rig

/-- A detector of a node, without contacts. -/
def new (settings : Settings) (selfId : NodeId) (clock : Timepiece) (hasMetrics : Bool) : Rig :=
  ⟨.new settings selfId clock, .empty, none, hasMetrics, 0, []⟩

/-- What was counted. -/
def metrics (rig : Rig) : Metrics := if rig.hasMetrics then rig.detector.counts else .zero

/-- Change the detector. -/
def update (change : Detector → Detector) (rig : Rig) : Rig :=
  { rig with detector := change rig.detector }

/-- Record what leaves the detector. -/
def note (rig : Rig) (record : RigRecord) : Rig := { rig with records := record :: rig.records }

/-- The contact at an address. -/
def contactAt (rig : Rig) (address : Address) : Contact :=
  (rig.contacts.get? address).getD .standard

/-- Replace the contact at an address; the answer is whether there was one. -/
def setContact (rig : Rig) (address : Address) (contact : Contact) : Bool × Rig :=
  (rig.contacts.contains address, { rig with contacts := rig.contacts.insert address contact })

/-- Perform a step on the view. -/
def perform (rig : Rig) (step : ViewStep) : ViewAnswer × Rig :=
  let (answer, detector) := rig.detector.perform rig.time step
  (answer, { rig with detector := detector })

/-- Ask a question; the answer is the reply and the milliseconds after which it comes. -/
def ask (rig : Rig) (question : Question) (timeout : Duration) : (Reply × Nat) × Rig :=
  let contact := rig.contactAt question.address
  let asked := rig.note (.asked question timeout)
  let asked := match contact.meanwhile with
    | some step => (asked.perform step).2
    | none => asked
  ((contact.say question.request).reply question.address timeout, asked)

/-- Send a message; the answer is whether it was accepted. -/
def send (rig : Rig) (address : Address) (message : ControlMessage) : Bool × Rig :=
  if (rig.contactAt address).accepts then (true, rig.note (.told address message)) else (false, rig)

/-- Broadcast a message. -/
def broadcast (rig : Rig) (message : ControlMessage) : Except TransportError Unit × Rig :=
  match rig.broadcastError with
  | some error => (.error error, rig)
  | none => (.ok (), rig.note (.broadcast message))

/-- How the detector reaches its contacts, with peers chosen as a draw says. -/
def stationWith (draw : Draw) : Station Rig := ⟨detector, update, time, ask, send, broadcast, draw⟩

/-- How the detector reaches its contacts. -/
def station : Station Rig := stationWith Draw.first

/-! ### Time -/

/-- What is due now happens: a reply comes, or else the scheduler does what it waits for. -/
def act (rig : Rig) : Rig :=
  if rig.detector.round.isSome then station.hearScheduled rig else station.turn rig

/-- Let time pass until a moment, in which at most `fuel` things happen. -/
def passWithin (moment : Nat) : (fuel : Nat) → Rig → Rig
  | 0, rig => { rig with time := max rig.time moment }
  | fuel + 1, rig =>
    match rig.detector.nextMoment? with
    | some next =>
      if next ≤ moment then passWithin moment fuel { rig with time := max rig.time next }.act
      else { rig with time := max rig.time moment }
    | none => { rig with time := max rig.time moment }

/-- At most how many things can happen in one go. -/
def patience : Nat := 10 ^ 12

/-- Let time pass until a moment. -/
def passUntil (rig : Rig) (moment : Nat) : Rig := passWithin moment patience rig

/-- Let time pass. -/
def sleep (rig : Rig) (span : Duration) : Rig := rig.passUntil (rig.time + span.ticks)

/-- Start the scheduler. -/
def start (rig : Rig) : Rig := (rig.update (·.start rig.time)).passUntil rig.time

/-- Stop the scheduler. -/
def stop (rig : Rig) : Rig := rig.update Detector.stop

/-! ### By hand -/

/-- Wait for at most `fuel` replies to the questions of a round that was begun by hand. -/
def finishRound : (fuel : Nat) → Option Round → Rig → Rig
  | 0, _, rig => rig
  | _ + 1, none, rig => rig
  | fuel + 1, some round, rig =>
    let rig := rig.passUntil (round.nextDue?.getD rig.time)
    match round.arrived? rig.time with
    | none => rig
    | some awaited =>
      let (round?, rig) := station.hear round awaited rig
      finishRound fuel round? rig

/-- A control round. -/
def checkStatus (rig : Rig) : Rig :=
  let (round?, rig) := station.beginRound rig
  finishRound ((round?.map (·.awaited.length)).getD 0) round? rig

/-- A control message arrives; the answer is what its sender is answered if it waits. -/
def receive (rig : Rig) (event : Event) : Option SyncReply × Rig :=
  let (followUp, watched) := rig.detector.watched.receive rig.time event
  let rig := rig.update ({ · with watched := watched })
  match followUp with
  | .nothing => (none, rig)
  | .answer reply => (some reply, rig)
  | .deliver event => (none, rig.note (.delivered event))
  | .inquire address =>
    let ((reply, delay), rig) := rig.ask ⟨address, .ping⟩ rig.detector.settings.delegateTimeout.half
    (some (.reachable (SyncRequest.ping.isAffirmedBy reply)), rig.passUntil (rig.time + delay))

/-- The text that describes a detector. -/
def describe (rig : Rig) : String :=
  "Controller \x7b self_id: " ++ rig.detector.view.selfId.describe ++ ", heartbeat: " ++
    toString rig.detector.heartbeat.toNat ++ ", running: " ++
    (if rig.detector.scheduler.isRunning then "true" else "false") ++ " \x7d"

/-- What has left the detector, in order, and the record emptied. -/
def takeRecords (rig : Rig) : List RigRecord × Rig :=
  (rig.records.reverse, { rig with records := [] })

end Rig

end PeerMesh
