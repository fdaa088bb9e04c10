/-
**The rounds of a failure detector.**

A `Detector` is a view with the heartbeat number, the scheduler and the control round that go with
it. It is part of a larger state, from which it reaches others; a `Station` says how. With a station

* `Station.beginRound` ages the peers and begins to probe the suspects;
* `Station.hear` takes one reply to a question of a round, and ends the round with the last one;
* `Station.gossip` and `Station.autoBroadcast` tell others about the peers;
* `Station.turn` and `Station.hearScheduled` do what the scheduler waits for.

A reply that comes at once is taken at once; every other one is `Awaited` until its moment.
-/

import PeerMesh.Detector.Receive
import PeerMesh.Detector.Timetable
import PeerMesh.Metrics

namespace PeerMesh

/-- A reply that is on its way. -/
structure Awaited where
  /-- The suspect about whom the question was. -/
  suspect : NodeId
  /-- The place of the question in its probe. -/
  place : Nat
  /-- The moment at which the reply comes. -/
  due : Nat
  reply : Reply

/-- A control round under way. -/
structure Round where
  /-- The probes that are not over. -/
  probings : List Probing
  awaited : List Awaited

/-- The next moment at which a reply comes. -/
def Round.nextDue? (round : Round) : Option Nat := (round.awaited.map Awaited.due).min?

/-- A reply that has come. -/
def Round.arrived? (round : Round) (time : Nat) : Option Awaited :=
  round.awaited.find? fun awaited => awaited.due ≤ time

/-- A failure detector with the view that it keeps. -/
structure Detector where
  settings : Settings
  watched : Watched
  /-- The number of the last round in which others were told about the peers. -/
  heartbeat : UInt64
  scheduler : Scheduler
  /-- The scheduler's control round under way. -/
  round : Option Round
  counts : Metrics

namespace Detector

/-- The detector of a node that knows nobody. -/
def new (settings : Settings) (selfId : NodeId) (clock : Timepiece) : Detector :=
  ⟨settings, .ofView (.new selfId) clock, 0, .off, none, .zero⟩

instance : Inhabited Detector := ⟨new .standard default (.running 0)⟩

/-- The view. -/
def view (detector : Detector) : View := detector.watched.view

/-- Count something. -/
def tally (detector : Detector) (change : Metrics → Metrics) : Detector :=
  { detector with counts := change detector.counts }

/-- Perform an operation of the view. -/
def run {α : Type} (detector : Detector) (time : Nat) (operation : View → Reading → Outcome α) :
    α × Detector :=
  let (answer, watched) := detector.watched.run time operation
  (answer, { detector with watched := watched })

/-- Perform a step on the view. -/
def perform (detector : Detector) (time : Nat) (step : ViewStep) : ViewAnswer × Detector :=
  let (answer, watched) := detector.watched.perform time step
  (answer, { detector with watched := watched })

/-- Suspect the peers that were not heard of for too long. -/
def age (detector : Detector) (time : Nat) : Detector :=
  let now := detector.watched.now time
  let aged := detector.watched.mapView (·.age now detector.settings.heartbeatTimeout)
  { detector with watched := aged }

/-- A probe is over. -/
def conclude (detector : Detector) (time : Nat) (probing : Probing) : Detector :=
  let (died, concluded) := detector.run time fun view now =>
    view.conclude now probing.probe probing.affirmed
  if died then concluded.tally fun counts => { counts with declaredDead := counts.declaredDead + 1 }
  else concluded

/-- Old tombstones go. -/
def evict (detector : Detector) (time : Nat) : Detector :=
  (detector.run time fun view now => view.cleanup now detector.settings.gracePeriod).2

/-- Start the scheduler. -/
def start (detector : Detector) (time : Nat) : Detector :=
  let delay := Duration.between detector.settings.startDelayMin detector.settings.startDelayMax 0
  { detector with scheduler := detector.scheduler.start delay time }

/-- Stop the scheduler; its round is abandoned. -/
def stop (detector : Detector) : Detector := { detector with scheduler := .off, round := none }

/-- The next moment at which the detector has something to do by itself. -/
def nextMoment? (detector : Detector) : Option Nat :=
  ((detector.round.bind Round.nextDue?).toList ++ detector.scheduler.wakeAt?.toList).min?

end Detector

/-- How a detector that is part of a larger state acts. -/
structure Station (σ : Type) where
  detector : σ → Detector
  update : (Detector → Detector) → σ → σ
  /-- The running time. -/
  time : σ → Nat
  /-- Ask a question; the answer is the reply and the milliseconds after which it comes. -/
  ask : σ → Question → Duration → (Reply × Nat) × σ
  /-- Send a message; the answer is whether it was accepted. -/
  send : σ → Address → ControlMessage → Bool × σ
  broadcast : σ → ControlMessage → Except TransportError Unit × σ
  draw : Draw

namespace Station

variable {σ : Type} (station : Station σ)

/-! ### Control rounds -/

/-- Ask the next question of a probe; a reply that does not come at once is awaited. -/
def askNext (asked : Probing × List Awaited × σ) (entry : Nat × Question) :
    Probing × List Awaited × σ :=
  let (probing, awaited, state) := asked
  let timeout := (station.detector state).settings.delegateTimeout
  let ((reply, delay), state) := station.ask state entry.2 timeout
  if delay = 0 then (probing.answer entry.1 reply, awaited, state)
  else
    let moment := station.time state + delay
    (probing, awaited ++ [⟨probing.probe.id, entry.1, moment, reply⟩], state)

/-- A probe is over. -/
def conclude (probing : Probing) (state : σ) : σ :=
  station.update (·.conclude (station.time state) probing) state

/-- Begin to probe a suspect. -/
def probe (begun : Round × σ) (suspect : Member) : Round × σ :=
  let (round, state) := begun
  let state := station.update
    (·.tally fun counts => { counts with probes := counts.probes + 1 }) state
  let detector := station.detector state
  let candidates := detector.view.delegatesFor suspect.record.id
  let probing := Probing.start ⟨suspect, station.draw detector.settings.delegateCount candidates⟩
  let (probing, awaited, state) := probing.pending.foldl station.askNext (probing, [], state)
  if probing.isOver then (round, station.conclude probing state)
  else (⟨round.probings ++ [probing], round.awaited ++ awaited⟩, state)

/-- End a round all of whose probes are over, and keep every other one. -/
def settle (round : Round) (state : σ) : Option Round × σ :=
  if round.probings.isEmpty then (none, station.update (·.evict (station.time state)) state)
  else (some round, state)

/-- Begin a control round. It is given back if it is not over at once. -/
def beginRound (state : σ) : Option Round × σ :=
  let state := station.update (·.age (station.time state)) state
  let suspects := (station.detector state).view.suspects
  let (round, state) := suspects.foldl station.probe (⟨[], []⟩, state)
  station.settle round state

/-- A reply to a question of a round comes. The round is given back if it is not over then. -/
def hear (round : Round) (awaited : Awaited) (state : σ) : Option Round × σ :=
  let answer (probing : Probing) :=
    if probing.probe.id = awaited.suspect then probing.answer awaited.place awaited.reply
    else probing
  let probings := round.probings.map answer
  let pending := round.awaited.filter fun other =>
    !(other.suspect = awaited.suspect && other.place = awaited.place)
  let state := (probings.filter Probing.isOver).foldl (fun state probing =>
    station.conclude probing state) state
  station.settle ⟨probings.filter (!·.isOver), pending⟩ state

/-! ### Telling others -/

/-- A gossip round. -/
def gossip (state : σ) : σ :=
  let detector := station.detector state
  match gossipRound? detector.settings station.draw detector.view detector.heartbeat with
  | none => state
  | some (heartbeat, messages) =>
    let (sent, state) := sendAll station.send messages
      (station.update ({ · with heartbeat := heartbeat }) state)
    station.update (·.tally fun counts => { counts with gossipSent := counts.gossipSent + sent })
      state

/-- A round in which the whole view is broadcast. -/
def autoBroadcast (state : σ) : σ :=
  let detector := station.detector state
  match broadcastRound? detector.settings detector.view detector.heartbeat with
  | none => state
  | some (heartbeat, messages) =>
    broadcastAll station.broadcast messages
      (station.update ({ · with heartbeat := heartbeat }) state)

/-- Send a control event to nodes; the answer is how many accepted it. -/
def sendControl (ids : List NodeId) (kind : String) (data : Bytes) (state : σ) : Nat × σ :=
  PeerMesh.sendControl (fun state id => (station.detector state).view.addressOf? id) station.send
    (station.detector state).settings.batchSize (.event kind data) ids state

/-! ### The scheduler -/

/-- Let the scheduler be after a round that was over at once, or during one that was not. -/
def resume (table : Timetable) (round? : Option Round) (state : σ) : σ :=
  station.update (fun detector => { detector with
    round := round?
    scheduler := if round?.isSome then .busy table else .idle table }) state

/-- The scheduler lets a round begin. -/
def beginScheduled (table : Timetable) (kind : RoundKind) (state : σ) : σ :=
  match kind with
  | .control =>
    let (round?, state) := station.beginRound state
    station.resume table round? state
  | .gossip => station.resume table none (station.gossip state)
  | .broadcast => station.resume table none (station.autoBroadcast state)

/-- The scheduler does what it waits for, if the moment has come. -/
def turn (state : σ) : σ :=
  let time := station.time state
  match (station.detector state).scheduler with
  | .delayed moment =>
    if moment ≤ time then
      station.update (fun detector =>
        { detector with scheduler := .setAlarms detector.settings time }) state
    else state
  | .idle table =>
    match table.due? time with
    | some kind => station.beginScheduled (table.ring time kind) kind state
    | none => state
  | .off | .busy _ | .failed => state

/-- A reply to a question of the scheduler's round comes, if one is due. -/
def hearScheduled (state : σ) : σ :=
  match (station.detector state).round with
  | none => state
  | some round =>
    match round.arrived? (station.time state) with
    | none => state
    | some awaited =>
      let (round?, state) := station.hear round awaited state
      station.update (fun detector => { detector with
        round := round?
        scheduler := if round?.isSome then detector.scheduler else detector.scheduler.rest }) state

end Station

end PeerMesh
