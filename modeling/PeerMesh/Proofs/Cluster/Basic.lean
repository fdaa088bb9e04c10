/-
**Nodes that tell each other about their peers.**

A `Cluster` is some nodes, each with its failure detector, and all the messages that they ever sent. A
message may reach any node at any time, and again, or never, so no message is ever taken off the list.

* `Surroundings` — what a round of a node runs into: the clock, the draw, what becomes of its messages, and
  whatever the others and the node itself do meanwhile.
* `Cluster.Leads` — everything that can happen, one thing after another and during each other's rounds.
* `Cluster.IsNew` — how a cluster begins.
-/

import PeerMesh.Proofs.Detector.Grounds
import PeerMesh.Proofs.View.Versions

namespace PeerMesh

/-- A message that was sent, and by whom. -/
structure Letter where
  origin : NodeId
  message : ControlMessage

/-- Nodes by their ids, and all that they have sent, latest first. -/
structure Cluster where
  nodes : Table NodeId Detector
  letters : List Letter

namespace Cluster

/-- The heartbeat number of a node; zero if there is no node of this id. -/
def counter (cluster : Cluster) (id : NodeId) : UInt64 :=
  ((cluster.nodes.get? id).map Detector.heartbeat).getD 0

/-- Change the detector of a node, if there is one of this id. -/
def modify (cluster : Cluster) (id : NodeId) (change : Detector → Detector) : Cluster :=
  { cluster with nodes := cluster.nodes.modify id change }

/-- A node sends a message. -/
def post (cluster : Cluster) (id : NodeId) (message : ControlMessage) : Cluster :=
  { cluster with letters := ⟨id, message⟩ :: cluster.letters }

end Cluster

/-- What a round runs into. -/
structure Surroundings where
  time : Cluster → Nat
  draw : Draw
  reply : Cluster → Question → Duration → Reply × Nat
  accepts : Cluster → Address → ControlMessage → Bool
  broadcasts : Cluster → ControlMessage → Except TransportError Unit
  /-- What happens while a message is on its way. -/
  meanwhile : Cluster → Cluster

/-- How the detector of a node acts in its surroundings. -/
def Surroundings.station (around : Surroundings) (id : NodeId) : Station Cluster where
  detector := fun cluster => (cluster.nodes.get? id).getD default
  update := fun change cluster => cluster.modify id change
  time := around.time
  ask := fun cluster question timeout =>
    (around.reply cluster question timeout, around.meanwhile (cluster.post id (.request question.request)))
  send := fun cluster address message =>
    (around.accepts cluster address message, around.meanwhile (cluster.post id message))
  broadcast := fun cluster message =>
    (around.broadcasts cluster message, around.meanwhile (cluster.post id message))
  draw := around.draw

/-- A detector sees to itself: its view and its number stay as they are, and no watcher is new that has a
step in mind by which it would tell a version. -/
structure Detector.Tends (change : Detector → Detector) : Prop where
  view : ∀ detector, (change detector).watched.view = detector.watched.view
  heartbeat : ∀ detector, (change detector).heartbeat = detector.heartbeat
  watchers : ∀ detector, ∀ watcher ∈ (change detector).watched.watchers,
    watcher ∈ detector.watched.watchers ∨ ∀ reaction ∈ watcher.reaction, reaction.step.told? = none

namespace Cluster

/-- What can happen in a cluster whose nodes are never restarted and whose heartbeat numbers never
overflow. -/
inductive Leads : Cluster → Cluster → Prop
  | nothing (cluster : Cluster) : Leads cluster cluster
  | onward {first second third : Cluster} (before : Leads first second) (after : Leads second third) :
      Leads first third
  /-- A gossip round. -/
  | gossip {around : Surroundings} (meanwhile : ∀ cluster, Leads cluster (around.meanwhile cluster))
      {cluster : Cluster} {id : NodeId} {detector : Detector}
      (node : cluster.nodes.get? id = some detector) (fits : detector.heartbeat.toNat + 1 < 2 ^ 64) :
      Leads cluster ((around.station id).gossip cluster)
  /-- A round in which the whole view is broadcast. -/
  | autoBroadcast {around : Surroundings}
      (meanwhile : ∀ cluster, Leads cluster (around.meanwhile cluster))
      {cluster : Cluster} {id : NodeId} {detector : Detector}
      (node : cluster.nodes.get? id = some detector) (fits : detector.heartbeat.toNat + 1 < 2 ^ 64) :
      Leads cluster ((around.station id).autoBroadcast cluster)
  /-- A control round begins. -/
  | beginRound {around : Surroundings} (meanwhile : ∀ cluster, Leads cluster (around.meanwhile cluster))
      (cluster : Cluster) (id : NodeId) : Leads cluster ((around.station id).beginRound cluster).2
  /-- A reply to a question of a control round comes. -/
  | hear (around : Surroundings) (cluster : Cluster) (id : NodeId) (round : Round) (awaited : Awaited) :
      Leads cluster ((around.station id).hear round awaited cluster).2
  /-- A control event is sent to some nodes. -/
  | sendControl {around : Surroundings} (meanwhile : ∀ cluster, Leads cluster (around.meanwhile cluster))
      (cluster : Cluster) (id : NodeId) (ids : List NodeId) (kind : String) (data : Bytes) :
      Leads cluster ((around.station id).sendControl ids kind data cluster).2
  /-- A node asks another one, such as the one that it was asked about. -/
  | ask (cluster : Cluster) (id : NodeId) (request : SyncRequest) :
      Leads cluster (cluster.post id (.request request))
  /-- An operation on the view of a node by which it is told no version. -/
  | operate (cluster : Cluster) (id : NodeId) (time : Nat) {step : ViewStep} (quiet : step.told? = none) :
      Leads cluster (cluster.modify id fun detector => (detector.perform time step).2)
  /-- A node sees to itself. -/
  | tend (cluster : Cluster) (id : NodeId) {change : Detector → Detector} (tends : Detector.Tends change) :
      Leads cluster (cluster.modify id change)
  /-- A message arrives, as an event that reads as what was sent. -/
  | deliver {cluster : Cluster} {letter : Letter} (sent : letter ∈ cluster.letters) (id : NodeId)
      (time : Nat) {event : Event} (origin : event.origin = letter.origin)
      (reads : ControlMessage.codec.decode maxFrameSize event.data = .ok letter.message) :
      Leads cluster (cluster.modify id fun detector =>
        { detector with watched := (detector.watched.receive time event).2 })

/-- Nobody knows anybody, and nothing was sent. -/
structure IsNew (cluster : Cluster) : Prop where
  views : ∀ id detector, cluster.nodes.get? id = some detector → detector.view = .new id
  numbers : ∀ id detector, cluster.nodes.get? id = some detector → detector.heartbeat = 0
  watchers : ∀ id detector, cluster.nodes.get? id = some detector →
    ∀ watcher ∈ detector.watched.watchers, ∀ reaction ∈ watcher.reaction, reaction.step.told? = none
  silent : cluster.letters = []

/-! ### What the scheduler does -/

variable {around : Surroundings}

theorem station_detector {cluster : Cluster} {id : NodeId} {detector : Detector}
    (node : cluster.nodes.get? id = some detector) :
    (around.station id).detector cluster = detector := by
  show (cluster.nodes.get? id).getD default = detector
  rw [node]
  rfl

/-- The scheduler and the round of a node are its own business. -/
theorem leads_reschedule (cluster : Cluster) (id : NodeId) (scheduler : Detector → Scheduler)
    (round : Detector → Option Round) :
    Leads cluster ((around.station id).update (fun detector =>
      { detector with scheduler := scheduler detector, round := round detector }) cluster) :=
  .tend cluster id ⟨fun _ => rfl, fun _ => rfl, fun _ _ member => .inl member⟩

theorem leads_beginScheduled (meanwhile : ∀ cluster, Leads cluster (around.meanwhile cluster))
    {cluster : Cluster} {id : NodeId} {detector : Detector} (node : cluster.nodes.get? id = some detector)
    (fits : detector.heartbeat.toNat + 1 < 2 ^ 64) (table : Timetable) (kind : RoundKind) :
    Leads cluster ((around.station id).beginScheduled table kind cluster) := by
  cases kind with
  | control => exact (Leads.beginRound meanwhile cluster id).onward (leads_reschedule _ id _ _)
  | gossip => exact (Leads.gossip meanwhile node fits).onward (leads_reschedule _ id _ _)
  | broadcast => exact (Leads.autoBroadcast meanwhile node fits).onward (leads_reschedule _ id _ _)

/-- **Whatever the scheduler of a node does can happen**, unless the number of the node overflows. -/
theorem leads_turn (meanwhile : ∀ cluster, Leads cluster (around.meanwhile cluster)) {cluster : Cluster}
    {id : NodeId} {detector : Detector} (node : cluster.nodes.get? id = some detector)
    (fits : detector.heartbeat.toNat + 1 < 2 ^ 64) : Leads cluster ((around.station id).turn cluster) := by
  refine Station.turn_cases (.nothing cluster) (fun moment _ => ?_) fun table kind _ _ => ?_
  · exact leads_reschedule cluster id _ Detector.round
  · exact leads_beginScheduled meanwhile node fits _ kind

theorem leads_hearScheduled (cluster : Cluster) (id : NodeId) :
    Leads cluster ((around.station id).hearScheduled cluster) := by
  unfold Station.hearScheduled
  split
  · exact .nothing cluster
  · rename_i round _
    split
    · exact .nothing cluster
    · rename_i awaited _
      exact (Leads.hear around cluster id round awaited).onward (leads_reschedule _ id _ _)

end Cluster

end PeerMesh
