/-
**What callers can have done, as data.**

An `Order` is anything that a caller can ask of a mesh whose channels are there, or of the outsider,
and an `Answer` is what comes back. `Mesh.carryOut` carries an order out; `Order.words` names the
orders.
-/

import PeerMesh.Mesh.Outsider
import PeerMesh.Mesh.Registry

namespace PeerMesh

/-- For whom an event is that a channel queues to go out. -/
inductive Goal where
  /-- All nodes of the channel's own domain. -/
  | ownDomain
  | domain (name : String)
  | allDomains
  | address (address : Address)
  deriving DecidableEq, Repr, Inhabited

/-- Anything that can be asked of a mesh. -/
inductive Order where
  | start (channel : Nat)
  | close (channel : Nat)
  | resync (channel : Nat)
  | forceResync (channel : Nat) (targets : Option (List NodeId))
  | changeDomain (channel : Nat) (domain : String)
  /-- Queue an event, and wait until it has gone out. -/
  | dispatch (channel : Nat) (goal : Goal) (kind : String) (data : Bytes)
  /-- Queue an event a number of times before it goes out for the first time, and wait for all. -/
  | burst (channel times : Nat) (kind : String) (data : Bytes)
  /-- Queue an event, and close the channel before it goes out. -/
  | dispatchThenClose (channel : Nat) (kind : String) (data : Bytes)
  | send (channel : Nat) (address : Address) (kind : String) (data : Bytes) (timeout : Duration)
  | sendMany (channel : Nat) (addresses : List Address) (kind : String) (data : Bytes)
      (timeout : Duration)
  | sendEach (channel : Nat) (targets : List (Address × Bytes)) (kind : String) (timeout : Duration)
  | sendToNodes (channel : Nat) (ids : List NodeId) (kind : String) (data : Bytes)
      (timeout : Duration)
  | sendControl (channel : Nat) (ids : List NodeId) (kind : String) (data : Bytes)
  | addFinder (channel : Nat) (finder : Finder)
  | awaitPeers (channel : Nat) (timeout : Duration) (minimum : Nat)
  | isNodeDead (channel : Nat) (id : NodeId)
  | describe (channel : Nat)
  | settings (channel : Nat)
  | metrics (channel : Nat)
  | metricsText (channel : Nat)
  /-- Perform a step on the channel's view. -/
  | view (channel : Nat) (step : ViewStep)
  | register (channel : Nat)
  | unregister (channel : Nat)
  | findByDomain (domain : String)
  | registrySize
  | closeAll
  | sleep (span : Duration)
  /-- Add permits to the gate. -/
  | release (count : Nat)
  | setReachable (address : Address) (value : Bool)
  | endpointCount
  /-- Set the outsider up anew. -/
  | setUp (manner : Memory.Manner) (joinsGroup : Bool)
  | forge (address : Address) (event : Event)
  | forgeBroadcast (event : Event)
  | forgeRequest (address : Address) (event : Event) (timeout : Duration)
  deriving Inhabited

/-- What comes back. -/
inductive Answer where
  | nothing
  /-- It was done. -/
  | done
  | refused (error : ChannelError)
  | failed (error : TransportError)
  | flag (value : Bool)
  | count (value : Nat)
  | text (value : String)
  | address (value : Address)
  | node (value : Option NodeId)
  | data (value : Option Bytes)
  | response (value : Response)
  | responses (value : Responses)
  /-- What has become of several events. -/
  | outcomes (value : List (Except ChannelError Unit))
  | settings (value : Settings)
  | metrics (value : Metrics)
  | view (value : ViewAnswer)
  | size (value : Nat)

namespace Answer

/-- The answer of something that may be refused. -/
def ofExcept {α : Type} (answer : α → Answer) : Except ChannelError α → Answer
  | .ok value => answer value
  | .error error => .refused error

/-- The answer of something that is done or refused. -/
def ofDone : Except ChannelError Unit → Answer := ofExcept fun () => .done

end Answer

namespace Mesh

/-- Queue an event that goes out to a goal. -/
def dispatchFor (mesh : Mesh) (number : Nat) (goal : Goal) (kind : String) (data : Bytes) :
    Except ChannelError Nat × Mesh :=
  match goal with
  | .ownDomain => mesh.dispatch number (.named (mesh.channel number).domain) kind data
  | .domain name => mesh.dispatch number (.named name) kind data
  | .allDomains => mesh.dispatch number .all kind data
  | .address address => mesh.dispatchTo number address kind data

/-- Queue an event a number of times. -/
def dispatchTimes (mesh : Mesh) (number times : Nat) (goal : Goal) (kind : String) (data : Bytes) :
    List (Except ChannelError Nat) × Mesh :=
  times.repeat (fun (handles, mesh) =>
    let (handle, mesh) := mesh.dispatchFor number goal kind data
    (handles ++ [handle], mesh)) (([] : List (Except ChannelError Nat)), mesh)

/-- What has become of queued events, after everything has happened that is due. -/
def outcomes (mesh : Mesh) (number : Nat) (handles : List (Except ChannelError Nat)) :
    List (Except ChannelError Unit) × Mesh :=
  let settled := mesh.settle
  (handles.map (settled.outcomeOf number), settled)

/-- Put an answer together with what else was done. -/
def answering {α : Type} (answer : α → Answer) (done : α × Mesh) : Answer × Mesh :=
  (answer done.1, done.2)

/-- Carry out an order. -/
def carryOut (mesh : Mesh) : Order → Answer × Mesh
  | .start channel => answering .ofDone (mesh.start channel)
  | .close channel => (.nothing, mesh.close channel)
  | .resync channel => (.nothing, mesh.resync channel)
  | .forceResync channel targets => answering .ofDone (mesh.forceResync channel targets)
  | .changeDomain channel domain => answering .ofDone (mesh.changeDomain channel domain)
  | .dispatch channel goal kind data =>
    let (handle, mesh) := mesh.dispatchFor channel goal kind data
    let settled := mesh.settle
    (.ofDone (settled.outcomeOf channel handle), settled)
  | .burst channel times kind data =>
    let (handles, mesh) := mesh.dispatchTimes channel times .ownDomain kind data
    answering .outcomes (mesh.outcomes channel handles)
  | .dispatchThenClose channel kind data =>
    let (handle, mesh) := mesh.dispatchFor channel .ownDomain kind data
    let settled := (mesh.close channel).settle
    (.ofDone (settled.outcomeOf channel handle), settled)
  | .send channel address kind data timeout =>
    answering (.ofExcept .response) (mesh.send channel address kind data timeout)
  | .sendMany channel addresses kind data timeout =>
    answering (.ofExcept .responses) (mesh.sendMany channel addresses kind data timeout)
  | .sendEach channel targets kind timeout =>
    answering (.ofExcept .responses) (mesh.sendEach channel targets kind timeout)
  | .sendToNodes channel ids kind data timeout =>
    answering (.ofExcept .responses) (mesh.sendToNodes channel ids kind data timeout)
  | .sendControl channel ids kind data =>
    answering (.ofExcept .count) (mesh.sendControl channel ids kind data)
  | .addFinder channel finder =>
    (.nothing, mesh.modify channel fun old => { old with finders := old.finders ++ [finder] })
  | .awaitPeers channel timeout minimum =>
    answering (.ofExcept .count) (mesh.awaitPeers channel timeout minimum)
  | .isNodeDead channel id => (.flag ((mesh.channel channel).view.isDead id), mesh)
  | .describe channel => (.text (mesh.channel channel).describe, mesh)
  | .settings channel => (.settings (mesh.channel channel).settings, mesh)
  | .metrics channel => (.metrics (mesh.channel channel).metrics, mesh)
  | .metricsText channel => (.text (mesh.channel channel).metrics.render, mesh)
  | .view channel step =>
    answering .view (mesh.modifyGet channel fun old =>
      let (answer, detector) := old.detector.perform mesh.time step
      (answer, { old with detector := detector }))
  | .register channel => (.nothing, mesh.register channel)
  | .unregister channel => answering .flag (mesh.unregister channel)
  | .findByDomain domain =>
    (.node ((mesh.find? (·.domain == domain)).map fun number => (mesh.channel number).selfId), mesh)
  | .registrySize => (.size mesh.registry.length, mesh)
  | .closeAll => (.nothing, mesh.closeAll)
  | .sleep span => (.nothing, mesh.sleep span)
  | .release count => (.nothing, mesh.release count)
  | .setReachable address value =>
    (.nothing, { mesh with network := mesh.network.setReachable address value })
  | .endpointCount => (.count mesh.network.endpointCount, mesh)
  | .setUp manner joinsGroup => answering .address (mesh.setUp manner joinsGroup)
  | .forge address event => answering .flag (mesh.forge address event)
  | .forgeBroadcast event => answering .flag (mesh.forgeBroadcast event)
  | .forgeRequest address event timeout =>
    answering (fun
      | .ok data => .data data
      | .error error => .failed error) (mesh.forgeRequest address event timeout)

end Mesh

/-- What orders are made of. -/
structure OrderParts where
  channel : Nat
  kind : String
  name : String
  data : Bytes
  domain : String
  address : Address
  targets : List (Address × Bytes)
  id : NodeId
  ids : List NodeId
  /-- The nodes that are asked to announce themselves, if not all are. -/
  asked : Option (List NodeId)
  timeout : Duration
  minimum : Nat
  times : Nat
  span : Duration
  value : Bool
  panics : Bool
  step : ViewStep
  manner : Memory.Manner
  joinsGroup : Bool
  event : Event

/-- The orders by their words, each made of some of the parts. -/
def Order.words (parts : OrderParts) : List (String × Order) :=
  let channel := parts.channel
  let kind := parts.kind
  let data := parts.data
  let timeout := parts.timeout
  [("start", .start channel), ("close", .close channel), ("resync", .resync channel),
    ("force_resync", .forceResync channel parts.asked),
    ("change_domain", .changeDomain channel parts.domain),
    ("dispatch", .dispatch channel .ownDomain kind data),
    ("dispatch_to_domain", .dispatch channel (.domain parts.domain) kind data),
    ("dispatch_all", .dispatch channel .allDomains kind data),
    ("dispatch_to", .dispatch channel (.address parts.address) kind data),
    ("burst", .burst channel parts.times kind data),
    ("dispatch_then_close", .dispatchThenClose channel kind data),
    ("send", .send channel parts.address kind data timeout),
    ("send_many", .sendMany channel (parts.targets.map Prod.fst) kind data timeout),
    ("send_each", .sendEach channel parts.targets kind timeout),
    ("send_to_nodes", .sendToNodes channel parts.ids kind data timeout),
    ("send_control", .sendControl channel parts.ids parts.name data),
    ("find_peers", .addFinder channel ⟨parts.panics⟩),
    ("await_peers", .awaitPeers channel timeout parts.minimum),
    ("is_node_dead", .isNodeDead channel parts.id), ("debug", .describe channel),
    ("config", .settings channel), ("metrics", .metrics channel),
    ("metrics_text", .metricsText channel), ("view", .view channel parts.step),
    ("reg_register", .register channel), ("reg_unregister", .unregister channel),
    ("reg_find", .findByDomain parts.domain), ("reg_len", .registrySize),
    ("reg_close_all", .closeAll), ("sleep", .sleep parts.span), ("release", .release parts.times),
    ("reachable", .setReachable parts.address parts.value), ("endpoint_count", .endpointCount),
    ("probe", .setUp parts.manner parts.joinsGroup), ("forge", .forge parts.address parts.event),
    ("forge_broadcast", .forgeBroadcast parts.event),
    ("forge_sync", .forgeRequest parts.address parts.event timeout)]

end PeerMesh
