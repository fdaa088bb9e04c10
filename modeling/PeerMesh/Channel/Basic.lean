/-
**Channels.**

A `Channel` is one node's membership in a domain: a failure detector with its view, the listeners for
inbound events, a queue of events that go out, and one link each to a broadcast group and to single
addresses. It is created, then started, then closed, and stays closed.

* `Phase` and `Channel.gate` — what a channel may do in which phase;
* `Channel.event` — the events of a channel, which carry its id and its address;
* `Channel.enlist` and `Channel.dismiss` — its own listeners for the protocol events;
* `Channel.resync` — begin to announce itself anew.
-/

import PeerMesh.Channel.Error
import PeerMesh.Consumer.Script
import PeerMesh.Datagram.Group
import PeerMesh.Detector.Rounds
import PeerMesh.Memory.Network
import PeerMesh.Stream.Client

namespace PeerMesh

/-- The kinds of events by which channels keep up their domains. -/
inductive ProtocolKind where
  /-- A node announces itself to its domain. -/
  | publish
  /-- A node makes itself known to one that has announced itself. -/
  | discover
  /-- Nodes are asked to announce themselves. -/
  | resync
  /-- A node goes down. -/
  | shutdown
  /-- A node leaves its domain. -/
  | leave
  /-- The failure detectors talk. -/
  | control
  deriving DecidableEq, Repr, Inhabited

namespace ProtocolKind

/-- The event type of a kind. -/
def text : ProtocolKind → String
  | .publish => "vibemesh.publish"
  | .discover => "vibemesh.discover"
  | .resync => "vibemesh.resync"
  | .shutdown => "vibemesh.shutdown"
  | .leave => "vibemesh.leave"
  | .control => "vibemesh.control"

/-- All kinds. -/
def all : List ProtocolKind := [.publish, .discover, .resync, .shutdown, .leave, .control]

/-- The kind of an event type. -/
def ofText? (text : String) : Option ProtocolKind := all.find? fun kind => kind.text == text

end ProtocolKind

/-- In which part of its life a channel is. -/
inductive Phase where
  | created
  | started
  | closed
  deriving DecidableEq, Repr, Inhabited

/-- The word for a phase. -/
def Phase.word : Phase → String
  | .created => "created"
  | .started => "started"
  | .closed => "closed"

/-- The word for a phase in the description of a channel. -/
def Phase.title : Phase → String
  | .created => "Created"
  | .started => "Started"
  | .closed => "Closed"

/-- Who is called with an asynchronous event. -/
inductive Listener where
  /-- The channel itself. -/
  | protocol
  | script (script : AsyncScript)
  deriving DecidableEq, Repr, Inhabited

/-- Who is asked to answer a synchronous event. -/
inductive Replier where
  /-- The channel itself. -/
  | protocol
  | script (script : SyncScript)
  deriving DecidableEq, Repr, Inhabited

/-- A listener that is told of discovered peers. -/
structure Finder where
  /-- Whether it panics whenever it was told. -/
  panics : Bool
  deriving DecidableEq, Repr, Inhabited

/-- A channel's link to a broadcast group. -/
inductive GroupLink where
  | memory (member : Memory.GroupEnd)
  | datagram (member : GroupMember)
  deriving DecidableEq, Repr, Inhabited

/-- A channel's link to single addresses. -/
inductive UnicastLink where
  | memory (own : Memory.UnicastEnd)
  | stream (client : Client)
  deriving DecidableEq, Repr, Inhabited

/-- Take no part in broadcasts any more. -/
def GroupLink.close {ρ : Type} (group : GroupLink) (network : Memory.Network ρ) :
    GroupLink × Memory.Network ρ :=
  match group with
  | .memory member =>
    let (left, network) := member.close network
    (.memory left, network)
  | .datagram member => (.datagram member.leave, network)

/-- Be reached nowhere any more. -/
def UnicastLink.close {ρ : Type} (line : UnicastLink) (network : Memory.Network ρ) :
    UnicastLink × Memory.Network ρ :=
  match line with
  | .memory own =>
    let (closed, network) := own.close network
    (.memory closed, network)
  | .stream client => (.stream client.close, network)

/-- An event on its way out, for which no answer is awaited. -/
inductive Outgoing where
  /-- To everybody in the group. -/
  | broadcast (event : Event)
  /-- To one address. -/
  | send (address : Address) (event : Event)
  deriving DecidableEq, Repr, Inhabited

/-- A series of announcements that is not over. -/
structure Announcing where
  /-- The announcements that are still to be made. -/
  remaining : Nat
  /-- The moment of the next one. -/
  wakeAt : Nat
  deriving DecidableEq, Repr, Inhabited

/-- One node's membership in a domain. -/
structure Channel where
  /-- The name under which the channel's listeners record what they hear. -/
  label : String
  detector : Detector
  phase : Phase
  /-- The domain that the channel's events are for. -/
  domain : String
  /-- Where the node is reached, once it was started. -/
  address : Option Address
  consumer : Consumer Listener Replier
  group : GroupLink
  line : UnicastLink
  /-- The queue of events that go out, or what is left of it after it was shut down. -/
  publisher : Option (Pool Outgoing)
  announcing : Option Announcing
  /-- The ids of the channel's own listeners. -/
  ownListeners : List ListenerId
  finders : List Finder
  /-- Whether the channel was ever registered. -/
  isLinked : Bool
  /-- Whether somebody outside refers to the channel. -/
  isHeld : Bool
  /-- Whether nothing refers to the channel any more. -/
  isGone : Bool
  /-- The workers that call its listeners and are in the middle of a turn. -/
  calling : Turns
  /-- The workers that send its events and are in the middle of a turn. -/
  sending : Turns

namespace Channel

/-- A new channel of a node. -/
def new (label : String) (settings : Settings) (selfId : NodeId) (time : Nat) (group : GroupLink)
    (line : UnicastLink) : Channel where
  label := label
  detector := .new settings selfId (.running time)
  phase := .created
  domain := settings.domain
  address := none
  consumer := .new selfId settings.domain
  group := group
  line := line
  publisher := none
  announcing := none
  ownListeners := []
  finders := []
  isLinked := false
  isHeld := true
  isGone := false
  calling := .nobody
  sending := .nobody

instance : Inhabited Channel := ⟨new "" .standard default 0 default default⟩

/-- The settings. -/
def settings (channel : Channel) : Settings := channel.detector.settings

/-- The view. -/
def view (channel : Channel) : View := channel.detector.view

/-- The node's id. -/
def selfId (channel : Channel) : NodeId := channel.view.selfId

/-- Change the watched view. -/
def mapWatched (channel : Channel) (change : Watched → Watched) : Channel :=
  { channel with detector :=
    { channel.detector with watched := change channel.detector.watched } }

/-- Perform an operation of the view. -/
def run {α : Type} (channel : Channel) (time : Nat) (operation : View → Reading → Outcome α) :
    α × Channel :=
  let (answer, detector) := channel.detector.run time operation
  (answer, { channel with detector := detector })

/-- Why an operation that needs a started channel is refused, if it is. -/
def gate (channel : Channel) : Except ChannelError Unit :=
  match channel.phase with
  | .created => .error .notStarted
  | .started => .ok ()
  | .closed => .error .closed

/-- An event of this channel. -/
def event (channel : Channel) (scope : Scope) (kind : String) (data : Bytes) :
    Except TransportError Event :=
  match channel.address with
  | none => .error .notStarted
  | some address => .ok ⟨scope, kind, data, channel.selfId, address⟩

/-- An event of the channel's own protocol. -/
def protocolEvent (channel : Channel) (scope : Scope) (kind : ProtocolKind) (data : Bytes) :
    Except TransportError Event := channel.event scope kind.text data

/-- An event that carries a control message. -/
def controlEvent (channel : Channel) (scope : Scope) (message : ControlMessage) :
    Except TransportError Event :=
  channel.protocolEvent scope .control (ControlMessage.codec.write message)

/-- The event by which the channel announces itself. -/
def announcement (channel : Channel) : Except TransportError Event :=
  match channel.address with
  | none => .error .notStarted
  | some address =>
    channel.protocolEvent (.named channel.domain) .publish (Announce.codec.write ⟨address⟩)

/-- The event by which the channel makes itself known to one node. -/
def introduction (channel : Channel) : Except TransportError Event :=
  match channel.address with
  | none => .error .notStarted
  | some address => channel.protocolEvent .unscoped .discover (Announce.codec.write ⟨address⟩)

/-- An event of the caller's, if the channel is started. -/
def outboundEvent (channel : Channel) (scope : Scope) (kind : String) (data : Bytes) :
    Except ChannelError Event := do
  channel.gate
  match channel.event scope kind data with
  | .ok event => .ok event
  | .error error => .error (.transport error)

/-- The channel's counts. -/
def metrics (channel : Channel) : Metrics :=
  { channel.detector.counts with
    nodesLive := channel.view.gauges.live
    nodesDead := channel.view.gauges.dead
    eventsDelivered := channel.consumer.delivered
    eventsDropped := channel.consumer.dropped }

/-- Count an event that did not go out. -/
def countFailure (channel : Channel) : Channel :=
  { channel with detector := channel.detector.tally fun counts =>
      { counts with dispatchFailures := counts.dispatchFailures + 1 } }

/-- Register the channel's own listener for a kind of event, as one more of its own. -/
def enlistFor (channel : Channel) (kind : ProtocolKind) : Channel :=
  match channel.consumer.registerAsync kind.text .protocol with
  | .ok (id, consumer) =>
    { channel with consumer := consumer, ownListeners := channel.ownListeners ++ [id] }
  | .error _ => channel

/-- Register the channel's own listeners. Nobody else may answer control messages. -/
def enlist (channel : Channel) : Except ConsumerError Unit × Channel :=
  let enlisted := ProtocolKind.all.foldl enlistFor channel
  match enlisted.consumer.registerSync ProtocolKind.control.text .protocol with
  | .ok (id, consumer) =>
    (.ok (), { enlisted with consumer := consumer, ownListeners := enlisted.ownListeners ++ [id] })
  | .error error => (.error error, enlisted)

/-- Remove the channel's own listeners. -/
def dismiss (channel : Channel) : Channel :=
  { channel with
    consumer := channel.ownListeners.foldl (fun consumer id => (consumer.unregister id).2)
      channel.consumer
    ownListeners := [] }

/-- Whether a queue that the channel needs cannot be had. -/
def overflows (settings : Settings) : Bool :=
  Pool.maxCapacity < max settings.consumerCapacity 1 ||
    Pool.maxCapacity < max settings.publishCapacity 1

/-- Open the queues for events. -/
def openQueues (channel : Channel) : Except ConsumerError Unit × Channel :=
  let settings := channel.settings
  match channel.consumer.start settings.consumerWorkers settings.consumerCapacity with
  | .error error => (.error error, channel)
  | .ok consumer =>
    (.ok (), { channel with
      consumer := consumer
      publisher := Pool.open? settings.publishWorkers settings.publishCapacity })

/-- Begin to announce the channel, in place of announcements that are still to be made. -/
def resync (channel : Channel) (time : Nat) : Channel :=
  if channel.phase = .started ∧ channel.settings.publishAttempts ≠ 0 then
    { channel with announcing := some ⟨channel.settings.publishAttempts, time⟩ }
  else channel

/-- Stop what runs inside the channel; the round under way is dropped, and so are the events that are queued, as
far as no worker is in the middle of a turn. -/
def halt (channel : Channel) : Channel :=
  { channel with
    announcing := none
    detector := channel.detector.stop
    consumer := channel.consumer.stop channel.calling
    publisher := channel.publisher.bind (·.remnant? channel.sending) }

/-- The text that describes a channel. -/
def describe (channel : Channel) : String :=
  let address := match channel.address with
    | some address => "Some(" ++ address.describe ++ ")"
    | none => "None"
  "Channel \x7b self_id: " ++ channel.selfId.describe ++ ", domain: " ++
    Quoted.quote channel.domain ++ ", address: " ++ address ++ ", state: " ++
    channel.phase.title ++ ", peers: " ++ toString channel.view.nodeCount ++ " \x7d"

end Channel

end PeerMesh
