/-
**What a channel does with protocol events.**

`Channel.react` is the channel's own handling of an asynchronous event. It changes the channel at
once and says what else is to happen (`Consequence`): events to be sent, a discovered peer, an event for
local listeners, an address that is to be pinged. Events whose payload cannot be read change nothing
and call for nothing.

* `Channel.onPublish` — a node has announced itself: it becomes a peer, unless it is tombstoned, and
  is answered;
* `Channel.onDiscover` — a node has made itself known: it becomes a peer, and is not answered;
* `Channel.onResync` — the channel announces itself anew, if it is among those who are asked to;
* `Channel.onLeave` — a node has gone down or left its domain: it is no peer any more;
* `Channel.onControl` — the detectors talk.
-/

import PeerMesh.Channel.Basic

namespace PeerMesh

/-- What is to happen after an event was handled. -/
structure Consequence where
  channel : Channel
  /-- What is sent, to which address. -/
  replies : List (Address × Event)
  /-- The peer that finders are told of. -/
  found : Option (NodeId × Address)
  /-- The event that local listeners are to be called with. -/
  delivered : Option Event
  /-- The address that is to be pinged. -/
  inquiry : Option Address

namespace Channel

/-- Nothing is to happen. -/
def quiet (channel : Channel) : Consequence := ⟨channel, [], none, none, none⟩

/-- A peer was found and its announcement is answered. -/
def welcome (channel : Channel) (id : NodeId) (address : Address) : Consequence :=
  { channel.quiet with
    replies := (channel.introduction.toOption.map fun event => (address, event)).toList
    found := some (id, address) }

/-- A node has announced that it is reached at an address. -/
def onAnnounced (channel : Channel) (time : Nat) (id : NodeId) (address : Address) : Consequence :=
  let (added, told) := channel.run time fun view now => view.addHost now address id
  match added with
  | .error _ => told.quiet
  | .ok true => told.welcome id address
  | .ok false =>
    if told.view.isDead id then told.quiet
    else (told.run time fun view now => view.heartbeat now address id).2.welcome id address

/-- A node announces itself. -/
def onPublish (channel : Channel) (time : Nat) (event : Event) : Consequence :=
  match Announce.codec.decode maxFrameSize event.data with
  | .error _ => channel.quiet
  | .ok announce => channel.onAnnounced time event.origin announce.address

/-- A node makes itself known. -/
def onDiscover (channel : Channel) (time : Nat) (event : Event) : Consequence :=
  match Announce.codec.decode maxFrameSize event.data with
  | .error _ => channel.quiet
  | .ok announce =>
    let (added, told) := channel.run time fun view now =>
      view.addHost now announce.address event.origin
    match added with
    | .ok true => { told.quiet with found := some (event.origin, announce.address) }
    | .ok false | .error _ => told.quiet

/-- Whether a request to announce itself is meant for a node. -/
def isAsked (id : NodeId) (request : ForceResync) : Bool :=
  match request.targets with
  | none => true
  | some targets => targets.contains id

/-- Nodes are asked to announce themselves. -/
def onResync (channel : Channel) (time : Nat) (event : Event) : Consequence :=
  match ForceResync.codec.decode maxFrameSize event.data with
  | .error _ => channel.quiet
  | .ok request =>
    if isAsked channel.selfId request then (channel.resync time).quiet else channel.quiet

/-- A node goes away. -/
def onLeave (channel : Channel) (time : Nat) (event : Event) : Consequence :=
  (channel.run time fun view _ => view.removeLeaving event.origin).2.quiet

/-- A control message arrives; the answer is what it calls for beyond the view. -/
def hearControl (channel : Channel) (time : Nat) (event : Event) : FollowUp × Channel :=
  let (followUp, watched) := channel.detector.watched.receive time event
  (followUp, channel.mapWatched fun _ => watched)

/-- A control message arrives whose sender does not wait for an answer. -/
def onControl (channel : Channel) (time : Nat) (event : Event) : Consequence :=
  match channel.hearControl time event with
  | (.nothing, told) | (.answer _, told) => told.quiet
  | (.deliver event, told) => { told.quiet with delivered := some event }
  | (.inquire address, told) => { told.quiet with inquiry := some address }

/-- The channel's own handling of an asynchronous event. -/
def react (channel : Channel) (time : Nat) (event : Event) : Consequence :=
  match ProtocolKind.ofText? event.kind with
  | some .publish => channel.onPublish time event
  | some .discover => channel.onDiscover time event
  | some .resync => channel.onResync time event
  | some .shutdown | some .leave => channel.onLeave time event
  | some .control => channel.onControl time event
  | none => channel.quiet

end Channel

end PeerMesh
