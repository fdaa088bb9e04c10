/-
**Channels on one network.**

A `Mesh` is any number of channels on one memory network, an outsider who takes part in the network
without being a channel, and the running time. Whatever is ready to happen is a `Move`; the `agenda`
lists moves in the order in which they became ready. Everything that leaves a channel, reaches a
party, or is heard by a listener of known behaviour is logged (`Occurrence`).

Events that nobody answers are queued with their receiver at once (`Mesh.arrive`), and broadcasts with
every receiver (`Mesh.spread`).
-/

import PeerMesh.Channel.Protocol
import PeerMesh.Memory.Exchange
import PeerMesh.Pool.Gate

namespace PeerMesh

/-- Somebody whom the network can hand events to. -/
inductive Party where
  | channel (number : Nat)
  | outsider (receiver : Memory.Receiver)
  deriving DecidableEq, Repr, Inhabited

/-- What happens in a mesh. -/
inductive Occurrence where
  /-- A channel has handed an event to a transport. -/
  | posted (channel : Nat) (outgoing : Outgoing)
  /-- A channel has handed an event to a transport and waits for the answer. -/
  | asked (channel : Nat) (address : Address) (event : Event)
  /-- The network has handed an event to a party. -/
  | reached (party : Party) (isSync : Bool) (event : Event)
  /-- A listener was called. -/
  | called (channel : Nat) (heard : Heard)
  /-- A finder was told of a peer. -/
  | discovered (channel finder : Nat) (id : NodeId) (address : Address)
  /-- An event that was queued to go out has gone out, or has failed to. -/
  | dispatched (channel ticket : Nat) (result : Except ChannelError Unit)

/-- What can happen next. -/
inductive Move where
  /-- A worker of the channel's consumer takes the next delivery. -/
  | deliver (channel : Nat)
  /-- A worker of the channel takes the next event that goes out. -/
  | dispatch (channel : Nat)
  /-- The channel announces itself. -/
  | announce (channel : Nat)
  /-- The scheduler of the channel's detector does what it waits for. -/
  | turn (channel : Nat)
  /-- A reply to a question of the scheduler's round comes. -/
  | hear (channel : Nat)
  /-- A delivery for which somebody had to be pinged is over. -/
  | finish (channel ticket : Nat)
  /-- The channel begins to accept connections. -/
  | heed (channel : Nat)
  deriving DecidableEq, Repr, Inhabited

/-- A delivery whose listener waits at the gate. -/
structure Parked where
  channel : Nat
  job : Job (Delivery Listener)

/-- A delivery that waits for a reply. -/
structure Errand where
  channel : Nat
  ticket : Nat
  due : Nat
  deriving DecidableEq, Repr, Inhabited

/-- Somebody on the network who is no channel. -/
structure Outsider where
  own : Memory.UnicastEnd
  group : Memory.GroupEnd
  /-- How often it was set up. -/
  makings : Nat
  deriving DecidableEq, Repr, Inhabited

/-- A socket at which connections to a channel are accepted. -/
structure Port where
  channel : Nat
  endpoint : Socket.Endpoint
  /-- Whether it is given up when the channel is closed. It is only once connections have begun to be accepted:
  whoever accepts them then begins to listen for the close, and does not hear of one that came before. -/
  isHeeding : Bool
  deriving DecidableEq, Repr, Inhabited

/-- Channels on one network. -/
structure Mesh where
  host : Socket.Host
  /-- The running time, in milliseconds; everything happens at whole ones. -/
  time : Nat
  network : Memory.Network Party
  ports : List Port
  channels : List Channel
  /-- The registered channels, first registered first. -/
  registry : List Nat
  gate : Gate Parked
  errands : List Errand
  outsider : Outsider
  agenda : List Move
  /-- What has happened and when, latest first. -/
  log : List (Nat × Occurrence)

namespace Mesh

/-- A mesh without channels. -/
def empty (host : Socket.Host) : Mesh :=
  let (group, network) := Memory.GroupEnd.new .empty
  ⟨host, 0, network, [], [], [], .shut, [], ⟨.closed, group, 0⟩, [], []⟩

instance : Inhabited Mesh := ⟨empty default⟩

/-- The channel of a number. -/
def channel (mesh : Mesh) (number : Nat) : Channel := (mesh.channels[number]?).getD default

/-- Change the channel of a number. -/
def modify (mesh : Mesh) (number : Nat) (change : Channel → Channel) : Mesh :=
  { mesh with channels := mesh.channels.modify number change }

/-- Change the channel of a number, which answers something. -/
def modifyGet {α : Type} (mesh : Mesh) (number : Nat) (change : Channel → α × Channel) : α × Mesh :=
  let (answer, channel) := change (mesh.channel number)
  (answer, mesh.modify number fun _ => channel)

/-- Log something that happens now. -/
def note (mesh : Mesh) (occurrence : Occurrence) : Mesh :=
  { mesh with log := (mesh.time, occurrence) :: mesh.log }

/-! ### The agenda -/

/-- A move is ready. -/
def enqueue (mesh : Mesh) (move : Move) : Mesh :=
  if move ∈ mesh.agenda then mesh else { mesh with agenda := mesh.agenda ++ [move] }

/-- A move is ready anew, after all others. -/
def enqueueLast (mesh : Mesh) (move : Move) : Mesh :=
  { mesh with agenda := mesh.agenda.filter (· ≠ move) ++ [move] }

/-- A move is ready before all others. -/
def enqueueFirst (mesh : Mesh) (move : Move) : Mesh :=
  { mesh with agenda := move :: mesh.agenda.filter (· ≠ move) }

/-! ### Events for which no answer is awaited -/

/-- Queue an event with the listeners of a channel. -/
def hand (mesh : Mesh) (number : Nat) (event : Event) : Mesh :=
  let consumer := (mesh.channel number).consumer
  let after := consumer.accept event
  let handed := mesh.modify number fun channel => { channel with consumer := after }
  if consumer.queued < after.queued then handed.enqueue (.deliver number) else handed

/-- The network hands an event to a party. -/
def arrive (event : Event) (mesh : Mesh) (party : Party) : Mesh :=
  let reached := mesh.note (.reached party false event)
  match party with
  | .channel number => reached.hand number event
  | .outsider _ => reached

/-- Broadcast over a link. -/
def spread (mesh : Mesh) (group : GroupLink) (event : Event) : Except TransportError Unit × Mesh :=
  match group with
  | .memory member =>
    match member.audience mesh.network event with
    | .ok parties => (.ok (), parties.foldl (arrive event) mesh)
    | .error error => (.error error, mesh)
  | .datagram member => ((member.dispatch event).map fun _ => (), mesh)

/-- Send from an own end on the network to an address. -/
def carry (mesh : Mesh) (own : Memory.UnicastEnd) (address : Address) (event : Event) :
    Except TransportError Unit × Mesh :=
  match own.route mesh.network address with
  | .ok party => (.ok (), mesh.arrive event party)
  | .error error => (.error error, mesh)

/-- Send over connections. Nobody of the mesh is reached that way, as if all who listen were on other machines. -/
def stream (mesh : Mesh) (number : Nat) (client : Client) (address : Address) (event : Event)
    (expectsReply : Bool) : Except TransportError (Option Bytes) × Mesh :=
  let nobody := fun _ => mesh.host.connect none
  let (ending, client) := client.exchange Address.endpoint? nobody address event expectsReply
  (ending.result, mesh.modify number fun channel => { channel with line := .stream client })

/-- A channel hands an event to a transport. -/
def post (mesh : Mesh) (number : Nat) (outgoing : Outgoing) : Except TransportError Unit × Mesh :=
  let posted := mesh.note (.posted number outgoing)
  match outgoing with
  | .broadcast event => posted.spread (mesh.channel number).group event
  | .send address event =>
    match (mesh.channel number).line with
    | .memory own => posted.carry own address event
    | .stream client =>
      let (result, sent) := posted.stream number client address event false
      (result.map fun _ => (), sent)

/-- A channel hands events to its transports, whether they get through or not. -/
def postAll (mesh : Mesh) (number : Nat) (outgoing : List Outgoing) : Mesh :=
  outgoing.foldl (fun mesh outgoing => (mesh.post number outgoing).2) mesh

end Mesh

end PeerMesh
