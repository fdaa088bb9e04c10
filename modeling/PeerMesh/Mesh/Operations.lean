/-
**What can be done with a channel.**

* `Mesh.create`, `Mesh.start`, `Mesh.close` — the life of a channel; a failed start closes it;
* `Mesh.resync`, `Mesh.forceResync`, `Mesh.changeDomain` — its place in a domain;
* `Mesh.dispatch`, `Mesh.dispatchTo` — queue an event that goes out, and `Mesh.outcomeOf` what has
  become of it;
* `Mesh.send`, `Mesh.sendMany`, `Mesh.sendEach`, `Mesh.sendToNodes` — send and wait for answers;
* `Mesh.awaitPeers` — wait for peers.

All but the first three and the wait for peers are refused unless the channel is started
(`Channel.gate`).
-/

import PeerMesh.Mesh.Moves
import PeerMesh.Transport.Setup

namespace PeerMesh

namespace Mesh

/-! ### The life of a channel -/

/-- A link to a broadcast group, of the given kind. -/
def linkGroup (mesh : Mesh) (settings : Settings) : TransportKind → GroupLink × Mesh
  | .memory =>
    let (member, network) := Memory.GroupEnd.new mesh.network
    (.memory member, { mesh with network := network })
  | .udp | .tcp => (.datagram (.new settings.broadcastGroup), mesh)

/-- A link to single addresses, of the given kind. -/
def unicastLink : TransportKind → UnicastLink
  | .memory => .memory .closed
  | .tcp | .udp => .stream .new

/-- The id that a channel's node is given if the settings name none. -/
def madeUpId (mesh : Mesh) : NodeId := ⟨"node-" ++ toString mesh.channels.length⟩

/-- Create a channel; the answer is its number. -/
def create (mesh : Mesh) (label : String) (settings : Settings) (hasNetwork : Bool) :
    Except ChannelError Nat × Mesh :=
  match settings.validate, settings.broadcastTransport hasNetwork with
  | .error error, _ => (.error (.settings error), mesh)
  | .ok (), .error error => (.error (.transport error), mesh)
  | .ok (), .ok groupKind =>
    let (group, mesh) := mesh.linkGroup settings groupKind
    match settings.unicastTransport hasNetwork with
    | .error error => (.error (.transport error), mesh)
    | .ok lineKind =>
      let id := settings.resolveNodeId mesh.madeUpId
      let channel := Channel.new label settings id mesh.time group (unicastLink lineKind)
      (.ok mesh.channels.length, { mesh with channels := mesh.channels ++ [channel] })

/-- Begin to announce a channel. -/
def resync (mesh : Mesh) (number : Nat) : Mesh :=
  if (mesh.channel number).phase = .started then
    (mesh.modify number (·.resync mesh.time)).enqueueLast (.announce number)
  else mesh

/-- Have a socket at which connections are accepted, if the channel is reached over connections. They begin to be
accepted later. -/
def listen (mesh : Mesh) (number : Nat) : Except TransportError Unit × Mesh :=
  let channel := mesh.channel number
  match channel.line with
  | .memory _ => (.ok (), mesh)
  | .stream _ =>
    match mesh.host.bind (mesh.ports.map Port.endpoint) channel.settings.unicastBind with
    | .error failure => (.error (.ofIo failure), mesh)
    | .ok endpoint =>
      let listening := { mesh with ports := mesh.ports ++ [(⟨number, endpoint, false⟩ : Port)] }
      (.ok (), listening.enqueue (.heed number))

/-- Where connections to a channel are accepted. -/
def portOf? (mesh : Mesh) (number : Nat) : Option Socket.Endpoint :=
  (mesh.ports.find? (·.channel = number)).map Port.endpoint

/-- Be reached at an address from now on. -/
def takeAddress (mesh : Mesh) (number : Nat) : Mesh :=
  let channel := mesh.channel number
  match channel.line with
  | .memory _ =>
    let (address, own, network) := Memory.UnicastEnd.start mesh.network (.channel number)
    { mesh with network := network }.modify number fun channel =>
      { channel with line := .memory own, address := some address }
  | .stream client =>
    let settings := channel.settings
    let bound := (mesh.portOf? number).getD settings.unicastBind
    let address := (Client.advertised bound settings.unicastAdvertise).address
    mesh.modify number fun channel =>
      { channel with line := .stream (client.start address), address := some address }

/-- Start the link to single addresses. -/
def startLine (mesh : Mesh) (number : Nat) : Except TransportError Unit × Mesh :=
  match mesh.listen number with
  | (.error error, mesh) => (.error error, mesh)
  | (.ok (), mesh) => (.ok (), mesh.takeAddress number)

/-- Take part in broadcasts from now on. -/
def startGroup (mesh : Mesh) (number : Nat) : Except TransportError Unit × Mesh :=
  match (mesh.channel number).group with
  | .memory member =>
    let (joined, network) := member.start mesh.network (.channel number)
    (.ok (), { mesh with network := network }.modify number ({ · with group := .memory joined }))
  | .datagram member =>
    match member.join mesh.host with
    | .ok joined => (.ok (), mesh.modify number ({ · with group := .datagram joined }))
    | .error error => (.error error, mesh)

/-- Start the links of a channel, announce it, and start its detector. -/
def startLinks (mesh : Mesh) (number : Nat) : Except ChannelError Unit × Mesh :=
  match mesh.startLine number with
  | (.error error, mesh) => (.error (.transport error), mesh)
  | (.ok (), mesh) =>
    match mesh.startGroup number with
    | (.error error, mesh) => (.error (.transport error), mesh)
    | (.ok (), mesh) =>
      let announced := mesh.resync number
      (.ok (), announced.modify number fun channel =>
        { channel with detector := channel.detector.start mesh.time })

/-- Start the parts of a channel one after another, up to the first that fails. -/
def startParts (mesh : Mesh) (number : Nat) : Except ChannelError Unit × Mesh :=
  match mesh.modifyGet number Channel.openQueues with
  | (.error error, mesh) => (.error (.consumer error), mesh)
  | (.ok (), mesh) =>
    match mesh.modifyGet number Channel.enlist with
    | (.error error, mesh) => (.error (.consumer error), mesh)
    | (.ok (), mesh) => mesh.startLinks number

/-- Be reached nowhere any more, and take no part in broadcasts. The socket at which connections were to be accepted
is given up if it heeds that. -/
def stopLinks (mesh : Mesh) (number : Nat) : Mesh :=
  let channel := mesh.channel number
  let (group, network) := channel.group.close mesh.network
  let (line, network) := channel.line.close network
  let ports := mesh.ports.filter fun port => !(port.channel = number && port.isHeeding)
  { mesh with network := network, ports := ports }.modify number ({ · with group := group, line := line })

/-- Take a channel apart. -/
def teardown (mesh : Mesh) (number : Nat) : Mesh :=
  let dismissed := (mesh.halt number).modify number Channel.dismiss
  let shut := dismissed.modify number fun channel =>
    (channel.run mesh.time fun view _ => view.shutdown).2
  shut.stopLinks number

/-- Start a channel. A channel that cannot be started is closed. -/
def start (mesh : Mesh) (number : Nat) : Except ChannelError Unit × Mesh :=
  match (mesh.channel number).phase with
  | .started => (.ok (), mesh)
  | .closed => (.error .closed, mesh)
  | .created =>
    match (mesh.modify number ({ · with phase := .started })).startParts number with
    | (.ok (), mesh) => (.ok (), mesh)
    | (.error error, mesh) =>
      (.error error, (mesh.modify number ({ · with phase := .closed })).teardown number)

/-- Whether starting a channel would need a queue that cannot be had. -/
def cannotStart (mesh : Mesh) (number : Nat) : Bool :=
  let channel := mesh.channel number
  channel.phase = .created && Channel.overflows channel.settings

/-- Remove a channel from the registry; the answer is whether it was there. -/
def unregister (mesh : Mesh) (number : Nat) : Bool × Mesh :=
  (mesh.registry.contains number, { mesh with registry := mesh.registry.filter (· ≠ number) })

/-- Put a channel into the registry. -/
def register (mesh : Mesh) (number : Nat) : Mesh :=
  let linked := mesh.modify number ({ · with isLinked := true })
  if number ∈ mesh.registry then linked
  else { linked with registry := mesh.registry ++ [number] }

/-- The event of a channel that it sends to its domain without payload. -/
def farewell (channel : Channel) (kind : ProtocolKind) : List Outgoing :=
  ((channel.protocolEvent (.named channel.domain) kind []).toOption.map .broadcast).toList

/-- Close a started channel. -/
def close (mesh : Mesh) (number : Nat) : Mesh :=
  let channel := mesh.channel number
  if channel.phase = .started then
    let closed := mesh.modify number ({ · with phase := .closed })
    let torn := (closed.postAll number (farewell channel .shutdown)).teardown number
    if channel.isLinked then (torn.unregister number).2 else torn
  else mesh

/-! ### Its place in a domain -/

/-- Ask the nodes of the domain to announce themselves, or the given ones among them. -/
def forceResync (mesh : Mesh) (number : Nat) (targets : Option (List NodeId)) :
    Except ChannelError Unit × Mesh :=
  let channel := mesh.channel number
  let data := ForceResync.codec.write ⟨targets⟩
  match channel.outboundEvent (.named channel.domain) ProtocolKind.resync.text data with
  | .error error => (.error error, mesh)
  | .ok event =>
    let (result, mesh) := mesh.post number (.broadcast event)
    (result.mapError .transport, mesh)

/-- Forget all peers and be in another domain. -/
def settleIn (mesh : Mesh) (number : Nat) (domain : String) : Mesh :=
  mesh.modify number fun channel =>
    let cleared := (channel.run mesh.time fun view _ => view.clear).2
    { cleared with domain := domain, consumer := cleared.consumer.changeDomain domain }

/-- Move a channel to another domain. -/
def changeDomain (mesh : Mesh) (number : Nat) (domain : String) : Except ChannelError Unit × Mesh :=
  let channel := mesh.channel number
  match channel.gate with
  | .error error => (.error error, mesh)
  | .ok () =>
    if channel.domain = domain then (.ok (), mesh)
    else
      let unlinked := if channel.isLinked then (mesh.unregister number).2 else mesh
      let left := unlinked.postAll number (farewell channel .leave)
      let moved := left.settleIn number domain
      let linked := if channel.isLinked then moved.register number else moved
      (.ok (), linked.resync number)

/-! ### Events that go out -/

/-- Queue an event that goes out; the answer is its ticket. -/
def submit (mesh : Mesh) (number : Nat) (outgoing : Outgoing) : Except ChannelError Nat × Mesh :=
  match (mesh.channel number).publisher with
  | none => (.error .notStarted, mesh)
  | some pool =>
    match pool.submit outgoing with
    | .error error => (.error (.pool error), mesh.modify number Channel.countFailure)
    | .ok queued =>
      (.ok pool.nextTicket,
        (mesh.modify number ({ · with publisher := some queued })).enqueue (.dispatch number))

/-- Queue an event for all nodes that its scope admits. -/
def dispatch (mesh : Mesh) (number : Nat) (scope : Scope) (kind : String) (data : Bytes) :
    Except ChannelError Nat × Mesh :=
  match (mesh.channel number).outboundEvent scope kind data with
  | .error error => (.error error, mesh)
  | .ok event => mesh.submit number (.broadcast event)

/-- Queue an event for the node at an address. -/
def dispatchTo (mesh : Mesh) (number : Nat) (address : Address) (kind : String) (data : Bytes) :
    Except ChannelError Nat × Mesh :=
  match (mesh.channel number).outboundEvent .unscoped kind data with
  | .error error => (.error error, mesh)
  | .ok event => mesh.submit number (.send address event)

/-- What has become of a queued event. Events that were dropped with their queue have found the
channel closed. -/
def outcomeOf (mesh : Mesh) (number : Nat) (handle : Except ChannelError Nat) :
    Except ChannelError Unit := do
  let ticket ← handle
  let result? := mesh.log.findSome? fun
    | (_, .dispatched channel other result) =>
      if channel = number ∧ other = ticket then some result else none
    | _ => none
  result?.getD (.error .closed)

/-! ### Requests -/

/-- Ask all targets at once. -/
def askAll (mesh : Mesh) (number : Nat) (targets : List (Address × Event)) :
    List (Address × Behaviour) × Mesh :=
  targets.foldl (fun (asked, mesh) (address, event) =>
    let (behaviour, mesh) := mesh.request number address event
    (asked ++ [(address, behaviour)], mesh)) (([] : List (Address × Behaviour)), mesh)

/-- Send to all targets at once, and wait for all of them. -/
def sendAll (mesh : Mesh) (number : Nat) (targets : List (Address × Event)) (timeout : Duration) :
    Responses × Mesh :=
  let (asked, mesh) := mesh.askAll number targets
  let (responses, time) := PeerMesh.sendMany timeout asked mesh.time
  (responses, mesh.runUntil time)

/-- Send to one address, and wait. -/
def send (mesh : Mesh) (number : Nat) (address : Address) (kind : String) (data : Bytes)
    (timeout : Duration) : Except ChannelError Response × Mesh :=
  match (mesh.channel number).outboundEvent .unscoped kind data with
  | .error error => (.error error, mesh)
  | .ok event =>
    let (behaviour, mesh) := mesh.request number address event
    let (result, delay) := behaviour.ending timeout
    (.ok (.ofResult address result), mesh.runUntil (mesh.time + delay))

/-- Send a payload to each address, and wait for all of them. -/
def sendEach (mesh : Mesh) (number : Nat) (targets : List (Address × Bytes)) (kind : String)
    (timeout : Duration) : Except ChannelError Responses × Mesh :=
  let channel := mesh.channel number
  let events? := targets.mapM fun (address, data) => do
    return (address, ← channel.outboundEvent .unscoped kind data)
  match events? with
  | .error error => (.error error, mesh)
  | .ok events =>
    let (responses, mesh) := mesh.sendAll number events timeout
    (.ok responses, mesh)

/-- Send one payload to all addresses, and wait for all of them. -/
def sendMany (mesh : Mesh) (number : Nat) (addresses : List Address) (kind : String) (data : Bytes)
    (timeout : Duration) : Except ChannelError Responses × Mesh :=
  match (mesh.channel number).outboundEvent .unscoped kind data with
  | .error error => (.error error, mesh)
  | .ok event =>
    let targets := addresses.map fun address => (address, event)
    let (responses, mesh) := mesh.sendAll number targets timeout
    (.ok responses, mesh)

/-- Send one payload to the peers of the given ids; ids that are no peers are left out. -/
def sendToNodes (mesh : Mesh) (number : Nat) (ids : List NodeId) (kind : String) (data : Bytes)
    (timeout : Duration) : Except ChannelError Responses × Mesh :=
  mesh.sendMany number (ids.filterMap (mesh.channel number).view.addressOf?) kind data timeout

/-- Send a control event to the peers of the given ids; the answer is how many took it. -/
def sendControl (mesh : Mesh) (number : Nat) (ids : List NodeId) (kind : String) (data : Bytes) :
    Except ChannelError Nat × Mesh :=
  match (mesh.channel number).gate with
  | .error error => (.error error, mesh)
  | .ok () =>
    let (count, mesh) := (station number).sendControl ids kind data mesh
    (.ok count, mesh)

/-! ### Waiting for peers -/

/-- Wait for peers until a deadline, in which at most `fuel` moves are made. A deadline comes before
everything else that is due at its moment. -/
def awaitWithin (number minimum deadline : Nat) :
    (fuel : Nat) → Mesh → Except ViewError Nat × Mesh
  | 0, mesh => (.error .interrupted, mesh)
  | fuel + 1, mesh =>
    match mesh.next? with
    | some mesh => awaitWithin number minimum deadline fuel mesh
    | none =>
      match (mesh.channel number).view.awaitVerdict? minimum (deadline ≤ mesh.time) with
      | some verdict => (verdict, mesh)
      | none =>
        let due := (mesh.nextMoment?.filter (· < deadline)).getD deadline
        let later := { mesh with time := max mesh.time due }
        awaitWithin number minimum deadline fuel (if due < deadline then later.wake else later)

/-- Wait for at least `minimum` peers of a channel. -/
def awaitPeers (mesh : Mesh) (number : Nat) (timeout : Duration) (minimum : Nat) :
    Except ChannelError Nat × Mesh :=
  let deadline := mesh.time + timeout.ticks
  let (verdict, mesh) := awaitWithin number minimum deadline patience mesh.tidy
  (verdict.mapError .view, mesh)

end Mesh

end PeerMesh
