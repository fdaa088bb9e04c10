/-
**Telling others about peers.**

A node tells what it knows in digests. All digests of a round carry the node's heartbeat number,
which grows by one with every round, and each carries a batch of the entries of its view.

* `View.entryBatches` — the entries of a view in batches;
* `gossipRound?` and `broadcastRound?` — what a round sends, if it takes place;
* `Watched.merge` — what a digest does to the view of its receiver;
* `sendControl` — a message to nodes known by their ids, in batches.
-/

import PeerMesh.Detector.Probe
import PeerMesh.Settings.Basic
import PeerMesh.View.Watched

namespace PeerMesh

/-- Cut a list into pieces of a length, the last one of which may be shorter; `fuel` bounds their
number. -/
def piecesWithin {α : Type} (length : Nat) : (fuel : Nat) → List α → List (List α)
  | 0, _ => []
  | _ + 1, [] => []
  | fuel + 1, items => items.take length :: piecesWithin length fuel (items.drop length)

/-- Cut a list into pieces of a length of at least one, the last one of which may be shorter. -/
def pieces {α : Type} (length : Nat) (items : List α) : List (List α) :=
  piecesWithin (max length 1) items.length items

/-- What is told about a peer. -/
def GossipEntry.ofRecord (record : Record) : GossipEntry :=
  ⟨record.id, record.address, record.version⟩

/-- What is told about the peers of a view. -/
def View.entries (view : View) : List GossipEntry := view.nodes.map .ofRecord

/-- What is told about the peers of a view, in batches; of an empty view there is one empty batch. -/
def View.entryBatches (view : View) (batchSize : Nat) : List (List GossipEntry) :=
  match view.entries with
  | [] => [[]]
  | entries => pieces batchSize entries

/-- The digests of one round. -/
def View.digests (view : View) (batchSize : Nat) (heartbeat : UInt64) : List Digest :=
  (view.entryBatches batchSize).map fun entries => ⟨protocolVersion, heartbeat, entries⟩

/-- The messages of a gossip round to the chosen peers, with the heartbeat number that they carry. -/
def gossipRound? (settings : Settings) (draw : Draw) (view : View) (heartbeat : UInt64) :
    Option (UInt64 × List (Address × ControlMessage)) :=
  let chosen := draw settings.gossipNodeCount view.normalNodes
  if settings.gossipEnabled && !chosen.isEmpty then
    let next := heartbeat + 1
    let messages := (view.digests settings.batchSize next).map ControlMessage.gossip
    some (next, chosen.flatMap fun peer => messages.map fun message => (peer.address, message))
  else none

/-- The messages of a broadcast round, with the heartbeat number that they carry. -/
def broadcastRound? (settings : Settings) (view : View) (heartbeat : UInt64) :
    Option (UInt64 × List ControlMessage) :=
  if settings.autoBroadcastEnabled && settings.autoBroadcastThreshold ≠ 0
      && view.nodeCount ≤ settings.autoBroadcastThreshold then
    let next := heartbeat + 1
    some (next, (view.digests settings.batchSize next).map ControlMessage.notification)
  else none

/-- Send messages one after another; the answer is how many were accepted. -/
def sendAll {σ : Type} (send : σ → Address → ControlMessage → Bool × σ)
    (messages : List (Address × ControlMessage)) (state : σ) : Nat × σ :=
  messages.foldl (fun (sent, state) (address, message) =>
    let (accepted, state) := send state address message
    (sent + accepted.toNat, state)) (0, state)

/-- Broadcast messages one after another, up to the first that fails. -/
def broadcastAll {σ : Type} (broadcast : σ → ControlMessage → Except TransportError Unit × σ) :
    List ControlMessage → σ → σ
  | [], state => state
  | message :: rest, state =>
    match broadcast state message with
    | (.ok (), state) => broadcastAll broadcast rest state
    | (.error _, state) => state

/-- Send a message to the nodes of the given ids, in batches; ids without a known address are left
out. The answer is how many sends were accepted. -/
def sendControl {σ : Type} (addressOf? : σ → NodeId → Option Address)
    (send : σ → Address → ControlMessage → Bool × σ) (batchSize : Nat) (message : ControlMessage)
    (ids : List NodeId) (state : σ) : Nat × σ :=
  (pieces batchSize ids).foldl (fun (sent, state) batch =>
    let targets := batch.filterMap (addressOf? state)
    let (accepted, state) := sendAll send (targets.map fun address => (address, message)) state
    (sent + accepted, state)) (0, state)

namespace Watched

/-- The sender of a digest was heard of directly. -/
def hearSender (watched : Watched) (time : Nat) (address : Address) (id : NodeId)
    (heartbeat : UInt64) : Watched :=
  let (answer, heard) := watched.run time fun view now => view.heartbeat now address id
  match answer with
  | .ok _ => heard.mapView fun view => view.modifyRecord id (·.observeVersion heartbeat)
  | .error _ => heard

/-- A peer was heard of through a digest. The receiver itself and the sender are passed over. -/
def hearEntry (time : Nat) (sender : NodeId) (watched : Watched) (entry : GossipEntry) : Watched :=
  if entry.id = watched.view.selfId ∨ entry.id = sender then watched
  else (watched.run time fun view now =>
    view.observe now entry.address entry.id entry.version).2

/-- A digest arrives. Digests of another protocol version are passed over. -/
def merge (watched : Watched) (time : Nat) (address : Address) (sender : NodeId)
    (digest : Digest) : Watched :=
  if digest.version = protocolVersion then
    digest.entries.foldl (hearEntry time sender)
      (watched.hearSender time address sender digest.heartbeat)
  else watched

end Watched

end PeerMesh
