/-
**The payloads that nodes exchange.**

Each kind of protocol event carries one type of payload: `Announce`, `ForceResync` or a
`ControlMessage` with its `GossipEntry` list, `SyncRequest` and `SyncReply`. A `Frame` wraps an
event for a connection. Every type comes with its `codec`, and `Event` and `Scope` with theirs.
-/

import PeerMesh.Event
import PeerMesh.Wire.Codec

namespace PeerMesh

open Wire

/-- The version of the membership messages. -/
def protocolVersion : UInt8 := 1

/-- The most bytes that a frame may hold. -/
def maxFrameSize : Nat := 16 * 1024 * 1024

/-- The most bytes that a datagram may hold. -/
def maxDatagramSize : Nat := 65507

/-! ### Names and places -/

/-- A node id is written as its name. -/
def NodeId.codec : Codec NodeId := Codec.text.via NodeId.name NodeId.mk

/-- An address is written as its text. -/
def Address.codec : Codec Address := Codec.text.via Address.text Address.mk

/-- The content of each alternative of a scope. -/
abbrev Scope.Content : Fin 3 → Type
  | 0 => Unit
  | 1 => Unit
  | 2 => String

/-- A scope as a tag and its content. -/
def Scope.toTagged : Scope → (tag : Fin 3) × Scope.Content tag
  | .unscoped => ⟨0, ()⟩
  | .all => ⟨1, ()⟩
  | .named domain => ⟨2, domain⟩

/-- The scope of a tag and its content. -/
def Scope.ofTagged : ((tag : Fin 3) × Scope.Content tag) → Scope
  | ⟨0, _⟩ => .unscoped
  | ⟨1, _⟩ => .all
  | ⟨2, domain⟩ => .named domain

/-- The layout of each alternative of a scope. -/
def Scope.alternatives : (tag : Fin 3) → Codec (Scope.Content tag)
  | 0 => Codec.nothing
  | 1 => Codec.nothing
  | 2 => Codec.text

/-- The layout of scopes. -/
def Scope.codec : Codec Scope :=
  (Codec.tagged "DomainScope" Scope.alternatives).via Scope.toTagged Scope.ofTagged

/-! ### Discovery -/

/-- A node says where it is reached. -/
structure Announce where
  address : Address
  deriving DecidableEq, Repr, Inhabited

/-- The layout of announcements. -/
def Announce.codec : Codec Announce := Address.codec.via Announce.address Announce.mk

/-- A node asks others to announce themselves: all of them, or the listed ones. -/
structure ForceResync where
  targets : Option (List NodeId)
  deriving DecidableEq, Repr, Inhabited

/-- Bytes of room claimed for each node id of a list. -/
def nodeIdRoom : Nat := 24

/-- Bytes of room claimed for each gossip entry of a list. -/
def gossipEntryRoom : Nat := 56

/-- The layout of requests to announce. -/
def ForceResync.codec : Codec ForceResync :=
  (Codec.optional "core::option::Option<alloc::vec::Vec<vibemesh::node::NodeId>>"
    (Codec.sequence nodeIdRoom NodeId.codec)).via ForceResync.targets ForceResync.mk

/-! ### Failure detection -/

/-- What one node tells about another: where it is, and the latest heartbeat version it knows. -/
structure GossipEntry where
  id : NodeId
  address : Address
  version : UInt64
  deriving DecidableEq, Repr, Inhabited

/-- The layout of gossip entries. -/
def GossipEntry.codec : Codec GossipEntry :=
  (NodeId.codec.pair (Address.codec.pair Codec.word)).via
    (fun entry => (entry.id, entry.address, entry.version))
    (fun layout => ⟨layout.1, layout.2.1, layout.2.2⟩)

/-- A question that is answered at once. -/
inductive SyncRequest where
  /-- Are you there? -/
  | ping
  /-- Can you reach `target` at `address`? -/
  | healthCheck (target : NodeId) (address : Address)
  deriving DecidableEq, Repr, Inhabited

/-- The content of each alternative of a request. -/
abbrev SyncRequest.Content : Fin 2 → Type
  | 0 => Unit
  | 1 => NodeId × Address

/-- A request as a tag and its content. -/
def SyncRequest.toTagged : SyncRequest → (tag : Fin 2) × SyncRequest.Content tag
  | .ping => ⟨0, ()⟩
  | .healthCheck target address => ⟨1, (target, address)⟩

/-- The request of a tag and its content. -/
def SyncRequest.ofTagged : ((tag : Fin 2) × SyncRequest.Content tag) → SyncRequest
  | ⟨0, _⟩ => .ping
  | ⟨1, content⟩ => .healthCheck content.1 content.2

/-- The layout of each alternative of a request. -/
def SyncRequest.alternatives : (tag : Fin 2) → Codec (SyncRequest.Content tag)
  | 0 => Codec.nothing
  | 1 => NodeId.codec.pair Address.codec

/-- The layout of requests. -/
def SyncRequest.codec : Codec SyncRequest :=
  (Codec.tagged "SyncRequest" SyncRequest.alternatives).via
    SyncRequest.toTagged SyncRequest.ofTagged

/-- The answer to a request. -/
inductive SyncReply where
  /-- I am here. -/
  | pong
  /-- Whether the node asked about could be reached. -/
  | reachable (answered : Bool)
  deriving DecidableEq, Repr, Inhabited

/-- The content of each alternative of a reply. -/
abbrev SyncReply.Content : Fin 2 → Type
  | 0 => Unit
  | 1 => Bool

/-- A reply as a tag and its content. -/
def SyncReply.toTagged : SyncReply → (tag : Fin 2) × SyncReply.Content tag
  | .pong => ⟨0, ()⟩
  | .reachable answered => ⟨1, answered⟩

/-- The reply of a tag and its content. -/
def SyncReply.ofTagged : ((tag : Fin 2) × SyncReply.Content tag) → SyncReply
  | ⟨0, _⟩ => .pong
  | ⟨1, answered⟩ => .reachable answered

/-- The layout of each alternative of a reply. -/
def SyncReply.alternatives : (tag : Fin 2) → Codec (SyncReply.Content tag)
  | 0 => Codec.nothing
  | 1 => Codec.flag

/-- The layout of replies. -/
def SyncReply.codec : Codec SyncReply :=
  (Codec.tagged "SyncReply" SyncReply.alternatives).via SyncReply.toTagged SyncReply.ofTagged

/-- A sender's heartbeat number and what it knows of its peers. -/
structure Digest where
  version : UInt8
  heartbeat : UInt64
  entries : List GossipEntry
  deriving DecidableEq, Repr, Inhabited

/-- The layout of digests. -/
def Digest.codec : Codec Digest :=
  (Codec.byte.pair (Codec.word.pair (Codec.sequence gossipEntryRoom GossipEntry.codec))).via
    (fun digest => (digest.version, digest.heartbeat, digest.entries))
    (fun layout => ⟨layout.1, layout.2.1, layout.2.2⟩)

/-- The payload of a control event. -/
inductive ControlMessage where
  /-- The sender's whole view, broadcast to a domain. -/
  | notification (digest : Digest)
  /-- A part of the sender's view, sent to one peer. -/
  | gossip (digest : Digest)
  /-- A question of the failure detector. -/
  | request (question : SyncRequest)
  /-- An event for the listeners of the receiver. -/
  | event (name : String) (data : Bytes)
  deriving DecidableEq, Repr, Inhabited

namespace ControlMessage

/-- The content of each alternative of a control message. -/
abbrev Content : Fin 4 → Type
  | 0 => Digest
  | 1 => Digest
  | 2 => SyncRequest
  | 3 => String × Bytes

/-- A control message as a tag and its content. -/
def toTagged : ControlMessage → (tag : Fin 4) × Content tag
  | .notification digest => ⟨0, digest⟩
  | .gossip digest => ⟨1, digest⟩
  | .request question => ⟨2, question⟩
  | .event name data => ⟨3, (name, data)⟩

/-- The control message of a tag and its content. -/
def ofTagged : ((tag : Fin 4) × Content tag) → ControlMessage
  | ⟨0, digest⟩ => .notification digest
  | ⟨1, digest⟩ => .gossip digest
  | ⟨2, question⟩ => .request question
  | ⟨3, content⟩ => .event content.1 content.2

/-- The layout of each alternative of a control message. -/
def alternatives : (tag : Fin 4) → Codec (Content tag)
  | 0 => Digest.codec
  | 1 => Digest.codec
  | 2 => SyncRequest.codec
  | 3 => Codec.text.pair Codec.bytes

/-- The layout of control messages. -/
def codec : Codec ControlMessage :=
  (Codec.tagged "ControlMessage" alternatives).via toTagged ofTagged

/-- The word for the kind of a control message. -/
def typeName : ControlMessage → String
  | .notification _ => "Notification"
  | .gossip _ => "GossipNotification"
  | .request .ping => "Ping"
  | .request (.healthCheck _ _) => "HealthCheck"
  | .event _ _ => "Event"

end ControlMessage

/-! ### Events and frames -/

/-- The layout of events. -/
def Event.codec : Codec Event :=
  (Scope.codec.pair (Codec.text.pair (Codec.bytes.pair (NodeId.codec.pair Address.codec)))).via
    (fun event => (event.scope, event.kind, event.data, event.origin, event.originAddress))
    (fun layout =>
      ⟨layout.1, layout.2.1, layout.2.2.1, layout.2.2.2.1, layout.2.2.2.2⟩)

/-- What travels on a connection. -/
inductive Frame where
  /-- An event, numbered by its sender, who may wait for a reply. -/
  | request (id : UInt64) (expectsReply : Bool) (event : Event)
  /-- The answer to the request of the same number. -/
  | reply (id : UInt64) (data : Option Bytes)
  deriving DecidableEq, Repr, Inhabited

namespace Frame

/-- The content of each alternative of a frame. -/
abbrev Content : Fin 2 → Type
  | 0 => UInt64 × Bool × Event
  | 1 => UInt64 × Option Bytes

/-- A frame as a tag and its content. -/
def toTagged : Frame → (tag : Fin 2) × Content tag
  | .request id expectsReply event => ⟨0, (id, expectsReply, event)⟩
  | .reply id data => ⟨1, (id, data)⟩

/-- The frame of a tag and its content. -/
def ofTagged : ((tag : Fin 2) × Content tag) → Frame
  | ⟨0, content⟩ => .request content.1 content.2.1 content.2.2
  | ⟨1, content⟩ => .reply content.1 content.2

/-- The layout of each alternative of a frame. -/
def alternatives : (tag : Fin 2) → Codec (Content tag)
  | 0 => Codec.word.pair (Codec.flag.pair Event.codec)
  | 1 => Codec.word.pair
      (Codec.optional "core::option::Option<alloc::vec::Vec<u8>>" Codec.bytes)

/-- The layout of frames. -/
def codec : Codec Frame :=
  (Codec.tagged "WireFrame" alternatives).via toTagged ofTagged

/-- The word for the kind of a frame. -/
def kindWord : Frame → String
  | .request _ _ _ => "request"
  | .reply _ _ => "reply"

/-- A frame as it is sent: the length of its payload in four bytes, high byte first, and the
payload. -/
def message (frame : Frame) : Bytes :=
  let payload := codec.write frame
  Bytes.bigEndian 4 payload.length ++ payload

/-- The payload length that the first four bytes announce. -/
def announcedLength (input : Bytes) : Option Nat :=
  if input.length < 4 then none else some (Bytes.ofBigEndian (input.take 4))

end Frame

end PeerMesh
