/-
**Broadcasting by datagrams to a group.**

Each event is one datagram. Only version 4 multicast addresses can be groups, and only events that
fit into a datagram can be sent. What arrives and cannot be read is dropped.
-/

import PeerMesh.Socket.Host
import PeerMesh.Wire.Payload

namespace PeerMesh

open Socket (Endpoint Host)

/-- One node's membership in a group. -/
structure GroupMember where
  group : Endpoint
  isJoined : Bool
  deriving DecidableEq, Repr, Inhabited

namespace GroupMember

/-- A node that has not joined yet. -/
def new (group : Endpoint) : GroupMember := ⟨group, false⟩

/-- Whether an endpoint can be a group. -/
def canBeGroup : Endpoint → Bool
  | .v4 ip _ => ip.isMulticast
  | .v6 _ _ _ => false

/-- Join the group. -/
def join (member : GroupMember) (host : Host) : Except TransportError GroupMember :=
  if canBeGroup member.group then
    match host.joinFailure with
    | some failure => .error (.ofIo failure)
    | none => .ok { member with isJoined := true }
  else .error (.invalidConfig ("broadcast group " ++ member.group.render ++
    " is not an IPv4 multicast address"))

/-- The group's address, once it is joined. -/
def address? (member : GroupMember) : Option Address :=
  if member.isJoined then some member.group.address else none

/-- Leave the group. -/
def leave (member : GroupMember) : GroupMember := { member with isJoined := false }

/-- The datagram of an event, if it fits into one. -/
def datagramOf (event : Event) : Except TransportError Bytes :=
  let payload := Event.codec.write event
  if maxDatagramSize < payload.length then
    .error (.encode ("event '" ++ event.kind ++ "' is " ++ toString payload.length ++
      " bytes, above the datagram limit"))
  else .ok payload

/-- The datagram that is sent for an event. -/
def dispatch (member : GroupMember) (event : Event) : Except TransportError Bytes :=
  if member.isJoined then datagramOf event else .error .notStarted

/-- The event in a datagram, if it can be read. -/
def eventIn? (datagram : Bytes) : Option Event :=
  (Event.codec.decode maxDatagramSize datagram).toOption

end GroupMember

/-- What a member of a group records. -/
inductive GroupRecord where
  | joined
  | left
  | heard (event : Event)
  deriving DecidableEq, Repr, Inhabited

/-- A member of a group that hears itself and records what happens. -/
structure GroupBench where
  host : Host
  member : GroupMember
  /-- How many watch the membership. -/
  watchers : Nat
  /-- What was recorded, latest first. -/
  records : List GroupRecord

namespace GroupBench

/-- Record something, if it happened. -/
def note (bench : GroupBench) (records : List GroupRecord) : GroupBench :=
  { bench with records := records ++ bench.records }

/-- A datagram arrives; the answer is whether anybody was there to take it. -/
def arrive (bench : GroupBench) (datagram : Bytes) : Bool × GroupBench :=
  if bench.member.isJoined then
    (true, bench.note ((GroupMember.eventIn? datagram).map .heard).toList)
  else (false, bench)

/-- Join the group. -/
def start (bench : GroupBench) : Except TransportError Unit × GroupBench :=
  match bench.member.join bench.host with
  | .error error => (.error error, bench)
  | .ok member =>
    (.ok (), { bench with member := member }.note (List.replicate bench.watchers .joined))

/-- Send an event, which comes back to its sender. -/
def dispatch (bench : GroupBench) (event : Event) : Except TransportError Unit × GroupBench :=
  match bench.member.dispatch event with
  | .error error => (.error error, bench)
  | .ok datagram => (.ok (), (bench.arrive datagram).2)

/-- Leave the group. -/
def close (bench : GroupBench) : GroupBench :=
  if bench.member.isJoined then
    { bench with member := bench.member.leave }.note (List.replicate bench.watchers .left)
  else bench

/-- What was recorded, in order, and the record emptied. -/
def takeRecords (bench : GroupBench) : List GroupRecord × GroupBench :=
  (bench.records.reverse, { bench with records := [] })

end GroupBench

end PeerMesh
