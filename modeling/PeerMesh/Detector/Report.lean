/-
**What has left a detector, at a glance.**

A `Batched` list of control messages has the digests of the list put together: the heads of the
rounds, the sizes of the batches and all entries. A `RigReport` sorts what has left a rig by kind, and
what was sent by address.
-/

import PeerMesh.Detector.Rig

namespace PeerMesh

/-- The digest in a message, if there is one. -/
def ControlMessage.digest? : ControlMessage → Option Digest
  | .notification digest | .gossip digest => some digest
  | .request _ | .event _ _ => none

/-- What the digests of one round have in common: the name of their kind, their version and their
heartbeat number. -/
structure DigestHead where
  kind : String
  version : UInt8
  heartbeat : UInt64
  deriving DecidableEq, Repr, Inhabited

/-- Control messages with their digests put together. -/
structure Batched where
  /-- The heads of the digests, without repetition in sequence. -/
  heads : List DigestHead
  /-- The number of entries of each digest. -/
  sizes : List Nat
  /-- The entries of all digests. -/
  entries : List GossipEntry
  /-- The messages without digest. -/
  others : List ControlMessage

/-- Put a head before others, unless they begin with it. -/
def DigestHead.precede (head : DigestHead) (rest : List DigestHead) : List DigestHead :=
  if rest.head? = some head then rest else head :: rest

/-- The head of a message with a digest. -/
def ControlMessage.head? (message : ControlMessage) : Option DigestHead :=
  message.digest?.map fun digest => ⟨message.typeName, digest.version, digest.heartbeat⟩

/-- Put the digests of messages together. -/
def Batched.ofMessages (messages : List ControlMessage) : Batched :=
  let digests := messages.filterMap ControlMessage.digest?
  { heads := (messages.filterMap ControlMessage.head?).foldr DigestHead.precede []
    sizes := digests.map fun digest => digest.entries.length
    entries := digests.flatMap Digest.entries
    others := messages.filter fun message => message.digest?.isNone }

/-- What has left a rig, by kind. -/
structure RigReport where
  asked : List (Question × Duration)
  /-- What was sent to each address. -/
  told : List (Address × Batched)
  broadcasts : Batched
  delivered : List Event

/-- Sort what has left a rig. -/
def RigReport.ofRecords (records : List RigRecord) : RigReport :=
  let told := records.filterMap fun
    | .told address message => some (address, message)
    | _ => none
  let toldAt (address : Address) := (told.filter (·.1 = address)).map Prod.snd
  { asked := records.filterMap fun
      | .asked question timeout => some (question, timeout)
      | _ => none
    told := (told.map Prod.fst).eraseDups.map fun address => (address, .ofMessages (toldAt address))
    broadcasts := .ofMessages (records.filterMap fun
      | .broadcast message => some message
      | _ => none)
    delivered := records.filterMap fun
      | .delivered event => some event
      | _ => none }

/-- The ways of answering that have a word. -/
def Say.words : List (String × Say) := [
  ("pong", .bytes SyncReply.pong.bytes), ("true", .bytes (SyncReply.reachable true).bytes),
  ("false", .bytes (SyncReply.reachable false).bytes), ("none", .nothing), ("stall", .stall),
  ("refused", .refuse), ("unreachable", .unreachable)]

end PeerMesh
