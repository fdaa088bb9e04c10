/-
**The health record of one node.**

A `Record` says when a node was last heard of, how often, with which heartbeat version, and whether
it is suspected of being dead. Five steps change it:

* `Record.touch` — it was heard of; the last touch never goes back and the count skips zero when it
  wraps;
* `Record.suspect` and `Record.reset` — suspicion raised, and cleared by a touch;
* `Record.checkState` — suspicion raised if the record has been idle for too long;
* `Record.observeVersion` — a heartbeat version seen; only a larger one is kept.
-/

import PeerMesh.Node.Identity
import PeerMesh.Node.Clock

namespace PeerMesh

/-- Whether a node is suspected of being dead. -/
inductive Health where
  | normal
  | suspect
  deriving DecidableEq, Repr, Inhabited

/-- The word for a health state. -/
def Health.word : Health → String
  | .normal => "normal"
  | .suspect => "suspect"

/-- What is known about one node. -/
structure Record where
  id : NodeId
  address : Address
  health : Health
  lastTouch : Reading
  touchCount : UInt64
  version : UInt64
  deriving DecidableEq, Repr, Inhabited

namespace Record

/-- The record of a node nothing was heard of yet. -/
def fresh (id : NodeId) (address : Address) : Record where
  id := id
  address := address
  health := .normal
  lastTouch := 0
  touchCount := 0
  version := 0

/-- The next touch count: one more, going from the largest count straight to one. -/
def nextCount (count : UInt64) : UInt64 :=
  if count = UInt64.ofNat (UInt64.size - 1) then 1 else count + 1

/-- The node was heard of. -/
def touch (record : Record) (now : Reading) : Record :=
  { record with lastTouch := max record.lastTouch now, touchCount := nextCount record.touchCount }

/-- The node is suspected. -/
def suspect (record : Record) : Record := { record with health := .suspect }

/-- The node was heard of, and is no longer suspected. -/
def reset (record : Record) (now : Reading) : Record :=
  { record with health := .normal }.touch now

/-- The time since the node was last heard of. -/
def idle (record : Record) (now : Reading) : UInt64 := now.since record.lastTouch

/-- The node is suspected if it has been idle for at least the timeout. -/
def checkState (record : Record) (timeout : Duration) (now : Reading) : Record :=
  if timeout.millisWord ≤ record.idle now then record.suspect else record

/-- Whether a heartbeat version is news. -/
def isNews (record : Record) (version : UInt64) : Bool := record.version < version

/-- A heartbeat version was seen; the largest one is kept. -/
def observeVersion (record : Record) (version : UInt64) : Record :=
  if record.isNews version then { record with version := version } else record

/-- Two records are about the same node at the same place. -/
def sameNode (first second : Record) : Bool :=
  first.address = second.address && first.id = second.id

end Record

end PeerMesh
