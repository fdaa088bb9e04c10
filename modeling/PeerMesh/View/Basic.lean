/-
**The membership view of one node.**

A `View` holds the peers that a node believes to be alive and, for a while, tombstones of those it
declared dead. Each operation returns an `Outcome`: its answer, the view afterwards, and the
notices that listeners are to be told, in order.

* `View.addHost` — a peer was discovered; tombstoned and known peers are left alone;
* `View.heartbeat` — a peer was heard of directly; this lifts a tombstone and moves a known peer;
* `View.observe` — a peer was heard of through another one, with a heartbeat version; only a newer
  version refreshes a known peer or lifts a tombstone;
* `View.removeDead`, `View.removeLeaving`, `View.clear` — peers go;
* `View.cleanup` — tombstones older than the grace period go;
* `View.shutdown` — no peer is admitted any more.

Every admission of a peer gets a serial number of its own, so that a record that was replaced can be
told from the one that replaced it.
-/

import PeerMesh.Node.Record
import PeerMesh.Table

namespace PeerMesh

/-- Why a view refuses an operation. -/
inductive ViewError where
  /-- A node cannot be its own peer. -/
  | selfAddition (id : NodeId)
  /-- A wait for peers ended too early. -/
  | awaitTimeout (expected actual : Nat)
  /-- The view was shut down during a wait. -/
  | interrupted
  /-- The view is shut down. -/
  | closed
  deriving DecidableEq, Repr, Inhabited

namespace ViewError

/-- The word for the kind of error. -/
def name : ViewError → String
  | .selfAddition _ => "SelfAddition"
  | .awaitTimeout _ _ => "AwaitTimeout"
  | .interrupted => "Interrupted"
  | .closed => "Closed"

/-- The text shown for an error. -/
def message : ViewError → String
  | .selfAddition id => "cannot add local node " ++ id.name ++ " as a peer"
  | .awaitTimeout expected actual =>
    "timed out waiting for " ++ toString expected ++ " peers (" ++ toString actual ++ " known)"
  | .interrupted => "interrupted while waiting for peers"
  | .closed => "view is shut down"

end ViewError

/-- What happened to a peer. -/
inductive Change where
  /-- It joined. -/
  | up
  /-- It was declared dead. -/
  | down
  /-- It left. -/
  | left
  deriving DecidableEq, Repr, Inhabited

/-- The word for a change. -/
def Change.word : Change → String
  | .up => "up"
  | .down => "down"
  | .left => "left"

/-- What listeners are told: a change and the record of the peer. -/
structure Notice where
  change : Change
  node : Record
  deriving DecidableEq, Repr, Inhabited

/-- A record together with the serial number of its admission. -/
structure Member where
  serial : Nat
  record : Record
  deriving DecidableEq, Repr, Inhabited

/-- A member that was declared dead, and when. -/
structure Tombstone where
  member : Member
  downAt : Reading
  deriving DecidableEq, Repr, Inhabited

/-- The numbers of peers and tombstones as last published to the metrics. -/
structure Gauges where
  live : Nat
  dead : Nat
  deriving DecidableEq, Repr, Inhabited

/-- The peers of one node. -/
structure View where
  selfId : NodeId
  live : Table NodeId Member
  dead : Table NodeId Tombstone
  /-- The serial number of the next admission. -/
  nextSerial : Nat
  /-- The number of peers as published to those who wait for peers. -/
  peerCount : Nat
  gauges : Gauges
  closed : Bool

/-- What an operation answers, leaves behind, and tells listeners. -/
structure Outcome (α : Type) where
  answer : α
  view : View
  notices : List Notice

namespace View

/-- The view of a node that knows nobody. -/
def new (selfId : NodeId) : View where
  selfId := selfId
  live := .empty
  dead := .empty
  nextSerial := 0
  peerCount := 0
  gauges := ⟨0, 0⟩
  closed := false

instance : Inhabited View := ⟨new default⟩

/-- The number of live peers. -/
def nodeCount (view : View) : Nat := view.live.size

/-- The number of tombstones. -/
def deadCount (view : View) : Nat := view.dead.size

/-- The record of a live peer. -/
def get? (view : View) (id : NodeId) : Option Record := (view.live.get? id).map Member.record

/-- The address of a live peer. -/
def addressOf? (view : View) (id : NodeId) : Option Address := (view.get? id).map Record.address

/-- Whether a peer is live. -/
def isLive (view : View) (id : NodeId) : Bool := view.live.contains id

/-- Whether a peer is tombstoned. -/
def isDead (view : View) (id : NodeId) : Bool := view.dead.contains id

/-- The live members. -/
def members (view : View) : List Member := view.live.values

/-- The records of the live peers. -/
def nodes (view : View) : List Record := view.members.map Member.record

/-- The live peers that are not suspected. -/
def normalNodes (view : View) : List Record := view.nodes.filter (·.health = .normal)

/-- The live peers, those not heard of for longest first. -/
def byStaleness (view : View) : List Record :=
  view.nodes.mergeSort fun first second => first.lastTouch ≤ second.lastTouch

/-- Publish the numbers of peers and tombstones. -/
def committed (view : View) : View :=
  { view with peerCount := view.live.size, gauges := ⟨view.live.size, view.dead.size⟩ }

/-- Why an operation that would enroll a peer is refused, if it is. -/
def refusal? (view : View) (id : NodeId) : Option ViewError :=
  if view.closed then some .closed
  else if id = view.selfId then some (.selfAddition id)
  else none

/-- Run an operation unless it is refused. -/
def unlessRefused (view : View) (id : NodeId) (operation : Outcome Bool) :
    Outcome (Except ViewError Bool) :=
  match view.refusal? id with
  | some error => ⟨.error error, view, []⟩
  | none => ⟨.ok operation.answer, operation.view, operation.notices⟩

/-- The record of a peer heard of just now, with the version that was told of it. -/
def newRecord (now : Reading) (address : Address) (id : NodeId) (version : UInt64) : Record :=
  ((Record.fresh id address).touch now).observeVersion version

/-- Make a record the live one of its id, as a new admission. -/
def enroll (view : View) (record : Record) : View :=
  { view with
    live := view.live.insert record.id ⟨view.nextSerial, record⟩
    nextSerial := view.nextSerial + 1 }

/-- Admit a peer that was not live, and say so. -/
def join (view : View) (record : Record) : Outcome Bool :=
  ⟨true, (view.enroll record).committed, [⟨.up, record⟩]⟩

/-- Lift the tombstone of an id, if it has one. -/
def unbury (view : View) (id : NodeId) : View := { view with dead := view.dead.erase id }

/-- Change the record of a live peer in place. -/
def modifyRecord (view : View) (id : NodeId) (change : Record → Record) : View :=
  { view with live := view.live.modify id fun member =>
      { member with record := change member.record } }

/-- A peer was discovered. -/
def addHost (view : View) (now : Reading) (address : Address) (id : NodeId) :
    Outcome (Except ViewError Bool) :=
  view.unlessRefused id <|
    if view.isDead id || view.isLive id then ⟨false, view.committed, []⟩
    else view.join (newRecord now address id 0)

/-- A peer was heard of directly. -/
def heartbeat (view : View) (now : Reading) (address : Address) (id : NodeId) :
    Outcome (Except ViewError Bool) :=
  view.unlessRefused id <|
    let risen := view.unbury id
    match risen.get? id with
    | some record =>
      if record.address = address then
        ⟨false, (risen.modifyRecord id (·.reset now)).committed, []⟩
      else ⟨false, (risen.enroll (newRecord now address id 0)).committed, []⟩
    | none => risen.join (newRecord now address id 0)

/-- A peer was heard of through another one. -/
def observe (view : View) (now : Reading) (address : Address) (id : NodeId) (version : UInt64) :
    Outcome (Except ViewError Bool) :=
  view.unlessRefused id <|
    match view.dead.get? id with
    | some tombstone =>
      if version ≤ tombstone.member.record.version then ⟨false, view.committed, []⟩
      else (view.unbury id).join (newRecord now address id version)
    | none =>
      match view.get? id with
      | some record =>
        let refresh (known : Record) := (known.observeVersion version).reset now
        ⟨false, (if record.isNews version then view.modifyRecord id refresh else view).committed, []⟩
      | none => view.join (newRecord now address id version)

/-- Declare a live peer dead. -/
def removeDead (view : View) (now : Reading) (id : NodeId) : Outcome Bool :=
  match view.live.get? id with
  | some member =>
    let buried := { view with
      live := view.live.erase id
      dead := view.dead.insert id ⟨member, now⟩ }
    ⟨true, buried.committed, [⟨.down, member.record⟩]⟩
  | none => ⟨false, view.committed, []⟩

/-- Let a live peer go. -/
def removeLeaving (view : View) (id : NodeId) : Outcome Bool :=
  match view.live.get? id with
  | some member =>
    ⟨true, { view with live := view.live.erase id }.committed, [⟨.left, member.record⟩]⟩
  | none => ⟨false, view.committed, []⟩

/-- Forget all peers and tombstones; the answer is the number of peers. -/
def clear (view : View) : Outcome Nat :=
  ⟨view.live.size, { view with live := .empty, dead := .empty }.committed,
    view.nodes.map fun record => ⟨.left, record⟩⟩

/-- Drop the tombstones whose grace period is over; the answer is their number. -/
def cleanup (view : View) (now : Reading) (grace : Duration) : Outcome Nat :=
  let kept := view.dead.filter fun _ tombstone => now < tombstone.downAt.plus grace.millisWord
  let evicted := view.dead.size - kept.size
  let after := { view with dead := kept }
  ⟨evicted, if 0 < evicted then after.committed else after, []⟩

/-- Admit no peer any more. -/
def shutdown (view : View) : Outcome Unit := ⟨(), { view with closed := true }, []⟩

/-! ### Steps on the record of a live peer -/

/-- Suspect a live peer; the answer is whether there is one. -/
def suspect (view : View) (id : NodeId) : Outcome Bool :=
  ⟨view.isLive id, view.modifyRecord id Record.suspect, []⟩

/-- Touch the record of a live peer; the answer is whether there is one. -/
def touch (view : View) (now : Reading) (id : NodeId) : Outcome Bool :=
  ⟨view.isLive id, view.modifyRecord id (·.touch now), []⟩

/-- Age a live peer; the answer is its health afterwards. -/
def checkState (view : View) (now : Reading) (id : NodeId) (timeout : Duration) :
    Outcome (Option Health) :=
  let aged := view.modifyRecord id (·.checkState timeout now)
  ⟨(aged.get? id).map Record.health, aged, []⟩

/-- Tell a live peer's record of a version; the answer is whether it was news. -/
def observeVersion (view : View) (id : NodeId) (version : UInt64) : Outcome (Option Bool) :=
  ⟨(view.get? id).map (·.isNews version), view.modifyRecord id (·.observeVersion version), []⟩

/-- Reset the record of one admission of an id, wherever it is by now. -/
def resetAdmission (view : View) (now : Reading) (id : NodeId) (serial : Nat) : View :=
  let refresh (member : Member) :=
    if member.serial = serial then { member with record := member.record.reset now } else member
  { view with
    live := view.live.modify id refresh
    dead := view.dead.modify id fun tombstone =>
      { tombstone with member := refresh tombstone.member } }

/-! ### Waiting for peers -/

/-- What a wait for at least `minimum` peers ends with, if it ends now. A wait that is over is cut
short only by a shut-down view. -/
def awaitVerdict? (view : View) (minimum : Nat) (expired : Bool) : Option (Except ViewError Nat) :=
  let wanted := max minimum 1
  if view.closed then some (.error .interrupted)
  else if wanted ≤ view.peerCount then some (.ok view.peerCount)
  else if expired then some (.error (.awaitTimeout wanted view.nodeCount))
  else none

end View

end PeerMesh
