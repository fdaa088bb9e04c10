/-
**The versions that a view knows.**

The version of a peer is the greatest heartbeat number that was heard of it. A view makes up no versions: it
knows none that nobody has told it.

* `View.IsWithin` — no live peer and no tombstone has a version above the limit of its id.
* **`perform_isWithin`** — a step keeps a view within a limit if the version that it tells is within it.
* `Watched.performs_isWithin`, `Watched.runs_isWithin` — so it is with watchers that tell no versions.
* `Watched.merge_isWithin` — a digest all of whose numbers are within a limit keeps a view within it.
-/

import PeerMesh.Proofs.View.Soundness
import PeerMesh.Detector.Receive

namespace PeerMesh

/-- The version that a step tells, and of whom. -/
def ViewStep.told? : ViewStep → Option (NodeId × UInt64)
  | .observe _ id version | .observeVersion id version => some (id, version)
  | _ => none

/-- A step tells no version above the limit. -/
def ViewStep.IsWithin (limit : NodeId → UInt64) (step : ViewStep) : Prop :=
  ∀ id version, step.told? = some (id, version) → version ≤ limit id

/-- A digest tells no number above the limit, and that of its sender is not zero. -/
structure Digest.IsWithin (limit : NodeId → UInt64) (sender : NodeId) (digest : Digest) : Prop where
  entries : ∀ entry ∈ digest.entries, entry.version ≤ limit entry.id
  least : 1 ≤ digest.heartbeat
  number : digest.heartbeat ≤ limit sender

/-- A message tells no number above the limit. -/
def ControlMessage.IsWithin (limit : NodeId → UInt64) (sender : NodeId) : ControlMessage → Prop
  | .notification digest | .gossip digest => digest.IsWithin limit sender
  | .request _ | .event _ _ => True

variable {limit : NodeId → UInt64}

theorem ControlMessage.IsWithin.mono {other : NodeId → UInt64} {sender : NodeId} {message : ControlMessage}
    (within : message.IsWithin limit sender) (later : ∀ id, limit id ≤ other id) :
    message.IsWithin other sender := by
  have digests {digest : Digest} (told : digest.IsWithin limit sender) : digest.IsWithin other sender :=
    ⟨fun entry member => UInt64.le_trans (told.entries entry member) (later entry.id), told.least,
      UInt64.le_trans told.number (later sender)⟩
  cases message with
  | notification digest => exact digests within
  | gossip digest => exact digests within
  | request _ => exact trivial
  | event _ _ => exact trivial

/-! ### Records -/

/-- The record of an id whose version is within the limit. -/
structure Record.IsWithin (limit : NodeId → UInt64) (id : NodeId) (record : Record) : Prop where
  named : record.id = id
  bounded : record.version ≤ limit id

namespace Record

variable {record : Record} {id : NodeId}

theorem IsWithin.mono {other : NodeId → UInt64} (within : record.IsWithin limit id)
    (later : limit id ≤ other id) : record.IsWithin other id :=
  ⟨within.named, UInt64.le_trans within.bounded later⟩

theorem IsWithin.touch (within : record.IsWithin limit id) (now : Reading) :
    (record.touch now).IsWithin limit id :=
  ⟨within.named, within.bounded⟩

theorem IsWithin.suspect (within : record.IsWithin limit id) : record.suspect.IsWithin limit id :=
  ⟨within.named, within.bounded⟩

theorem IsWithin.reset (within : record.IsWithin limit id) (now : Reading) :
    (record.reset now).IsWithin limit id :=
  ⟨within.named, within.bounded⟩

theorem IsWithin.checkState (within : record.IsWithin limit id) (timeout : Duration) (now : Reading) :
    (record.checkState timeout now).IsWithin limit id := by
  unfold Record.checkState
  split
  · exact within.suspect
  · exact within

theorem IsWithin.observeVersion (within : record.IsWithin limit id) {version : UInt64}
    (told : version ≤ limit id) : (record.observeVersion version).IsWithin limit id := by
  unfold Record.observeVersion
  split
  · exact ⟨within.named, told⟩
  · exact within

end Record

namespace View

/-- No version that a view knows is above the limit of its id. -/
structure IsWithin (limit : NodeId → UInt64) (view : View) : Prop where
  live : view.live.All fun id member => member.record.IsWithin limit id
  dead : view.dead.All fun id tombstone => tombstone.member.record.IsWithin limit id

variable {view : View} {id : NodeId} {version : UInt64}

theorem new_isWithin (selfId : NodeId) (limit : NodeId → UInt64) : (new selfId).IsWithin limit :=
  ⟨Table.all_empty, Table.all_empty⟩

theorem IsWithin.mono {other : NodeId → UInt64} (within : view.IsWithin limit)
    (later : ∀ id, limit id ≤ other id) : view.IsWithin other where
  live := fun id member found => (within.live id member found).mono (later id)
  dead := fun id tombstone found => (within.dead id tombstone found).mono (later id)

theorem newRecord_isWithin (now : Reading) (address : Address) (told : version ≤ limit id) :
    (newRecord now address id version).IsWithin limit id := by
  have fresh : (Record.fresh id address).IsWithin limit id :=
    ⟨rfl, UInt64.le_iff_toNat_le.mpr (Nat.zero_le _)⟩
  exact (fresh.touch now).observeVersion told

theorem IsWithin.unbury (within : view.IsWithin limit) (id : NodeId) : (view.unbury id).IsWithin limit :=
  ⟨within.live, within.dead.erase id⟩

theorem IsWithin.modifyRecord (within : view.IsWithin limit) (id : NodeId) {change : Record → Record}
    (changes : ∀ record : Record, record.IsWithin limit id → (change record).IsWithin limit id) :
    (view.modifyRecord id change).IsWithin limit :=
  ⟨within.live.modify fun member known => changes member.record known, within.dead⟩

theorem IsWithin.committed (within : view.IsWithin limit) : view.committed.IsWithin limit :=
  ⟨within.live, within.dead⟩

theorem IsWithin.dismiss (within : view.IsWithin limit) (id : NodeId) :
    ({ view with live := view.live.erase id } : View).IsWithin limit :=
  ⟨within.live.erase id, within.dead⟩

/-- A newcomer is enrolled with the version that was told. -/
theorem IsWithin.join (within : view.IsWithin limit) (now : Reading) (address : Address)
    (told : version ≤ limit id) :
    (view.enroll (newRecord now address id version)).committed.IsWithin limit := by
  have new := newRecord_isWithin now address told
  refine IsWithin.committed ⟨within.live.insert ?_, within.dead⟩
  rw [new.named]
  exact new

theorem IsWithin.unlessRefused (within : view.IsWithin limit) {operation : Outcome Bool}
    (performed : operation.view.IsWithin limit) : (view.unlessRefused id operation).view.IsWithin limit := by
  unfold View.unlessRefused
  split
  · exact within
  · exact performed

/-! ### The operations -/

theorem IsWithin.addHost (within : view.IsWithin limit) (now : Reading) (address : Address)
    (id : NodeId) : (view.addHost now address id).view.IsWithin limit := by
  refine within.unlessRefused ?_
  split
  · exact within.committed
  · exact within.join now address (UInt64.le_iff_toNat_le.mpr (Nat.zero_le _))

theorem IsWithin.heartbeat (within : view.IsWithin limit) (now : Reading) (address : Address)
    (id : NodeId) : (view.heartbeat now address id).view.IsWithin limit := by
  have least : (0 : UInt64) ≤ limit id := UInt64.le_iff_toNat_le.mpr (Nat.zero_le _)
  have risen := within.unbury id
  refine within.unlessRefused ?_
  dsimp only
  split
  · split
    · exact (risen.modifyRecord id fun _ known => known.reset now).committed
    · exact risen.join now address least
  · exact risen.join now address least

theorem IsWithin.observe (within : view.IsWithin limit) (now : Reading) (address : Address)
    (told : version ≤ limit id) : (view.observe now address id version).view.IsWithin limit := by
  refine within.unlessRefused ?_
  split
  · split
    · exact within.committed
    · exact (within.unbury id).join now address told
  · split
    · refine IsWithin.committed ?_
      split
      · exact within.modifyRecord id fun _ known => (known.observeVersion told).reset now
      · exact within
    · exact within.join now address told

theorem IsWithin.removeDead (within : view.IsWithin limit) (now : Reading) (id : NodeId) :
    (view.removeDead now id).view.IsWithin limit := by
  unfold View.removeDead
  split
  · rename_i member live
    exact ⟨within.live.erase id, within.dead.insert (within.live id member live)⟩
  · exact within.committed

theorem IsWithin.removeLeaving (within : view.IsWithin limit) (id : NodeId) :
    (view.removeLeaving id).view.IsWithin limit := by
  unfold View.removeLeaving
  split
  · exact (within.dismiss id).committed
  · exact within.committed

theorem IsWithin.cleanup (within : view.IsWithin limit) (now : Reading) (grace : Duration) :
    (view.cleanup now grace).view.IsWithin limit := by
  have kept : ({ view with dead := view.dead.filter fun _ tombstone =>
      now < tombstone.downAt.plus grace.millisWord } : View).IsWithin limit :=
    ⟨within.live, within.dead.filter _⟩
  unfold View.cleanup
  dsimp only
  split
  · exact kept.committed
  · exact kept

theorem IsWithin.age (within : view.IsWithin limit) (now : Reading) (timeout : Duration) :
    (view.age now timeout).IsWithin limit :=
  ⟨within.live.mapValues fun _ _ known => known.checkState timeout now, within.dead⟩

theorem IsWithin.resetAdmission (within : view.IsWithin limit) (now : Reading) (id : NodeId)
    (serial : Nat) : (view.resetAdmission now id serial).IsWithin limit := by
  have refreshed (member : Member) (known : member.record.IsWithin limit id) :
      (if member.serial = serial then { member with record := member.record.reset now }
        else member).record.IsWithin limit id := by
    split
    · exact known.reset now
    · exact known
  exact ⟨within.live.modify refreshed, within.dead.modify fun tombstone => refreshed tombstone.member⟩

theorem IsWithin.conclude (within : view.IsWithin limit) (now : Reading) (probe : Probe)
    (affirmed : Bool) : (view.conclude now probe affirmed).view.IsWithin limit := by
  unfold View.conclude
  split
  · exact within.resetAdmission now probe.id probe.suspect.serial
  · split
    · exact within.removeDead now probe.id
    · exact within

end View

/-- **A step keeps a view within a limit** if the version that it tells is within it. -/
theorem Kept.perform_isWithin {kept : Kept} (within : kept.view.IsWithin limit) (time : Nat)
    {step : ViewStep} (told : step.IsWithin limit) :
    (kept.perform time step).2.1.view.IsWithin limit := by
  cases step with
  | addHost address id => exact within.addHost _ address id
  | heartbeat address id => exact within.heartbeat _ address id
  | observe address id version => exact within.observe _ address (told id version rfl)
  | removeDead id => exact within.removeDead _ id
  | removeLeaving id => exact within.removeLeaving id
  | clear => exact ⟨Table.all_empty, Table.all_empty⟩
  | cleanup grace => exact within.cleanup _ grace
  | shutdown => exact ⟨within.live, within.dead⟩
  | suspect id => exact within.modifyRecord id fun _ known => known.suspect
  | touch id => exact within.modifyRecord id fun _ known => known.touch _
  | checkState id timeout => exact within.modifyRecord id fun _ known => known.checkState timeout _
  | observeVersion id version =>
    exact within.modifyRecord id fun _ known => known.observeVersion (told id version rfl)
  | get _ | addressOf _ | isLive _ | isDead _ | normal | staleness | advance _ | set _ =>
    exact within

/-! ### Views with watchers -/

namespace Watched

/-- The view is within a limit, and so are the steps that its watchers have in mind. -/
def IsWithin (limit : NodeId → UInt64) (watched : Watched) : Prop :=
  watched.Abides (View.IsWithin limit) (ViewStep.IsWithin limit)

variable {watched : Watched}

theorem IsWithin.mono {other : NodeId → UInt64} (within : watched.IsWithin limit)
    (later : ∀ id, limit id ≤ other id) : watched.IsWithin other where
  view := within.view.mono later
  reactions := fun watcher member reaction pending id version told =>
    UInt64.le_trans (within.reactions watcher member reaction pending id version told) (later id)

theorem IsWithin.performWithin {time : Nat} (depth : Nat) {step : ViewStep} (told : step.IsWithin limit)
    (within : watched.IsWithin limit) : (performWithin time depth watched step).2.IsWithin limit :=
  Abides.performWithin (fun _ _ told within => Kept.perform_isWithin within time told) depth watched step
    told within

theorem IsWithin.perform (within : watched.IsWithin limit) (time : Nat) {step : ViewStep}
    (told : step.IsWithin limit) : (watched.perform time step).2.IsWithin limit :=
  within.performWithin _ told

/-- An operation keeps a view with watchers within a limit if it keeps the view within it. -/
theorem IsWithin.run {α : Type} (within : watched.IsWithin limit) (time : Nat)
    (operation : View → Reading → Outcome α)
    (performed : (operation watched.view (watched.now time)).view.IsWithin limit) :
    (watched.run time operation).2.IsWithin limit := by
  have after : { watched with view := (operation watched.view (watched.now time)).view }.IsWithin limit :=
    ⟨performed, within.reactions⟩
  exact after.tellAll (fun _ _ told within => IsWithin.performWithin _ told within) _

theorem IsWithin.mapView (within : watched.IsWithin limit) {change : View → View}
    (changed : (change watched.view).IsWithin limit) : (watched.mapView change).IsWithin limit :=
  ⟨changed, within.reactions⟩

/-! ### Digests and messages -/

theorem IsWithin.hearSender (within : watched.IsWithin limit) (time : Nat) (address : Address)
    {sender : NodeId} {number : UInt64} (told : number ≤ limit sender) :
    (watched.hearSender time address sender number).IsWithin limit := by
  have heard := within.run time (fun view now => view.heartbeat now address sender)
    (within.view.heartbeat _ address sender)
  unfold Watched.hearSender
  dsimp only
  split
  · exact heard.mapView (heard.view.modifyRecord sender fun _ known => known.observeVersion told)
  · exact heard

theorem IsWithin.hearEntry (within : watched.IsWithin limit) (time : Nat) (sender : NodeId)
    {entry : GossipEntry} (told : entry.version ≤ limit entry.id) :
    (hearEntry time sender watched entry).IsWithin limit := by
  unfold Watched.hearEntry
  split
  · exact within
  · exact within.run time _ (within.view.observe _ entry.address told)

/-- **A digest all of whose numbers are within a limit keeps a view within it.** -/
theorem IsWithin.merge (within : watched.IsWithin limit) (time : Nat) (address : Address)
    {sender : NodeId} {digest : Digest} (told : digest.IsWithin limit sender) :
    (watched.merge time address sender digest).IsWithin limit := by
  unfold Watched.merge
  split
  · exact List.foldlRecOn digest.entries _ (within.hearSender time address told.number)
      fun between within entry member => within.hearEntry time sender (told.entries entry member)
  · exact within

/-- A message that arrives keeps a view within a limit if what it tells is within it. -/
theorem IsWithin.receive (within : watched.IsWithin limit) (time : Nat) {event : Event}
    {message : ControlMessage}
    (reads : ControlMessage.codec.decode maxFrameSize event.data = .ok message)
    (told : message.IsWithin limit event.origin) : (watched.receive time event).2.IsWithin limit := by
  unfold Watched.receive
  rw [reads]
  cases message with
  | notification digest => exact within.merge time event.originAddress told
  | gossip digest => exact within.merge time event.originAddress told
  | request request =>
    cases request with
    | ping =>
      exact within.run time (fun view now => view.heartbeat now event.originAddress event.origin)
        (within.view.heartbeat _ event.originAddress event.origin)
    | healthCheck target address =>
      unfold Watched.receiveRequest
      dsimp only
      split <;> exact within
  | event kind data => exact within

end Watched

end PeerMesh
