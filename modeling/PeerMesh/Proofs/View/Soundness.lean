/-
**What holds of a view after every operation.**

* `View.Sound` — nobody is both a peer and tombstoned, the owner of the view is neither, every record
  is filed under the id that it carries and has been touched, and the published numbers are those of
  the peers and the tombstones.
* `Kept.perform_sound` — every step on a view keeps it sound.
* `Watched.performWithin_induct` — what silent steps keep, a step with watchers keeps, whatever the
  watchers do when they are told.
* `Watched.performAll_sound` — a new view is sound after any run of steps at any clock readings.

Most operations rearrange the two tables and then publish the numbers, so the tables have a property
of their own (`View.Tidy`), and publishing makes a tidy view sound (`Tidy.committed`).
-/

import PeerMesh.Power
import PeerMesh.View.Watched

namespace PeerMesh

/-! ### Records -/

namespace Record

/-- The record of the given id, which was heard of at least once. -/
structure FiledUnder (record : Record) (id : NodeId) : Prop where
  named : record.id = id
  touched : 1 ≤ record.touchCount

/-- **The touch count never becomes zero again.** -/
theorem one_le_nextCount (count : UInt64) : 1 ≤ nextCount count := by
  unfold nextCount
  split
  · decide
  · rename_i notLargest
    have below : count.toNat + 1 < 2 ^ 64 := by
      have bound := count.toNat_lt
      have other : count.toNat ≠ 2 ^ 64 - 1 := by
        intro largest
        exact notLargest (UInt64.toNat_inj.mp largest)
      omega
    rw [UInt64.le_iff_toNat_le, UInt64.toNat_add]
    show 1 ≤ (count.toNat + 1) % 2 ^ 64
    rw [Nat.mod_eq_of_lt below]
    exact Nat.le_add_left _ _

/-- Whoever is heard of once more is counted otherwise than before. -/
theorem nextCount_ne (count : UInt64) : nextCount count ≠ count := by
  unfold nextCount
  split
  · rename_i largest
    rw [largest]
    decide
  · simp

theorem FiledUnder.touch {record : Record} {id : NodeId} (filed : record.FiledUnder id)
    (now : Reading) : (record.touch now).FiledUnder id :=
  ⟨filed.named, one_le_nextCount _⟩

theorem FiledUnder.suspect {record : Record} {id : NodeId} (filed : record.FiledUnder id) :
    record.suspect.FiledUnder id :=
  ⟨filed.named, filed.touched⟩

theorem FiledUnder.reset {record : Record} {id : NodeId} (filed : record.FiledUnder id)
    (now : Reading) : (record.reset now).FiledUnder id :=
  ⟨filed.named, one_le_nextCount _⟩

theorem FiledUnder.checkState {record : Record} {id : NodeId} (filed : record.FiledUnder id)
    (timeout : Duration) (now : Reading) : (record.checkState timeout now).FiledUnder id := by
  unfold Record.checkState
  split
  · exact filed.suspect
  · exact filed

theorem FiledUnder.observeVersion {record : Record} {id : NodeId} (filed : record.FiledUnder id)
    (version : UInt64) : (record.observeVersion version).FiledUnder id := by
  unfold Record.observeVersion
  split
  · exact ⟨filed.named, filed.touched⟩
  · exact filed

end Record

namespace View

theorem newRecord_filed (now : Reading) (address : Address) (id : NodeId) (version : UInt64) :
    (newRecord now address id version).FiledUnder id :=
  Record.FiledUnder.observeVersion ⟨rfl, Record.one_le_nextCount _⟩ version

/-! ### The two tables -/

/-- The tables of peers and tombstones of the view of one node are in order. -/
structure Tidy (selfId : NodeId) (view : View) : Prop where
  owned : view.selfId = selfId
  /-- Nobody is both a peer and tombstoned. -/
  apart : ∀ id member, view.live.get? id = some member → view.dead.get? id = none
  selfIsNoPeer : view.live.get? selfId = none
  selfIsNotDead : view.dead.get? selfId = none
  liveFiled : ∀ id member, view.live.get? id = some member → member.record.FiledUnder id
  deadFiled : ∀ id tombstone, view.dead.get? id = some tombstone →
    tombstone.member.record.FiledUnder id

/-- The view of one node is tidy, and the published numbers are those of its peers and tombstones. -/
structure Sound (selfId : NodeId) (view : View) : Prop extends Tidy selfId view where
  peersCounted : view.peerCount = view.nodeCount
  gaugeLive : view.gauges.live = view.nodeCount
  gaugeDead : view.gauges.dead = view.deadCount

variable {selfId : NodeId} {view : View}

/-- Every peer is listed under its own id. -/
theorem Tidy.named_of_mem_entries (tidy : view.Tidy selfId) {entry : NodeId × Member}
    (among : entry ∈ view.live.entries) : entry.2.record.id = entry.1 :=
  (tidy.liveFiled entry.1 entry.2 ((view.live.mem_entries_iff _ _).mp among)).named

/-- The live peers of a tidy view are listed once each. -/
theorem Tidy.distinct (tidy : view.Tidy selfId) :
    (view.members.map fun member => member.record.id).Nodup := by
  have keys : view.members.map (fun member => member.record.id) = view.live.keys := by
    unfold members Table.values Table.keys
    rw [List.map_map]
    exact List.map_congr_left fun entry among => tidy.named_of_mem_entries among
  exact keys ▸ view.live.nodup

/-- Publishing the numbers makes a tidy view sound. -/
theorem Tidy.committed (tidy : view.Tidy selfId) : view.committed.Sound selfId :=
  ⟨⟨tidy.owned, tidy.apart, tidy.selfIsNoPeer, tidy.selfIsNotDead, tidy.liveFiled, tidy.deadFiled⟩,
    rfl, rfl, rfl⟩

theorem new_sound (selfId : NodeId) : (new selfId).Sound selfId where
  owned := rfl
  apart := Table.all_empty
  selfIsNoPeer := rfl
  selfIsNotDead := rfl
  liveFiled := Table.all_empty
  deadFiled := Table.all_empty
  peersCounted := rfl
  gaugeLive := rfl
  gaugeDead := rfl

/-- A lifted tombstone leaves the tables in order, and its id is not tombstoned any more. -/
theorem Tidy.unbury (tidy : view.Tidy selfId) (id : NodeId) :
    (view.unbury id).Tidy selfId ∧ (view.unbury id).dead.get? id = none := by
  have fewer : ∀ other, (view.unbury id).dead.get? other =
      if other = id then none else view.dead.get? other := fun other =>
    Table.get?_erase view.dead id other
  refine ⟨⟨tidy.owned, ?_, tidy.selfIsNoPeer, ?_, tidy.liveFiled,
    Table.All.erase tidy.deadFiled id⟩, ?_⟩
  · intro other member found
    rw [fewer, tidy.apart other member found, ite_self]
  · rw [fewer, tidy.selfIsNotDead, ite_self]
  · rw [fewer, if_pos rfl]

/-- A record is enrolled under an id of another node that is not tombstoned. -/
theorem Tidy.enroll (tidy : view.Tidy selfId) {record : Record} {id : NodeId}
    (filed : record.FiledUnder id) (other : id ≠ selfId) (notDead : view.dead.get? id = none) :
    (view.enroll record).Tidy selfId := by
  obtain rfl := filed.named
  refine ⟨tidy.owned, Table.All.insert tidy.apart notDead, ?_, tidy.selfIsNotDead,
    Table.All.insert tidy.liveFiled filed, tidy.deadFiled⟩
  show (view.live.insert record.id ⟨view.nextSerial, record⟩).get? selfId = none
  rw [Table.get?_insert, if_neg other.symm]
  exact tidy.selfIsNoPeer

/-- A changed record is still filed under its id. -/
theorem Tidy.modifyRecord (tidy : view.Tidy selfId) (id : NodeId) {change : Record → Record}
    (files : ∀ record : Record, record.FiledUnder id → (change record).FiledUnder id) :
    (view.modifyRecord id change).Tidy selfId where
  owned := tidy.owned
  apart := Table.All.modify tidy.apart fun _ notDead => notDead
  selfIsNoPeer := Table.get?_modify_of_absent tidy.selfIsNoPeer
  selfIsNotDead := tidy.selfIsNotDead
  liveFiled := Table.All.modify tidy.liveFiled fun member filed => files member.record filed
  deadFiled := tidy.deadFiled

/-- A changed record does not change the numbers. -/
theorem Sound.modifyRecord (sound : view.Sound selfId) (id : NodeId) {change : Record → Record}
    (files : ∀ record : Record, record.FiledUnder id → (change record).FiledUnder id) :
    (view.modifyRecord id change).Sound selfId := by
  have size : (view.modifyRecord id change).nodeCount = view.nodeCount :=
    Table.size_modify view.live id _
  refine ⟨sound.toTidy.modifyRecord id files, ?_, ?_, sound.gaugeDead⟩
  · rw [size]
    exact sound.peersCounted
  · rw [size]
    exact sound.gaugeLive

/-! ### The operations -/

/-- An operation that may be refused keeps a view sound if it does so for the ids of other nodes. -/
theorem Sound.unlessRefused (sound : view.Sound selfId) {id : NodeId} {operation : Outcome Bool}
    (keeps : id ≠ selfId → operation.view.Sound selfId) :
    (view.unlessRefused id operation).view.Sound selfId := by
  unfold View.unlessRefused refusal?
  split
  · exact sound
  · rename_i allowed
    refine keeps fun same => ?_
    rw [same, ← sound.owned] at allowed
    split at allowed
    · cases allowed
    · rw [if_pos rfl] at allowed
      cases allowed

/-- A record enrolled for another node that is not tombstoned, with the numbers published. -/
theorem Tidy.join (tidy : view.Tidy selfId) {id : NodeId} (other : id ≠ selfId)
    (notDead : view.dead.get? id = none) (now : Reading) (address : Address) (version : UInt64) :
    (view.enroll (newRecord now address id version)).committed.Sound selfId :=
  (tidy.enroll (newRecord_filed now address id version) other notDead).committed

theorem Sound.addHost (sound : view.Sound selfId) (now : Reading) (address : Address)
    (id : NodeId) : (view.addHost now address id).view.Sound selfId := by
  refine sound.unlessRefused fun other => ?_
  split
  · exact sound.committed
  · rename_i unknown
    refine sound.join other ?_ now address 0
    cases dead : view.dead.get? id with
    | none => rfl
    | some tombstone =>
      have isDead : view.isDead id = true := by
        show (view.dead.get? id).isSome = true
        rw [dead]
        rfl
      rw [isDead] at unknown
      exact absurd rfl unknown

theorem Sound.heartbeat (sound : view.Sound selfId) (now : Reading) (address : Address)
    (id : NodeId) : (view.heartbeat now address id).view.Sound selfId := by
  obtain ⟨risen, notDead⟩ := sound.unbury id
  refine sound.unlessRefused fun other => ?_
  have enrolled := risen.join other notDead now address 0
  dsimp only
  split
  · split
    · exact (risen.modifyRecord id fun _ filed => filed.reset now).committed
    · exact enrolled
  · exact enrolled

theorem Sound.observe (sound : view.Sound selfId) (now : Reading) (address : Address) (id : NodeId)
    (version : UInt64) : (view.observe now address id version).view.Sound selfId := by
  obtain ⟨risen, notDead⟩ := sound.unbury id
  refine sound.unlessRefused fun other => ?_
  split
  · split
    · exact sound.committed
    · exact risen.join other notDead now address version
  · rename_i absent
    split
    · show (if _ then _ else _ : View).committed.Sound selfId
      split
      · refine Tidy.committed (sound.toTidy.modifyRecord id fun _ filed => ?_)
        exact (filed.observeVersion version).reset now
      · exact sound.committed
    · exact sound.join other absent now address version

/-- A peer that goes leaves the tables in order. -/
theorem Tidy.dismiss (tidy : view.Tidy selfId) (id : NodeId) :
    ({ view with live := view.live.erase id } : View).Tidy selfId := by
  refine ⟨tidy.owned, Table.All.erase tidy.apart id, ?_, tidy.selfIsNotDead,
    Table.All.erase tidy.liveFiled id, tidy.deadFiled⟩
  show (view.live.erase id).get? selfId = none
  rw [Table.get?_erase, tidy.selfIsNoPeer, ite_self]

theorem Sound.removeDead (sound : view.Sound selfId) (now : Reading) (id : NodeId) :
    (view.removeDead now id).view.Sound selfId := by
  unfold View.removeDead
  split
  · rename_i member found
    have gone := sound.dismiss id
    have notSelf : selfId ≠ id := by
      rintro rfl
      rw [sound.selfIsNoPeer] at found
      cases found
    refine Tidy.committed ⟨sound.owned, ?_, gone.selfIsNoPeer, ?_, gone.liveFiled,
      Table.All.insert sound.deadFiled (sound.liveFiled id member found)⟩
    · intro key other live
      have stillLive : (view.live.erase id).get? key = some other := live
      rw [Table.get?_erase] at stillLive
      split at stillLive
      · cases stillLive
      · rename_i different
        show (view.dead.insert id ⟨member, now⟩).get? key = none
        rw [Table.get?_insert, if_neg different]
        exact sound.apart key other stillLive
    · show (view.dead.insert id ⟨member, now⟩).get? selfId = none
      rw [Table.get?_insert, if_neg notSelf]
      exact sound.selfIsNotDead
  · exact sound.committed

theorem Sound.removeLeaving (sound : view.Sound selfId) (id : NodeId) :
    (view.removeLeaving id).view.Sound selfId := by
  unfold View.removeLeaving
  split
  · exact (sound.dismiss id).committed
  · exact sound.committed

theorem Sound.clear (sound : view.Sound selfId) : view.clear.view.Sound selfId := by
  exact Tidy.committed ⟨sound.owned, fun _ _ _ => rfl, rfl, rfl, Table.all_empty, Table.all_empty⟩

/-- If no tombstone is evicted the numbers are not published again, but then they did not change. -/
theorem Sound.cleanup (sound : view.Sound selfId) (now : Reading) (grace : Duration) :
    (view.cleanup now grace).view.Sound selfId := by
  let keep : NodeId → Tombstone → Bool := fun _ tombstone =>
    decide (now < tombstone.downAt.plus grace.millisWord)
  have tidy : ({ view with dead := view.dead.filter keep } : View).Tidy selfId := by
    refine ⟨sound.owned, ?_, sound.selfIsNoPeer, ?_, sound.liveFiled,
      Table.All.filter sound.deadFiled keep⟩
    · exact fun id member found => Table.get?_filter_of_absent (sound.apart id member found)
    · exact Table.get?_filter_of_absent sound.selfIsNotDead
  unfold View.cleanup
  dsimp only
  split
  · exact tidy.committed
  · rename_i noneEvicted
    have fewer := Table.size_filter_le view.dead keep
    have size : (view.dead.filter keep).size = view.dead.size :=
      Nat.le_antisymm fewer (Nat.le_of_sub_eq_zero (Nat.eq_zero_of_not_pos noneEvicted))
    exact ⟨tidy, sound.peersCounted, sound.gaugeLive, sound.gaugeDead.trans size.symm⟩

theorem Sound.shutdown (sound : view.Sound selfId) : view.shutdown.view.Sound selfId :=
  ⟨⟨sound.owned, sound.apart, sound.selfIsNoPeer, sound.selfIsNotDead, sound.liveFiled,
    sound.deadFiled⟩, sound.peersCounted, sound.gaugeLive, sound.gaugeDead⟩

end View

/-! ### Runs -/

/-- **Every step on a view keeps it sound**, whatever the clock shows. -/
theorem Kept.perform_sound {selfId : NodeId} {kept : Kept} (sound : kept.view.Sound selfId)
    (time : Nat) (step : ViewStep) : (kept.perform time step).2.1.view.Sound selfId := by
  cases step with
  | addHost address id => exact sound.addHost _ address id
  | heartbeat address id => exact sound.heartbeat _ address id
  | observe address id version => exact sound.observe _ address id version
  | removeDead id => exact sound.removeDead _ id
  | removeLeaving id => exact sound.removeLeaving id
  | clear => exact sound.clear
  | cleanup grace => exact sound.cleanup _ grace
  | shutdown => exact sound.shutdown
  | suspect id => exact sound.modifyRecord id fun _ filed => filed.suspect
  | touch id => exact sound.modifyRecord id fun _ filed => filed.touch _
  | checkState id timeout => exact sound.modifyRecord id fun _ filed => filed.checkState timeout _
  | observeVersion id version =>
    exact sound.modifyRecord id fun _ filed => filed.observeVersion version
  | get _ | addressOf _ | isLive _ | isDead _ | normal | staleness | advance _ | set _ =>
    exact sound

namespace Watched

/-- Something holds of the view, and its watchers have nothing in mind but steps that are allowed. -/
structure Abides (holds : View → Prop) (allowed : ViewStep → Prop) (watched : Watched) : Prop where
  view : holds watched.view
  reactions : ∀ watcher ∈ watched.watchers, ∀ reaction ∈ watcher.reaction, allowed reaction.step

section

variable {holds : View → Prop} {allowed : ViewStep → Prop}

theorem Abides.spendReaction {watched : Watched} (abides : watched.Abides holds allowed) (number : Nat) :
    (watched.spendReaction number).Abides holds allowed := by
  refine ⟨abides.view, fun watcher member => ?_⟩
  obtain ⟨place, found⟩ := List.mem_iff_getElem?.mp member
  have entry : (watched.watchers.modify number fun watcher =>
      { watcher with reaction := none })[place]? = some watcher := found
  rw [List.getElem?_modify] at entry
  obtain ⟨earlier, was, rfl⟩ := Option.map_eq_some_iff.mp entry
  split
  · exact fun reaction none => by cases none
  · exact abides.reactions earlier (List.mem_of_getElem? was)

section

variable {react : Watched → ViewStep → ViewAnswer × Watched}
  (reacts : ∀ watched step, allowed step → watched.Abides holds allowed →
    (react watched step).2.Abides holds allowed)

include reacts in
theorem Abides.tellOne {watched : Watched} (abides : watched.Abides holds allowed) (notice : Notice)
    (number : Nat) : (Watched.tellOne react notice watched number).Abides holds allowed := by
  unfold Watched.tellOne
  split
  · exact abides
  · rename_i watcher found
    split
    · exact abides
    · dsimp only
      split
      · exact ⟨abides.view, abides.reactions⟩
      · rename_i step wanted
        have intended : allowed step := by
          unfold Watcher.reactionTo? at wanted
          split at wanted
          · rename_i reaction pending
            split at wanted
            · obtain rfl := Option.some.inj wanted
              exact abides.reactions watcher (List.mem_of_getElem? found) reaction pending
            · cases wanted
          · cases wanted
        have recorded : (watched.record (.told number notice)).Abides holds allowed :=
          ⟨abides.view, abides.reactions⟩
        have after := reacts _ step intended (recorded.spendReaction number)
        exact ⟨after.view, after.reactions⟩

include reacts in
theorem Abides.tellAll {watched : Watched} (abides : watched.Abides holds allowed)
    (notices : List Notice) : (watched.tellAll react notices).Abides holds allowed :=
  List.foldlRecOn notices _ abides fun between abides notice _ =>
    List.foldlRecOn between.registered _ abides fun _ abides number _ =>
      abides.tellOne reacts notice number

end

/-- **What allowed steps keep, a step with watchers keeps** that have only allowed steps in mind. -/
theorem Abides.performWithin {time : Nat}
    (silent : ∀ (kept : Kept) (step : ViewStep), allowed step → holds kept.view →
      holds (kept.perform time step).2.1.view) (depth : Nat) :
    ∀ (watched : Watched) (step : ViewStep), allowed step → watched.Abides holds allowed →
      (performWithin time depth watched step).2.Abides holds allowed := by
  have silently (watched : Watched) (step : ViewStep) (intended : allowed step)
      (abides : watched.Abides holds allowed) :
      (watched.performSilently time step).2.1.Abides holds allowed :=
    ⟨silent ⟨watched.view, watched.clock⟩ step intended abides.view, abides.reactions⟩
  induction depth with
  | zero =>
    intro watched step intended abides
    exact (silently watched step intended abides).tellAll (fun _ _ _ unchanged => unchanged) _
  | succ depth ih =>
    intro watched step intended abides
    exact (silently watched step intended abides).tellAll ih _

end

/-- **What silent steps keep, a step with watchers keeps**: watchers act on the view by steps alone. -/
theorem performWithin_induct (keeps : View → Prop) {time : Nat}
    (silent : ∀ (kept : Kept) (step : ViewStep), keeps kept.view →
      keeps (kept.perform time step).2.1.view) (depth : Nat) :
    ∀ (watched : Watched) (step : ViewStep), keeps watched.view →
      keeps (performWithin time depth watched step).2.view := by
  intro watched step kept
  have abides : watched.Abides keeps fun _ => True := ⟨kept, fun _ _ _ _ => trivial⟩
  exact (Abides.performWithin (fun kept step _ => silent kept step) depth watched step trivial abides).view

/-- Perform steps one after another, each at its moment of the running time. -/
def performAll (watched : Watched) (steps : List (Nat × ViewStep)) : Watched :=
  steps.foldl (fun watched entry => (watched.perform entry.1 entry.2).2) watched

/-- Steps keep a sound view sound. -/
theorem performAll_keeps_sound {selfId : NodeId} (steps : List (Nat × ViewStep))
    (watched : Watched) (sound : watched.view.Sound selfId) :
    (watched.performAll steps).view.Sound selfId := by
  induction steps generalizing watched with
  | nil => exact sound
  | cons entry rest ih =>
    refine ih _ (performWithin_induct (View.Sound selfId) ?_ _ watched entry.2 sound)
    exact fun kept step sound => Kept.perform_sound sound entry.1 step

/-- **A new view is sound after any run of steps**, with any clock and any watchers, at whatever moments
the steps are made. -/
theorem performAll_sound (selfId : NodeId) (clock : Timepiece) (watchers : List Watcher)
    (registered : List Nat) (sightings : List Sighting) (steps : List (Nat × ViewStep)) :
    (performAll ⟨View.new selfId, clock, watchers, registered, sightings⟩ steps).view.Sound
      selfId :=
  performAll_keeps_sound steps _ (View.new_sound selfId)

end Watched

end PeerMesh
