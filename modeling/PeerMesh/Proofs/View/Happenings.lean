/-
**What may happen to a view, admission by admission.**

A failure detector does three things to its view: it lets steps be made, it ages the peers, and it
decides about suspects. All of them, in any order, are the `Happening`s of a view.

* `View.Succeeds` — from one view to a later one every live record is an admission of before or a new
  one, and as long as a peer is left in calm its suspicion is only ever cleared.
* **`undergo_succeeds`** — every happening is of this kind.
* `sound_undergoAll` — a view that began as a new one is sound, whatever has happened to it.
* `Numbered.undergoAll` — the serial numbers of the live records are those that were given out.
-/

import PeerMesh.Proofs.View.History
import PeerMesh.Detector.Probe

namespace PeerMesh

/-- Something that happens to a view while the clock shows a reading. -/
inductive Happening where
  | operation (now : Reading) (step : ViewStep)
  | aging (now : Reading) (timeout : Duration)
  /-- A probe is over. -/
  | verdict (now : Reading) (probe : Probe) (affirmed : Bool)

/-- A step neither suspects a peer, nor ages it, nor touches its record without clearing suspicion. -/
def ViewStep.Spares (id : NodeId) : ViewStep → Prop
  | .suspect other | .touch other | .checkState other _ => other ≠ id
  | _ => True

/-- Nobody suspects or ages a peer. -/
def Happening.Spares (id : NodeId) : Happening → Prop
  | .operation _ step => step.Spares id
  | .aging _ _ => False
  | .verdict _ _ _ => True

namespace View

/-- What a happening makes of a view. -/
def undergo (view : View) : Happening → View
  | .operation now step => (view.perform now step).2
  | .aging now timeout => view.age now timeout
  | .verdict now probe affirmed => (view.conclude now probe affirmed).view

/-- What happenings make of a view, one after another. -/
def undergoAll (view : View) (happenings : List Happening) : View := happenings.foldl undergo view

theorem undergoAll_append (view : View) (first second : List Happening) :
    view.undergoAll (first ++ second) = (view.undergoAll first).undergoAll second :=
  List.foldl_append

/-- A record that is as suspected as an earlier one and was heard of as often, or is not suspected. -/
def IsCalm (earlier later : Record) : Prop :=
  (later.touchCount = earlier.touchCount ∧ later.health = earlier.health) ∨ later.health = .normal

/-- From one view to a later one every live record is an admission of before, or a new one that is not
suspected. A peer in calm is not suspected anew. -/
structure Succeeds (calm : NodeId → Prop) (before after : View) : Prop where
  serials : before.nextSerial ≤ after.nextSerial
  heirs : ∀ id member, after.live.get? id = some member →
    (∃ earlier, before.live.get? id = some earlier ∧ member.serial = earlier.serial ∧
      (calm id → IsCalm earlier.record member.record)) ∨
    (before.nextSerial ≤ member.serial ∧ member.serial < after.nextSerial ∧
      member.record.health = .normal)

variable {calm : NodeId → Prop} {view later : View}

theorem IsCalm.rfl {record : Record} : IsCalm record record := .inl ⟨Eq.refl _, Eq.refl _⟩

/-- A view whose peers stay as they are, or go. -/
theorem succeeds_of_live {after : View} (serials : after.nextSerial = view.nextSerial)
    (live : ∀ id member, after.live.get? id = some member → view.live.get? id = some member) :
    view.Succeeds calm after :=
  ⟨Nat.le_of_eq serials.symm, fun id member found => .inl ⟨member, live id member found, rfl, fun _ => .rfl⟩⟩

theorem succeeds_refl (view : View) : view.Succeeds calm view :=
  succeeds_of_live rfl fun _ _ found => found

theorem Succeeds.committed (succeeds : view.Succeeds calm later) :
    view.Succeeds calm later.committed :=
  ⟨succeeds.serials, succeeds.heirs⟩

/-- A lifted tombstone changes nothing for the peers. -/
theorem Succeeds.of_unbury {id : NodeId} (succeeds : (view.unbury id).Succeeds calm later) :
    view.Succeeds calm later :=
  ⟨succeeds.serials, succeeds.heirs⟩

theorem newRecord_health (now : Reading) (address : Address) (id : NodeId) (version : UInt64) :
    (newRecord now address id version).health = .normal := by
  unfold newRecord Record.observeVersion
  split <;> rfl

theorem enroll_succeeds (view : View) (now : Reading) (address : Address) (id : NodeId)
    (version : UInt64) : view.Succeeds calm (view.enroll (newRecord now address id version)) := by
  refine ⟨Nat.le_succ _, fun key member found => ?_⟩
  have entry : (view.live.insert (newRecord now address id version).id
      ⟨view.nextSerial, newRecord now address id version⟩).get? key = some member := found
  rw [Table.get?_insert] at entry
  split at entry
  · obtain rfl := Option.some.inj entry
    exact .inr ⟨Nat.le_refl _, Nat.lt_succ_self _, newRecord_health now address id version⟩
  · exact .inl ⟨member, entry, rfl, fun _ => .rfl⟩

theorem modifyRecord_succeeds (view : View) (id : NodeId) {change : Record → Record}
    (calms : calm id → ∀ record, IsCalm record (change record)) :
    view.Succeeds calm (view.modifyRecord id change) := by
  refine ⟨Nat.le_refl _, fun key member found => .inl ?_⟩
  have entry : (view.live.modify id fun member =>
      { member with record := change member.record }).get? key = some member := found
  rw [Table.get?_modify] at entry
  split at entry
  · rename_i same
    obtain ⟨earlier, known, rfl⟩ := Option.map_eq_some_iff.mp entry
    rw [same]
    exact ⟨earlier, known, rfl, fun left => calms left earlier.record⟩
  · exact ⟨member, entry, rfl, fun _ => .rfl⟩

theorem dismiss_succeeds (view : View) (id : NodeId) :
    view.Succeeds calm { view with live := view.live.erase id } := by
  refine succeeds_of_live rfl fun key member found => ?_
  have stays : (view.live.erase id).get? key = some member := found
  rw [Table.get?_erase] at stays
  split at stays
  · cases stays
  · exact stays

theorem observeVersion_calm (record : Record) (version : UInt64) :
    IsCalm record (record.observeVersion version) := by
  unfold Record.observeVersion
  split <;> exact .inl ⟨rfl, rfl⟩

/-! ### The operations -/

theorem unlessRefused_succeeds {id : NodeId} {operation : Outcome Bool}
    (succeeds : view.Succeeds calm operation.view) :
    view.Succeeds calm (view.unlessRefused id operation).view := by
  unfold unlessRefused
  split
  · exact view.succeeds_refl
  · exact succeeds

theorem addHost_succeeds (view : View) (now : Reading) (address : Address) (id : NodeId) :
    view.Succeeds calm (view.addHost now address id).view := by
  refine unlessRefused_succeeds ?_
  split
  · exact view.succeeds_refl.committed
  · exact (view.enroll_succeeds now address id 0).committed

theorem heartbeat_succeeds (view : View) (now : Reading) (address : Address) (id : NodeId) :
    view.Succeeds calm (view.heartbeat now address id).view := by
  have enrolled : view.Succeeds calm
      ((view.unbury id).enroll (newRecord now address id 0)).committed :=
    ((view.unbury id).enroll_succeeds now address id 0).of_unbury.committed
  refine unlessRefused_succeeds ?_
  dsimp only
  split
  · split
    · have refreshed : (view.unbury id).Succeeds calm
          ((view.unbury id).modifyRecord id (·.reset now)) :=
        (view.unbury id).modifyRecord_succeeds id fun _ _ => .inr rfl
      exact refreshed.of_unbury.committed
    · exact enrolled
  · exact enrolled

theorem observe_succeeds (view : View) (now : Reading) (address : Address) (id : NodeId)
    (version : UInt64) : view.Succeeds calm (view.observe now address id version).view := by
  refine unlessRefused_succeeds ?_
  split
  · split
    · exact view.succeeds_refl.committed
    · exact ((view.unbury id).enroll_succeeds now address id version).of_unbury.committed
  · split
    · refine Succeeds.committed ?_
      split
      · exact view.modifyRecord_succeeds id fun _ _ => .inr rfl
      · exact view.succeeds_refl
    · exact (view.enroll_succeeds now address id version).committed

theorem removeDead_succeeds (view : View) (now : Reading) (id : NodeId) :
    view.Succeeds calm (view.removeDead now id).view := by
  unfold removeDead
  split
  · have gone : view.Succeeds calm { view with live := view.live.erase id } :=
      view.dismiss_succeeds id
    exact ⟨gone.serials, gone.heirs⟩
  · exact view.succeeds_refl.committed

theorem removeLeaving_succeeds (view : View) (id : NodeId) :
    view.Succeeds calm (view.removeLeaving id).view := by
  unfold removeLeaving
  split
  · exact (view.dismiss_succeeds id).committed
  · exact view.succeeds_refl.committed

theorem cleanup_succeeds (view : View) (now : Reading) (grace : Duration) :
    view.Succeeds calm (view.cleanup now grace).view := by
  unfold cleanup
  dsimp only
  split <;> exact succeeds_of_live rfl fun _ _ found => found

/-- A step leaves in calm whomever it spares. -/
theorem perform_succeeds (view : View) (now : Reading) (step : ViewStep) :
    view.Succeeds (fun id => step.Spares id) (view.perform now step).2 := by
  have unspared (id : NodeId) (change : Record → Record) :
      view.Succeeds (fun other => id ≠ other) (view.modifyRecord id change) :=
    view.modifyRecord_succeeds id fun spared => absurd rfl spared
  cases step with
  | addHost address id => exact view.addHost_succeeds now address id
  | heartbeat address id => exact view.heartbeat_succeeds now address id
  | observe address id version => exact view.observe_succeeds now address id version
  | removeDead id => exact view.removeDead_succeeds now id
  | removeLeaving id => exact view.removeLeaving_succeeds id
  | clear => exact succeeds_of_live rfl fun _ _ found => by cases found
  | cleanup grace => exact view.cleanup_succeeds now grace
  | shutdown => exact succeeds_of_live rfl fun _ _ found => found
  | suspect id => exact unspared id Record.suspect
  | touch id => exact unspared id (·.touch now)
  | checkState id timeout => exact unspared id (·.checkState timeout now)
  | observeVersion id version =>
    exact view.modifyRecord_succeeds id fun _ record => observeVersion_calm record version
  | get _ | addressOf _ | isLive _ | isDead _ | normal | staleness | advance _ | set _ =>
    exact view.succeeds_refl

/-! ### Happenings -/

theorem mem_suspects_iff {member : Member} :
    member ∈ view.suspects ↔
      (∃ id, view.live.get? id = some member) ∧ member.record.health = .suspect := by
  unfold suspects members
  rw [List.mem_filter, Table.mem_values_iff, decide_eq_true_iff]

theorem live_age (view : View) (now : Reading) (timeout : Duration) (id : NodeId) :
    (view.age now timeout).live.get? id = (view.live.get? id).map fun member =>
      { member with record := member.record.checkState timeout now } :=
  Table.get?_mapValues view.live _ id

theorem age_succeeds (view : View) (now : Reading) (timeout : Duration) :
    view.Succeeds (fun _ => False) (view.age now timeout) := by
  refine ⟨Nat.le_refl _, fun id member found => .inl ?_⟩
  rw [live_age] at found
  obtain ⟨earlier, known, rfl⟩ := Option.map_eq_some_iff.mp found
  exact ⟨earlier, known, rfl, False.elim⟩

theorem resetAdmission_succeeds (view : View) (now : Reading) (id : NodeId) (serial : Nat) :
    view.Succeeds calm (view.resetAdmission now id serial) := by
  refine ⟨Nat.le_refl _, fun key member found => .inl ?_⟩
  have entry : (view.live.modify id fun member =>
      if member.serial = serial then { member with record := member.record.reset now }
      else member).get? key = some member := found
  rw [Table.get?_modify] at entry
  split at entry
  · rename_i same
    obtain ⟨earlier, known, rfl⟩ := Option.map_eq_some_iff.mp entry
    rw [same]
    refine ⟨earlier, known, ?_, fun _ => ?_⟩
    · split <;> rfl
    · split
      · exact .inr rfl
      · exact .rfl
  · exact ⟨member, entry, rfl, fun _ => .rfl⟩

/-- A verdict clears suspicion, or removes a peer. -/
theorem conclude_succeeds (view : View) (now : Reading) (probe : Probe) (affirmed : Bool) :
    view.Succeeds calm (view.conclude now probe affirmed).view := by
  unfold conclude
  split
  · exact view.resetAdmission_succeeds now probe.id probe.suspect.serial
  · split
    · exact view.removeDead_succeeds now probe.id
    · exact view.succeeds_refl

/-- **From one view to the next every live record is an admission of before or a new one**, and whoever
is spared is not suspected anew. -/
theorem undergo_succeeds (view : View) (happening : Happening) :
    view.Succeeds (fun id => happening.Spares id) (view.undergo happening) := by
  cases happening with
  | operation now step => exact view.perform_succeeds now step
  | aging now timeout => exact view.age_succeeds now timeout
  | verdict now probe affirmed => exact view.conclude_succeeds now probe affirmed

/-! ### Soundness -/

variable {selfId : NodeId}

theorem Sound.age (sound : view.Sound selfId) (now : Reading) (timeout : Duration) :
    (view.age now timeout).Sound selfId := by
  have size : (view.age now timeout).nodeCount = view.nodeCount := Table.size_mapValues view.live _
  refine ⟨⟨sound.owned, Table.All.mapValues sound.apart fun _ _ notDead => notDead, ?_,
    sound.selfIsNotDead, Table.All.mapValues sound.liveFiled fun _ _ filed =>
      filed.checkState timeout now, sound.deadFiled⟩, ?_, ?_, sound.gaugeDead⟩
  · rw [live_age, sound.selfIsNoPeer]
    rfl
  · rw [size]
    exact sound.peersCounted
  · rw [size]
    exact sound.gaugeLive

/-- One admission is heard of, whether it is live or tombstoned. -/
theorem Sound.resetAdmission (sound : view.Sound selfId) (now : Reading) (id : NodeId)
    (serial : Nat) : (view.resetAdmission now id serial).Sound selfId := by
  let refresh (member : Member) : Member :=
    if member.serial = serial then { member with record := member.record.reset now } else member
  have files : ∀ (member : Member) (key : NodeId), member.record.FiledUnder key →
      (refresh member).record.FiledUnder key := by
    intro member key filed
    by_cases same : member.serial = serial
    · simp only [refresh, if_pos same]
      exact filed.reset now
    · simp only [refresh, if_neg same]
      exact filed
  have nodeCount : (view.resetAdmission now id serial).nodeCount = view.nodeCount :=
    Table.size_modify view.live id refresh
  have deadCount : (view.resetAdmission now id serial).deadCount = view.deadCount :=
    Table.size_modify view.dead id _
  have apart : view.live.All fun key _ => (view.resetAdmission now id serial).dead.get? key = none :=
    fun key member found => Table.get?_modify_of_absent (sound.apart key member found)
  have tidy : (view.resetAdmission now id serial).Tidy selfId :=
    ⟨sound.owned, apart.modify fun _ notDead => notDead,
      Table.get?_modify_of_absent sound.selfIsNoPeer, Table.get?_modify_of_absent sound.selfIsNotDead,
      Table.All.modify sound.liveFiled fun member filed => files member id filed,
      Table.All.modify sound.deadFiled fun tombstone filed => files tombstone.member id filed⟩
  refine ⟨tidy, ?_, ?_, ?_⟩
  · rw [nodeCount]
    exact sound.peersCounted
  · rw [nodeCount]
    exact sound.gaugeLive
  · rw [deadCount]
    exact sound.gaugeDead

theorem Sound.conclude (sound : view.Sound selfId) (now : Reading) (probe : Probe)
    (affirmed : Bool) : (view.conclude now probe affirmed).view.Sound selfId := by
  unfold View.conclude
  split
  · exact sound.resetAdmission now probe.id probe.suspect.serial
  · split
    · exact sound.removeDead now probe.id
    · exact sound

theorem Sound.undergo (sound : view.Sound selfId) (happening : Happening) :
    (view.undergo happening).Sound selfId := by
  cases happening with
  | operation now step => exact sound.perform now step
  | aging now timeout => exact sound.age now timeout
  | verdict now probe affirmed => exact sound.conclude now probe affirmed

theorem Sound.undergoAll (sound : view.Sound selfId) (happenings : List Happening) :
    (view.undergoAll happenings).Sound selfId := by
  induction happenings generalizing view with
  | nil => exact sound
  | cons happening rest ih => exact ih (sound.undergo happening)

/-- **A new view is sound after anything that happens to it.** -/
theorem sound_undergoAll (selfId : NodeId) (happenings : List Happening) :
    ((new selfId).undergoAll happenings).Sound selfId :=
  (new_sound selfId).undergoAll happenings

/-! ### Serial numbers -/

/-- Every live record has a serial number that was given out. -/
def Numbered (view : View) : Prop :=
  ∀ id member, view.live.get? id = some member → member.serial < view.nextSerial

theorem new_numbered (selfId : NodeId) : (new selfId).Numbered :=
  fun _ _ found => by cases found

theorem Numbered.succeeds (numbered : view.Numbered) (succeeds : view.Succeeds calm later) :
    later.Numbered := by
  intro id member found
  obtain ⟨earlier, known, same, _⟩ | ⟨_, given, _⟩ := succeeds.heirs id member found
  · rw [same]
    exact Nat.lt_of_lt_of_le (numbered id earlier known) succeeds.serials
  · exact given

theorem Numbered.undergoAll (numbered : view.Numbered) (happenings : List Happening) :
    (view.undergoAll happenings).Numbered := by
  induction happenings generalizing view with
  | nil => exact numbered
  | cons happening rest ih => exact ih (numbered.succeeds (view.undergo_succeeds happening))

end View

end PeerMesh
