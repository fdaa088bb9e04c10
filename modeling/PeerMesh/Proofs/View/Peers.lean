/-
**Whom a view can come to know.**

* `View.Learns` — from one view of a node to a later one, only the peers that were told of are new, or
  are known at another address than before.
* `addHost_learns`, `heartbeat_learns`, `observe_learns` — an operation that admits a peer tells of
  this peer and of nobody else; every other operation tells of nobody.
* `removeLeaving_forgets` — whoever has left is not known any more.
* `Watched.run_learns`, `Watched.merge_learns` — the same without watchers, for one operation and for a
  whole digest.
-/

import PeerMesh.Detector.Gossip

namespace PeerMesh

namespace View

/-- The view has a peer of this id, reached at this address, under this key. -/
def Files (view : View) (key id : NodeId) (address : Address) : Prop :=
  ∃ member, view.live.get? key = some member ∧ member.record.id = id ∧
    member.record.address = address

/-- From one view of a node to a later one, only the peers told of are new or were moved, and they are
filed under their ids. -/
structure Learns (before : View) (told : List (NodeId × Address)) (after : View) : Prop where
  sameOwner : after.selfId = before.selfId
  known : ∀ key id address, after.Files key id address →
    before.Files key id address ∨ (key = id ∧ (id, address) ∈ told)

variable {view later : View} {told : List (NodeId × Address)}

theorem Learns.nothing (view : View) (told : List (NodeId × Address)) : view.Learns told view :=
  ⟨rfl, fun _ _ _ known => .inl known⟩

theorem Learns.more (learns : view.Learns told later) {others : List (NodeId × Address)}
    (part : told ⊆ others) : view.Learns others later :=
  ⟨learns.sameOwner, fun key id address known =>
    (learns.known key id address known).imp_right fun new => ⟨new.1, part new.2⟩⟩

/-- What is learned one time and another is learned altogether. -/
theorem Learns.trans {last : View} (first : view.Learns told later) (second : later.Learns told last) :
    view.Learns told last := by
  refine ⟨second.sameOwner.trans first.sameOwner, fun key id address known => ?_⟩
  rcases second.known key id address known with earlier | new
  · exact first.known key id address earlier
  · exact .inr new

theorem Learns.committed (learns : view.Learns told later) : view.Learns told later.committed :=
  ⟨learns.sameOwner, learns.known⟩

/-- Only the tables of peers matter. -/
theorem learns_of_live {after : View} (owner : after.selfId = view.selfId)
    (live : ∀ key member, after.live.get? key = some member →
      ∃ earlier, view.live.get? key = some earlier ∧ earlier.record.id = member.record.id ∧
        earlier.record.address = member.record.address) : view.Learns told after := by
  refine ⟨owner, fun key id address known => .inl ?_⟩
  obtain ⟨member, found, named, place⟩ := known
  obtain ⟨earlier, was, sameId, sameAddress⟩ := live key member found
  exact ⟨earlier, was, sameId.trans named, sameAddress.trans place⟩

/-- A peer that goes is nobody new. -/
theorem dismiss_learns (view : View) (id : NodeId) :
    view.Learns told { view with live := view.live.erase id } := by
  refine learns_of_live rfl fun key member found => ?_
  have stays : (view.live.erase id).get? key = some member := found
  rw [Table.get?_erase] at stays
  split at stays
  · cases stays
  · exact ⟨member, stays, rfl, rfl⟩

/-- A record that is changed, but for its id and its address, is nobody new. -/
theorem modifyRecord_learns (view : View) (id : NodeId) {change : Record → Record}
    (stays : ∀ record : Record,
      (change record).id = record.id ∧ (change record).address = record.address) :
    view.Learns told (view.modifyRecord id change) := by
  refine learns_of_live rfl fun key member found => ?_
  have changed : (view.live.modify id fun member =>
      { member with record := change member.record }).get? key = some member := found
  rw [Table.get?_modify] at changed
  split at changed
  · rename_i same
    obtain ⟨earlier, was, rfl⟩ := Option.map_eq_some_iff.mp changed
    rw [same]
    obtain ⟨sameId, sameAddress⟩ := stays earlier.record
    exact ⟨earlier, was, sameId.symm, sameAddress.symm⟩
  · exact ⟨member, changed, rfl, rfl⟩

theorem enroll_learns (view : View) (record : Record) (member : (record.id, record.address) ∈ told) :
    view.Learns told (view.enroll record) := by
  refine ⟨rfl, fun key id address known => ?_⟩
  obtain ⟨enrolled, found, named, place⟩ := known
  have inserted : (view.live.insert record.id ⟨view.nextSerial, record⟩).get? key =
      some enrolled := found
  rw [Table.get?_insert] at inserted
  split at inserted
  · rename_i same
    obtain rfl := Option.some.inj inserted
    rw [same, ← named, ← place]
    exact .inr ⟨rfl, member⟩
  · exact .inl ⟨enrolled, inserted, named, place⟩

/-! ### Records keep their ids and addresses -/

theorem observeVersion_stays (record : Record) (version : UInt64) :
    (record.observeVersion version).id = record.id ∧
      (record.observeVersion version).address = record.address := by
  unfold Record.observeVersion
  split <;> exact ⟨rfl, rfl⟩

theorem checkState_stays (record : Record) (timeout : Duration) (now : Reading) :
    (record.checkState timeout now).id = record.id ∧
      (record.checkState timeout now).address = record.address := by
  unfold Record.checkState
  split <;> exact ⟨rfl, rfl⟩

/-- A new record is that of the peer that was told of. -/
theorem newRecord_enroll_learns (view : View) (now : Reading) (address : Address) (id : NodeId)
    (version : UInt64) :
    view.Learns [(id, address)] (view.enroll (newRecord now address id version)) := by
  refine view.enroll_learns _ ?_
  obtain ⟨sameId, sameAddress⟩ :=
    observeVersion_stays ((Record.fresh id address).touch now) version
  unfold newRecord
  rw [sameId, sameAddress]
  exact List.mem_singleton.mpr rfl

/-! ### Operations that admit a peer -/

theorem unlessRefused_learns {id : NodeId} {operation : Outcome Bool}
    (learns : view.Learns told operation.view) :
    view.Learns told (view.unlessRefused id operation).view := by
  unfold unlessRefused
  split
  · exact .nothing view told
  · exact learns

theorem addHost_learns (view : View) (now : Reading) (address : Address) (id : NodeId) :
    view.Learns [(id, address)] (view.addHost now address id).view := by
  refine unlessRefused_learns ?_
  split
  · exact (Learns.nothing view _).committed
  · exact (view.newRecord_enroll_learns now address id 0).committed

theorem heartbeat_learns (view : View) (now : Reading) (address : Address) (id : NodeId) :
    view.Learns [(id, address)] (view.heartbeat now address id).view := by
  have risen : view.Learns [(id, address)] (view.unbury id) := ⟨rfl, fun _ _ _ known => .inl known⟩
  have reset : (view.unbury id).Learns [(id, address)]
      ((view.unbury id).modifyRecord id (·.reset now)) := modifyRecord_learns _ id fun _ => ⟨rfl, rfl⟩
  have enrolled := (risen.trans ((view.unbury id).newRecord_enroll_learns now address id 0)).committed
  refine unlessRefused_learns ?_
  dsimp only
  split
  · split
    · exact (risen.trans reset).committed
    · exact enrolled
  · exact enrolled

theorem observe_learns (view : View) (now : Reading) (address : Address) (id : NodeId)
    (version : UInt64) : view.Learns [(id, address)] (view.observe now address id version).view := by
  have risen : view.Learns [(id, address)] (view.unbury id) := ⟨rfl, fun _ _ _ known => .inl known⟩
  refine unlessRefused_learns ?_
  split
  · split
    · exact (Learns.nothing view _).committed
    · exact (risen.trans
        ((view.unbury id).newRecord_enroll_learns now address id version)).committed
  · split
    · refine Learns.committed ?_
      split
      · exact view.modifyRecord_learns id fun record => observeVersion_stays record version
      · exact .nothing view _
    · exact (view.newRecord_enroll_learns now address id version).committed

/-! ### Operations that admit nobody -/

theorem removeDead_learns (view : View) (now : Reading) (id : NodeId) :
    view.Learns told (view.removeDead now id).view := by
  unfold removeDead
  split
  · exact ⟨rfl, (view.dismiss_learns id).known⟩
  · exact (Learns.nothing view told).committed

theorem removeLeaving_learns (view : View) (id : NodeId) :
    view.Learns told (view.removeLeaving id).view := by
  unfold removeLeaving
  split
  · exact (view.dismiss_learns id).committed
  · exact (Learns.nothing view told).committed

/-- **Whoever has left is not known any more.** -/
theorem removeLeaving_forgets (view : View) (key id : NodeId) (address : Address) :
    ¬ (view.removeLeaving key).view.Files key id address := by
  rintro ⟨member, found, _⟩
  unfold removeLeaving at found
  split at found
  · have erased : (view.live.erase key).get? key = some member := found
    rw [Table.get?_erase, if_pos rfl] at erased
    cases erased
  · rename_i absent
    rw [show view.committed.live = view.live from rfl, absent] at found
    cases found

theorem clear_forgets (view : View) (key id : NodeId) (address : Address) :
    ¬ view.clear.view.Files key id address := by
  rintro ⟨member, found, _⟩
  cases found

theorem cleanup_learns (view : View) (now : Reading) (grace : Duration) :
    view.Learns told (view.cleanup now grace).view := by
  unfold cleanup
  dsimp only
  split
  · exact ⟨rfl, fun _ _ _ known => .inl known⟩
  · exact ⟨rfl, fun _ _ _ known => .inl known⟩

/-- Peers grow older at the same address. -/
theorem age_learns (view : View) (now : Reading) (timeout : Duration) :
    view.Learns told (view.age now timeout) := by
  refine learns_of_live rfl fun key member found => ?_
  obtain ⟨⟨stored, earlier⟩, entry, same⟩ := List.mem_map.mp
    (((view.age now timeout).live.mem_entries_iff key member).mpr found)
  obtain ⟨rfl, rfl⟩ := Prod.mk.inj same
  obtain ⟨sameId, sameAddress⟩ := checkState_stays earlier.record timeout now
  exact ⟨earlier, (view.live.mem_entries_iff stored earlier).mp entry, sameId.symm,
    sameAddress.symm⟩

theorem resetAdmission_learns (view : View) (now : Reading) (id : NodeId) (serial : Nat) :
    view.Learns told (view.resetAdmission now id serial) := by
  refine learns_of_live rfl fun key member found => ?_
  have changed : (view.live.modify id fun member =>
      if member.serial = serial then { member with record := member.record.reset now }
      else member).get? key = some member := found
  rw [Table.get?_modify] at changed
  split at changed
  · rename_i same
    obtain ⟨earlier, was, rfl⟩ := Option.map_eq_some_iff.mp changed
    rw [same]
    refine ⟨earlier, was, ?_⟩
    split <;> exact ⟨rfl, rfl⟩
  · exact ⟨member, changed, rfl, rfl⟩

theorem conclude_learns (view : View) (now : Reading) (probe : Probe) (affirmed : Bool) :
    view.Learns told (view.conclude now probe affirmed).view := by
  unfold conclude
  split
  · exact view.resetAdmission_learns now probe.id probe.suspect.serial
  · split
    · exact view.removeDead_learns now probe.id
    · exact .nothing view told

end View

/-! ### Views without watchers -/

namespace Watched

/-- Without registrations nobody is told. -/
theorem run_of_unwatched {α : Type} {watched : Watched} (unwatched : watched.registered = [])
    (time : Nat) (operation : View → Reading → Outcome α) :
    watched.run time operation =
      ((operation watched.view (watched.now time)).answer,
        { watched with view := (operation watched.view (watched.now time)).view }) := by
  have untold : ∀ (notices : List Notice) (react : Watched → ViewStep → ViewAnswer × Watched)
      (later : Watched), later.registered = [] → later.tellAll react notices = later := by
    intro notices react later nobody
    unfold tellAll
    induction notices with
    | nil => rfl
    | cons notice rest ih =>
      rw [List.foldl_cons, nobody]
      exact ih
  exact congrArg (Prod.mk _) (untold _ _ _ unwatched)

/-- Nobody watches either view, and from the first to the second only the peers told of are new. -/
structure Learns (before : Watched) (told : List (NodeId × Address)) (after : Watched) : Prop where
  unwatched : after.registered = []
  view : before.view.Learns told after.view

variable {watched later : Watched} {told : List (NodeId × Address)}

theorem Learns.nothing (unwatched : watched.registered = []) (told : List (NodeId × Address)) :
    watched.Learns told watched :=
  ⟨unwatched, .nothing watched.view told⟩

theorem Learns.trans {last : Watched} (first : watched.Learns told later)
    (second : later.Learns told last) : watched.Learns told last :=
  ⟨second.unwatched, first.view.trans second.view⟩

theorem Learns.more (learns : watched.Learns told later) {others : List (NodeId × Address)}
    (part : told ⊆ others) : watched.Learns others later :=
  ⟨learns.unwatched, learns.view.more part⟩

/-- One operation on a view without watchers. -/
theorem run_learns {α : Type} (unwatched : watched.registered = []) (time : Nat)
    {operation : View → Reading → Outcome α}
    (learns : ∀ now, watched.view.Learns told (operation watched.view now).view) :
    watched.Learns told (watched.run time operation).2 := by
  rw [run_of_unwatched unwatched]
  exact ⟨unwatched, learns _⟩

theorem hearSender_learns (unwatched : watched.registered = []) (time : Nat) (address : Address)
    (id : NodeId) (heartbeat : UInt64) :
    watched.Learns [(id, address)] (watched.hearSender time address id heartbeat) := by
  have heard : watched.Learns [(id, address)]
      (watched.run time fun view now => view.heartbeat now address id).2 :=
    run_learns unwatched time fun now => watched.view.heartbeat_learns now address id
  unfold hearSender
  dsimp only
  split
  · refine heard.trans ⟨heard.unwatched, ?_⟩
    exact View.modifyRecord_learns _ id fun record => View.observeVersion_stays record heartbeat
  · exact heard

theorem hearEntry_learns (unwatched : watched.registered = []) (time : Nat) (sender : NodeId)
    (entry : GossipEntry) :
    watched.Learns [(entry.id, entry.address)] (hearEntry time sender watched entry) := by
  unfold hearEntry
  split
  · exact .nothing unwatched _
  · exact run_learns unwatched time fun now =>
      watched.view.observe_learns now entry.address entry.id entry.version

/-- **A digest tells of its sender and of its entries, and of nobody else.** -/
theorem merge_learns (unwatched : watched.registered = []) (time : Nat) (address : Address)
    (sender : NodeId) (digest : Digest) :
    watched.Learns ((sender, address) :: digest.entries.map fun entry => (entry.id, entry.address))
      (watched.merge time address sender digest) := by
  have entries : ∀ (entries : List GossipEntry) (watched : Watched), watched.registered = [] →
      watched.Learns (entries.map fun entry => (entry.id, entry.address))
        (entries.foldl (hearEntry time sender) watched) := by
    intro entries
    induction entries with
    | nil => exact fun watched unwatched => .nothing unwatched _
    | cons entry rest ih =>
      intro watched unwatched
      have first := hearEntry_learns unwatched time sender entry
      refine (first.more ?_).trans ((ih _ first.unwatched).more ?_)
      · exact List.cons_subset_cons _ (List.nil_subset _)
      · exact List.subset_cons_self _ _
  unfold merge
  split
  · have heard := hearSender_learns unwatched time address sender digest.heartbeat
    refine (heard.more ?_).trans ((entries digest.entries _ heard.unwatched).more ?_)
    · exact List.cons_subset_cons _ (List.nil_subset _)
    · exact List.subset_cons_self _ _
  · exact .nothing unwatched _

end Watched

end PeerMesh
