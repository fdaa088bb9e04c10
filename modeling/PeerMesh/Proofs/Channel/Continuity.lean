/-
**A channel goes on without losing anything.**

* `Event.IsFriendly` — by the event no node goes, and if a node makes itself known by it, it can be read.
* `Channel.GoesOn` — from one state of a channel to a later one nothing that was queued is lost, what is
  queued besides is friendly, and peers are lost only if somebody is declared dead.
* **`react_goesOn`** — a friendly event that is handled leads from one state to such a later one.
* `IsHospitable` — a view to which peers can come. Whoever makes itself known by an event is known when the
  event was handled (`IsHospitable.react`), and an announcement is answered (`IsHospitable.answers`).
-/

import PeerMesh.Proofs.Channel.Tidings
import PeerMesh.Proofs.Detector.Retention

namespace PeerMesh

theorem ProtocolKind.text_of_ofText? {text : String} {kind : ProtocolKind}
    (found : ofText? text = some kind) : text = kind.text := by
  have same := List.find?_some (show all.find? (fun kind => kind.text == text) = some kind from found)
  exact (eq_of_beq same).symm

/-- By the event no node goes, and if a node makes itself known by it, it can be read. -/
structure Event.IsFriendly (event : Event) : Prop where
  notShutdown : event.kind ≠ ProtocolKind.shutdown.text
  notLeave : event.kind ≠ ProtocolKind.leave.text
  legible : event.kind = ProtocolKind.publish.text ∨ event.kind = ProtocolKind.discover.text →
    ∃ announce, Announce.codec.decode maxFrameSize event.data = .ok announce

/-- Events for which nobody is made known by the payload. -/
theorem Event.isFriendly_of_kind {event : Event} {kind : ProtocolKind} (made : event.kind = kind.text)
    (harmless : kind = .resync ∨ kind = .control) : event.IsFriendly := by
  have differs (other : ProtocolKind) (isOther : other ≠ .resync ∧ other ≠ .control) :
      event.kind ≠ other.text := by
    rw [made]
    rcases harmless with rfl | rfl <;> revert isOther <;> cases other <;> decide
  refine ⟨differs .shutdown (by decide), differs .leave (by decide), ?_⟩
  rintro (publishes | discovers)
  · exact absurd publishes (differs .publish (by decide))
  · exact absurd discovers (differs .discover (by decide))

namespace Channel

variable {channel before later last : Channel} {event : Event}

theorem eq_of_protocolEvent {scope : Scope} {kind : ProtocolKind} {data : Bytes}
    (made : channel.protocolEvent scope kind data = .ok event) :
    ∃ address, channel.address = some address ∧
      event = ⟨scope, kind.text, data, channel.selfId, address⟩ := by
  unfold protocolEvent Channel.event at made
  split at made
  · cases made
  · rename_i address reached
    exact ⟨address, reached, (Except.ok.inj made).symm⟩

/-- From one state of a channel to a later one nothing that was queued is lost, what is queued besides is
friendly, and peers are lost only if somebody is declared dead. -/
structure GoesOn (before after : Channel) : Prop where
  phase : after.phase = before.phase
  domain : after.domain = before.domain
  address : after.address = before.address
  consumer : after.consumer.atRest = before.consumer.atRest
  kept : before.consumer.pending ⊆ after.consumer.pending
  friendly : ∀ job ∈ after.consumer.pending,
    job ∈ before.consumer.pending ∨ job.task.event.IsFriendly
  dropped : before.consumer.dropped ≤ after.consumer.dropped
  detector : before.detector.Endures after.detector

/-- Only the detector changes, if anything. -/
theorem goesOn_of_detector {detector : Detector} (endures : channel.detector.Endures detector) :
    channel.GoesOn { channel with detector := detector } :=
  ⟨rfl, rfl, rfl, rfl, List.Subset.refl _, fun _ queued => .inl queued, Nat.le_refl _, endures⟩

theorem GoesOn.refl (channel : Channel) : channel.GoesOn channel := goesOn_of_detector (.refl _)

theorem GoesOn.trans (first : before.GoesOn later) (second : later.GoesOn last) : before.GoesOn last where
  phase := second.phase.trans first.phase
  domain := second.domain.trans first.domain
  address := second.address.trans first.address
  consumer := second.consumer.trans first.consumer
  kept := List.Subset.trans first.kept second.kept
  friendly := fun job queued => (second.friendly job queued).elim (first.friendly job) .inr
  dropped := Nat.le_trans first.dropped second.dropped
  detector := first.detector.trans second.detector

theorem accept_goesOn (channel : Channel) (friendly : event.IsFriendly) :
    channel.GoesOn { channel with consumer := channel.consumer.accept event } := by
  refine ⟨rfl, rfl, rfl, channel.consumer.accept_atRest event,
    channel.consumer.pending_subset_accept event, fun job queued => ?_,
    channel.consumer.dropped_le_accept event, .refl _⟩
  obtain earlier | ⟨_, rfl, _⟩ := Consumer.mem_pending_accept queued
  · exact .inl earlier
  · exact .inr friendly

theorem goesOn_of_watched {watched : Watched} (retains : channel.detector.watched.Retains watched) :
    channel.GoesOn (channel.mapWatched fun _ => watched) :=
  goesOn_of_detector (Detector.endures_of_counts rfl retains)

theorem run_goesOn {α : Type} (channel : Channel) (time : Nat) {operation : View → Reading → Outcome α}
    (retains : ∀ now, channel.view.Retains (operation channel.view now).view) :
    channel.GoesOn (channel.run time operation).2 :=
  goesOn_of_watched (channel.detector.watched.run_retains time retains)

theorem hearControl_goesOn (channel : Channel) (time : Nat) (event : Event) :
    channel.GoesOn (channel.hearControl time event).2 :=
  goesOn_of_watched (channel.detector.watched.receive_retains time event)

theorem resync_goesOn (channel : Channel) (time : Nat) : channel.GoesOn (channel.resync time) := by
  unfold resync
  split
  · exact ⟨rfl, rfl, rfl, rfl, List.Subset.refl _, fun _ queued => .inl queued, Nat.le_refl _, .refl _⟩
  · exact .refl channel

theorem onAnnounced_goesOn (channel : Channel) (time : Nat) (id : NodeId) (address : Address) :
    channel.GoesOn (channel.onAnnounced time id address).channel := by
  have added : channel.GoesOn (channel.run time fun view now => view.addHost now address id).2 :=
    channel.run_goesOn time fun now => channel.view.addHost_retains now address id
  unfold onAnnounced
  dsimp only
  split
  · exact added
  · exact added
  · split
    · exact added
    · have heard (told : Channel) :
          told.GoesOn (told.run time fun view now => view.heartbeat now address id).2 :=
        told.run_goesOn time fun now => told.view.heartbeat_retains now address id
      exact added.trans (heard _)

/-- **A friendly event that is handled takes nothing away.** -/
theorem react_goesOn (channel : Channel) (time : Nat) (friendly : event.IsFriendly) :
    channel.GoesOn (channel.react time event).channel := by
  unfold react
  cases found : ProtocolKind.ofText? event.kind with
  | none => exact .refl channel
  | some kind =>
    have named := ProtocolKind.text_of_ofText? found
    cases kind with
    | shutdown => exact absurd named friendly.notShutdown
    | leave => exact absurd named friendly.notLeave
    | publish =>
      show channel.GoesOn (channel.onPublish time event).channel
      unfold onPublish
      split
      · exact .refl channel
      · exact channel.onAnnounced_goesOn time _ _
    | discover =>
      have added (address : Address) : channel.GoesOn
          (channel.run time fun view now => view.addHost now address event.origin).2 :=
        channel.run_goesOn time fun now => channel.view.addHost_retains now address event.origin
      show channel.GoesOn (channel.onDiscover time event).channel
      unfold onDiscover
      split
      · exact .refl channel
      · dsimp only
        split <;> exact added _
    | resync =>
      show channel.GoesOn (channel.onResync time event).channel
      unfold onResync
      split
      · exact .refl channel
      · split
        · exact channel.resync_goesOn time
        · exact .refl channel
    | control =>
      have heard := channel.hearControl_goesOn time event
      show channel.GoesOn (channel.onControl time event).channel
      unfold onControl
      split <;> rename_i told <;> rw [told] at heard <;> exact heard

/-! ### Whoever makes itself known is known -/

/-- A view that nobody watches, that is not shut down, and in which nobody is tombstoned. -/
structure IsHospitable (channel : Channel) : Prop where
  unwatched : channel.detector.watched.registered = []
  notClosed : channel.view.closed = false
  nobodyDead : ∀ id, channel.view.isDead id = false

/-- As long as nobody is declared dead, peers stay, and a hospitable channel stays hospitable. -/
theorem GoesOn.retains (goesOn : before.GoesOn later) (hospitable : before.IsHospitable)
    (spared : later.detector.counts.declaredDead = before.detector.counts.declaredDead) :
    before.view.Retains later.view ∧ later.IsHospitable := by
  obtain ⟨unwatched, retains⟩ := goesOn.detector.watched spared hospitable.unwatched
  refine ⟨retains, unwatched, retains.sameGate.trans hospitable.notClosed, fun id => ?_⟩
  refine Bool.eq_false_iff.mpr fun dead => ?_
  have wasDead : before.view.isDead id = true := retains.dead id dead
  rw [hospitable.nobodyDead id] at wasDead
  cases wasDead

/-- A discovery makes whoever is discovered a peer. -/
theorem IsHospitable.addHost (hospitable : channel.IsHospitable) (time : Nat) {id : NodeId}
    (other : id ≠ channel.selfId) (address : Address) :
    let told := channel.run time fun view now => view.addHost now address id
    (∃ isNew, told.1 = .ok isNew) ∧ told.2.view.isLive id = true := by
  intro told
  have ran : told = _ := congrArg (fun ran : _ × Watched => (ran.1, channel.mapWatched fun _ => ran.2))
    (Watched.run_of_unwatched hospitable.unwatched time fun view now => view.addHost now address id)
  rw [ran]
  exact ⟨View.exists_answer_addHost hospitable.notClosed other _ address,
    View.isLive_addHost hospitable.notClosed other (hospitable.nobodyDead id) _ address⟩

theorem introduction_of (address : later.address = channel.address) (sameId : later.selfId = channel.selfId) :
    later.introduction = channel.introduction := by
  unfold introduction protocolEvent Channel.event
  rw [address, sameId]

/-- **An announcement makes the announcer a peer, and is answered.** -/
theorem IsHospitable.onAnnounced (hospitable : channel.IsHospitable) (time : Nat) {id : NodeId}
    (other : id ≠ channel.selfId) (address : Address) :
    (channel.onAnnounced time id address).channel.view.isLive id = true ∧
      ∀ reply, channel.introduction = .ok reply →
        (channel.onAnnounced time id address).replies = [(address, reply)] := by
  obtain ⟨⟨isNew, answers⟩, live⟩ := hospitable.addHost time other address
  have goesOn : channel.GoesOn (channel.run time fun view now => view.addHost now address id).2 :=
    channel.run_goesOn time fun now => channel.view.addHost_retains now address id
  obtain ⟨retains, stillHospitable⟩ := goesOn.retains hospitable rfl
  have welcomes (told : Channel) (same : told.address = channel.address)
      (sameId : told.selfId = channel.selfId) (reply : Event) (introduces : channel.introduction = .ok reply) :
      (told.welcome id address).replies = [(address, reply)] := by
    rw [← introduction_of same sameId] at introduces
    unfold welcome
    dsimp only
    rw [introduces]
    rfl
  unfold Channel.onAnnounced
  dsimp only
  rw [answers]
  cases isNew with
  | true => exact ⟨live, welcomes _ goesOn.address retains.sameOwner⟩
  | false =>
    dsimp only
    rw [stillHospitable.nobodyDead id, if_neg (by decide)]
    have heard (told : Channel) :
        told.GoesOn (told.run time fun view now => view.heartbeat now address id).2 :=
      told.run_goesOn time fun now => told.view.heartbeat_retains now address id
    obtain ⟨stays, _⟩ := (heard _).retains stillHospitable rfl
    exact ⟨stays.live id live, welcomes _ goesOn.address (stays.sameOwner.trans retains.sameOwner)⟩

/-- **Whoever makes itself known by an event is known when the event was handled.** -/
theorem IsHospitable.react (hospitable : channel.IsHospitable) (time : Nat) (friendly : event.IsFriendly)
    (known : event.kind = ProtocolKind.publish.text ∨ event.kind = ProtocolKind.discover.text)
    (other : event.origin ≠ channel.selfId) :
    (channel.react time event).channel.view.isLive event.origin = true := by
  obtain ⟨announce, read⟩ := friendly.legible known
  unfold Channel.react
  rcases known with publishes | discovers
  · rw [publishes, ProtocolKind.ofText?_text]
    show (channel.onPublish time event).channel.view.isLive event.origin = true
    unfold onPublish
    rw [read]
    exact (hospitable.onAnnounced time other announce.address).1
  · rw [discovers, ProtocolKind.ofText?_text]
    obtain ⟨⟨isNew, answers⟩, live⟩ := hospitable.addHost time other announce.address
    show (channel.onDiscover time event).channel.view.isLive event.origin = true
    unfold onDiscover
    rw [read]
    dsimp only
    rw [answers]
    cases isNew <;> exact live

/-- **An announcement is answered.** -/
theorem IsHospitable.answers (hospitable : channel.IsHospitable) (time : Nat)
    (publishes : event.kind = ProtocolKind.publish.text) {announce : Announce}
    (read : Announce.codec.decode maxFrameSize event.data = .ok announce)
    (other : event.origin ≠ channel.selfId) {reply : Event} (introduces : channel.introduction = .ok reply) :
    (channel.react time event).replies = [(announce.address, reply)] := by
  unfold Channel.react
  rw [publishes, ProtocolKind.ofText?_text]
  show (channel.onPublish time event).replies = [(announce.address, reply)]
  unfold onPublish
  rw [read]
  exact (hospitable.onAnnounced time other announce.address).2 reply introduces

end Channel

end PeerMesh
