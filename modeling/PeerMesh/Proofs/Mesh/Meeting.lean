/-
**How one channel comes to know another.**

* `Channel.IsOpenTo`, `Channel.HasHeard` — an event that comes to a channel which is open to it is queued
  there, or it is counted that it was dropped.
* `Channel.IsSpared` — nothing was dropped, and nobody was declared dead.
* `Channel.IsAtEase` — peers can come to the channel, nothing that is queued with it drives anybody away,
  and as long as it is started it is reached and listens. It stays at ease as it goes on.
* `Channel.Meets` — a channel knows another one, or will when what is queued with the two is handled.
  Nothing is lost of this as both go on (`Meets.goesOn`), and handling an event turns what was queued into
  the next stage of the meeting (`Meets.dequeue`).
-/

import PeerMesh.Proofs.Channel.Continuity
import PeerMesh.Proofs.Channel.Listeners
import PeerMesh.Proofs.Mesh.Roster

namespace PeerMesh

/-- An event by which a node makes itself known at a short address drives nobody away, and can be read. -/
theorem Event.isFriendly_of_announce {kind : ProtocolKind} (makesKnown : kind = .publish ∨ kind = .discover)
    {address : Address} (short : textLength address.text ≤ 84) (scope : Scope) (origin : NodeId) :
    Event.IsFriendly ⟨scope, kind.text, Announce.codec.write ⟨address⟩, origin, address⟩ := by
  have words : AreWords (Announce.lengths ⟨address⟩) := by
    intro length member
    rw [List.mem_singleton.mp member]
    exact Nat.lt_of_le_of_lt short (by decide)
  have peak : (Announce.ledger ⟨address⟩).peak ≤ maxFrameSize := by
    rw [Announce.peak_ledger]
    unfold maxFrameSize
    dsimp only
    omega
  have differs (other : ProtocolKind) (isOther : other ≠ .publish ∧ other ≠ .discover) :
      kind.text ≠ other.text := by
    rcases makesKnown with rfl | rfl <;> revert isOther <;> cases other <;> decide
  refine ⟨differs .shutdown (by decide), differs .leave (by decide), fun _ => ⟨⟨address⟩, ?_⟩⟩
  · rw [(Announce.codec_accounts words).decode_write, if_pos peak]

namespace Channel

variable {channel before later first second : Channel} {event : Event} {n : Nat}
  {network : Memory.Network Party}

/-! ### What a channel says of itself -/

theorem eq_of_announcement (announces : channel.announcement = .ok event) :
    ∃ address, channel.address = some address ∧ event =
      ⟨.named channel.domain, ProtocolKind.publish.text, Announce.codec.write ⟨address⟩, channel.selfId,
        address⟩ := by
  unfold announcement at announces
  cases reached : channel.address with
  | none =>
    rw [reached] at announces
    cases announces
  | some address =>
    rw [reached] at announces
    obtain ⟨own, same, made⟩ := eq_of_protocolEvent announces
    rw [reached] at same
    obtain rfl := Option.some.inj same
    exact ⟨address, rfl, made⟩

theorem introduction_eq {address : Address} (reached : channel.address = some address) :
    channel.introduction = .ok ⟨.unscoped, ProtocolKind.discover.text, Announce.codec.write ⟨address⟩,
      channel.selfId, address⟩ := by
  unfold introduction protocolEvent Channel.event
  rw [reached]

/-! ### Events that come to a channel -/

/-- The event is for the channel, which listens to its kind once, and whose queue is served. -/
structure IsOpenTo (channel : Channel) (event : Event) : Prop where
  wanted : channel.consumer.wants event = true
  listens : ∃ id, channel.consumer.asyncOf event.kind = [(id, .protocol)]
  served : ∃ pool, channel.consumer.pool = some pool ∧ pool.isServed = true

/-- The event is queued with the channel, unless events for it were dropped. -/
def HasHeard (channel : Channel) (event : Event) : Prop :=
  (∃ job ∈ channel.consumer.pending, job.task.event = event) ∨ 0 < channel.consumer.dropped

theorem IsOpenTo.accept (isOpenTo : channel.IsOpenTo event) :
    ({ channel with consumer := channel.consumer.accept event } : Channel).HasHeard event := by
  obtain ⟨wanted, ⟨id, listens⟩, pool, opened, served⟩ := isOpenTo
  obtain queued | dropped := Consumer.pending_or_dropped wanted listens opened served
  · exact .inl queued
  · exact .inr (Nat.zero_lt_of_lt dropped)

theorem GoesOn.isOpenTo (goesOn : before.GoesOn later) (isOpenTo : before.IsOpenTo event) :
    later.IsOpenTo event := by
  obtain ⟨wanted, listens, pool, opened, served⟩ := isOpenTo
  have same := goesOn.consumer
  refine ⟨?_, ?_, ?_⟩
  · show later.consumer.atRest.wants event = true
    rw [same]
    exact wanted
  · show ∃ id, later.consumer.atRest.asyncOf event.kind = [(id, .protocol)]
    rw [same]
    exact listens
  · have pools : later.consumer.pool.map Pool.atRest = before.consumer.pool.map Pool.atRest :=
      congrArg Consumer.pool same
    rw [opened] at pools
    obtain ⟨other, isOpen, atRest⟩ := Option.map_eq_some_iff.mp pools
    refine ⟨other, isOpen, ?_⟩
    show other.atRest.isServed = true
    rw [atRest]
    exact served

theorem GoesOn.hasHeard (goesOn : before.GoesOn later) (heard : before.HasHeard event) :
    later.HasHeard event := by
  obtain ⟨job, queued, same⟩ | dropped := heard
  · exact .inl ⟨job, goesOn.kept queued, same⟩
  · exact .inr (Nat.lt_of_lt_of_le dropped goesOn.dropped)

/-! ### Channels at ease -/

/-- No event for the channel was dropped, and it has declared nobody dead. -/
def IsSpared (channel : Channel) : Prop :=
  channel.consumer.dropped = 0 ∧ channel.detector.counts.declaredDead = 0

instance (channel : Channel) : Decidable channel.IsSpared := inferInstanceAs (Decidable (_ ∧ _))

theorem GoesOn.isSpared (goesOn : before.GoesOn later) (spared : later.IsSpared) : before.IsSpared := by
  obtain ⟨kept, alive⟩ := spared
  have drops := goesOn.dropped
  have deaths := goesOn.detector.deaths
  constructor <;> omega

/-- The channel of a number listens to the protocol events, and is reached on the network at a short
address. -/
structure IsPresent (channel : Channel) (n : Nat) (network : Memory.Network Party) : Prop where
  enlisted : IsEnlisted channel.consumer
  reached : ∃ address, channel.address = some address ∧ textLength address.text ≤ 84 ∧
    network.unicast.get? address = some ⟨.channel n, true⟩

/-- Whoever is present is the one who is reached at its address. -/
theorem IsPresent.endpoint (present : channel.IsPresent n network) {address : Address}
    (reached : channel.address = some address) :
    network.unicast.get? address = some ⟨.channel n, true⟩ := by
  obtain ⟨own, isOwn, _, endpoint⟩ := present.reached
  rw [reached] at isOwn
  rw [Option.some.inj isOwn]
  exact endpoint

theorem IsPresent.short (present : channel.IsPresent n network) {address : Address}
    (reached : channel.address = some address) : textLength address.text ≤ 84 := by
  obtain ⟨own, isOwn, short, _⟩ := present.reached
  rw [reached] at isOwn
  rw [Option.some.inj isOwn]
  exact short

/-- The channel of a number takes part in a network as it should. -/
structure IsAtEase (channel : Channel) (n : Nat) (network : Memory.Network Party) : Prop where
  hospitable : channel.IsHospitable
  friendly : ∀ job ∈ channel.consumer.pending, job.task.event.IsFriendly
  notClosed : channel.phase ≠ .closed
  present : channel.phase = .started → channel.IsPresent n network

theorem GoesOn.retains_of_spared (goesOn : before.GoesOn later) (atEase : before.IsAtEase n network)
    (spared : later.IsSpared) : before.view.Retains later.view ∧ later.IsHospitable :=
  goesOn.retains atEase.hospitable (spared.2.trans (goesOn.isSpared spared).2.symm)

theorem GoesOn.isAtEase (goesOn : before.GoesOn later) (atEase : before.IsAtEase n network)
    (spared : later.IsSpared) : later.IsAtEase n network := by
  refine ⟨(goesOn.retains_of_spared atEase spared).2, fun job queued => ?_, ?_, fun started => ?_⟩
  · exact (goesOn.friendly job queued).elim (atEase.friendly job) id
  · rw [goesOn.phase]
    exact atEase.notClosed
  · rw [goesOn.phase] at started
    obtain ⟨enlisted, reached⟩ := atEase.present started
    refine ⟨?_, ?_⟩
    · show IsEnlisted later.consumer.atRest
      rw [goesOn.consumer]
      exact enlisted
    · rw [goesOn.address]
      exact reached

/-- Only the address of the channel itself matters. -/
theorem IsAtEase.of_network (atEase : channel.IsAtEase n network) {others : Memory.Network Party}
    (same : ∀ address, channel.address = some address →
      others.unicast.get? address = network.unicast.get? address) : channel.IsAtEase n others := by
  refine { atEase with present := fun started => ?_ }
  obtain ⟨enlisted, address, reached, short, endpoint⟩ := atEase.present started
  exact ⟨enlisted, address, reached, short, (same address reached).trans endpoint⟩

/-- **Only a started channel announces itself**, and its announcement drives nobody away. -/
theorem IsAtEase.announcement (atEase : channel.IsAtEase n network) {next : Nat}
    (wired : channel.atRest.IsWired next) (announces : channel.announcement = .ok event) :
    channel.phase = .started ∧ event.IsFriendly := by
  obtain ⟨address, reached, rfl⟩ := eq_of_announcement announces
  have started : channel.phase = .started := by
    cases phase : channel.phase with
    | created =>
      have nowhere : channel.address = none := (wired.created phase).1
      rw [reached] at nowhere
      cases nowhere
    | started => rfl
    | closed => exact absurd phase atEase.notClosed
  exact ⟨started, Event.isFriendly_of_announce (.inl rfl) ((atEase.present started).short reached) _ _⟩

/-- What a started channel says of itself to one node drives nobody away. -/
theorem IsAtEase.introduction (atEase : channel.IsAtEase n network) (started : channel.phase = .started)
    (introduces : channel.introduction = .ok event) : event.IsFriendly := by
  obtain ⟨address, reached, short, _⟩ := (atEase.present started).reached
  rw [introduction_eq reached] at introduces
  rw [← Except.ok.inj introduces]
  exact Event.isFriendly_of_announce (.inr rfl) short _ _

/-- A channel at ease that is started listens to every kind of protocol event that is for it. -/
theorem IsAtEase.isOpenTo (atEase : channel.IsAtEase n network) {next : Nat}
    (wired : channel.atRest.IsWired next) (started : channel.phase = .started) {kind : ProtocolKind}
    (made : event.kind = kind.text) (other : event.origin ≠ channel.selfId)
    (admitted : event.scope.admits channel.domain = true) : channel.IsOpenTo event := by
  refine ⟨?_, ?_, ?_⟩
  · unfold Consumer.wants
    have ownId : channel.consumer.selfId = channel.selfId := wired.consumerId
    have ownDomain : channel.consumer.domain = channel.domain := wired.consumerDomain
    rw [ownId, ownDomain, admitted, Bool.and_true]
    exact decide_eq_true other
  · rw [made]
    exact (atEase.present started).enlisted.hears kind
  · obtain ⟨atRest, opened, served⟩ := (wired.opened (wired.started started)).served
    obtain ⟨pool, isOpen, rfl⟩ := Option.map_eq_some_iff.mp opened
    exact ⟨pool, isOpen, served⟩

/-! ### Meetings -/

/-- An event of a kind from a node is queued with the channel. -/
def Awaits (channel : Channel) (kind : ProtocolKind) (id : NodeId) : Prop :=
  ∃ job ∈ channel.consumer.pending, job.task.event.kind = kind.text ∧ job.task.event.origin = id

theorem GoesOn.awaits {kind : ProtocolKind} {id : NodeId} (goesOn : before.GoesOn later)
    (awaits : before.Awaits kind id) : later.Awaits kind id := by
  obtain ⟨job, queued, same⟩ := awaits
  exact ⟨job, goesOn.kept queued, same⟩

/-- Whoever has heard an event awaits it if nothing was dropped. -/
theorem HasHeard.awaits {kind : ProtocolKind} (heard : channel.HasHeard event) (spared : channel.IsSpared)
    (made : event.kind = kind.text) : channel.Awaits kind event.origin := by
  obtain ⟨job, queued, rfl⟩ | dropped := heard
  · exact ⟨job, queued, made, rfl⟩
  · rw [spared.1] at dropped
    cases dropped

/-- A channel knows another one, or will when what is queued with the two is handled. -/
inductive Meets (first second : Channel) : Prop where
  /-- The other one is a peer. -/
  | knows (live : first.view.isLive second.selfId = true)
  /-- An event by which the other one makes itself known is queued with the channel. -/
  | hears {kind : ProtocolKind} (makesKnown : kind = .publish ∨ kind = .discover)
      (queued : first.Awaits kind second.selfId)
  /-- The channel's announcement is queued with the other one, which will answer it. -/
  | isAnswered (queued : second.Awaits .publish first.selfId)

/-- **Nothing is lost of a meeting while both channels go on.** -/
theorem Meets.goesOn {later' : Channel} (meets : first.Meets second) (begins : first.GoesOn later)
    (others : second.GoesOn later') (stays : first.view.Retains later.view)
    (stay : second.view.Retains later'.view) : later.Meets later' := by
  have ownId : later.selfId = first.selfId := stays.sameOwner
  have otherId : later'.selfId = second.selfId := stay.sameOwner
  cases meets with
  | knows live =>
    refine .knows ?_
    rw [otherId]
    exact stays.live _ live
  | hears makesKnown queued =>
    refine .hears makesKnown ?_
    rw [otherId]
    exact begins.awaits queued
  | isAnswered queued =>
    refine .isAnswered ?_
    rw [ownId]
    exact others.awaits queued

/-! ### Taking an event from the queue -/

variable {consumer : Consumer Listener Replier} {job : Job (Delivery Listener)}

/-- What was queued is still queued, or it is what was taken. -/
theorem Awaits.dequeue {kind : ProtocolKind} {id : NodeId} (awaits : channel.Awaits kind id)
    (takes : channel.consumer.takeDelivery? = some (job, consumer)) :
    ({ channel with consumer := consumer } : Channel).Awaits kind id ∨
      (job.task.event.kind = kind.text ∧ job.task.event.origin = id) := by
  obtain ⟨other, queued, same⟩ := awaits
  rw [(Consumer.takeDelivery?_pending takes).1] at queued
  rcases List.mem_cons.mp queued with rfl | later
  · exact .inr same
  · exact .inl ⟨other, later, same⟩

theorem IsAtEase.dequeue (atEase : channel.IsAtEase n network)
    (takes : channel.consumer.takeDelivery? = some (job, consumer)) :
    ({ channel with consumer := consumer } : Channel).IsAtEase n network := by
  obtain ⟨pending, same⟩ := Consumer.takeDelivery?_pending takes
  obtain ⟨unwatched, notClosed, nobodyDead⟩ := atEase.hospitable
  refine ⟨⟨unwatched, notClosed, nobodyDead⟩, fun other queued => ?_, atEase.notClosed, fun started => ?_⟩
  · refine atEase.friendly other ?_
    rw [pending]
    exact List.mem_cons_of_mem _ queued
  · obtain ⟨enlisted, reached⟩ := atEase.present started
    refine ⟨?_, reached⟩
    show IsEnlisted consumer.atRest
    rw [same]
    exact enlisted

end Channel

end PeerMesh
