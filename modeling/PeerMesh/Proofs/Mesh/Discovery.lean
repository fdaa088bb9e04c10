/-
**Started channels of one domain come to know each other.**

* `Deed.stays`, `Mesh.Spares` — no channel goes or moves by a deed, and up to its end no event is dropped
  and nobody is declared dead.
* `Gathers.act` — the channels go on gathering by such deeds, whatever is done and in whatever order.
* `discovered_of_reached` — whenever every started channel has announced itself, and nobody has an event in
  its queue by which a node makes itself known, any two started channels of one domain know where the other
  one is reached.
-/

import PeerMesh.Proofs.Mesh.Gathering
import PeerMesh.Proofs.Mesh.Isolation

namespace PeerMesh

/-- No channel goes or moves by the deed. -/
def Deed.stays : Deed → Bool
  | .close _ | .changeDomain .. => false
  | _ => true

namespace Mesh

/-- A deed can be done, no channel goes or moves by it, and up to its end no event is dropped and nobody is
declared dead. -/
def Spares (mesh : Mesh) (deed : Deed) : Prop :=
  mesh.Permits deed ∧ deed.stays = true ∧ (mesh.act deed).IsSpared

variable {mesh : Mesh} {n m : Nat} {first second : Channel}

/-! ### Deeds by which everything goes on -/

theorem resync_goesOn (mesh : Mesh) (n : Nat) : mesh.GoesOn (mesh.resync n) := by
  unfold Mesh.resync
  split
  · have begun : mesh.GoesOn (mesh.modify n (·.resync mesh.time)) :=
      mesh.modify_goesOn n fun channel _ => channel.resync_goesOn mesh.time
    exact begun.of_same rfl rfl fun _ => rfl
  · exact .refl mesh

theorem forceResync_goesOn (mesh : Mesh) (n : Nat) (targets : Option (List NodeId)) :
    mesh.GoesOn (mesh.forceResync n targets).2 := by
  unfold Mesh.forceResync
  dsimp only
  split
  · exact .refl mesh
  · rename_i event made
    obtain ⟨address, rfl⟩ := Channel.eq_of_outboundEvent made
    have silent : ProtocolKind.resync.text ≠ ProtocolKind.publish.text := by decide
    exact mesh.broadcast_goesOn n (Event.isFriendly_of_kind rfl (.inl rfl)) silent

theorem register_goesOn (mesh : Mesh) (n : Nat) : mesh.GoesOn (mesh.register n) := by
  have linked : mesh.GoesOn (mesh.modify n ({ · with isLinked := true })) :=
    mesh.modify_goesOn n fun _ _ =>
      ⟨rfl, rfl, rfl, rfl, List.Subset.refl _, fun _ queued => .inl queued, Nat.le_refl _, .refl _⟩
  unfold Mesh.register
  dsimp only
  split
  · exact linked
  · exact linked.of_same rfl rfl fun _ => rfl

/-- Events that overtake each other stay the same. -/
theorem overtake_goesOn {queue : List (Job (Delivery Listener))}
    (same : queue.Perm (mesh.channel n).consumer.pending) :
    mesh.GoesOn (mesh.modify n (·.requeue queue)) := by
  refine mesh.modify_goesOn n fun channel found => ?_
  rw [channel_eq found] at same
  obtain ⟨atRest, pending⟩ := Channel.requeue_consumer same
  exact ⟨rfl, rfl, rfl, atRest, pending.symm.subset, fun job queued => .inl (pending.subset queued),
    Nat.le_refl _, .refl _⟩

/-- Nobody whose departure is queued is a peer, since no departure is queued. -/
theorem IsPeaceful.isCalmFor (peaceful : mesh.IsPeaceful) {deed : Deed} (stays : deed.stays = true) :
    mesh.IsCalmFor deed := by
  have upToDate (n : Nat) : mesh.IsUpToDate n := by
    rintro key id address _ ⟨job, queued, leaves, _⟩
    cases found : mesh.channels[n]? with
    | none =>
      rw [channel_default found] at queued
      cases queued
    | some channel =>
      rw [channel_eq found] at queued
      exact ((peaceful.atEase n channel found).friendly job queued).notLeave leaves
  cases deed with
  | changeDomain => cases stays
  | turn n draw => exact fun _ => upToDate n
  | move move =>
    cases move with
    | turn n => exact fun _ => upToDate n
    | _ => trivial
  | _ => trivial

namespace Gathers

/-- **Whatever move is made, the channels go on gathering.** -/
theorem perform (gathers : mesh.Gathers) {move : Move} (inOrder : (mesh.perform move).InOrder)
    (spared : (mesh.perform move).IsSpared) : (mesh.perform move).Gathers := by
  cases move with
  | deliver n => exact gathers.deliver n inOrder spared
  | dispatch n =>
    show (mesh.dispatchNext n).Gathers
    rw [gathers.inOrder.dispatchNext]
    exact gathers
  | announce n => exact gathers.announce n inOrder spared
  | turn n => exact gathers.goesOn (mesh.turn_goesOn Draw.first n) inOrder spared
  | hear n => exact gathers.goesOn (mesh.hearScheduled_goesOn Draw.first n) inOrder spared
  | finish n ticket =>
    show (mesh.finish n ticket).Gathers
    rw [gathers.inOrder.finish]
    exact gathers
  | heed n => exact gathers.goesOn ((GoesOn.refl mesh).of_same rfl rfl fun _ => rfl) inOrder spared

/-- **Whatever is done, the channels go on gathering**, if none goes or moves, no event is dropped, and
nobody is declared dead. -/
theorem act (gathers : mesh.Gathers) {deed : Deed} (spares : mesh.Spares deed) :
    (mesh.act deed).Gathers := by
  obtain ⟨permitted, stays, spared⟩ := spares
  have inOrder := gathers.inOrder.act permitted (gathers.peaceful.isCalmFor stays)
  cases deed with
  | create label settings =>
    obtain ⟨broadcasts, unicasts, _⟩ := permitted
    refine gathers.create label ?_ ?_ inOrder spared
    · unfold Settings.broadcastTransport
      rw [broadcasts]
      rfl
    · unfold Settings.unicastTransport
      rw [unicasts]
      rfl
  | start n => exact gathers.start permitted.1 permitted.2.1 permitted.2.2 inOrder spared
  | close | changeDomain => cases stays
  | resync n => exact gathers.goesOn (mesh.resync_goesOn n) inOrder spared
  | forceResync n targets => exact gathers.goesOn (mesh.forceResync_goesOn n targets) inOrder spared
  | register n => exact gathers.goesOn (mesh.register_goesOn n) inOrder spared
  | unregister n =>
    exact gathers.goesOn ((GoesOn.refl mesh).of_same rfl rfl fun _ => rfl) inOrder spared
  | move move => exact gathers.perform inOrder spared
  | turn n draw => exact gathers.goesOn (mesh.turn_goesOn draw n) inOrder spared
  | overtake n queue => exact gathers.goesOn (overtake_goesOn permitted) inOrder spared
  | pass span =>
    exact gathers.goesOn ((GoesOn.refl mesh).of_same rfl rfl fun _ => rfl) inOrder spared

theorem empty (host : Socket.Host) : (Mesh.empty host).Gathers := by
  refine ⟨.empty host, ?_, ⟨?_, fun n said => ?_⟩, ?_⟩
  · exact fun channel listed => nomatch listed
  · exact fun n channel found => nomatch found
  · cases said
  · exact fun n m first second apart found => nomatch found

/-- **Channels that were spared have gathered**, if none has gone or moved. -/
theorem of_reached {host : Socket.Host} (reached : Reached Spares host mesh) : mesh.Gathers := by
  induction reached with
  | empty => exact .empty host
  | step _ spares ih => exact ih.act spares

/-- Whoever is known is known where it is reached: it is a member of the domain, or its departure would be
queued. -/
theorem address_of_live (gathers : mesh.Gathers) (found : mesh.channels[n]? = some first)
    (place : mesh.channels[m]? = some second) (started : first.phase = .started)
    (live : first.view.isLive second.selfId = true) :
    ∃ address, second.address = some address ∧ first.view.addressOf? second.selfId = some address := by
  obtain ⟨member, isPeer⟩ := Option.isSome_iff_exists.mp
    (show (first.view.live.get? second.selfId).isSome = true from live)
  have isOpen := Channel.isOpen_atRest.mp ((gathers.inOrder.wired.at (InOrder.there found)).started started)
  obtain ⟨named, isMember | ⟨_, job, queued, leaves, _⟩⟩ :=
    (gathers.inOrder.orderly.each n first found).informed isOpen second.selfId _ _ ⟨member, isPeer, rfl, rfl⟩
  · refine ⟨_, gathers.inOrder.address_of_isMember place isMember named.symm, ?_⟩
    unfold View.addressOf? View.get?
    rw [isPeer]
    rfl
  · exact absurd leaves ((gathers.peaceful.atEase n first found).friendly job queued).notLeave

end Gathers

/-! ### Everybody knows everybody -/

/-- Every started channel has announced itself. -/
def HaveAnnounced (mesh : Mesh) : Prop :=
  ∀ n < mesh.channels.length, (mesh.channel n).phase = .started → mesh.hasAnnounced n = true

instance (mesh : Mesh) : Decidable mesh.HaveAnnounced :=
  inferInstanceAs (Decidable (∀ n < mesh.channels.length, _ → _))

/-- No event is queued by which a node makes itself known. An event that goes out is queued at once. -/
def HaveHeard (mesh : Mesh) : Prop :=
  ∀ channel ∈ mesh.channels, ∀ job ∈ channel.consumer.pending,
    job.task.event.kind ≠ ProtocolKind.publish.text ∧ job.task.event.kind ≠ ProtocolKind.discover.text

instance (mesh : Mesh) : Decidable mesh.HaveHeard :=
  inferInstanceAs (Decidable (∀ channel ∈ mesh.channels, ∀ job ∈ channel.consumer.pending, _ ∧ _))

/-- Any two started channels of one domain know each other, and where they are reached. -/
def AreDiscovered (mesh : Mesh) : Prop :=
  ∀ (n m : Nat) (first second : Channel), n ≠ m → mesh.channels[n]? = some first →
    mesh.channels[m]? = some second → first.phase = .started → second.phase = .started →
      first.domain = second.domain →
        first.view.isLive second.selfId = true ∧ ∃ address, second.address = some address ∧
          first.view.addressOf? second.selfId = some address ∧
          mesh.network.unicast.get? address = some ⟨.channel m, true⟩

/-- **Any two started channels of one domain know each other** whenever every started channel has announced
itself and nothing is queued by which a node makes itself known, if no channel has gone or moved, no event
was dropped, and nobody was declared dead. -/
theorem discovered_of_reached (host : Socket.Host) (mesh : Mesh) (reached : Reached Spares host mesh)
    (announced : mesh.HaveAnnounced) (heard : mesh.HaveHeard) : mesh.AreDiscovered := by
  have gathers := Gathers.of_reached reached
  intro n m first second apart found place started started' sameDomain
  have said (k : Nat) (channel : Channel) (isThere : mesh.channels[k]? = some channel)
      (started : channel.phase = .started) : mesh.hasAnnounced k = true := by
    refine announced k (List.getElem?_eq_some_iff.mp isThere).1 ?_
    rw [channel_eq isThere]
    exact started
  have nothing {channel : Channel} (listed : channel ∈ mesh.channels) {kind : ProtocolKind}
      (makesKnown : kind = .publish ∨ kind = .discover) (id : NodeId) : ¬ channel.Awaits kind id := by
    rintro ⟨job, queued, made, _⟩
    obtain ⟨notPublish, notDiscover⟩ := heard channel listed job queued
    rcases makesKnown with rfl | rfl
    · exact notPublish made
    · exact notDiscover made
  have live : first.view.isLive second.selfId = true := by
    cases gathers.meets n m first second apart found place (said n first found started)
      (said m second place started') sameDomain with
    | knows live => exact live
    | hears makesKnown queued => exact absurd queued (nothing (List.mem_of_getElem? found) makesKnown _)
    | isAnswered queued => exact absurd queued (nothing (List.mem_of_getElem? place) (.inl rfl) _)
  obtain ⟨address, reached, known⟩ := gathers.address_of_live found place started live
  exact ⟨live, address, reached, known,
    ((gathers.peaceful.atEase m second place).present started').endpoint reached⟩

/-- Whether a deed is seen to be permitted, keeps all channels where they are, and spares them. -/
def seesSpared (mesh : Mesh) (deed : Deed) : Bool :=
  mesh.seesPermitted deed && deed.stays && decide (mesh.act deed).IsSpared

theorem spares_of_seesSpared (mesh : Mesh) (deed : Deed) (seen : mesh.seesSpared deed = true) :
    mesh.Spares deed := by
  obtain ⟨first, spared⟩ := Bool.and_eq_true_iff.mp seen
  obtain ⟨permitted, stays⟩ := Bool.and_eq_true_iff.mp first
  exact ⟨permits_of_seesPermitted mesh deed permitted, stays, of_decide_eq_true spared⟩

/-- Two channels announce themselves before either has heard of the other. -/
def crossing : List Deed :=
  neighbours 8 ++ [.move (.announce 1), .move (.announce 0), .move (.deliver 1), .move (.deliver 0),
    .move (.deliver 0), .move (.deliver 1)]

/-- After announcements that cross each other both channels know each other. -/
theorem discovered_of_crossing :
    let mesh := crossing.foldl act (.empty default)
    Reached Spares default mesh ∧ mesh.HaveAnnounced ∧ mesh.HaveHeard ∧ mesh.AreDiscovered := by
  intro mesh
  have reached : Reached Spares default mesh :=
    reached_of_checkAll spares_of_seesSpared crossing _ .empty (by decide +kernel)
  have announced : mesh.HaveAnnounced := by decide +kernel
  have heard : mesh.HaveHeard := by decide +kernel
  exact ⟨reached, announced, heard, discovered_of_reached default mesh reached announced heard⟩

end Mesh

end PeerMesh
