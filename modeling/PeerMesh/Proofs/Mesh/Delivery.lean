/-
**Events that are handed on keep a mesh orderly.**

* `Roster.Allows` — an event may go out if it tells everybody who takes it only of members of their
  own domain.
* `Orderly.hand`, `Orderly.post` — handing an event to a channel, and letting an allowed event go out.
* `Orderly.handle` (of a channel) — the first queued event is taken and handled: a departure that is
  no longer queued has been heard.
* `Orderly.deliver`, `Orderly.announce` — a worker delivers an event, and a channel announces itself.
-/

import PeerMesh.Mesh.Operations
import PeerMesh.Proofs.Memory.Network
import PeerMesh.Proofs.Mesh.Roster

namespace PeerMesh

/-! ### One channel -/

namespace Channel

variable {channel : Channel} {firm : Prop} {known : NodeId → Address → Prop}

theorem atRest_of_consumer {consumer : Consumer Listener Replier}
    (same : consumer.atRest = channel.consumer.atRest) :
    ({ channel with consumer := consumer } : Channel).atRest = channel.atRest := by
  unfold atRest
  dsimp only
  rw [same]
  rfl

/-- A queue that grows by honest events, or stays, is in order. -/
theorem Orderly.requeue (orderly : channel.Orderly firm known)
    {consumer : Consumer Listener Replier} (same : consumer.atRest = channel.consumer.atRest)
    (kept : channel.consumer.pending ⊆ consumer.pending)
    (honest : ∀ job ∈ consumer.pending,
      job.task.listener = .protocol ∧ job.task.event.TellsOnly known) :
    ({ channel with consumer := consumer } : Channel).Orderly firm known := by
  have opened : ({ channel with consumer := consumer } : Channel).IsOpen ↔ channel.IsOpen :=
    isOpen_of_atRest (atRest_of_consumer same)
  refine ⟨orderly.unwatched, fun idle => ?_, fun new => ?_, honest,
    fun isOpen key id address files => ?_, unattended_of_atRest same orderly.unattended⟩
  · rw [opened] at idle
    exact orderly.idle idle
  · rw [opened]
    exact orderly.blank new
  · rw [opened] at isOpen
    obtain ⟨filed, member | ⟨notFirm, job, queued, leave⟩⟩ :=
      orderly.informed isOpen key id address files
    · exact ⟨filed, .inl member⟩
    · exact ⟨filed, .inr ⟨notFirm, job, kept queued, leave⟩⟩

/-- An event that tells only of members of the channel's domain is accepted in order. -/
theorem Orderly.accept (orderly : channel.Orderly firm known) {next : Nat}
    (wired : channel.atRest.IsWired next) {event : Event}
    (tells : channel.consumer.wants event = true → event.TellsOnly known) :
    ({ channel with consumer := channel.consumer.accept event } : Channel).Orderly firm known := by
  have same := channel.consumer.accept_atRest event
  refine orderly.requeue same (channel.consumer.pending_subset_accept event) fun job queued => ?_
  rcases Consumer.mem_pending_accept queued with earlier | ⟨wanted, eq, id, listed⟩
  · exact orderly.honest job earlier
  · have isOpen : channel.atRest.IsOpen := by
      rw [isOpen_atRest, ← isOpen_of_atRest (atRest_of_consumer same)]
      exact isOpen_of_pending (unattended_of_atRest same orderly.unattended) queued
    refine ⟨(wired.opened isOpen).listensForItself event.kind _ listed, ?_⟩
    rw [eq]
    exact tells wanted

/-- The queue from which a worker has taken a job is open, and the job is honest. -/
theorem Orderly.taken (orderly : channel.Orderly firm known) {job : Job (Delivery Listener)}
    {consumer : Consumer Listener Replier}
    (taken : channel.consumer.takeDelivery? = some (job, consumer)) :
    channel.IsOpen ∧ job.task.listener = .protocol ∧ job.task.event.TellsOnly known := by
  have first : job ∈ channel.consumer.pending := by
    rw [(Consumer.takeDelivery?_pending taken).1]
    exact List.mem_cons_self
  exact ⟨isOpen_of_pending orderly.unattended first, orderly.honest job first⟩

/-- **The first queued event is handled in order.** If it was a departure, whoever left is no longer a
peer. -/
theorem Orderly.handle (orderly : channel.Orderly firm known) {job : Job (Delivery Listener)}
    {consumer : Consumer Listener Replier}
    (taken : channel.consumer.takeDelivery? = some (job, consumer)) (time : Nat) :
    let handled := ({ channel with consumer := consumer } : Channel).react time job.task.event
    HonestConsequence { channel with consumer := consumer } known handled ∧
      handled.channel.atRest = channel.atRest ∧ handled.channel.Orderly firm known := by
  intro handled
  obtain ⟨isOpen, _, tells⟩ := orderly.taken taken
  obtain ⟨queue, same⟩ := Consumer.takeDelivery?_pending taken
  have unwatched : ({ channel with consumer := consumer } : Channel).detector.watched.registered =
      [] := orderly.unwatched
  have honest : HonestConsequence { channel with consumer := consumer } known handled :=
    react_honest unwatched time tells
  have atRest := honest.learns.atRest.trans (atRest_of_consumer same)
  refine ⟨honest, atRest, honest.learns.unwatched, fun idle => ?_, fun new => ?_, ?_, ?_, ?_⟩
  · rw [isOpen_of_atRest atRest] at idle
    exact absurd isOpen idle
  · rw [phase_of_atRest atRest] at new
    exact absurd isOpen (orderly.blank new).1
  · rw [honest.learns.consumer]
    intro other queued
    refine orderly.honest other ?_
    rw [queue]
    exact List.mem_cons_of_mem _ queued
  · intro _ key id address files
    rcases honest.learns.known key id address files with earlier | ⟨filed, new⟩
    · obtain ⟨filed, member | ⟨notFirm, leave, queued, kind, origin⟩⟩ :=
        orderly.informed isOpen key id address earlier
      · exact ⟨filed, .inl member⟩
      · rw [queue] at queued
        rcases List.mem_cons.mp queued with rfl | later
        · -- the departure is the event that was just handled
          rw [filed, ← origin] at files
          exact absurd files (react_forgets unwatched time kind _ address)
        · refine ⟨filed, .inr ⟨notFirm, leave, ?_, kind, origin⟩⟩
          rw [honest.learns.consumer]
          exact later
    · exact ⟨filed, .inl new⟩
  · rw [honest.learns.consumer]
    exact unattended_of_atRest same orderly.unattended

end Channel

/-! ### Events that go out -/

namespace Roster

/-- Whoever takes the event is told only of members of its own domain. -/
def Allows (roster : Roster) : Outgoing → Prop
  | .broadcast event => ∀ domain, event.scope.admits domain = true →
    event.TellsOnly (roster.IsMember domain)
  | .send address event => ∃ domain id, roster.IsMember domain id address ∧
    event.TellsOnly (roster.IsMember domain)

variable {roster : Roster}

/-- A channel is a member of its own domain. -/
theorem isMember_self {n : Nat} {self : Channel} (there : roster.channels[n]? = some self)
    {address : Address} (reached : self.address = some address) :
    roster.IsMember self.domain self.selfId address :=
  ⟨self, List.mem_of_getElem? there, rfl, rfl, reached⟩

theorem Wired.at (wired : roster.Wired) {n : Nat} {self : Channel}
    (there : roster.channels[n]? = some self) : self.IsWired roster.network.nextNumber :=
  wired.each self (List.mem_of_getElem? there)

/-- A channel may announce itself to its domain. -/
theorem Wired.allows_announcement (wired : roster.Wired) {n : Nat} {self : Channel}
    (there : roster.channels[n]? = some self) {event : Event}
    (announces : self.announcement = .ok event) : roster.Allows (.broadcast event) := by
  unfold Channel.announcement at announces
  cases reached : self.address with
  | none =>
    rw [reached] at announces
    cases announces
  | some address =>
    rw [reached] at announces
    dsimp only at announces
    unfold Channel.protocolEvent Channel.event at announces
    rw [reached] at announces
    obtain rfl := Except.ok.inj announces
    intro domain admitted
    have same : self.domain = domain := eq_of_beq admitted
    rw [← same]
    exact Event.tellsOnly_of_announce (.inl rfl) _ ((wired.at there).numbered address reached).1
      (isMember_self there reached)

/-- A channel may make itself known to a member of its domain. -/
theorem Wired.allows_introduction (wired : roster.Wired) {n : Nat} {self : Channel}
    (there : roster.channels[n]? = some self) {id : NodeId} {place : Address} {event : Event}
    (isMember : roster.IsMember self.domain id place) (introduces : self.introduction = .ok event) :
    roster.Allows (.send place event) := by
  unfold Channel.introduction at introduces
  cases reached : self.address with
  | none =>
    rw [reached] at introduces
    cases introduces
  | some address =>
    rw [reached] at introduces
    dsimp only at introduces
    unfold Channel.protocolEvent Channel.event at introduces
    rw [reached] at introduces
    obtain rfl := Except.ok.inj introduces
    exact ⟨self.domain, id, isMember, Event.tellsOnly_of_announce (.inr rfl) _
      ((wired.at there).numbered address reached).1 (isMember_self there reached)⟩

/-- What a channel says when it goes tells of nobody, and may always be said. -/
theorem allows_farewell (channel : Channel) {kind : ProtocolKind}
    (quiet : kind = .resync ∨ kind = .shutdown ∨ kind = .leave) :
    ∀ outgoing ∈ Mesh.farewell channel kind, roster.Allows outgoing := by
  intro outgoing said
  unfold Mesh.farewell Channel.protocolEvent Channel.event at said
  cases reached : channel.address with
  | none =>
    rw [reached] at said
    cases said
  | some address =>
    rw [reached] at said
    rw [List.mem_singleton.mp said]
    exact fun _ _ => Event.tellsOnly_of_quiet quiet _ _ _ _

end Roster

namespace Mesh

variable {roster : Roster} {firm : Nat → Prop} {mesh : Mesh}

namespace Orderly

theorem hand (orderly : mesh.Orderly roster firm) (wired : roster.Wired) {n : Nat} {event : Event}
    (tells : ∀ self, roster.channels[n]? = some self → self.consumer.wants event = true →
      event.TellsOnly (roster.IsMember self.domain)) :
    (mesh.hand n event).Orderly roster firm := by
  have handed : (mesh.modify n fun channel =>
      { channel with consumer := (mesh.channel n).consumer.accept event }).Orderly roster firm := by
    refine orderly.modify n fun channel there => ?_
    rw [channel_eq there]
    have listed := orderly.there there
    exact ⟨Channel.atRest_of_consumer (channel.consumer.accept_atRest event),
      (orderly.each n channel there).accept (wired.at listed) (tells channel.atRest listed)⟩
  unfold Mesh.hand
  dsimp only
  split
  · exact handed.enqueue (.deliver n)
  · exact handed

/-- Everybody who hears a broadcast is told only of members of its own domain. -/
theorem arriveAll (wired : roster.Wired) {event : Event} (allowed : roster.Allows (.broadcast event))
    (parties : List Party) :
    ∀ mesh : Mesh, mesh.Orderly roster firm →
      (parties.foldl (arrive event) mesh).Orderly roster firm := by
  induction parties with
  | nil => exact fun _ orderly => orderly
  | cons party rest ih =>
    intro mesh orderly
    refine ih _ ?_
    have reached := orderly.note (.reached party false event)
    cases party with
    | outsider receiver => exact reached
    | channel n =>
      refine reached.hand wired fun self there wanted => allowed self.domain ?_
      unfold Consumer.wants at wanted
      rw [(wired.at there).consumerDomain] at wanted
      exact (Bool.and_eq_true_iff.mp wanted).2

theorem spread (orderly : mesh.Orderly roster firm) (wired : roster.Wired) (group : GroupLink)
    {event : Event} (allowed : roster.Allows (.broadcast event)) :
    (mesh.spread group event).2.Orderly roster firm := by
  unfold Mesh.spread
  cases group with
  | datagram member => exact orderly
  | memory member =>
    dsimp only
    split
    · exact arriveAll wired allowed _ mesh orderly
    · exact orderly

/-- Whoever is reached at an address is a channel with this address. -/
theorem channel_of_route (orderly : mesh.Orderly roster firm) (wired : roster.Wired)
    {own : Memory.UnicastEnd} {address : Address} {party : Party}
    (routed : own.route mesh.network address = .ok party) :
    ∃ (n : Nat) (self : Channel), party = .channel n ∧ roster.channels[n]? = some self ∧
      self.address = some address := by
  obtain ⟨endpoint, found, same⟩ := Memory.UnicastEnd.exists_endpoint_of_route routed
  rw [orderly.network_eq] at found
  obtain ⟨_, n, self, receiver, there, reached⟩ := wired.endpoints address endpoint found
  exact ⟨n, self, same.symm.trans receiver, there, reached⟩

theorem carry (orderly : mesh.Orderly roster firm) (wired : roster.Wired) (own : Memory.UnicastEnd)
    {address : Address} {event : Event} (allowed : roster.Allows (.send address event)) :
    (mesh.carry own address event).2.Orderly roster firm := by
  obtain ⟨domain, id, isMember, tells⟩ := allowed
  unfold Mesh.carry
  split
  · rename_i party routed
    obtain ⟨n, self, rfl, there, reached⟩ := orderly.channel_of_route wired routed
    refine (orderly.note (.reached (.channel n) false event)).hand wired fun other same _ => ?_
    rw [there] at same
    obtain rfl := Option.some.inj same
    rw [wired.domain_of_address there reached isMember]
    exact tells
  · exact orderly

/-- The links of a channel lead over the network. -/
theorem line_eq (orderly : mesh.Orderly roster firm) (wired : roster.Wired) {n : Nat} {self : Channel}
    (there : roster.channels[n]? = some self) : ∃ own, (mesh.channel n).line = .memory own := by
  obtain ⟨channel, found, rfl⟩ := orderly.exists_channel there
  obtain ⟨own, line, _⟩ := (wired.at there).line
  rw [channel_eq found]
  exact ⟨own, line⟩

/-- **An allowed event goes out in order.** -/
theorem post (orderly : mesh.Orderly roster firm) (wired : roster.Wired) {n : Nat} {self : Channel}
    (there : roster.channels[n]? = some self) {outgoing : Outgoing} (allowed : roster.Allows outgoing) :
    (mesh.post n outgoing).2.Orderly roster firm := by
  have posted := orderly.note (.posted n outgoing)
  unfold Mesh.post
  cases outgoing with
  | broadcast event => exact posted.spread wired _ allowed
  | send address event =>
    obtain ⟨own, line⟩ := orderly.line_eq wired there
    dsimp only
    rw [line]
    exact posted.carry wired own allowed

theorem postAll (wired : roster.Wired) {n : Nat} {self : Channel}
    (there : roster.channels[n]? = some self) (outgoing : List Outgoing) :
    ∀ mesh : Mesh, mesh.Orderly roster firm → (∀ each ∈ outgoing, roster.Allows each) →
      (mesh.postAll n outgoing).Orderly roster firm := by
  induction outgoing with
  | nil => exact fun _ orderly _ => orderly
  | cons first rest ih =>
    intro mesh orderly allowed
    exact ih _ (orderly.post wired there (allowed first List.mem_cons_self))
      fun each member => allowed each (List.mem_cons_of_mem _ member)

/-! ### Deliveries -/

theorem finishDelivery (orderly : mesh.Orderly roster firm) (n ticket : Nat) :
    (mesh.finishDelivery n ticket).Orderly roster firm := by
  refine Orderly.enqueue (orderly.modify n fun channel there => ?_) (.deliver n)
  obtain ⟨pending, same⟩ := channel.consumer.finishDelivery_pending ticket
  have each := orderly.each n channel there
  refine ⟨Channel.atRest_of_consumer same, each.requeue same ?_ ?_⟩
  · rw [pending]
    exact List.Subset.refl _
  · rw [pending]
    exact each.honest

theorem tellFinders (orderly : mesh.Orderly roster firm) (n : Nat) (id : NodeId)
    (address : Address) : (mesh.tellFinders n id address).Orderly roster firm := by
  have each : ∀ (finders : List Nat) (mesh : Mesh), mesh.Orderly roster firm →
      (finders.foldl (fun mesh finder => mesh.note (.discovered n finder id address)) mesh).Orderly
        roster firm := by
    intro finders
    induction finders with
    | nil => exact fun _ orderly => orderly
    | cons finder rest ih => exact fun mesh orderly => ih _ (orderly.note _)
  exact each _ mesh orderly

/-- A channel announces itself once more, if it has to. -/
theorem announceAgain (orderly : mesh.Orderly roster firm) (n : Nat) (again : Prop)
    [Decidable again] :
    (if again then mesh.enqueueLast (.announce n) else mesh).Orderly roster firm := by
  split
  · exact orderly.of_same rfl rfl rfl
  · exact orderly

/-- What an event calls for is done in order, once the channel that has handled it is in order. -/
theorem follow (wired : roster.Wired) {taken : Mesh} {n : Nat} {consequence : Consequence}
    (changed : (taken.modify n fun _ => consequence.channel).Orderly roster firm) {self : Channel}
    (there : roster.channels[n]? = some self) {before : Channel} (same : before.atRest = self)
    (honest : Channel.HonestConsequence before (roster.IsMember self.domain) consequence)
    (ticket : Nat) : (taken.follow n ticket consequence).Orderly roster firm := by
  have replied (reply : Address × Event → Outgoing)
      (sends : ∀ address event, reply (address, event) = .send address event) {resynced : Mesh}
      (orderly : resynced.Orderly roster firm) :
      (resynced.postAll n (consequence.replies.map reply)).Orderly roster firm := by
    refine postAll wired there _ resynced orderly fun outgoing member => ?_
    obtain ⟨⟨address, event⟩, listed, rfl⟩ := List.mem_map.mp member
    obtain ⟨⟨id, isMember⟩, introduces⟩ := honest.replies address event listed
    have introduction : self.introduction = .ok event := by
      rw [← same]
      exact introduces
    rw [sends]
    exact wired.allows_introduction there isMember introduction
  unfold Mesh.follow
  rw [honest.deliversNothing, honest.inquiresNothing]
  dsimp only
  refine finishDelivery ?_ n ticket
  split
  · exact (replied _ (fun _ _ => rfl) (changed.announceAgain n _)).tellFinders n _ _
  · exact replied _ (fun _ _ => rfl) (changed.announceAgain n _)

/-- Who takes the next job does not matter. -/
theorem takeTurns {taken : Mesh} {move : Move} {othersIdle : Bool} {work : Mesh → Mesh}
    (works : ∀ start : Mesh, start.channels = taken.channels → start.network = taken.network →
      start.errands = taken.errands → start.time = taken.time → (work start).Orderly roster firm) :
    (taken.takeTurns move othersIdle work).Orderly roster firm := by
  unfold Mesh.takeTurns
  split
  · refine works _ (enqueue_channels _ _) (enqueue_network _ _) (enqueue_errands _ _) ?_
    unfold Mesh.enqueue
    split <;> rfl
  · exact (works taken rfl rfl rfl rfl).of_same rfl rfl rfl

/-- A delivery is made in order, once a worker has taken it. -/
theorem call (orderly : mesh.Orderly roster firm) (wired : roster.Wired) {n : Nat}
    {channel : Channel} (found : mesh.channels[n]? = some channel) {job : Job (Delivery Listener)}
    {consumer : Consumer Listener Replier}
    (takes : channel.consumer.takeDelivery? = some (job, consumer)) {taken : Mesh}
    (channels : taken.channels =
      mesh.channels.modify n fun channel => { channel with consumer := consumer })
    (network : taken.network = mesh.network) (errands : taken.errands = mesh.errands)
    (time : taken.time = mesh.time) : (taken.call n job).Orderly roster firm := by
  have each := orderly.each n channel found
  obtain ⟨honest, atRest, handled⟩ := each.handle takes mesh.time
  obtain ⟨_, listener, _⟩ := each.taken takes
  have there : taken.channel n = { channel with consumer := consumer } := by
    refine channel_eq ?_
    rw [channels, List.getElem?_modify_eq, found]
    rfl
  -- taking the job and handling it are one change of the channel
  have replaced : (mesh.modify n fun _ => (({ channel with consumer := consumer } : Channel).react
      mesh.time job.task.event).channel).Orderly roster firm := by
    refine orderly.modify n fun other same => ?_
    rw [found] at same
    obtain rfl := Option.some.inj same
    exact ⟨atRest, handled⟩
  unfold Mesh.call
  rw [listener]
  dsimp only
  rw [there, time]
  refine follow wired (replaced.of_same ?_ network errands) (orderly.there found)
    (Channel.atRest_of_consumer (Consumer.takeDelivery?_pending takes).2) honest job.ticket
  show taken.channels.modify n _ = mesh.channels.modify n _
  rw [channels, List.modify_modify_eq]
  rfl

/-- A channel that is not gone sees to every delivery. -/
theorem attend_eq {taken : Mesh} (present : (taken.channel n).isGone = false) (job : Job (Delivery Listener)) :
    taken.attend n job = taken.call n job := by
  unfold attend
  rw [if_neg fun gone => Bool.false_ne_true (present.symm.trans gone.2)]

/-- **A worker delivers an event in order.** -/
theorem deliver (orderly : mesh.Orderly roster firm) (wired : roster.Wired) (n : Nat) :
    (mesh.deliver n).Orderly roster firm := by
  unfold Mesh.deliver
  split
  · exact orderly
  · rename_i job consumer takes
    cases found : mesh.channels[n]? with
    | none =>
      rw [channel_default found] at takes
      cases takes
    | some channel =>
      rw [channel_eq found] at takes
      refine takeTurns fun start channels network errands time => ?_
      have present : (start.channel n).isGone = false := by
        unfold Mesh.channel
        rw [channels]
        show (((mesh.channels.modify n _)[n]?).getD default).isGone = false
        rw [List.getElem?_modify_eq, found]
        exact (wired.at (orderly.there found)).present
      rw [attend_eq present]
      exact orderly.call wired found takes channels network errands time

/-! ### Announcements -/

/-- Only the announcements that are still to be made change. -/
theorem reannounce (orderly : mesh.Orderly roster firm) (n : Nat) (later : Option Announcing) :
    (mesh.modify n fun channel => { channel with announcing := later }).Orderly roster firm := by
  refine orderly.modify n fun channel there => ⟨rfl, ?_⟩
  have each := orderly.each n channel there
  exact ⟨each.unwatched, each.idle, each.blank, each.honest, each.informed, each.unattended⟩

/-- **A channel announces itself in order.** -/
theorem announce (orderly : mesh.Orderly roster firm) (wired : roster.Wired) (n : Nat) :
    (mesh.announce n).Orderly roster firm := by
  unfold Mesh.announce
  dsimp only
  cases found : mesh.channels[n]? with
  | none =>
    rw [channel_default found]
    exact orderly
  | some channel =>
    rw [channel_eq found]
    have listed := orderly.there found
    have allowed : ∀ outgoing ∈ (channel.announcement.toOption.map Outgoing.broadcast).toList,
        roster.Allows outgoing := by
      intro outgoing member
      cases announces : channel.announcement with
      | error error =>
        rw [announces] at member
        cases member
      | ok event =>
        rw [announces] at member
        rw [List.mem_singleton.mp member]
        exact wired.allows_announcement listed announces
    split
    · exact orderly
    · split
      · exact orderly
      · have again (posted : Mesh) (posts : posted.Orderly roster firm) (isDue : Bool) :
            (if isDue then posted.enqueueFirst (.announce n) else posted).Orderly roster firm := by
          split
          · exact posts.of_same rfl rfl rfl
          · exact posts
        exact again _ (postAll wired listed _ _ (orderly.reannounce n _) allowed) _

end Orderly

end Mesh

end PeerMesh
