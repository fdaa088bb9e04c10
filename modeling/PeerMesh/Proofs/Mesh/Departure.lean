/-
**A channel moves to another domain.**

* `Mesh.Spreads` — from one mesh to a later one an event is spread: no queue loses anything, and
  nothing but this event is queued.
* `Channel.settled` — a channel that has forgotten everybody and is in another domain.
* `farewell_heard` — when a channel says that it leaves, its departure is queued with every channel of
  its domain that has room for it.
* `Mesh.IsMissedBy` — what must hold of another channel when one goes.
* `Mesh.IsFreeToMove` — nothing that is queued with a channel tells of anybody, nothing that is queued
  with others tells of it, and all others that know it have room for its departure.
* `InOrder.changeDomain` — a channel that is free to move changes its domain in order.
-/

import PeerMesh.Proofs.Mesh.Life

namespace PeerMesh

namespace Channel

/-- From one state of a channel to a later one, an event was queued any number of times. -/
structure Hears (before : Channel) (event : Event) (after : Channel) : Prop where
  detector : after.detector = before.detector
  atRest : after.atRest = before.atRest
  kept : before.consumer.pending ⊆ after.consumer.pending
  nothingElse : ∀ job ∈ after.consumer.pending,
    job ∈ before.consumer.pending ∨ job.task.event = event

variable {channel later : Channel} {event : Event}

theorem Hears.nothing (channel : Channel) (event : Event) : channel.Hears event channel :=
  ⟨rfl, rfl, List.Subset.refl _, fun _ queued => .inl queued⟩

theorem Hears.trans {last : Channel} (first : channel.Hears event later)
    (second : later.Hears event last) : channel.Hears event last := by
  refine ⟨second.detector.trans first.detector, second.atRest.trans first.atRest,
    List.Subset.trans first.kept second.kept, fun job queued => ?_⟩
  rcases second.nothingElse job queued with earlier | new
  · exact first.nothingElse job earlier
  · exact .inr new

theorem hears_accept (channel : Channel) (event : Event) :
    channel.Hears event { channel with consumer := channel.consumer.accept event } := by
  refine ⟨rfl, atRest_of_consumer (channel.consumer.accept_atRest event),
    channel.consumer.pending_subset_accept event, fun job queued => ?_⟩
  exact (Consumer.mem_pending_accept queued).imp_right fun new => new.2.1

/-- A channel whose queue is open has room for one event more. -/
def HasRoom (channel : Channel) : Prop :=
  ∀ pool, channel.consumer.pool = some pool → pool.queue.length < pool.capacity

/-! ### To settle in another domain -/

/-- The channel when it has forgotten everybody and is in another domain. -/
def settled (channel : Channel) (time : Nat) (domain : String) : Channel :=
  let cleared := (channel.run time fun view _ => view.clear).2
  { cleared with domain := domain, consumer := cleared.consumer.changeDomain domain }

variable {firm : Prop} {known others : NodeId → Address → Prop}

theorem Orderly.selfId_settled (orderly : channel.Orderly firm known) (time : Nat) (domain : String) :
    (channel.settled time domain).selfId = channel.selfId := by
  show (channel.detector.watched.run time fun view _ => view.clear).2.view.selfId = channel.selfId
  rw [Watched.run_of_unwatched orderly.unwatched time fun view _ => view.clear]
  rfl

/-- A channel that has forgotten everybody is in order in any domain, if nothing that is queued with it
tells of anybody. -/
theorem Orderly.settled (orderly : channel.Orderly firm known) (isOpen : channel.IsOpen)
    (silent : ∀ job ∈ channel.consumer.pending, job.task.event.TellsOnly fun _ _ => False)
    (time : Nat) (domain : String) : (channel.settled time domain).Orderly firm others := by
  have watched := Watched.run_of_unwatched orderly.unwatched time fun view _ => view.clear
  refine ⟨?_, fun idle => absurd isOpen idle, fun new => absurd isOpen (orderly.blank new).1,
    fun job queued => ?_, fun _ key id address files => ?_, orderly.unattended⟩
  · show (channel.detector.watched.run time fun view _ => view.clear).2.registered = []
    rw [watched]
    exact orderly.unwatched
  · exact ⟨(orderly.honest job queued).1, (silent job queued).mono fun _ _ => False.elim⟩
  · have cleared : (channel.detector.watched.run time fun view _ => view.clear).2.view.Files
        key id address := files
    rw [watched] at cleared
    exact absurd cleared (channel.view.clear_forgets key id address)

/-- A channel stays where it is when it is in another domain. -/
theorem IsWired.settled {next : Nat} (wired : channel.atRest.IsWired next)
    (orderly : channel.Orderly firm known) (isOpen : channel.IsOpen) (time : Nat) (domain : String) :
    (channel.settled time domain).atRest.IsWired next := by
  have sameId := orderly.selfId_settled time domain
  refine { wired with
    consumerId := wired.consumerId.trans sameId.symm
    consumerDomain := rfl
    smallId := ?_
    created := fun new => absurd isOpen (orderly.blank new).1
    opened := fun isOpen => ?_ }
  · show textLength (channel.settled time domain).selfId.name < 2 ^ 64
    rw [sameId]
    exact wired.smallId
  · have serving := wired.opened isOpen
    exact ⟨serving.reached, serving.listensForItself, serving.hearsLeaving, serving.served⟩

end Channel

namespace Mesh

variable {mesh later : Mesh} {n m : Nat} {channel : Channel} {event : Event}

/-- From one mesh to a later one, an event was spread. -/
def Spreads (event : Event) (before after : Mesh) : Prop :=
  ∀ (m : Nat) (channel : Channel), before.channels[m]? = some channel →
    ∃ later, after.channels[m]? = some later ∧ channel.Hears event later

theorem Spreads.nothing (mesh : Mesh) (event : Event) : Spreads event mesh mesh :=
  fun _ channel found => ⟨channel, found, .nothing channel event⟩

theorem Spreads.trans {last : Mesh} (first : Spreads event mesh later)
    (second : Spreads event later last) : Spreads event mesh last := by
  intro m channel found
  obtain ⟨between, isBetween, hears⟩ := first m channel found
  obtain ⟨last, isLast, hearsMore⟩ := second m between isBetween
  exact ⟨last, isLast, hears.trans hearsMore⟩

/-- An event that is handed to a channel changes this channel, and leaves all others alone. -/
theorem hand_there (mesh : Mesh) (n : Nat) (event : Event) {m : Nat} {channel : Channel}
    (found : mesh.channels[m]? = some channel) :
    (mesh.hand n event).channels[m]? = some (if n = m then
      { channel with consumer := channel.consumer.accept event } else channel) := by
  have handed : (mesh.hand n event).channels = mesh.channels.modify n fun channel =>
      { channel with consumer := (mesh.channel n).consumer.accept event } := by
    unfold Mesh.hand
    dsimp only
    split
    · exact enqueue_channels _ _
    · rfl
  rw [handed, List.getElem?_modify, found]
  by_cases same : n = m
  · subst same
    rw [channel_eq found]
    exact congrArg some ((if_pos rfl).trans (if_pos rfl).symm)
  · exact congrArg some ((if_neg same).trans (if_neg same).symm)

theorem arrive_spreads (mesh : Mesh) (event : Event) (party : Party) :
    Spreads event mesh (mesh.arrive event party) := by
  cases party with
  | outsider receiver => exact .nothing mesh event
  | channel n =>
    intro m channel found
    refine ⟨_, hand_there (mesh.note _) n event found, ?_⟩
    split
    · exact channel.hears_accept event
    · exact .nothing channel event

theorem arriveAll_spreads (event : Event) (parties : List Party) :
    ∀ mesh : Mesh, Spreads event mesh (parties.foldl (arrive event) mesh) := by
  induction parties with
  | nil => exact fun mesh => .nothing mesh event
  | cons party rest ih => exact fun mesh => (arrive_spreads mesh event party).trans (ih _)

/-- **Everybody among those to whom an event is spread has it in its queue**, if it listens and has
room. -/
theorem arriveAll_reaches {event : Event} {parties : List Party} (reached : .channel m ∈ parties) :
    ∀ mesh : Mesh, mesh.channels[m]? = some channel →
      (∃ job ∈ (channel.consumer.accept event).pending, job.task.event = event) →
        ∃ later, (parties.foldl (arrive event) mesh).channels[m]? = some later ∧
          ∃ job ∈ later.consumer.pending, job.task.event = event := by
  induction parties with
  | nil => cases reached
  | cons party rest ih =>
    intro mesh found takes
    by_cases first : party = .channel m
    · subst first
      have handed : (mesh.arrive event (.channel m)).channels[m]? = some _ :=
        hand_there (mesh.note _) m event found
      rw [if_pos rfl] at handed
      obtain ⟨last, isLast, hears⟩ := arriveAll_spreads event rest _ m _ handed
      obtain ⟨job, queued, same⟩ := takes
      exact ⟨last, isLast, job, hears.kept queued, same⟩
    · refine ih ((List.mem_cons.mp reached).resolve_left fun eq => first eq.symm) _ ?_ takes
      cases party with
      | outsider receiver => exact found
      | channel n =>
        have other : n ≠ m := fun eq => first (congrArg Party.channel eq)
        have handed : (mesh.arrive event (.channel n)).channels[m]? = some _ :=
          hand_there (mesh.note _) n event found
        rw [if_neg other] at handed
        exact handed

/-! ### To leave a domain -/

/-- The event by which a channel says that it goes. -/
def parting (channel : Channel) (kind : ProtocolKind) (address : Address) : Event :=
  ⟨.named channel.domain, kind.text, [], channel.selfId, address⟩

/-- A departure tells of nobody. -/
theorem tellsOnly_parting (channel : Channel) (address : Address) (known : NodeId → Address → Prop) :
    (parting channel .leave address).TellsOnly known :=
  Event.tellsOnly_of_quiet (.inr (.inr rfl)) _ _ _ _

/-- To say that it goes, a channel that is reached somewhere broadcasts one event. -/
theorem farewell_eq {address : Address} (reached : channel.address = some address) (kind : ProtocolKind) :
    farewell channel kind = [.broadcast (parting channel kind address)] := by
  unfold farewell Channel.protocolEvent Channel.event
  rw [reached]
  rfl

theorem postAll_farewell (found : mesh.channels[n]? = some channel) {address : Address}
    (reached : channel.address = some address) {number : Nat}
    (group : channel.group = .memory ⟨number, true⟩) (kind : ProtocolKind) :
    mesh.postAll n (farewell channel kind) =
      (mesh.network.audience address).foldl (arrive (parting channel kind address))
        (mesh.note (.posted n (.broadcast (parting channel kind address)))) := by
  rw [farewell_eq reached kind]
  show (mesh.post n (.broadcast (parting channel kind address))).2 = _
  unfold Mesh.post
  dsimp only
  rw [channel_eq found, group]
  rfl

/-- A channel whose queue is open takes it that another one of its domain goes. -/
theorem accepts_parting {next : Nat} {other : Channel} (wired : other.atRest.IsWired next)
    (isOpen : other.IsOpen) (room : other.HasRoom) (sameDomain : other.domain = channel.domain)
    (differ : channel.selfId ≠ other.selfId) (address : Address) :
    ∃ job ∈ (other.consumer.accept (parting channel .leave address)).pending,
      job.task.event = parting channel .leave address := by
  have serving := wired.opened (Channel.isOpen_atRest.mpr isOpen)
  obtain ⟨pool, opened⟩ := Option.isSome_iff_exists.mp isOpen
  obtain ⟨rested, isRested, served⟩ := serving.served
  have sameRest : some pool.atRest = some rested := by
    rw [← isRested]
    show _ = other.consumer.pool.map Pool.atRest
    rw [opened]
    rfl
  rw [← Option.some.inj sameRest] at served
  obtain ⟨id, listens⟩ := serving.hearsLeaving
  refine Consumer.exists_pending_accept ?_ listens opened served (room pool opened)
  have ownId : other.consumer.selfId = other.selfId := wired.consumerId
  have ownDomain : other.consumer.domain = other.domain := wired.consumerDomain
  unfold Consumer.wants
  rw [ownId, ownDomain, sameDomain]
  exact Bool.and_eq_true_iff.mpr ⟨decide_eq_true differ, beq_self_eq_true _⟩

/-- **When a channel says that it leaves, its departure is queued with every other channel of its
domain** that has room for it, and nothing else is queued with anybody. -/
theorem farewell_heard (inOrder : mesh.InOrder) (found : mesh.channels[n]? = some channel)
    (isOpen : channel.IsOpen) :
    ∃ address, Spreads (parting channel .leave address) mesh
        (mesh.postAll n (farewell channel .leave)) ∧
      ∀ (m : Nat) (other : Channel), m ≠ n → mesh.channels[m]? = some other → other.IsOpen →
        other.HasRoom → other.domain = channel.domain →
          ∃ later, (mesh.postAll n (farewell channel .leave)).channels[m]? = some later ∧
            later.HasLeaveOf channel.selfId := by
  have isOpenAtRest := Channel.isOpen_atRest.mpr isOpen
  have here := InOrder.there found
  obtain ⟨number, group, _⟩ := inOrder.wired.joined n _ here isOpenAtRest
  obtain ⟨address, reached, _⟩ := ((inOrder.wired.at here).opened isOpenAtRest).reached
  have posted := postAll_farewell found reached group .leave
  refine ⟨address, ?_, fun m other isOther place otherIsOpen room sameDomain => ?_⟩
  · rw [posted]
    exact arriveAll_spreads _ _ (mesh.note _)
  · have there := InOrder.there place
    obtain ⟨place', _, takesPart⟩ := inOrder.wired.joined m _ there
      (Channel.isOpen_atRest.mpr otherIsOpen)
    have whole : mesh.network.IsWhole := fun address endpoint found =>
      (inOrder.wired.endpoints address endpoint found).1
    have differ : channel.selfId ≠ other.selfId := fun same =>
      isOther (inOrder.wired.distinctIds m n _ _ there here same.symm)
    obtain ⟨later, isLater, job, queued, same⟩ := arriveAll_reaches
      (Memory.Network.mem_audience whole takesPart address) (mesh.note _) place
      (accepts_parting (inOrder.wired.at there) otherIsOpen room sameDomain differ address)
    rw [posted]
    refine ⟨later, isLater, job, queued, ?_⟩
    rw [same]
    exact ⟨rfl, rfl⟩

/-! ### To be in another domain -/

/-- A channel that is a member of a domain is in this domain. -/
theorem InOrder.domain_of_isMember (inOrder : mesh.InOrder) (found : mesh.channels[n]? = some channel)
    {domain : String} {address : Address}
    (isMember : mesh.roster.IsMember domain channel.selfId address) : channel.domain = domain := by
  obtain ⟨self, listed, named, inDomain, _⟩ := isMember
  obtain ⟨m, place⟩ := List.mem_iff_getElem?.mp listed
  rw [inOrder.wired.distinctIds m n self _ place (there found) named, there found] at place
  rw [← Option.some.inj place] at inDomain
  exact inDomain

/-- What must hold of another channel when one goes to another domain: nothing that is queued with it
tells of the one that goes, and if it knows it, it has been told. -/
structure IsMissedBy (id : NodeId) (other : Channel) : Prop where
  silent : ∀ job ∈ other.consumer.pending, job.task.event.TellsOnly fun told _ => told ≠ id
  told : other.IsOpen → ∀ key address, other.view.Files key id address → other.HasLeaveOf id

/-- Who misses a channel is in order with those that stay when it goes. -/
theorem IsMissedBy.orderly {id : NodeId} {other : Channel} {known staying : NodeId → Address → Prop}
    (missed : IsMissedBy id other) (orderly : other.Orderly False known)
    (stay : ∀ told address, known told address → told ≠ id → staying told address) :
    other.Orderly False staying := by
  obtain ⟨silent, told⟩ := missed
  refine ⟨orderly.unwatched, orderly.idle, orderly.blank, fun job queued => ?_,
    fun isOpen key id' address files => ?_, orderly.unattended⟩
  · obtain ⟨listener, honest⟩ := orderly.honest job queued
    exact ⟨listener, (honest.and (silent job queued)).mono fun told address ⟨isKnown, differs⟩ =>
      stay told address isKnown differs⟩
  · obtain ⟨filed, isKnown | leaves⟩ := orderly.informed isOpen key id' address files
    · refine ⟨filed, ?_⟩
      by_cases same : id' = id
      · subst same
        exact .inr ⟨not_false, told isOpen key address files⟩
      · exact .inl (stay id' address isKnown same)
    · exact ⟨filed, .inr leaves⟩

namespace InOrder

/-- **A channel is in another domain in order**, if it has forgotten everybody, and others will forget
it. -/
theorem settleIn (inOrder : mesh.InOrder) (found : mesh.channels[n]? = some channel)
    (isOpen : channel.IsOpen) (domain : String)
    (silent : ∀ job ∈ channel.consumer.pending, job.task.event.TellsOnly fun _ _ => False)
    (missed : ∀ m other, m ≠ n → mesh.channels[m]? = some other →
      IsMissedBy channel.selfId other) : (mesh.settleIn n domain).InOrder := by
  have each := inOrder.orderly.each n channel found
  have differs := (Differs.nothing found).modify (·.settled mesh.time domain)
  have change := inOrder.wired.change (there found) (roster_channels differs.channels) rfl
    (each.selfId_settled mesh.time domain) rfl rfl id
    ((inOrder.wired.at (there found)).settled each isOpen mesh.time domain)
  exact inOrder.replace found differs.channels inOrder.orderly.noErrands change
    (each.settled isOpen silent mesh.time domain) fun m other isOther place =>
      (missed m other isOther place).orderly (inOrder.orderly.each m other place)
        fun _ _ isMember differs => change.isMember_of_ne (there found) isMember differs

theorem register (inOrder : mesh.InOrder) (n : Nat) : (mesh.register n).InOrder := by
  have linked : (mesh.modify n ({ · with isLinked := true })).InOrder := by
    refine inOrder.of_orderly (inOrder.orderly.modify n fun channel found => ⟨rfl, ?_⟩)
    have each := inOrder.orderly.each n channel found
    exact ⟨each.unwatched, each.idle, each.blank, each.honest, each.informed, each.unattended⟩
  unfold Mesh.register
  dsimp only
  split
  · exact linked
  · exact linked.of_same rfl rfl rfl

theorem unregister (inOrder : mesh.InOrder) (n : Nat) : (mesh.unregister n).2.InOrder :=
  inOrder.of_same rfl rfl rfl

theorem resync (inOrder : mesh.InOrder) (n : Nat) : (mesh.resync n).InOrder := by
  unfold Mesh.resync
  split
  · refine (inOrder.of_orderly (inOrder.orderly.modify n fun channel found => ?_)).of_same rfl rfl rfl
    have each := inOrder.orderly.each n channel found
    unfold Channel.resync
    split
    · exact ⟨rfl, each.unwatched, each.idle, each.blank, each.honest, each.informed, each.unattended⟩
    · exact ⟨rfl, each⟩
  · exact inOrder

end InOrder

/-- **What a channel waits for before it moves**: nothing that is queued with it tells of anybody, nothing
that is queued with others tells of it, and all others that know it have room for its departure. -/
structure IsFreeToMove (mesh : Mesh) (n : Nat) : Prop where
  silent : ∀ channel, mesh.channels[n]? = some channel →
    ∀ job ∈ channel.consumer.pending, job.task.event.TellsOnly fun _ _ => False
  unmentioned : ∀ m other, m ≠ n → mesh.channels[m]? = some other →
    ∀ job ∈ other.consumer.pending, job.task.event.TellsOnly fun id _ => id ≠ (mesh.channel n).selfId
  room : ∀ m other, m ≠ n → mesh.channels[m]? = some other →
    other.view.isLive (mesh.channel n).selfId = true → other.HasRoom

theorem IsFreeToMove.of_same (free : mesh.IsFreeToMove n) (same : later.channels = mesh.channels) :
    later.IsFreeToMove n := by
  have self : later.channel n = mesh.channel n := by
    unfold Mesh.channel
    rw [same]
  obtain ⟨silent, unmentioned, room⟩ := free
  rw [← self] at unmentioned room
  rw [← same] at silent unmentioned room
  exact ⟨silent, unmentioned, room⟩

namespace InOrder

/-- Everybody misses a channel that was free to move and has said that it leaves. -/
theorem farewell_missed (inOrder : mesh.InOrder) (found : mesh.channels[n]? = some channel)
    (isOpen : channel.IsOpen) (free : mesh.IsFreeToMove n) {other after : Channel} (isOther : m ≠ n)
    (was : mesh.channels[m]? = some other)
    (is : (mesh.postAll n (farewell channel .leave)).channels[m]? = some after) :
    IsMissedBy channel.selfId after := by
  obtain ⟨address, spreads, heard⟩ := farewell_heard inOrder found isOpen
  obtain ⟨later, isLater, hears⟩ := spreads m other was
  obtain rfl := Option.some.inj (isLater.symm.trans is)
  have view : later.view = other.view := congrArg Detector.view hears.detector
  refine ⟨fun job queued => ?_, fun laterIsOpen key place files => ?_⟩
  · rcases hears.nothingElse job queued with earlier | new
    · rw [← channel_eq found]
      exact free.unmentioned m other isOther was job earlier
    · rw [new]
      exact tellsOnly_parting channel address _
  · rw [view] at files
    have wasOpen := (Channel.isOpen_of_atRest hears.atRest).mp laterIsOpen
    obtain ⟨filed, isMember | ⟨_, leave, queued, leaves⟩⟩ :=
      (inOrder.orderly.each m other was).informed wasOpen key _ place files
    · -- whoever knows the channel as a member is of its domain, and was told
      have room : other.HasRoom := by
        refine free.room m other isOther was ?_
        obtain ⟨member, known, _⟩ := files
        rw [channel_eq found, ← filed]
        unfold View.isLive Table.contains
        rw [known]
        rfl
      obtain ⟨told, isTold, leaves⟩ := heard m other isOther was wasOpen room
        (inOrder.domain_of_isMember found isMember).symm
      rw [Option.some.inj (isTold.symm.trans is)] at leaves
      exact leaves
    · exact ⟨leave, hears.kept queued, leaves⟩

/-- A channel that has said that it leaves may be in another domain. -/
theorem leave (inOrder : mesh.InOrder) (found : mesh.channels[n]? = some channel)
    (started : channel.phase = .started) (free : mesh.IsFreeToMove n) (domain : String) :
    ((mesh.postAll n (farewell channel .leave)).settleIn n domain).InOrder := by
  have here := there found
  have isOpen := Channel.isOpen_atRest.mp ((inOrder.wired.at here).started started)
  have said := Orderly.postAll inOrder.wired here (farewell channel .leave) _ inOrder.orderly
    (Roster.allows_farewell channel (.inr (.inr rfl)))
  obtain ⟨address, spreads, _⟩ := farewell_heard inOrder found isOpen
  obtain ⟨later, isLater, hears⟩ := spreads n channel found
  have sameId : later.selfId = channel.selfId :=
    congrArg (fun detector : Detector => detector.view.selfId) hears.detector
  have laterIsOpen := (Channel.isOpen_of_atRest hears.atRest).mpr isOpen
  refine (inOrder.of_orderly said).settleIn isLater laterIsOpen domain (fun job queued => ?_)
    fun m other isOther is => ?_
  · rcases hears.nothingElse job queued with earlier | new
    · exact free.silent channel found job earlier
    · rw [new]
      exact tellsOnly_parting channel address _
  · obtain ⟨before, was, _⟩ := inOrder.orderly.exists_channel (said.there is)
    rw [sameId]
    exact inOrder.farewell_missed found isOpen free isOther was is

/-- **A channel that is free to move changes its domain in order.** -/
theorem changeDomain (inOrder : mesh.InOrder) {domain : String}
    (free : (mesh.channel n).phase = .started → (mesh.channel n).domain ≠ domain → mesh.IsFreeToMove n) :
    (mesh.changeDomain n domain).2.InOrder := by
  unfold Mesh.changeDomain
  dsimp only
  cases found : mesh.channels[n]? with
  | none =>
    rw [channel_default found]
    exact inOrder
  | some channel =>
    rw [channel_eq found] at free ⊢
    cases phase : channel.phase with
    | created | closed =>
      unfold Channel.gate
      rw [phase]
      exact inOrder
    | started =>
      unfold Channel.gate
      rw [phase]
      dsimp only
      split
      · exact inOrder
      · rename_i differs
        have moved {unlinked : Mesh} (inOrder : unlinked.InOrder)
            (same : unlinked.channels = mesh.channels) :
            ((unlinked.postAll n (farewell channel .leave)).settleIn n domain).InOrder := by
          refine inOrder.leave ?_ phase ((free phase differs).of_same same) domain
          rw [same]
          exact found
        by_cases linked : channel.isLinked = true
        · rw [if_pos linked, if_pos linked]
          exact ((moved (inOrder.unregister n) rfl).register n).resync n
        · rw [if_neg linked, if_neg linked]
          exact (moved inOrder rfl).resync n

end InOrder

end Mesh

end PeerMesh
