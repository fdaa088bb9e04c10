/-
**What traffic does not change about a mesh, and what it keeps in order.**

* `Roster` — the channels of a mesh without what traffic changes about them, and their network.
  `Roster.IsMember` says which node is reached where in which domain.
* `Roster.Wired` — ids and addresses are distinct, everybody who can be reached is a channel with that
  address, and the channels whose queues are open take part in broadcasts and listen to the protocol
  events alone.
* `Mesh.Orderly` — the mesh has a given roster, queued events tell only of members of the domain of
  the channel with which they are queued, and every peer of a channel whose queue is open is a member of
  the channel's domain or somebody whose departure is queued with the channel. A *firm* channel has no
  peers of the second sort.
* `Orderly.hand`, `Orderly.post` — events that tell every receiver only of members of its domain keep
  a mesh orderly.
-/

import PeerMesh.Mesh.Operations
import PeerMesh.Proofs.Channel.Tidings

namespace PeerMesh

/-! ### Lists of which one place changes -/

section

variable {α β : Type} {list : List α} {n : Nat} {change : α → α}

theorem cases_modify {m : Nat} {item : α} (found : (list.modify n change)[m]? = some item) :
    (m = n ∧ ∃ earlier, list[n]? = some earlier ∧ item = change earlier) ∨
      (m ≠ n ∧ list[m]? = some item) := by
  by_cases same : n = m
  · subst same
    rw [List.getElem?_modify_eq] at found
    obtain ⟨earlier, was, rfl⟩ := Option.map_eq_some_iff.mp found
    exact .inl ⟨rfl, earlier, was, rfl⟩
  · rw [List.getElem?_modify_ne _ _ same] at found
    exact .inr ⟨fun eq => same eq.symm, found⟩

/-- What is seen of a list changes in the same place. -/
theorem map_modify {seen : α → β} {changeSeen : β → β}
    (changes : ∀ item, list[n]? = some item → seen (change item) = changeSeen (seen item)) :
    (list.modify n change).map seen = (list.map seen).modify n changeSeen := by
  refine List.ext_getElem? fun m => ?_
  by_cases same : n = m
  · subst same
    rw [List.getElem?_map, List.getElem?_modify_eq, List.getElem?_modify_eq, List.getElem?_map]
    cases found : list[n]? with
    | none => rfl
    | some item => exact congrArg some (changes item found)
  · rw [List.getElem?_map, List.getElem?_modify_ne _ _ same, List.getElem?_modify_ne _ _ same,
      List.getElem?_map]

end

/-! ### Rosters -/

/-- The channels of a mesh without what traffic changes about them, and their network. -/
structure Roster where
  channels : List Channel
  network : Memory.Network Party

/-- The roster of a mesh. -/
def Mesh.roster (mesh : Mesh) : Roster := ⟨mesh.channels.map Channel.atRest, mesh.network⟩

/-- A node of this id is a member of this domain, and is reached at this address if it is reached at
all. -/
def Roster.IsMember (roster : Roster) (domain : String) (id : NodeId) (address : Address) : Prop :=
  ∃ channel ∈ roster.channels,
    channel.selfId = id ∧ channel.domain = domain ∧ channel.address = some address

namespace Channel

/-- The queue for inbound events is open. -/
def IsOpen (channel : Channel) : Prop := channel.consumer.pool.isSome = true

/-- The channel is reached, listens to the protocol events and to nothing else, and its queue is
served. -/
structure IsServing (channel : Channel) : Prop where
  reached : ∃ address, channel.address = some address ∧ channel.line = .memory ⟨some address⟩
  listensForItself : ∀ kind, ∀ entry ∈ channel.consumer.asyncOf kind, entry.2 = .protocol
  hearsLeaving : ∃ id, channel.consumer.asyncOf ProtocolKind.leave.text = [(id, .protocol)]
  served : ∃ pool, channel.consumer.pool = some pool ∧ pool.isServed = true

/-- What holds of each channel of a network whose counter stands at a number. -/
structure IsWired (next : Nat) (channel : Channel) : Prop where
  group : ∃ number isStarted, channel.group = .memory ⟨number, isStarted⟩ ∧ number < next
  line : ∃ own, channel.line = .memory own ∧
    (own.address = none ∨ own.address = channel.address)
  numbered : ∀ address, channel.address = some address →
    textLength address.text < 2 ^ 64 ∧ ∃ number < next, address = Memory.addressOf number
  consumerId : channel.consumer.selfId = channel.selfId
  consumerDomain : channel.consumer.domain = channel.domain
  smallId : textLength channel.selfId.name < 2 ^ 64
  smallBatch : channel.settings.batchSize < 2 ^ 64
  sendsNothing : ∀ pool, channel.publisher = some pool → pool.queue = []
  undisturbed : channel.calling = .nobody
  present : channel.isGone = false
  created : channel.phase = .created →
    channel.address = none ∧ channel.consumer = .new channel.selfId channel.domain
  started : channel.phase = .started → channel.IsOpen
  opened : channel.IsOpen → channel.IsServing

/-- The departure of a node is queued with the channel. -/
def HasLeaveOf (channel : Channel) (id : NodeId) : Prop :=
  ∃ job ∈ channel.consumer.pending,
    job.task.event.kind = ProtocolKind.leave.text ∧ job.task.event.origin = id

/-- The queue and the view of a channel are in order, where `known` are the members of its domain. -/
structure Orderly (channel : Channel) (firm : Prop) (known : NodeId → Address → Prop) : Prop where
  unwatched : channel.detector.watched.registered = []
  idle : ¬ channel.IsOpen → channel.detector.scheduler = .off ∧ channel.detector.round = none
  blank : channel.phase = .created →
    ¬ channel.IsOpen ∧ ∀ key id address, ¬ channel.view.Files key id address
  honest : ∀ job ∈ channel.consumer.pending,
    job.task.listener = .protocol ∧ job.task.event.TellsOnly known
  informed : channel.IsOpen → ∀ key id address, channel.view.Files key id address →
    key = id ∧ (known id address ∨ (¬ firm ∧ channel.HasLeaveOf id))
  /-- Nothing is left of a pool that was shut down. -/
  unattended : channel.consumer.remnant = none

variable {channel later : Channel} {firm : Prop} {known : NodeId → Address → Prop}

/-- What is queued is queued with an open pool. -/
theorem isOpen_of_pending {job : Job (Delivery Listener)} (unattended : channel.consumer.remnant = none)
    (queued : job ∈ channel.consumer.pending) : channel.IsOpen := by
  unfold Consumer.pending Consumer.workforce? at queued
  unfold IsOpen
  cases opened : channel.consumer.pool with
  | none =>
    rw [opened, unattended] at queued
    cases queued
  | some pool => rfl

/-- Whether anything is left of a pool is not touched by deliveries. -/
theorem unattended_of_atRest (same : later.consumer.atRest = channel.consumer.atRest)
    (unattended : channel.consumer.remnant = none) : later.consumer.remnant = none := by
  have left : later.consumer.remnant.map Pool.atRest = channel.consumer.remnant.map Pool.atRest :=
    congrArg Consumer.remnant same
  rw [unattended] at left
  exact Option.map_eq_none_iff.mp left

theorem isOpen_atRest : channel.atRest.IsOpen ↔ channel.IsOpen := by
  show (channel.consumer.pool.map Pool.atRest).isSome = true ↔ _
  rw [Option.isSome_map]
  rfl

theorem isOpen_of_atRest (same : later.atRest = channel.atRest) : later.IsOpen ↔ channel.IsOpen := by
  rw [← isOpen_atRest, same]
  exact isOpen_atRest

theorem phase_of_atRest (same : later.atRest = channel.atRest) : later.phase = channel.phase := by
  show later.atRest.phase = channel.atRest.phase
  rw [same]

theorem domain_of_atRest (same : later.atRest = channel.atRest) :
    later.domain = channel.domain := by
  show later.atRest.domain = channel.atRest.domain
  rw [same]

/-- A channel that learns of members of its domain stays in order, unless it was not started before. -/
theorem Orderly.learns (orderly : channel.Orderly firm known) (learns : channel.Learns known later)
    (notNew : channel.phase ≠ .created) : later.Orderly firm known := by
  have opened := isOpen_of_atRest learns.atRest
  refine ⟨learns.unwatched, fun idle => ?_, fun new => ?_, ?_, fun isOpen key id address files => ?_, ?_⟩
  · rw [opened] at idle
    rw [learns.scheduler, learns.round]
    exact orderly.idle idle
  · rw [phase_of_atRest learns.atRest] at new
    exact absurd new notNew
  · rw [learns.consumer]
    exact orderly.honest
  · rw [opened] at isOpen
    rcases learns.known key id address files with earlier | ⟨filed, new⟩
    · obtain ⟨filed, member | ⟨notFirm, job, queued, leave⟩⟩ :=
        orderly.informed isOpen key id address earlier
      · exact ⟨filed, .inl member⟩
      · rw [← learns.consumer] at queued
        exact ⟨filed, .inr ⟨notFirm, job, queued, leave⟩⟩
    · exact ⟨filed, .inl new⟩
  · rw [learns.consumer]
    exact orderly.unattended

end Channel

namespace Roster

variable {roster : Roster}

/-- Ids and addresses are distinct, everybody who can be reached is a channel at its address, and the
channels whose queues are open take part in broadcasts. -/
structure Wired (roster : Roster) : Prop where
  distinctIds : ∀ (n m : Nat) (first second : Channel), roster.channels[n]? = some first →
    roster.channels[m]? = some second → first.selfId = second.selfId → n = m
  distinctAddresses : ∀ (n m : Nat) (first second : Channel) (address : Address),
    roster.channels[n]? = some first → roster.channels[m]? = some second →
      first.address = some address → second.address = some address → n = m
  distinctGroups : ∀ (n m : Nat) (first second : Channel) (number : Nat) (joined joined' : Bool),
    roster.channels[n]? = some first → roster.channels[m]? = some second →
      first.group = .memory ⟨number, joined⟩ → second.group = .memory ⟨number, joined'⟩ → n = m
  endpoints : ∀ address endpoint, roster.network.unicast.get? address = some endpoint →
    endpoint.isReachable = true ∧ ∃ (n : Nat) (channel : Channel),
      endpoint.receiver = .channel n ∧ roster.channels[n]? = some channel ∧ channel.address = some address
  joined : ∀ (n : Nat) (channel : Channel), roster.channels[n]? = some channel →
    channel.IsOpen → ∃ number, channel.group = .memory ⟨number, true⟩ ∧
      roster.network.groups.get? number = some (.channel n)
  each : ∀ channel ∈ roster.channels, channel.IsWired roster.network.nextNumber

/-- Whoever is reached at the address of a member of a domain is in this domain. -/
theorem Wired.domain_of_address (wired : roster.Wired) {n : Nat} {channel : Channel}
    {domain : String} {id : NodeId} {address : Address} (there : roster.channels[n]? = some channel)
    (reached : channel.address = some address) (isMember : roster.IsMember domain id address) :
    channel.domain = domain := by
  obtain ⟨other, listed, _, inDomain, place⟩ := isMember
  obtain ⟨m, found⟩ := List.mem_iff_getElem?.mp listed
  have same := wired.distinctAddresses n m channel other address there found reached place
  rw [same, found] at there
  rw [← Option.some.inj there]
  exact inDomain

end Roster

namespace Mesh

theorem channel_eq {mesh : Mesh} {n : Nat} {channel : Channel}
    (there : mesh.channels[n]? = some channel) : mesh.channel n = channel := by
  unfold Mesh.channel
  rw [there]
  rfl

theorem channel_default {mesh : Mesh} {n : Nat} (absent : mesh.channels[n]? = none) :
    mesh.channel n = default := by
  unfold Mesh.channel
  rw [absent]
  rfl

theorem channel_of_absent {mesh : Mesh} {n : Nat} (absent : mesh.channels.length ≤ n) : mesh.channel n = default :=
  channel_default (List.getElem?_eq_none absent)

/-- Whatever is in a phase beyond the first is there. -/
theorem there_of_phase {mesh : Mesh} {n : Nat} {phase : Phase} (inPhase : (mesh.channel n).phase = phase)
    (differs : phase ≠ .created) : n < mesh.channels.length := by
  by_contra absent
  rw [channel_of_absent (Nat.le_of_not_lt absent)] at inPhase
  exact differs inPhase.symm

/-- A channel that is reached over the network needs no socket. -/
theorem listen_of_memory {mesh : Mesh} {n : Nat} {own : Memory.UnicastEnd}
    (line : (mesh.channel n).line = .memory own) : mesh.listen n = (.ok (), mesh) := by
  unfold listen
  dsimp only
  rw [line]

@[simp] theorem enqueue_channels (mesh : Mesh) (move : Move) :
    (mesh.enqueue move).channels = mesh.channels := by
  unfold enqueue
  split <;> rfl

@[simp] theorem enqueue_network (mesh : Mesh) (move : Move) :
    (mesh.enqueue move).network = mesh.network := by
  unfold enqueue
  split <;> rfl

@[simp] theorem enqueue_errands (mesh : Mesh) (move : Move) :
    (mesh.enqueue move).errands = mesh.errands := by
  unfold enqueue
  split <;> rfl

/-- The mesh has the roster, nobody waits for a reply on behalf of others, and the queue and the view
of each channel are in order. -/
structure Orderly (roster : Roster) (firm : Nat → Prop) (mesh : Mesh) : Prop where
  sameRoster : mesh.roster = roster
  noErrands : mesh.errands = []
  each : ∀ (n : Nat) (channel : Channel), mesh.channels[n]? = some channel →
    channel.Orderly (firm n) (roster.IsMember channel.domain)

variable {roster : Roster} {firm : Nat → Prop} {mesh later : Mesh}

namespace Orderly

/-- Only the channels, the network and the errands matter. -/
theorem of_same (orderly : mesh.Orderly roster firm) (channels : later.channels = mesh.channels)
    (network : later.network = mesh.network) (errands : later.errands = mesh.errands) :
    later.Orderly roster firm := by
  refine ⟨?_, errands.trans orderly.noErrands, fun n channel there => ?_⟩
  · rw [← orderly.sameRoster]
    unfold Mesh.roster
    rw [channels, network]
  · rw [channels] at there
    exact orderly.each n channel there

theorem enqueue (orderly : mesh.Orderly roster firm) (move : Move) :
    (mesh.enqueue move).Orderly roster firm :=
  orderly.of_same (enqueue_channels mesh move) (enqueue_network mesh move)
    (enqueue_errands mesh move)

theorem note (orderly : mesh.Orderly roster firm) (occurrence : Occurrence) :
    (mesh.note occurrence).Orderly roster firm :=
  orderly.of_same rfl rfl rfl

theorem network_eq (orderly : mesh.Orderly roster firm) : mesh.network = roster.network :=
  congrArg Roster.network orderly.sameRoster

/-- The channels of a mesh are those of its roster, but for what traffic changes. -/
theorem there (orderly : mesh.Orderly roster firm) {n : Nat} {channel : Channel}
    (found : mesh.channels[n]? = some channel) : roster.channels[n]? = some channel.atRest := by
  rw [← orderly.sameRoster]
  show (mesh.channels.map Channel.atRest)[n]? = _
  rw [List.getElem?_map, found]
  rfl

theorem exists_channel (orderly : mesh.Orderly roster firm) {n : Nat} {self : Channel}
    (listed : roster.channels[n]? = some self) :
    ∃ channel, mesh.channels[n]? = some channel ∧ channel.atRest = self := by
  rw [← orderly.sameRoster] at listed
  have mapped : (mesh.channels.map Channel.atRest)[n]? = some self := listed
  rw [List.getElem?_map] at mapped
  exact Option.map_eq_some_iff.mp mapped

/-- A change of one channel that keeps it in order, and that traffic may make, keeps the mesh in
order. -/
theorem modify (orderly : mesh.Orderly roster firm) (n : Nat) {change : Channel → Channel}
    (changes : ∀ channel, mesh.channels[n]? = some channel →
      (change channel).atRest = channel.atRest ∧
        (change channel).Orderly (firm n) (roster.IsMember channel.domain)) :
    (mesh.modify n change).Orderly roster firm := by
  refine ⟨?_, orderly.noErrands, fun m channel found => ?_⟩
  · rw [← orderly.sameRoster]
    show Roster.mk ((mesh.channels.modify n change).map Channel.atRest) mesh.network = _
    have atRest : (mesh.channels.modify n change).map Channel.atRest =
        (mesh.channels.map Channel.atRest).modify n id :=
      map_modify fun channel found => (changes channel found).1
    rw [atRest, List.modify_id]
    rfl
  · rcases cases_modify found with ⟨rfl, earlier, was, rfl⟩ | ⟨_, was⟩
    · rw [Channel.domain_of_atRest (changes earlier was).1]
      exact (changes earlier was).2
    · exact orderly.each m channel was

end Orderly

end Mesh

end PeerMesh
