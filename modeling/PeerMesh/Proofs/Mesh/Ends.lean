/-
**The ends of channels on the network, and what is done to one channel alone.**

* `Mesh.IsMatched` — whatever the network holds of a channel is an end that the channel has.
* `Mesh.Alters` — from one mesh to a later one a single channel has changed, though neither its phase nor its
  domain, and nothing has happened to any.
* `startParts_alters`, `teardown_alters` — what starts a channel and what takes it apart, and
  `IsMatched.startParts`, `IsMatched.teardown` what this does to its ends.
* **`teardown_isInert`** — a closed channel is inert when it was taken apart.
-/

import PeerMesh.Proofs.Mesh.Workings

namespace PeerMesh

/-! ### Links that are closed -/

/-- A link that is closed takes its address from the network. -/
theorem UnicastLink.endpoint_of_close {ρ : Type} {line : UnicastLink} {network : Memory.Network ρ}
    {address : Address} {endpoint : Memory.Endpoint ρ}
    (found : (line.close network).2.unicast.get? address = some endpoint) :
    network.unicast.get? address = some endpoint ∧ line.own? ≠ some ⟨some address⟩ := by
  cases line with
  | stream client => exact ⟨found, fun own => nomatch own⟩
  | memory own =>
    have closed : (own.close network).2.unicast.get? address = some endpoint := found
    unfold Memory.UnicastEnd.close at closed
    split at closed
    · rename_i nowhere
      refine ⟨closed, fun same => ?_⟩
      cases same
      cases nowhere
    · rename_i place there
      rw [Table.get?_erase] at closed
      split at closed
      · cases closed
      · rename_i other
        refine ⟨closed, fun same => other ?_⟩
        cases same
        cases there
        rfl

theorem UnicastLink.groups_close {ρ : Type} (line : UnicastLink) (network : Memory.Network ρ) :
    (line.close network).2.groups = network.groups := by
  cases line with
  | stream client => rfl
  | memory own =>
    show (own.close network).2.groups = _
    unfold Memory.UnicastEnd.close
    split <;> rfl

/-- A link that is closed takes its member from the group. -/
theorem GroupLink.member_of_close {ρ : Type} {group : GroupLink} {network : Memory.Network ρ} {number : Nat}
    {receiver : ρ} (found : (group.close network).2.groups.get? number = some receiver) :
    network.groups.get? number = some receiver ∧ group ≠ .memory ⟨number, true⟩ := by
  cases group with
  | datagram member => exact ⟨found, fun same => nomatch same⟩
  | memory member =>
    have closed : (member.close network).2.groups.get? number = some receiver := found
    unfold Memory.GroupEnd.close at closed
    split at closed
    · rw [Table.get?_erase] at closed
      split at closed
      · cases closed
      · rename_i other
        exact ⟨closed, fun same => other (by cases same; rfl)⟩
    · rename_i notStarted
      exact ⟨closed, fun same => notStarted (by cases same; rfl)⟩

theorem GroupLink.unicast_close {ρ : Type} (group : GroupLink) (network : Memory.Network ρ) :
    (group.close network).2.unicast = network.unicast := by
  cases group with
  | datagram member => rfl
  | memory member =>
    show (member.close network).2.unicast = _
    unfold Memory.GroupEnd.close
    split <;> rfl

namespace Channel

/-- The channel is reached nowhere on the network. -/
structure HasNoEnds (channel : Channel) : Prop where
  line : ∀ address, channel.line.own? ≠ some ⟨some address⟩
  group : ∀ number, channel.group ≠ .memory ⟨number, true⟩

variable {channel later : Channel}

theorem HasNoEnds.of_standing (noEnds : channel.HasNoEnds) (same : later.standing = channel.standing) :
    later.HasNoEnds := by
  have line : later.line.own? = channel.line.own? := congrArg Standing.own? same
  have group : later.group = channel.group := congrArg Standing.group same
  refine ⟨fun address => ?_, fun number => ?_⟩
  · rw [line]
    exact noEnds.line address
  · rw [group]
    exact noEnds.group number

theorem IsInert.hasNoEnds (inert : channel.IsInert) : channel.HasNoEnds := by
  refine ⟨fun address reached => ?_, fun number joined => ?_⟩
  · have idle := inert.noLine
    cases line : channel.line with
    | stream client =>
      rw [line] at reached
      cases reached
    | memory own =>
      rw [line] at reached idle
      cases reached
      cases idle
  · have idle := inert.noGroup
    rw [joined] at idle
    cases idle

/-! ### The parts of a start within the channel -/

theorem openQueues_standing (channel : Channel) : channel.openQueues.2.standing = channel.standing := by
  unfold openQueues
  dsimp only
  split <;> rfl

theorem enlist_standing (channel : Channel) : channel.enlist.2.standing = channel.standing := by
  have enlisted : (ProtocolKind.all.foldl enlistFor channel).standing = channel.standing := by
    refine List.foldlRecOn (motive := fun between : Channel => between.standing = channel.standing)
      ProtocolKind.all _ rfl fun between same kind _ => ?_
    rw [← same]
    unfold enlistFor
    split <;> rfl
  rw [← enlisted]
  unfold enlist
  dsimp only
  split <;> rfl

end Channel

namespace Mesh

/-- Whatever the network holds of a channel is an end that the channel has. -/
structure IsMatched (mesh : Mesh) : Prop where
  unicast : mesh.network.unicast.All fun address endpoint => ∀ n, endpoint.receiver = .channel n →
    (mesh.channel n).line.own? = some ⟨some address⟩
  groups : mesh.network.groups.All fun number receiver => ∀ n, receiver = .channel n →
    (mesh.channel n).group = .memory ⟨number, true⟩

variable {mesh later last : Mesh} {n : Nat}

/-- The network and the ends of all channels are the same. -/
theorem IsMatched.of_ends (matched : mesh.IsMatched) (network : later.network = mesh.network)
    (line : ∀ n, (later.channel n).line.own? = (mesh.channel n).line.own?)
    (group : ∀ n, (later.channel n).group = (mesh.channel n).group) : later.IsMatched := by
  refine ⟨?_, ?_⟩
  · rw [network]
    intro address endpoint found m receives
    rw [line]
    exact matched.unicast address endpoint found m receives
  · rw [network]
    intro number receiver found m receives
    rw [group]
    exact matched.groups number receiver found m receives

theorem IsMatched.of_standing (matched : mesh.IsMatched) (network : later.network = mesh.network)
    (standing : ∀ n, (later.channel n).standing = (mesh.channel n).standing) : later.IsMatched :=
  matched.of_ends network (fun n => congrArg Channel.Standing.own? (standing n))
    fun n => congrArg Channel.Standing.group (standing n)

/-- All channels but one are the same, and what the network holds of the others it has held before. -/
theorem IsMatched.of_others (matched : mesh.IsMatched) (others : ∀ m, m ≠ n → later.channel m = mesh.channel m)
    (unicast : later.network.unicast.All fun address endpoint =>
      (endpoint.receiver = .channel n → (later.channel n).line.own? = some ⟨some address⟩) ∧
        (endpoint.receiver ≠ .channel n → mesh.network.unicast.get? address = some endpoint))
    (groups : later.network.groups.All fun number receiver =>
      (receiver = .channel n → (later.channel n).group = .memory ⟨number, true⟩) ∧
        (receiver ≠ .channel n → mesh.network.groups.get? number = some receiver)) : later.IsMatched := by
  refine ⟨fun address endpoint found m receives => ?_, fun number receiver found m receives => ?_⟩
  · obtain ⟨own, other⟩ := unicast address endpoint found
    by_cases same : m = n
    · subst same
      exact own receives
    · rw [others m same]
      exact matched.unicast address endpoint (other fun eq => same (Party.channel.inj (receives.symm.trans eq)))
        m receives
  · obtain ⟨own, other⟩ := groups number receiver found
    by_cases same : m = n
    · subst same
      exact own receives
    · rw [others m same]
      exact matched.groups number receiver (other fun eq => same (Party.channel.inj (receives.symm.trans eq)))
        m receives

/-- A channel changes that keeps its ends. -/
theorem IsMatched.modify (matched : mesh.IsMatched) (n : Nat) {change : Channel → Channel}
    (line : (change (mesh.channel n)).line.own? = (mesh.channel n).line.own?)
    (group : (change (mesh.channel n)).group = (mesh.channel n).group) : (mesh.modify n change).IsMatched := by
  refine matched.of_ends rfl (fun m => ?_) fun m => ?_
  · rcases mesh.channel_modify_cases n change m with same | ⟨rfl, changed⟩
    · rw [same]
    · rw [changed, line]
  · rcases mesh.channel_modify_cases n change m with same | ⟨rfl, changed⟩
    · rw [same]
    · rw [changed, group]

/-! ### One channel alone -/

/-- A single channel has changed, though neither its phase nor its domain nor whether it was ever
registered, and nothing has happened to any. -/
structure Alters (n : Nat) (before after : Mesh) : Prop where
  registry : after.registry = before.registry
  ports : ∀ m, m ≠ n → after.portsOf m = before.portsOf m
  count : after.channels.length = before.channels.length
  others : ∀ m, m ≠ n → after.channel m = before.channel m
  phase : (after.channel n).phase = (before.channel n).phase
  domain : (after.channel n).domain = (before.channel n).domain
  isLinked : (after.channel n).isLinked = (before.channel n).isLinked
  log : after.log = before.log
  waiting : after.gate.waiting ⊆ before.gate.waiting
  errands : after.errands ⊆ before.errands

theorem Alters.refl (n : Nat) (mesh : Mesh) : mesh.Alters n mesh :=
  ⟨rfl, fun _ _ => rfl, rfl, fun _ _ => rfl, rfl, rfl, rfl, rfl, List.Subset.refl _, List.Subset.refl _⟩

theorem Alters.trans (first : mesh.Alters n later) (second : later.Alters n last) : mesh.Alters n last where
  registry := second.registry.trans first.registry
  ports m other := (second.ports m other).trans (first.ports m other)
  count := second.count.trans first.count
  others m other := (second.others m other).trans (first.others m other)
  phase := second.phase.trans first.phase
  domain := second.domain.trans first.domain
  isLinked := second.isLinked.trans first.isLinked
  log := second.log.trans first.log
  waiting := List.Subset.trans second.waiting first.waiting
  errands := List.Subset.trans second.errands first.errands

/-- The network changes, the agenda and the running time, and there are fewer who wait. -/
theorem alters_of_same (n : Nat) (registry : later.registry = mesh.registry)
    (ports : ∀ m, m ≠ n → later.portsOf m = mesh.portsOf m) (channels : later.channels = mesh.channels)
    (log : later.log = mesh.log) (waiting : later.gate.waiting ⊆ mesh.gate.waiting)
    (errands : later.errands ⊆ mesh.errands) :
    mesh.Alters n later := by
  have same (m : Nat) : later.channel m = mesh.channel m := by
    unfold channel
    rw [channels]
  exact ⟨registry, ports, congrArg List.length channels, fun m _ => same m, congrArg Channel.phase (same n),
    congrArg Channel.domain (same n), congrArg Channel.isLinked (same n), log, waiting, errands⟩

theorem network_alters (mesh : Mesh) (n : Nat) (network : Memory.Network Party) :
    mesh.Alters n { mesh with network := network } :=
  alters_of_same n rfl (fun _ _ => rfl) rfl rfl (List.Subset.refl _) (List.Subset.refl _)

theorem ports_alters (mesh : Mesh) (n : Nat) (network : Memory.Network Party) {ports : List Port}
    (others : ∀ m, m ≠ n → ports.filter (·.channel = m) = mesh.ports.filter (·.channel = m)) :
    mesh.Alters n { mesh with network := network, ports := ports } :=
  alters_of_same n rfl (fun m other => congrArg (·.map Port.endpoint) (others m other)) rfl rfl
    (List.Subset.refl _) (List.Subset.refl _)

theorem modify_alters (mesh : Mesh) (n : Nat) {change : Channel → Channel}
    (phase : (change (mesh.channel n)).phase = (mesh.channel n).phase)
    (domain : (change (mesh.channel n)).domain = (mesh.channel n).domain)
    (isLinked : (change (mesh.channel n)).isLinked = (mesh.channel n).isLinked) :
    mesh.Alters n (mesh.modify n change) := by
  refine ⟨rfl, fun _ _ => rfl, List.length_modify _ _ _, fun m other => channel_modify_ne other mesh change,
    ?_, ?_, ?_, rfl,
    List.Subset.refl _, List.Subset.refl _⟩
  all_goals
    rcases mesh.channel_modify_cases n change n with same | ⟨_, changed⟩
    · rw [same]
    · rw [changed]
      assumption

/-- The channel keeps its standing. -/
theorem change_alters (mesh : Mesh) (n : Nat) {change : Channel → Channel}
    (standing : (change (mesh.channel n)).standing = (mesh.channel n).standing) :
    mesh.Alters n (mesh.modify n change) :=
  mesh.modify_alters n (congrArg Channel.Standing.phase standing)
    (congrArg Channel.Standing.domain standing) (congrArg Channel.Standing.isLinked standing)

theorem resync_alters (mesh : Mesh) (n : Nat) : mesh.Alters n (mesh.resync n) := by
  unfold Mesh.resync
  split
  · have announced : mesh.Alters n (mesh.modify n (·.resync mesh.time)) :=
      mesh.change_alters n (Channel.resync_standing _ _)
    exact announced.trans
      (alters_of_same n rfl (fun _ _ => rfl) rfl rfl (List.Subset.refl _) (List.Subset.refl _))
  · exact .refl n mesh

theorem enqueue_alters (mesh : Mesh) (n : Nat) (move : Move) : mesh.Alters n (mesh.enqueue move) := by
  unfold enqueue
  split
  · exact .refl n mesh
  · exact alters_of_same n rfl (fun _ _ => rfl) rfl rfl (List.Subset.refl _) (List.Subset.refl _)

theorem listen_alters (mesh : Mesh) (n : Nat) : mesh.Alters n (mesh.listen n).2 := by
  unfold listen
  dsimp only
  split
  · exact .refl n mesh
  · split
    · exact .refl n mesh
    · refine (mesh.ports_alters n _ fun m other => ?_).trans (enqueue_alters _ n _)
      rw [List.filter_append, List.filter_cons_of_neg (by simpa using other.symm), List.filter_nil, List.append_nil]

theorem takeAddress_alters (mesh : Mesh) (n : Nat) : mesh.Alters n (mesh.takeAddress n) := by
  unfold takeAddress
  dsimp only
  split
  · exact (mesh.network_alters n _).trans (modify_alters _ n rfl rfl rfl)
  · exact mesh.modify_alters n rfl rfl rfl

theorem startLine_alters (mesh : Mesh) (n : Nat) : mesh.Alters n (mesh.startLine n).2 := by
  have listens := mesh.listen_alters n
  unfold Mesh.startLine
  split
  · rename_i fails
    rw [fails] at listens
    exact listens
  · rename_i later succeeds
    rw [succeeds] at listens
    exact listens.trans (later.takeAddress_alters n)

theorem startGroup_alters (mesh : Mesh) (n : Nat) : mesh.Alters n (mesh.startGroup n).2 := by
  unfold Mesh.startGroup
  split
  · exact (mesh.network_alters n _).trans (modify_alters _ n rfl rfl rfl)
  · split
    · exact mesh.modify_alters n rfl rfl rfl
    · exact .refl n mesh

theorem startLinks_alters (mesh : Mesh) (n : Nat) : mesh.Alters n (mesh.startLinks n).2 := by
  have reached := mesh.startLine_alters n
  unfold Mesh.startLinks
  split
  · rename_i fails
    rw [fails] at reached
    exact reached
  · rename_i first succeeds
    rw [succeeds] at reached
    have linked := reached.trans (startGroup_alters first n)
    split
    · rename_i fails
      rw [fails] at linked
      exact linked
    · rename_i second joins
      rw [joins] at linked
      exact (linked.trans (second.resync_alters n)).trans (change_alters _ n rfl)

/-- **What starts a channel changes no other one.** -/
theorem startParts_alters (mesh : Mesh) (n : Nat) : mesh.Alters n (mesh.startParts n).2 := by
  have opened : mesh.Alters n (mesh.modifyGet n Channel.openQueues).2 :=
    mesh.change_alters n (Channel.openQueues_standing _)
  unfold Mesh.startParts
  split
  · rename_i opens
    rw [opens] at opened
    exact opened
  · rename_i first opens
    rw [opens] at opened
    have enlisted : mesh.Alters n (first.modifyGet n Channel.enlist).2 :=
      opened.trans (first.change_alters n (Channel.enlist_standing _))
    split
    · rename_i enlists
      rw [enlists] at enlisted
      exact enlisted
    · rename_i second enlists
      rw [enlists] at enlisted
      exact enlisted.trans (second.startLinks_alters n)

theorem halt_alters (mesh : Mesh) (n : Nat) : mesh.Alters n (mesh.halt n) := by
  have halted : mesh.Alters n (mesh.modify n Channel.halt) := mesh.change_alters n rfl
  exact halted.trans
    (alters_of_same n rfl (fun _ _ => rfl) rfl rfl (List.filter_subset_self _) (List.filter_subset_self _))

theorem stopLinks_alters (mesh : Mesh) (n : Nat) : mesh.Alters n (mesh.stopLinks n) := by
  refine (mesh.ports_alters n _ fun m other => ?_).trans (modify_alters _ n rfl rfl rfl)
  rw [List.filter_filter]
  refine List.filter_congr fun port _ => ?_
  by_cases about : port.channel = m
  · simp [about, other]
  · simp [about]

/-- **What takes a channel apart changes no other one.** -/
theorem teardown_alters (mesh : Mesh) (n : Nat) : mesh.Alters n (mesh.teardown n) :=
  (((mesh.halt_alters n).trans (modify_alters _ n rfl rfl rfl)).trans
    (modify_alters _ n rfl rfl rfl)).trans (stopLinks_alters _ n)

/-! ### Its ends -/

/-- A channel has a socket if it needs one, or cannot have it; nothing else changes but what is ready. -/
theorem listen_cases (mesh : Mesh) (n : Nat) :
    (∃ ports agenda, mesh.listen n = (.ok (), { mesh with ports := ports, agenda := agenda })) ∨
      ∃ error, mesh.listen n = (.error error, mesh) := by
  unfold listen
  dsimp only
  split
  · exact .inl ⟨mesh.ports, mesh.agenda, rfl⟩
  · split
    · rename_i failure _
      exact .inr ⟨.ofIo failure, rfl⟩
    · unfold enqueue
      split
      · exact .inl ⟨_, _, rfl⟩
      · exact .inl ⟨_, _, rfl⟩

/-- A channel is reached at an address then, or has failed to be. -/
theorem startLine_cases (mesh : Mesh) (n : Nat) :
    (∃ ports agenda, mesh.startLine n = (.ok (), { mesh with ports := ports, agenda := agenda }.takeAddress n)) ∨
      ∃ error, mesh.startLine n = (.error error, mesh) := by
  unfold Mesh.startLine
  rcases mesh.listen_cases n with ⟨ports, agenda, listens⟩ | ⟨error, fails⟩
  · rw [listens]
    exact .inl ⟨ports, agenda, rfl⟩
  · rw [fails]
    exact .inr ⟨error, rfl⟩

/-- A channel that has no end on the network gets one. -/
theorem IsMatched.takeAddress (matched : mesh.IsMatched) (there : n < mesh.channels.length)
    (noEnds : (mesh.channel n).HasNoEnds) : (mesh.takeAddress n).IsMatched := by
  unfold Mesh.takeAddress
  dsimp only
  split
  · have own := channel_modify there fun channel => { channel with
      line := .memory ⟨some (Memory.addressOf mesh.network.nextNumber)⟩
      address := some (Memory.addressOf mesh.network.nextNumber) }
    refine matched.of_others (fun m other => channel_modify_ne other _ _) (Table.All.insert ?_ ?_) ?_
    · exact fun address endpoint found => ⟨fun receives =>
        absurd (matched.unicast address endpoint found n receives) (noEnds.line address), fun _ => found⟩
    · refine ⟨fun _ => ?_, fun other => absurd rfl other⟩
      exact congrArg (fun channel : Channel => channel.line.own?) own
    · refine fun number receiver found => ⟨fun receives => ?_, fun _ => found⟩
      exact absurd (matched.groups number receiver found n receives) (noEnds.group number)
  · rename_i client line
    refine matched.modify n ?_ rfl
    rw [line]
    rfl

theorem IsMatched.startLine (matched : mesh.IsMatched) (there : n < mesh.channels.length)
    (noEnds : (mesh.channel n).HasNoEnds) : (mesh.startLine n).2.IsMatched := by
  rcases mesh.startLine_cases n with ⟨ports, agenda, starts⟩ | ⟨error, fails⟩
  · have listening : ({ mesh with ports := ports, agenda := agenda } : Mesh).IsMatched :=
      matched.of_standing rfl fun _ => rfl
    rw [starts]
    exact listening.takeAddress there noEnds
  · rw [fails]
    exact matched

/-- A channel takes part in broadcasts. -/
theorem IsMatched.startGroup (matched : mesh.IsMatched) (there : n < mesh.channels.length) :
    (mesh.startGroup n).2.IsMatched := by
  have reached (group : GroupLink) (network : Memory.Network Party) :
      (({ mesh with network := network } : Mesh).modify n ({ · with group := group })).channel n =
        { mesh.channel n with group := group } := channel_modify there _
  have keeps (group : GroupLink) (address : Address) (endpoint : Memory.Endpoint Party)
      (found : mesh.network.unicast.get? address = some endpoint) :
      (endpoint.receiver = .channel n →
        ({ mesh.channel n with group := group } : Channel).line.own? = some ⟨some address⟩) ∧
      (endpoint.receiver ≠ .channel n → mesh.network.unicast.get? address = some endpoint) :=
    ⟨matched.unicast address endpoint found n, fun _ => found⟩
  unfold Mesh.startGroup
  split
  · rename_i member group
    refine matched.of_others (fun m other => channel_modify_ne other _ _) ?_ (Table.All.insert ?_ ?_)
    · rw [show (Mesh.channel _ n) = _ from reached _ _]
      exact keeps _
    · refine fun number receiver found => ⟨fun receives => ?_, fun _ => found⟩
      have takesPart := matched.groups number receiver found n receives
      rw [show (Mesh.channel _ n) = _ from reached _ _]
      rw [group] at takesPart
      cases takesPart
      rfl
    · refine ⟨fun _ => ?_, fun other => absurd rfl other⟩
      rw [show (Mesh.channel _ n) = _ from reached _ _]
      rfl
  · rename_i member group
    split
    · refine matched.of_others (fun m other => channel_modify_ne other _ _) ?_ ?_
      · rw [show (Mesh.channel _ n) = _ from reached _ mesh.network]
        exact keeps _
      · refine fun number receiver found => ⟨fun receives => ?_, fun _ => found⟩
        have takesPart := matched.groups number receiver found n receives
        rw [group] at takesPart
        cases takesPart
    · exact matched

theorem IsMatched.startLinks (matched : mesh.IsMatched) (there : n < mesh.channels.length)
    (noEnds : (mesh.channel n).HasNoEnds) : (mesh.startLinks n).2.IsMatched := by
  have reached := matched.startLine there noEnds
  have alters := mesh.startLine_alters n
  unfold Mesh.startLinks
  split
  · rename_i fails
    rw [fails] at reached
    exact reached
  rename_i first succeeds
  rw [succeeds] at reached alters
  have linked := reached.startGroup (alters.count.symm ▸ there)
  split
  · rename_i starts
    rw [starts] at linked
    exact linked
  · rename_i started starts
    rw [starts] at linked
    have announced : (started.resync n).IsMatched := by
      unfold Mesh.resync
      split
      · have resynced : (started.modify n (·.resync started.time)).IsMatched :=
          linked.modify n (congrArg Channel.Standing.own? (Channel.resync_standing _ _))
            (congrArg Channel.Standing.group (Channel.resync_standing _ _))
        exact resynced.of_ends rfl (fun _ => rfl) fun _ => rfl
      · exact linked
    exact announced.modify n rfl rfl

/-- **What starts a channel gives it ends** that the network holds of it. -/
theorem IsMatched.startParts (matched : mesh.IsMatched) (there : n < mesh.channels.length)
    (noEnds : (mesh.channel n).HasNoEnds) : (mesh.startParts n).2.IsMatched := by
  have keeps {before : Mesh} {α : Type} (change : Channel → α × Channel) (matched : before.IsMatched)
      (there : n < before.channels.length) (noEnds : (before.channel n).HasNoEnds)
      (standing : (change (before.channel n)).2.standing = (before.channel n).standing) :
      (before.modifyGet n change).2.IsMatched ∧ n < (before.modifyGet n change).2.channels.length ∧
        ((before.modifyGet n change).2.channel n).HasNoEnds := by
    refine ⟨matched.modify n (congrArg Channel.Standing.own? standing) (congrArg Channel.Standing.group standing),
      ?_, ?_⟩
    · rw [show (before.modifyGet n change).2.channels.length = _ from List.length_modify _ _ _]
      exact there
    · rw [show (before.modifyGet n change).2.channel n = _ from channel_modify there _]
      exact noEnds.of_standing standing
  have opened := keeps Channel.openQueues matched there noEnds (Channel.openQueues_standing _)
  unfold Mesh.startParts
  split
  · rename_i opens
    rw [opens] at opened
    exact opened.1
  · rename_i first opens
    rw [opens] at opened
    obtain ⟨matched, there, noEnds⟩ := opened
    have enlisted := keeps Channel.enlist matched there noEnds (Channel.enlist_standing _)
    split
    · rename_i enlists
      rw [enlists] at enlisted
      exact enlisted.1
    · rename_i second enlists
      rw [enlists] at enlisted
      obtain ⟨matched, there, noEnds⟩ := enlisted
      exact matched.startLinks there noEnds

/-! ### A channel that is taken apart -/

theorem IsMatched.stopLinks (matched : mesh.IsMatched) : (mesh.stopLinks n).IsMatched := by
  let channel := mesh.channel n
  let left := channel.group.close mesh.network
  refine matched.of_others (fun m other => channel_modify_ne other _ _) (fun address endpoint found => ?_)
    fun number receiver found => ?_
  · obtain ⟨earlier, notOwn⟩ := UnicastLink.endpoint_of_close
      (show (channel.line.close left.2).2.unicast.get? _ = _ from found)
    rw [GroupLink.unicast_close] at earlier
    exact ⟨fun receives => absurd (matched.unicast address endpoint earlier n receives) notOwn, fun _ => earlier⟩
  · have joined : left.2.groups.get? number = some receiver := by
      rw [← UnicastLink.groups_close channel.line left.2]
      exact found
    obtain ⟨earlier, notOwn⟩ := GroupLink.member_of_close joined
    exact ⟨fun receives => absurd (matched.groups number receiver earlier n receives) notOwn, fun _ => earlier⟩

/-- **What takes a channel apart leaves nothing of it with the network.** -/
theorem IsMatched.teardown (matched : mesh.IsMatched) (n : Nat) : (mesh.teardown n).IsMatched := by
  have halted : (mesh.modify n Channel.halt).IsMatched := matched.modify n rfl rfl
  have same : (mesh.halt n).IsMatched := halted.of_ends rfl (fun _ => rfl) fun _ => rfl
  exact IsMatched.stopLinks ((same.modify n rfl rfl).modify n rfl rfl)

/-- **A closed channel is inert when it was taken apart**, and nobody waits on its behalf. -/
theorem teardown_isInert (there : n < mesh.channels.length) (closed : (mesh.channel n).phase = .closed) :
    ((mesh.teardown n).channel n).IsInert ∧
      (∀ parked ∈ (mesh.teardown n).gate.waiting, parked.channel ≠ n) ∧
        ∀ errand ∈ (mesh.teardown n).errands, errand.channel ≠ n := by
  have halted : (mesh.halt n).channel n = (mesh.channel n).halt := channel_modify there _
  have stillThere : n < (mesh.halt n).channels.length := by
    rw [(mesh.halt_alters n).count]
    exact there
  let dismissed := (mesh.halt n).modify n Channel.dismiss
  have isDismissed : dismissed.channel n = (mesh.channel n).halt.dismiss :=
    (channel_modify stillThere _).trans (congrArg Channel.dismiss halted)
  have thereToo : n < dismissed.channels.length := by
    rw [show dismissed.channels.length = _ from List.length_modify _ _ _]
    exact stillThere
  let shut := dismissed.modify n fun channel => (channel.run dismissed.time fun view _ => view.shutdown).2
  have isShut : shut.channel n =
      ((mesh.channel n).halt.dismiss.run dismissed.time fun view _ => view.shutdown).2 := by
    refine (channel_modify thereToo _).trans ?_
    rw [isDismissed]
  have thereStill : n < shut.channels.length := by
    rw [show shut.channels.length = _ from List.length_modify _ _ _]
    exact thereToo
  refine ⟨?_, fun parked waits => ?_, fun errand runs => ?_⟩
  · have stopped : (mesh.teardown n).channel n = { shut.channel n with
        group := ((shut.channel n).group.close shut.network).1
        line := ((shut.channel n).line.close ((shut.channel n).group.close shut.network).2).1 } :=
      channel_modify thereStill _
    rw [stopped, isShut]
    exact Channel.dismantled_isInert closed _ (GroupLink.close_isIdle _ _) (UnicastLink.close_isIdle _ _)
  · have kept : (!decide (parked.channel = n)) = true := (List.mem_filter.mp waits).2
    intro same
    rw [decide_eq_true same] at kept
    cases kept
  · exact of_decide_eq_true (List.mem_filter.mp runs).2

end Mesh

end PeerMesh
