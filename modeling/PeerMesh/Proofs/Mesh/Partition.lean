/-
**Partitions hold.**

* `Mesh.IsMember`, `Mesh.IsUnmarked` — a channel takes part in broadcasts, and its address is not marked.
  `Mesh.Serves`, **`IsFitted.serves`** — a broadcast of such a channel is handed to each such channel exactly
  once, and such channels reach each other at their addresses.
* `Mesh.IsPartedSince` — a channel is cut off since an earlier moment: the network has handed it nothing, and
  nobody anything that carries its address; what waits anywhere of the kind stems from what waited there at
  that moment.
* **`partition_holds`** — so it is after any history, from the moment when the address of a channel is marked
  until it is marked otherwise, even when the channel is closed.
* `unpacked_after_cut` — what waited may yet be unpacked: a control message that has arrived before hands
  its event to the listeners when it is its turn.
-/

import PeerMesh.Proofs.Mesh.Isolation
import PeerMesh.Proofs.Mesh.Severance

namespace PeerMesh

/-- A value that is found at one key at most is there at most once. -/
theorem Table.count_values_le {κ ν : Type} [DecidableEq κ] [DecidableEq ν] {table : Table κ ν} {value : ν}
    (single : ∀ key other, table.get? key = some value → table.get? other = some value → key = other) :
    table.values.count value ≤ 1 := by
  have keys : ((table.entries.filter fun entry => entry.2 == value).map Prod.fst).Nodup :=
    (List.filter_sublist.map Prod.fst).nodup table.nodup
  have same : ∀ entry ∈ table.entries.filter fun entry => entry.2 == value,
      table.get? entry.1 = some value := by
    intro entry among
    obtain ⟨listed, is⟩ := List.mem_filter.mp among
    exact (table.mem_entries_iff entry.1 value).mp (by rw [← eq_of_beq is]; exact listed)
  have count : table.values.count value = (table.entries.filter fun entry => entry.2 == value).length := by
    rw [values, List.count, List.countP_map, List.countP_eq_length_filter]
    rfl
  rw [count]
  generalize table.entries.filter (fun entry => entry.2 == value) = found at keys same
  match found with
  | [] | [_] => simp
  | first :: second :: rest =>
    have differ := (List.nodup_cons.mp keys).1
    exact absurd (single first.1 second.1 (same first (by simp)) (same second (by simp)))
      fun equal => differ (by simp [equal])

namespace Mesh

variable {mesh : Mesh} {n m x : Nat} {address : Address} {event : Event}

/-! ### Who is not cut off -/

/-- The channel takes part in broadcasts on the network. -/
def IsMember (mesh : Mesh) (n : Nat) : Prop := ∃ number, (mesh.channel n).group = .memory ⟨number, true⟩

/-- The address of the channel is not marked. -/
def IsUnmarked (mesh : Mesh) (n : Nat) : Prop :=
  ∀ address, (mesh.channel n).address = some address → mesh.network.isReachable address = true

/-- An event that arrives is logged, and that is all that happens at once. -/
theorem log_arrive (event : Event) (mesh : Mesh) (party : Party) :
    (mesh.arrive event party).time = mesh.time ∧
      (mesh.arrive event party).log = (mesh.time, .reached party false event) :: mesh.log := by
  unfold arrive
  cases party with
  | outsider receiver => exact ⟨rfl, rfl⟩
  | channel n =>
    unfold hand enqueue
    dsimp only
    split
    · split <;> exact ⟨rfl, rfl⟩
    · exact ⟨rfl, rfl⟩

theorem log_arriveAll (event : Event) (parties : List Party) : ∀ mesh : Mesh,
    (parties.foldl (arrive event) mesh).log =
      (parties.map fun party => (mesh.time, Occurrence.reached party false event)).reverse ++ mesh.log := by
  induction parties with
  | nil => exact fun _ => rfl
  | cons party rest ih =>
    intro mesh
    obtain ⟨time, log⟩ := log_arrive event mesh party
    rw [List.foldl_cons, ih, time, log]
    simp

/-- A channel hears a broadcast at most once. -/
theorem IsFitted.count_audience_le (fitted : mesh.IsFitted) (origin : Address) (m : Nat) :
    (mesh.network.audience origin).count (.channel m) ≤ 1 := by
  have values : mesh.network.groups.values.count (.channel m) ≤ 1 := by
    refine Table.count_values_le fun number other found foundToo => ?_
    have one := fitted.matched.groups number _ found m rfl
    have two := fitted.matched.groups other _ foundToo m rfl
    simpa using one.symm.trans two
  unfold Memory.Network.audience
  split
  · exact (List.Sublist.count_le _ List.filter_sublist).trans values
  · simp

/-- **A channel that is not marked hears every broadcast that comes from an address that is not.** -/
theorem IsFitted.mem_audience (fitted : mesh.IsFitted) {origin : Address}
    (reachable : mesh.network.isReachable origin = true) (member : mesh.IsMember m)
    (unmarked : mesh.IsUnmarked m) : .channel m ∈ mesh.network.audience origin := by
  obtain ⟨number, joined⟩ := member
  refine Memory.Network.mem_audience_iff.mpr ⟨reachable,
    (Table.mem_values_iff _ _).mpr ⟨number, (fitted.fits m).member number joined⟩, fun cutOff => ?_⟩
  obtain ⟨place, endpoint, found, marked, receives⟩ := Memory.Network.mem_cutOff_iff.mp cutOff
  have own := fitted.matched.unicast place endpoint found m receives
  have isReachable := unmarked place ((fitted.fits m).line place own).1
  rw [Memory.Network.isReachable_eq_false_iff.mpr ⟨endpoint, found, marked⟩] at isReachable
  cases isReachable

/-- **Channels whose addresses are not marked are served**: a broadcast of one is handed to each exactly once,
and they reach each other. -/
structure Serves (mesh : Mesh) : Prop where
  broadcast : ∀ n event, mesh.IsMember n → mesh.IsUnmarked n → (mesh.channel n).Stamps event →
    (mesh.post n (.broadcast event)).1 = .ok () ∧ ∃ parties : List Party,
      (mesh.post n (.broadcast event)).2.log =
        (parties.map fun party => (mesh.time, Occurrence.reached party false event)).reverse ++
          (mesh.time, .posted n (.broadcast event)) :: mesh.log ∧
      ∀ m, parties.count (.channel m) ≤ 1 ∧
        (mesh.IsMember m → mesh.IsUnmarked m → parties.count (.channel m) = 1)
  send : ∀ n m own address, mesh.IsUnmarked n → (mesh.channel n).line.own? = some ⟨some own⟩ →
    mesh.IsUnmarked m → (mesh.channel m).line.own? = some ⟨some address⟩ →
      (Memory.UnicastEnd.mk (some own)).route mesh.network address = .ok (.channel m)

theorem IsFitted.serves (fitted : mesh.IsFitted) : mesh.Serves := by
  refine ⟨fun n event member unmarked stamps => ?_, fun n m own address unmarked line unmarkedToo reached => ?_⟩
  · obtain ⟨number, joined⟩ := member
    have reachable := unmarked event.originAddress stamps
    have posts : mesh.post n (.broadcast event) = (.ok (),
        (mesh.network.audience event.originAddress).foldl (arrive event)
          (mesh.note (.posted n (.broadcast event)))) := by
      unfold Mesh.post
      dsimp only
      rw [joined]
      rfl
    rw [posts]
    refine ⟨rfl, mesh.network.audience event.originAddress, log_arriveAll event _ _, fun m =>
      ⟨fitted.count_audience_le _ m, fun hears free => ?_⟩⟩
    have some := List.count_pos_iff.mpr (fitted.mem_audience reachable hears free)
    have most := fitted.count_audience_le event.originAddress m
    omega
  · have departs := unmarked own ((fitted.fits n).line own line).1
    obtain ⟨claims, isReachable, found⟩ := (fitted.fits m).line address reached
    have arrives := unmarkedToo address claims
    cases isReachable with
    | true => exact Memory.UnicastEnd.route_eq_ok_iff.mpr ⟨own, rfl, departs, found⟩
    | false =>
      rw [Memory.Network.isReachable_eq_false_iff.mpr ⟨_, found, rfl⟩] at arrives
      cases arrives

/-! ### A partition -/

/-- **A channel is cut off since an earlier moment.** -/
structure IsPartedSince (x : Nat) (address : Address) (forged : Event → Prop) (cut after : Mesh) : Prop where
  /-- What has happened since respects that. -/
  log : ∃ since, after.log = since ++ cut.log ∧ ∀ entry ∈ since, Respects x address forged entry.2
  /-- What waits with the channel itself has waited before, or was unpacked from what has. -/
  own : ∀ event, (after.channel x).consumer.Holds event → event.StemsFrom (cut.channel x).consumer.Holds
  /-- So it is with what waits elsewhere and carries the address, unless it stems from what was forged. -/
  others : ∀ n event, n ≠ x → event.originAddress = address → (after.channel n).consumer.Holds event →
    event.StemsFrom (cut.channel n).consumer.Holds ∨ event.StemsFrom forged
  serves : after.Serves

/-- **Partitions hold**: after any history the address at which a channel is reached is marked, and then anything
happens, but that it is marked otherwise. -/
theorem partition_holds {host : Socket.Host} {history later : List Incident}
    (admits : (empty host).AdmitsAll (history ++ .order (.setReachable address false) :: later))
    (reached : (((empty host).undergoAll history).channel x).line.own? = some ⟨some address⟩)
    (lasting : .order (.setReachable address true) ∉ later) :
    let cut := (empty host).undergoAll (history ++ [.order (.setReachable address false)])
    IsPartedSince x address (fun event => ∃ incident ∈ later, incident.forged? = some event) cut
      (cut.undergoAll later) := by
  intro cut
  obtain ⟨admitsHistory, -, admitsLater⟩ := (admitsAll_append history _ _).mp admits
  let before := (empty host).undergoAll history
  let marked : Mesh := { before with network := before.network.setReachable address false }
  have isMarked : cut = marked := undergoAll_append _ history _
  rw [isMarked]
  have fittedBefore : before.IsFitted := undergoAll_isFitted admitsHistory
  have fitted : marked.IsFitted := fittedBefore.setReachable address false
  obtain ⟨claims, isReachable, found⟩ := (fittedBefore.fits x).line address reached
  obtain ⟨number, -, numbered⟩ := fittedBefore.exists_number reached
  have isCut : marked.IsCut x address := by
    refine ⟨claims, ⟨number, numbered⟩, .inl ?_⟩
    show (before.network.setReachable address false).unicast.get? address = _
    rw [Memory.Network.get?_setReachable, if_pos rfl, found]
    rfl
  let forged := fun event => ∃ incident ∈ later, incident.forged? = some event
  let held := fun n event => (marked.channel n).consumer.Holds event
  have holds : marked.HoldsOwn (.cut x address forged held) :=
    fun n event waits _ => .inl ⟨event, waits, .refl⟩
  have upholds : marked.Upholds forged (· = address) (marked.undergoAll later) := by
    refine undergoAll_upholds later marked admitsLater (fun incident among event forges =>
      ⟨incident, among, forges⟩) ?_
    rintro other among rfl
    exact lasting among
  obtain ⟨stillFitted, severs⟩ := upholds fitted
  have severed := severs x address held rfl isCut holds
  refine ⟨severed.log, fun event waits => ?_, fun n event other carries waits => ?_, stillFitted.serves⟩
  · rcases severed.held x event waits (.inl rfl) with before | ⟨other, -⟩
    · exact before
    · exact absurd rfl other
  · rcases severed.held n event waits (.inr carries) with before | ⟨-, stems⟩
    · exact .inl before
    · exact .inr stems

/-- The right channel has a single worker, whom a listener keeps busy, when the left one sends it a control message
that carries an event. -/
def eveOfPartition : List Incident :=
  [.create "left" (dweller "left" 8) true,
    .create "right" { dweller "right" 8 with consumerWorkers := 1 } true, .order (.start 0), .order (.start 1),
    .adjust 1 (.listen "slow" ⟨⟨"right", 0⟩, .waitAtGate⟩), .adjust 1 (.listen "chat" ⟨⟨"right", 1⟩, .nothing⟩),
    .move (.announce 1), .move (.deliver 0), .queue 0 .ownDomain "slow" [], .move (.dispatch 0),
    .move (.deliver 1), .move (.deliver 1), .move (.deliver 1), .order (.sendControl 0 [⟨"right"⟩] "chat" [])]

/-- The left channel is cut off, queues another event, and is closed, while the right one goes on. -/
theorem parted_after_eve :
    let later : List Incident := [.queue 0 .ownDomain "slow" [], .move (.dispatch 0), .order (.release 1),
      .move (.deliver 1), .order (.close 0), .move (.deliver 1)]
    let cut := (empty default).undergoAll
      (eveOfPartition ++ [.order (.setReachable (Memory.addressOf 3) false)])
    (empty default).AdmitsAll (eveOfPartition ++ .order (.setReachable (Memory.addressOf 3) false) :: later) ∧
      (((empty default).undergoAll eveOfPartition).channel 0).line.own? = some ⟨some (Memory.addressOf 3)⟩ ∧
      .order (.setReachable (Memory.addressOf 3) true) ∉ later ∧
      IsPartedSince 0 (Memory.addressOf 3) (fun event => ∃ incident ∈ later, incident.forged? = some event) cut
        (cut.undergoAll later) := by
  intro later cut
  have admits : (empty default).AdmitsAll
      (eveOfPartition ++ .order (.setReachable (Memory.addressOf 3) false) :: later) := by decide +kernel
  have reached : (((empty default).undergoAll eveOfPartition).channel 0).line.own? =
      some ⟨some (Memory.addressOf 3)⟩ := by decide +kernel
  have lasting : .order (.setReachable (Memory.addressOf 3) true) ∉ later := by simp [later]
  exact ⟨admits, reached, lasting, partition_holds admits reached lasting⟩

/-- **What waited may yet be unpacked**: the right channel is cut off from the left one, but the control message that
has arrived before hands its event to the consumer when it is its turn. -/
theorem unpacked_after_cut :
    let cut := (empty default).undergoAll
      (eveOfPartition ++ [.order (.setReachable (Memory.addressOf 3) false)])
    let after := cut.undergoAll [.order (.release 1), .move (.deliver 1)]
    (cut.channel 0).address = some (Memory.addressOf 3) ∧
      cut.network.isReachable (Memory.addressOf 3) = false ∧
      ∃ event : Event, event.origin = (cut.channel 0).selfId ∧ event.originAddress = Memory.addressOf 3 ∧
        ¬ (cut.channel 1).consumer.Holds event ∧ (after.channel 1).consumer.Holds event := by
  intro cut after
  refine ⟨by decide +kernel, by decide +kernel, ⟨.unscoped, "chat", [], ⟨"left"⟩, Memory.addressOf 3⟩, ?_, rfl, ?_, ?_⟩
  · decide +kernel
  · decide +kernel
  · decide +kernel

end Mesh

end PeerMesh
