/-
**Domains are isolated from each other.**

* `Mesh.IsQuiet`, `Mesh.IsIsolated` — nothing is queued or on its way; no started channel knows a
  started channel of another domain.
* `isolated_of_reached` — after calm deeds the domains are isolated whenever the mesh is quiet.
* `not_isolated_of_permitted` — if a deed is not calm, they need not be: each of the conditions is needed.
-/

import PeerMesh.Proofs.Mesh.Deeds

namespace PeerMesh

/-- No job is queued or running. -/
def Pool.isEmpty {α : Type} (pool : Pool α) : Bool := pool.queue.isEmpty && pool.running.isEmpty

/-- Nothing is queued with a channel or going out, and no reply is awaited. -/
def Channel.isQuiet (channel : Channel) : Bool :=
  channel.consumer.workforce?.all Pool.isEmpty && channel.publisher.all Pool.isEmpty &&
    channel.detector.round.isNone

theorem Channel.pending_of_isQuiet {channel : Channel} (quiet : channel.isQuiet = true) :
    channel.consumer.pending = [] := by
  have inbound := (Bool.and_eq_true_iff.mp (Bool.and_eq_true_iff.mp quiet).1).1
  unfold Consumer.pending
  cases opened : channel.consumer.workforce? with
  | none => rfl
  | some pool =>
    rw [opened] at inbound
    exact List.isEmpty_iff.mp (Bool.and_eq_true_iff.mp inbound).1

namespace Mesh

/-- Nothing is queued or on its way. -/
def IsQuiet (mesh : Mesh) : Prop := ∀ channel ∈ mesh.channels, channel.isQuiet = true

instance (mesh : Mesh) : Decidable mesh.IsQuiet :=
  inferInstanceAs (Decidable (∀ channel ∈ mesh.channels, channel.isQuiet = true))

/-- No started channel knows a started channel of another domain. -/
def IsIsolated (mesh : Mesh) : Prop :=
  ∀ first ∈ mesh.channels, ∀ second ∈ mesh.channels, first.phase = .started →
    second.phase = .started → first.domain ≠ second.domain →
      first.view.isLive second.selfId = false

instance (mesh : Mesh) : Decidable mesh.IsIsolated :=
  inferInstanceAs (Decidable (∀ first ∈ mesh.channels, ∀ second ∈ mesh.channels, _ → _ → _ → _))

/-- **Domains are isolated from each other** whenever nothing is queued or on its way, if every deed was
calm: no started channel knows a started channel of another domain. -/
theorem isolated_of_reached (host : Socket.Host) (mesh : Mesh)
    (reached : Reached (fun mesh deed => mesh.Permits deed ∧ mesh.IsCalmFor deed) host mesh)
    (quiet : mesh.IsQuiet) : mesh.IsIsolated := by
  have inOrder := InOrder.of_reached reached
  intro first isThere second isThere' started _ apart
  obtain ⟨n, found⟩ := List.mem_iff_getElem?.mp isThere
  obtain ⟨m, found'⟩ := List.mem_iff_getElem?.mp isThere'
  have here := InOrder.there found
  have isOpen := Channel.isOpen_atRest.mp ((inOrder.wired.at here).started started)
  cases known : first.view.live.get? second.selfId with
  | none =>
    unfold View.isLive Table.contains
    rw [known]
    rfl
  | some member =>
    obtain ⟨named, ⟨other, listed, sameId, inDomain, _⟩ | ⟨_, job, queued, _⟩⟩ :=
      (inOrder.orderly.each n first found).informed isOpen second.selfId _ _ ⟨member, known, rfl, rfl⟩
    · -- only the channel itself has its id
      obtain ⟨k, found''⟩ := List.mem_iff_getElem?.mp listed
      have same := inOrder.wired.distinctIds k m other _ found'' (InOrder.there found')
        (sameId.trans named.symm)
      rw [same, InOrder.there found'] at found''
      rw [← Option.some.inj found''] at inDomain
      exact absurd inDomain.symm apart
    · rw [Channel.pending_of_isQuiet (quiet first isThere)] at queued
      cases queued

/-! ### Runs of two channels -/

/-- The settings of a node in the first domain. -/
def dweller (name : String) (capacity : Nat) : Settings :=
  { Settings.standard with
    domain := "first"
    nodeId := some name
    consumerCapacity := capacity
    broadcastProvider := .memory
    unicastProvider := .memory }

/-- Two channels of one domain are started. -/
def neighbours (capacity : Nat) : List Deed :=
  [.create "left" (dweller "left" capacity), .create "right" (dweller "right" capacity), .start 0,
    .start 1]

/-- The two channels come to know each other. -/
def acquainted (capacity : Nat) : List Deed :=
  neighbours capacity ++ [.move (.announce 0), .move (.deliver 1), .move (.deliver 0)]

/-- A channel moves after everybody has heard everything, and its old peer begins its rounds when it has
heard that it has left. -/
def calmMove : List Deed :=
  acquainted 8 ++ [.changeDomain 0 "second", .move (.deliver 1), .move (.turn 1), .move (.turn 1),
    .move (.turn 1)]

/-- After a calm move both domains are isolated. -/
theorem isolated_of_calmMove :
    let mesh := calmMove.foldl act (.empty default)
    Reached (fun mesh deed => mesh.Permits deed ∧ mesh.IsCalmFor deed) default mesh ∧ mesh.IsQuiet ∧
      mesh.IsIsolated := by
  intro mesh
  have reached : Reached (fun mesh deed => mesh.Permits deed ∧ mesh.IsCalmFor deed) default mesh :=
    reached_of_checkAll isCalmFor_of_seesCalm calmMove _ .empty (by decide +kernel)
  have quiet : mesh.IsQuiet := by decide +kernel
  exact ⟨reached, quiet, isolated_of_reached default mesh reached quiet⟩

/-! ### What happens if a deed is not calm -/

/-- A channel moves while it has not heard an announcement that was made in its old domain. -/
def deafMove : List Deed :=
  neighbours 8 ++ [.move (.announce 1), .changeDomain 0 "second", .move (.deliver 0),
    .move (.deliver 1), .move (.deliver 1)]

/-- A channel moves while its own announcement has not been heard in its old domain. -/
def loudMove : List Deed :=
  neighbours 8 ++ [.move (.announce 0), .changeDomain 0 "second", .move (.deliver 1),
    .move (.deliver 1), .move (.deliver 0)]

/-- A channel moves while another one in its old domain has no room for its departure. -/
def unheardMove : List Deed :=
  acquainted 1 ++ [.forceResync 0 (some []), .changeDomain 0 "second", .move (.deliver 1)]

/-- A channel tells its peers of each other while one of them has left, which it has not heard yet. -/
def staleRound : List Deed :=
  acquainted 8 ++ [.move (.turn 1), .move (.turn 1), .changeDomain 0 "second", .move (.turn 1),
    .move (.deliver 0), .move (.deliver 1)]

/-- The deeds can be done, and lead to where nothing is queued and a domain is not isolated. -/
def LeadAstray (deeds : List Deed) : Prop :=
  let mesh := deeds.foldl act (.empty default)
  Reached Permits default mesh ∧ mesh.IsQuiet ∧ ¬ mesh.IsIsolated

theorem leadAstray_of_seen {deeds : List Deed}
    (permitted : checkAll seesPermitted deeds (.empty default) = true)
    (quiet : (deeds.foldl act (.empty default)).IsQuiet)
    (apart : ¬ (deeds.foldl act (.empty default)).IsIsolated) : LeadAstray deeds :=
  ⟨reached_of_checkAll permits_of_seesPermitted deeds _ .empty permitted, quiet, apart⟩

/-- **Not every run keeps the domains apart**, and each of the conditions under which a deed is calm is
needed. -/
theorem not_isolated_of_permitted :
    (¬ ∀ (host : Socket.Host) (mesh : Mesh), Reached Permits host mesh → mesh.IsQuiet →
      mesh.IsIsolated) ∧
    LeadAstray deafMove ∧ LeadAstray loudMove ∧ LeadAstray unheardMove ∧ LeadAstray staleRound := by
  have deaf : LeadAstray deafMove :=
    leadAstray_of_seen (by decide +kernel) (by decide +kernel) (by decide +kernel)
  have loud : LeadAstray loudMove :=
    leadAstray_of_seen (by decide +kernel) (by decide +kernel) (by decide +kernel)
  have unheard : LeadAstray unheardMove :=
    leadAstray_of_seen (by decide +kernel) (by decide +kernel) (by decide +kernel)
  have stale : LeadAstray staleRound :=
    leadAstray_of_seen (by decide +kernel) (by decide +kernel) (by decide +kernel)
  refine ⟨fun isolated => ?_, deaf, loud, unheard, stale⟩
  obtain ⟨reached, quiet, apart⟩ := deaf
  exact apart (isolated default _ reached quiet)

end Mesh

end PeerMesh
