/-
**What happens, instant by instant.**

An order that waits lets time pass, and lets happen what is due meanwhile. Taken apart into instants, a history
shows what comes before what.

* `Instant` — something that happens in no time, or a span of time that passes; `Mesh.live` and `Mesh.liveAll` —
  what comes of it.
* `Mesh.IsLived` — a mesh has come of another one by instants.
* `runUntil_lived`, `awaitPeers_lived` — whoever waits lives through instants.
* **`undergo_lived`** — and so does whatever happens.
-/

import PeerMesh.Proofs.Mesh.Seat

namespace PeerMesh

/-- Something that happens in no time, or time that passes. -/
inductive Instant where
  | happens (incident : Incident) (brief : incident.isBrief = true)
  /-- A channel asks a question. -/
  | asks (channel : Nat) (address : Address) (event : Event)
  /-- The outsider asks a question. -/
  | asksFromOutside (address : Address) (event : Event)
  /-- Other moves are ready. -/
  | schedules (agenda : List Move)
  /-- Time passes. -/
  | passes (span : Nat)

namespace Mesh

variable {mesh later last : Mesh} {n : Nat}

/-- An instant of a mesh. -/
def live (mesh : Mesh) : Instant → Mesh
  | .happens incident _ => mesh.undergo incident
  | .asks n address event => (mesh.request n address event).2
  | .asksFromOutside address event => (mesh.requestFrom ping mesh.outsider.own address event).2
  | .schedules agenda => { mesh with agenda := agenda }
  | .passes span => { mesh with time := mesh.time + span }

/-- One instant after another. -/
def liveAll (mesh : Mesh) (instants : List Instant) : Mesh := instants.foldl live mesh

/-- A mesh has come of another one by instants. -/
def IsLived (before after : Mesh) : Prop := ∃ instants, after = before.liveAll instants

theorem IsLived.refl (mesh : Mesh) : mesh.IsLived mesh := ⟨[], rfl⟩

theorem IsLived.trans (first : mesh.IsLived later) (second : later.IsLived last) : mesh.IsLived last := by
  obtain ⟨earlier, rfl⟩ := first
  obtain ⟨rest, rfl⟩ := second
  exact ⟨earlier ++ rest, List.foldl_append.symm⟩

theorem live_lived (mesh : Mesh) (instant : Instant) : mesh.IsLived (mesh.live instant) := ⟨[instant], rfl⟩

theorem brief_lived (mesh : Mesh) (incident : Incident) (brief : incident.isBrief = true) :
    mesh.IsLived (mesh.undergo incident) := mesh.live_lived (.happens incident brief)

/-! ### Whoever waits -/

/-- It becomes at least as late as some moment. -/
theorem clock_lived (mesh : Mesh) (moment : Nat) : mesh.IsLived { mesh with time := max mesh.time moment } := by
  have later : max mesh.time moment = mesh.time + (moment - mesh.time) := by omega
  rw [later]
  exact mesh.live_lived (.passes (moment - mesh.time))

theorem wake_lived (mesh : Mesh) : mesh.IsLived mesh.wake := by
  refine List.foldlRecOn _ _ (IsLived.refl mesh) fun between lived move _ => lived.trans ?_
  unfold enqueue
  split
  · exact .refl between
  · exact between.live_lived (.schedules _)

theorem next_lived (next : mesh.next? = some later) : mesh.IsLived later := by
  unfold next? at next
  split at next
  · cases next
  · rename_i move rest _
    cases next
    have moves := (mesh.live_lived (.schedules rest)).trans (brief_lived _ (.move move) rfl)
    exact moves.trans (brief_lived _ .tidy rfl)

theorem runWithin_lived (moment fuel : Nat) : ∀ mesh : Mesh, mesh.IsLived (runWithin moment fuel mesh) := by
  induction fuel with
  | zero => exact fun mesh => mesh.clock_lived moment
  | succ fuel ih =>
    intro mesh
    unfold runWithin
    split
    · rename_i next
      exact (next_lived next).trans (ih _)
    · split
      · rename_i due _
        split
        · exact ((mesh.clock_lived due).trans (wake_lived _)).trans (ih _)
        · exact mesh.clock_lived moment
      · exact mesh.clock_lived moment

/-- **Whatever happens until a moment.** -/
theorem runUntil_lived (mesh : Mesh) (moment : Nat) : mesh.IsLived (mesh.runUntil moment) := by
  have tidies : mesh.IsLived mesh.tidy := mesh.brief_lived .tidy rfl
  exact tidies.trans (runWithin_lived moment patience mesh.tidy)

theorem awaitWithin_lived (minimum deadline fuel : Nat) :
    ∀ mesh : Mesh, mesh.IsLived (awaitWithin n minimum deadline fuel mesh).2 := by
  induction fuel with
  | zero => exact fun mesh => .refl mesh
  | succ fuel ih =>
    intro mesh
    unfold awaitWithin
    split
    · rename_i next
      exact (next_lived next).trans (ih _)
    · split
      · exact .refl mesh
      · dsimp only
        refine IsLived.trans ?_ (ih _)
        split
        · exact (mesh.clock_lived _).trans (wake_lived _)
        · exact mesh.clock_lived _

/-- **Whoever waits for peers.** -/
theorem awaitPeers_lived (mesh : Mesh) (n : Nat) (timeout : Duration) (minimum : Nat) :
    mesh.IsLived (mesh.awaitPeers n timeout minimum).2 := by
  have tidies : mesh.IsLived mesh.tidy := mesh.brief_lived .tidy rfl
  exact tidies.trans (awaitWithin_lived minimum (mesh.time + timeout.ticks) patience mesh.tidy)

/-! ### Whatever happens -/

theorem queue_lived (mesh : Mesh) (n : Nat) (goal : Goal) (kind : String) (data : Bytes) :
    mesh.IsLived (mesh.dispatchFor n goal kind data).2 :=
  mesh.brief_lived (.queue n goal kind data) rfl

theorem askAll_lived (mesh : Mesh) (n : Nat) (targets : List (Address × Event)) :
    mesh.IsLived (mesh.askAll n targets).2 :=
  List.foldlRecOn (motive := fun asked : List (Address × Behaviour) × Mesh => mesh.IsLived asked.2) targets _
    (.refl mesh) fun between lived target _ => lived.trans (between.2.live_lived (.asks n target.1 target.2))

theorem sendAll_lived (mesh : Mesh) (n : Nat) (targets : List (Address × Event)) (timeout : Duration) :
    mesh.IsLived (mesh.sendAll n targets timeout).2 :=
  (mesh.askAll_lived n targets).trans (runUntil_lived _ _)

theorem sendMany_lived (mesh : Mesh) (n : Nat) (addresses : List Address) (kind : String) (data : Bytes)
    (timeout : Duration) : mesh.IsLived (mesh.sendMany n addresses kind data timeout).2 := by
  unfold Mesh.sendMany
  split
  · exact .refl mesh
  · exact mesh.sendAll_lived n _ timeout

theorem dispatchTimes_lived (mesh : Mesh) (n times : Nat) (goal : Goal) (kind : String) (data : Bytes) :
    mesh.IsLived (mesh.dispatchTimes n times goal kind data).2 := by
  unfold dispatchTimes
  induction times with
  | zero => exact .refl mesh
  | succ times ih => exact ih.trans (queue_lived _ n goal kind data)

/-- **An order that waits is carried out instant by instant.** -/
theorem carryOut_lived (mesh : Mesh) (order : Order) : mesh.IsLived (mesh.carryOut order).2 := by
  cases brief : order.isBrief with
  | true => exact mesh.brief_lived (.order order) brief
  | false =>
    cases order with
    | dispatch n goal kind data => exact (mesh.queue_lived n goal kind data).trans (runUntil_lived _ _)
    | burst n times kind data =>
      exact (mesh.dispatchTimes_lived n times .ownDomain kind data).trans (runUntil_lived _ _)
    | dispatchThenClose n kind data =>
      rw [carryOut_dispatchThenClose]
      have queues := mesh.queue_lived n .ownDomain kind data
      exact (queues.trans (brief_lived _ (.order (.close n)) rfl)).trans (runUntil_lived _ _)
    | send n address kind data timeout =>
      show mesh.IsLived (mesh.send n address kind data timeout).2
      unfold Mesh.send
      split
      · exact .refl mesh
      · exact (mesh.live_lived (.asks n address _)).trans (runUntil_lived _ _)
    | sendMany n addresses kind data timeout => exact mesh.sendMany_lived n addresses kind data timeout
    | sendEach n targets kind timeout =>
      show mesh.IsLived (mesh.sendEach n targets kind timeout).2
      unfold Mesh.sendEach
      dsimp only
      split
      · exact .refl mesh
      · exact mesh.sendAll_lived n _ timeout
    | sendToNodes n ids kind data timeout => exact mesh.sendMany_lived n _ kind data timeout
    | awaitPeers n timeout minimum => exact mesh.awaitPeers_lived n timeout minimum
    | sleep span => exact mesh.runUntil_lived _
    | forgeRequest address event timeout =>
      exact (mesh.live_lived (.asksFromOutside address event)).trans (runUntil_lived _ _)
    | _ => cases brief

/-- **Whatever happens is a matter of instants.** -/
theorem undergo_lived (mesh : Mesh) (incident : Incident) : mesh.IsLived (mesh.undergo incident) := by
  cases incident with
  | order order => exact mesh.carryOut_lived order
  | pass span => exact mesh.live_lived (.passes span)
  | create | provide | queue | adjust | move | turn | tidy => exact mesh.brief_lived _ rfl

theorem undergoAll_lived (history : List Incident) (mesh : Mesh) : mesh.IsLived (mesh.undergoAll history) :=
  List.foldlRecOn history _ (IsLived.refl mesh) fun between lived incident _ =>
    lived.trans (between.undergo_lived incident)

end Mesh

end PeerMesh
