/-
**What becomes of a view is what happens to it.**

A detector acts on its view through watchers, control messages and rounds. Whatever it does, happenings lead
from the view before to the view afterwards.

* `View.Becomes` — happenings lead from one view to another.
* `Watched.run_becomes`, `Watched.receive_becomes` — an operation with all that watchers make of it, and a
  control message that arrives.
* `Detector.IsRoutine.becomes` — whatever a round does to its detector.
-/

import PeerMesh.Proofs.Detector.Grounds
import PeerMesh.Proofs.View.Happenings

namespace PeerMesh

namespace View

/-- Happenings lead from one view to another. -/
def Becomes (before after : View) : Prop := ∃ happenings, after = before.undergoAll happenings

variable {view later last : View}

theorem Becomes.refl (view : View) : view.Becomes view := ⟨[], rfl⟩

theorem Becomes.trans (first : view.Becomes later) (second : later.Becomes last) : view.Becomes last := by
  obtain ⟨before, rfl⟩ := first
  obtain ⟨after, rfl⟩ := second
  exact ⟨before ++ after, (view.undergoAll_append before after).symm⟩

theorem becomes_undergo (view : View) (happening : Happening) : view.Becomes (view.undergo happening) :=
  ⟨[happening], rfl⟩

/-- A view was new once, and whatever has become of it has happened to it. -/
def HasCome (view : View) : Prop := (new view.selfId).Becomes view

theorem HasCome.sound (came : view.HasCome) : view.Sound view.selfId := by
  obtain ⟨happenings, same⟩ := came
  have sound := sound_undergoAll view.selfId happenings
  rwa [← same] at sound

theorem HasCome.becomes (came : view.HasCome) (becomes : view.Becomes later) : later.HasCome := by
  obtain ⟨happenings, same⟩ := came.trans becomes
  have sound := sound_undergoAll view.selfId happenings
  rw [← same] at sound
  exact ⟨happenings, sound.owned.symm ▸ same⟩

theorem hasCome_new (selfId : NodeId) : (new selfId).HasCome := .refl _

end View

theorem Kept.perform_becomes (kept : Kept) (time : Nat) (step : ViewStep) :
    kept.view.Becomes (kept.perform time step).2.1.view := by
  have same : (kept.perform time step).2.1.view = _ := congrArg Prod.snd (kept.perform_eq time step)
  rw [same]
  exact kept.view.becomes_undergo (.operation (kept.clock.reading time) step)

namespace Watched

variable {watched : Watched}

/-- Whatever watchers make of a step. -/
theorem perform_becomes (watched : Watched) (time : Nat) (step : ViewStep) :
    watched.view.Becomes (watched.perform time step).2.view :=
  performWithin_induct watched.view.Becomes (fun kept step becomes => becomes.trans (kept.perform_becomes time step))
    _ watched step (.refl _)

theorem tell_becomes (watched : Watched) (time : Nat) (notices : List Notice) :
    watched.view.Becomes (watched.tell time notices).view := by
  have abides : watched.Abides watched.view.Becomes fun _ => True := ⟨.refl _, fun _ _ _ _ => trivial⟩
  refine (abides.tellAll (fun between step _ known => ⟨?_, fun _ _ _ _ => trivial⟩) notices).view
  exact performWithin_induct watched.view.Becomes
    (fun kept step becomes => becomes.trans (kept.perform_becomes time step)) _ between step known.view

/-- **An operation, with all that watchers make of it.** -/
theorem run_becomes {α : Type} (watched : Watched) (time : Nat) {operation : View → Reading → Outcome α}
    (becomes : ∀ now, watched.view.Becomes (operation watched.view now).view) :
    watched.view.Becomes (watched.run time operation).2.view :=
  (becomes _).trans (tell_becomes _ time _)

theorem heartbeat_becomes (watched : Watched) (time : Nat) (address : Address) (id : NodeId) :
    watched.view.Becomes (watched.run time fun view now => view.heartbeat now address id).2.view :=
  watched.run_becomes time fun now => watched.view.becomes_undergo (.operation now (.heartbeat address id))

/-- A digest that arrives. -/
theorem merge_becomes (watched : Watched) (time : Nat) (address : Address) (sender : NodeId) (digest : Digest) :
    watched.view.Becomes (watched.merge time address sender digest).view := by
  have heard : watched.view.Becomes (watched.hearSender time address sender digest.heartbeat).view := by
    have beat := watched.heartbeat_becomes time address sender
    unfold hearSender
    dsimp only
    split
    · exact beat.trans (View.becomes_undergo _ (.operation 0 (.observeVersion sender digest.heartbeat)))
    · exact beat
  unfold merge
  split
  · refine List.foldlRecOn (motive := fun between : Watched => watched.view.Becomes between.view)
      digest.entries _ heard fun between becomes entry _ => becomes.trans ?_
    unfold hearEntry
    split
    · exact .refl _
    · exact between.run_becomes time fun now =>
        between.view.becomes_undergo (.operation now (.observe entry.address entry.id entry.version))
  · exact .refl _

/-- **A control message that arrives.** -/
theorem receive_becomes (watched : Watched) (time : Nat) (event : Event) :
    watched.view.Becomes (watched.receive time event).2.view := by
  unfold receive
  split
  · exact .refl _
  · exact watched.merge_becomes time _ _ _
  · exact watched.merge_becomes time _ _ _
  · rename_i request read
    cases request with
    | ping => exact watched.heartbeat_becomes time _ _
    | healthCheck target address =>
      dsimp only [receiveRequest]
      split <;> exact .refl _
  · exact .refl _

end Watched

/-- **Whatever a round does to its detector.** -/
theorem Detector.IsRoutine.becomes {time : Nat} {change : Detector → Detector} (routine : IsRoutine time change)
    (detector : Detector) : detector.view.Becomes (change detector).view := by
  cases routine with
  | aging => exact detector.view.becomes_undergo (.aging _ detector.settings.heartbeatTimeout)
  | counting change sameDeaths => exact .refl _
  | conclusion probing =>
    have concluded : detector.view.Becomes (detector.watched.run time fun view now =>
        view.conclude now probing.probe probing.affirmed).2.view :=
      detector.watched.run_becomes time fun now =>
        detector.view.becomes_undergo (.verdict now probing.probe probing.affirmed)
    unfold Detector.conclude
    dsimp only
    split <;> exact concluded
  | eviction =>
    have evicted : detector.view.Becomes (detector.watched.run time fun view now =>
        view.cleanup now detector.settings.gracePeriod).2.view :=
      detector.watched.run_becomes time fun now =>
        detector.view.becomes_undergo (.operation now (.cleanup detector.settings.gracePeriod))
    exact evicted

end PeerMesh
