/-
**Views and the steps that have led to them.**

* `View.perform`, `View.performAll` — steps on a view, each at its own clock reading: a clock may be set
  in any way between two steps.
* `Kept.perform_eq` — a step on a view that is kept by a clock is a step at the reading of that clock.
* `Watched.view_eq_performAll` — what steps and the reactions of watchers have made of a view, steps
  alone would have made of it.
* `sound_performAll` — a new view is sound after any steps.
-/

import Mathlib.Data.List.Induction
import PeerMesh.Proofs.View.Soundness

namespace PeerMesh

namespace View

/-- A step is made while the clock shows a reading: its answer, and the view afterwards. -/
def perform (view : View) (now : Reading) (step : ViewStep) : ViewAnswer × View :=
  let (answer, kept, _) := Kept.perform ⟨view, .manual now⟩ 0 step
  (answer, kept.view)

/-- Steps are made one after another, each at its reading. -/
def performAll (view : View) (steps : List (Reading × ViewStep)) : View :=
  steps.foldl (fun view entry => (view.perform entry.1 entry.2).2) view

theorem performAll_append (view : View) (first second : List (Reading × ViewStep)) :
    view.performAll (first ++ second) = (view.performAll first).performAll second :=
  List.foldl_append

theorem performAll_concat (view : View) (steps : List (Reading × ViewStep)) (now : Reading)
    (step : ViewStep) :
    view.performAll (steps ++ [(now, step)]) = ((view.performAll steps).perform now step).2 :=
  view.performAll_append steps [(now, step)]

theorem Sound.perform {view : View} {selfId : NodeId} (sound : view.Sound selfId) (now : Reading)
    (step : ViewStep) : (view.perform now step).2.Sound selfId :=
  have kept : (Kept.mk view (.manual now)).view.Sound selfId := sound
  Kept.perform_sound kept 0 step

/-- A new view is sound after any steps. -/
theorem sound_performAll (selfId : NodeId) (steps : List (Reading × ViewStep)) :
    ((new selfId).performAll steps).Sound selfId := by
  induction steps using List.reverseRecOn with
  | nil => exact new_sound selfId
  | append_singleton steps entry ih =>
    obtain ⟨now, step⟩ := entry
    rw [performAll_concat]
    exact ih.perform now step

end View

/-- A step on a view that is kept by a clock is a step at the reading of that clock. -/
theorem Kept.perform_eq (kept : Kept) (time : Nat) (step : ViewStep) :
    ((kept.perform time step).1, (kept.perform time step).2.1.view) =
      kept.view.perform (kept.clock.reading time) step := by
  cases step <;> rfl

/-- **Watchers act by steps alone**: whatever they do when they are told, the view is one to which steps
lead. -/
theorem Watched.view_eq_performAll (selfId : NodeId) (steps : List (Nat × ViewStep))
    (watched : Watched) (new : watched.view = .new selfId) :
    ∃ history, (watched.performAll steps).view = (View.new selfId).performAll history := by
  have keeps : ∀ (kept : Kept) (time : Nat) (step : ViewStep),
      (∃ history, kept.view = (View.new selfId).performAll history) →
        ∃ history, (kept.perform time step).2.1.view = (View.new selfId).performAll history := by
    rintro kept time step ⟨history, same⟩
    refine ⟨history ++ [(kept.clock.reading time, step)], ?_⟩
    rw [View.performAll_concat, ← same, ← kept.perform_eq]
  induction steps using List.reverseRecOn with
  | nil => exact ⟨[], new⟩
  | append_singleton steps entry ih =>
    have last : watched.performAll (steps ++ [entry]) =
        ((watched.performAll steps).perform entry.1 entry.2).2 := List.foldl_append
    rw [last]
    exact performWithin_induct (fun view => ∃ history, view = (View.new selfId).performAll history)
      (fun kept step => keeps kept entry.1 step) _ _ entry.2 ih

end PeerMesh
