/-
**A view that is shut down.**

* `View.Fades` — a view that was shut down has stayed so, nobody has become live, and no notice tells of
  anybody who joined.
* `Kept.perform_fades` — whatever step is made on a view that is shut down.
* **`Watched.perform_fades`** — the same with watchers, whatever steps of their own they make. `run_fades` — so does
  whatever operation, if the view takes it so. `run_of_closed` — what tells of a peer is refused.
-/

import PeerMesh.Proofs.View.Notices

namespace PeerMesh

namespace View

/-- A view that was shut down has stayed so, nobody has become live, and nobody is told to have joined. -/
structure Fades (before : View) (notices : List Notice) (after : View) : Prop where
  closed : after.closed = true
  live : ∀ id, after.isLive id = true → before.isLive id = true
  quiet : ∀ notice ∈ notices, notice.change ≠ .up

variable {view after : View}

theorem fades_silently (closed : after.closed = true) (same : ∀ id, after.isLive id = view.isLive id) :
    view.Fades [] after :=
  ⟨closed, fun id live => (same id).symm.trans live, fun _ told => nomatch told⟩

/-- A peer goes, and that is told. -/
theorem fades_dismiss (closed : after.closed = true) {key : NodeId} (gone : after.live = view.live.erase key)
    {change : Change} (leaves : change ≠ .up) (record : Record) : view.Fades [⟨change, record⟩] after := by
  refine ⟨closed, fun id live => ?_, fun notice told => ?_⟩
  · have dismissed : ({ view with live := view.live.erase key } : View).isLive id = true := by
      unfold isLive at live ⊢
      rwa [gone] at live
    rw [isLive_dismiss] at dismissed
    split at dismissed
    · cases dismissed
    · exact dismissed
  · rw [List.mem_singleton] at told
    subst told
    exact leaves

theorem unlessRefused_of_closed (closed : view.closed = true) (id : NodeId) (operation : Outcome Bool) :
    view.unlessRefused id operation = ⟨.error .closed, view, []⟩ := by
  unfold unlessRefused refusal?
  rw [if_pos closed]

theorem removeDead_fades (closed : view.closed = true) (now : Reading) (id : NodeId) :
    view.Fades (view.removeDead now id).notices (view.removeDead now id).view := by
  unfold removeDead
  split
  · rename_i member _
    have leaves : Change.down ≠ .up := by decide
    refine fades_dismiss ?_ rfl leaves member.record
    exact closed
  · exact fades_silently closed fun _ => rfl

theorem removeLeaving_fades (closed : view.closed = true) (id : NodeId) :
    view.Fades (view.removeLeaving id).notices (view.removeLeaving id).view := by
  unfold removeLeaving
  split
  · rename_i member _
    have leaves : Change.left ≠ .up := by decide
    refine fades_dismiss ?_ rfl leaves member.record
    exact closed
  · exact fades_silently closed fun _ => rfl

theorem clear_fades (closed : view.closed = true) : view.Fades view.clear.notices view.clear.view := by
  refine ⟨closed, fun id live => (by cases live), fun notice told => ?_⟩
  obtain ⟨record, _, rfl⟩ := List.mem_map.mp told
  exact fun up => (by cases up)

theorem cleanup_fades (closed : view.closed = true) (now : Reading) (grace : Duration) :
    view.Fades (view.cleanup now grace).notices (view.cleanup now grace).view := by
  unfold cleanup
  dsimp only
  split <;> exact fades_silently closed fun _ => rfl

end View

/-- **Whatever step is made on a view that is shut down**, it stays so, and nobody becomes live or is told
to have joined. -/
theorem Kept.perform_fades {kept : Kept} (closed : kept.view.closed = true) (time : Nat) (step : ViewStep) :
    kept.view.Fades (kept.perform time step).2.2 (kept.perform time step).2.1.view := by
  have refused (id : NodeId) (operation : Outcome Bool) :
      kept.view.Fades (kept.view.unlessRefused id operation).notices
        (kept.view.unlessRefused id operation).view := by
    rw [View.unlessRefused_of_closed closed]
    exact View.fades_silently closed fun _ => rfl
  cases step with
  | addHost address id => exact refused id _
  | heartbeat address id => exact refused id _
  | observe address id version => exact refused id _
  | removeDead id => exact View.removeDead_fades closed _ id
  | removeLeaving id => exact View.removeLeaving_fades closed id
  | clear => exact View.clear_fades closed
  | cleanup grace => exact View.cleanup_fades closed _ grace
  | shutdown => exact View.fades_silently rfl fun _ => rfl
  | suspect id | touch id | checkState id timeout | observeVersion id version =>
    exact View.fades_silently closed fun other => View.isLive_modifyRecord _ id other _
  | get _ | addressOf _ | isLive _ | isDead _ | normal | staleness | advance _ | set _ =>
    exact View.fades_silently closed fun _ => rfl

/-- Whether a watcher was told of somebody who joined. -/
def Sighting.isWelcome : Sighting → Bool
  | .told _ notice => notice.change = .up
  | .reacted _ _ => false

namespace Watched

/-- What watchers were told of peers who joined. -/
def welcomes (watched : Watched) : List Sighting := watched.sightings.filter Sighting.isWelcome

/-- If the view was shut down it has stayed so, nobody has become live, and no watcher was told of anybody
who joined. -/
def Fades (before after : Watched) : Prop :=
  before.view.closed = true → after.view.closed = true ∧
    (∀ id, after.view.isLive id = true → before.view.isLive id = true) ∧ after.welcomes = before.welcomes

variable {watched later last : Watched}

theorem Fades.refl (watched : Watched) : watched.Fades watched :=
  fun closed => ⟨closed, fun _ live => live, rfl⟩

theorem Fades.trans (first : watched.Fades later) (second : later.Fades last) : watched.Fades last := by
  intro closed
  obtain ⟨stillClosed, live, welcomes⟩ := first closed
  obtain ⟨everClosed, later, same⟩ := second stillClosed
  exact ⟨everClosed, fun id isLive => live id (later id isLive), same.trans welcomes⟩

/-- Only the view and what was recorded matter. -/
theorem fades_of_same (view : later.view = watched.view) (welcomes : later.welcomes = watched.welcomes) :
    watched.Fades later := by
  intro closed
  rw [view, welcomes]
  exact Fades.refl watched closed

section

variable {react : Watched → ViewStep → ViewAnswer × Watched}
  (reacts : ∀ (watched : Watched) (step : ViewStep), watched.Fades (react watched step).2)

include reacts

theorem tellOne_fades (watched : Watched) {notice : Notice} (quiet : notice.change ≠ .up) (number : Nat) :
    watched.Fades (tellOne react notice watched number) := by
  have told : watched.Fades (watched.record (.told number notice)) := by
    refine fades_of_same rfl (List.filter_cons_of_neg ?_)
    exact fun welcome => quiet (of_decide_eq_true welcome)
  unfold tellOne
  split
  · exact .refl watched
  · split
    · exact .refl watched
    · dsimp only
      split
      · exact told
      · rename_i step _
        have spent : (watched.record (.told number notice)).Fades
            ((watched.record (.told number notice)).spendReaction number) := fades_of_same rfl rfl
        exact ((told.trans spent).trans (reacts _ step)).trans (fades_of_same rfl rfl)

theorem tellAll_fades (watched : Watched) {notices : List Notice}
    (quiet : ∀ notice ∈ notices, notice.change ≠ .up) : watched.Fades (watched.tellAll react notices) :=
  List.foldlRecOn notices _ (Fades.refl watched) fun _ fades notice among =>
    List.foldlRecOn _ _ fades fun between fades number _ =>
      fades.trans (tellOne_fades reacts between (quiet notice among) number)

end

/-- Watchers act on the view by steps alone. -/
theorem performWithin_fades (time depth : Nat) :
    ∀ (watched : Watched) (step : ViewStep), watched.Fades (performWithin time depth watched step).2 := by
  -- without the view shut down nothing is claimed, so the notices of the step may be taken to be quiet
  have tells {react : Watched → ViewStep → ViewAnswer × Watched}
      (reacts : ∀ (watched : Watched) (step : ViewStep), watched.Fades (react watched step).2)
      (watched : Watched) (step : ViewStep) :
      watched.Fades ((watched.performSilently time step).2.1.tellAll react
        (watched.performSilently time step).2.2) := by
    intro closed
    have shut : (⟨watched.view, watched.clock⟩ : Kept).view.closed = true := closed
    have fades := Kept.perform_fades shut time step
    have silent : watched.Fades (watched.performSilently time step).2.1 :=
      fun _ => ⟨fades.closed, fades.live, rfl⟩
    exact silent.trans (tellAll_fades reacts _ fades.quiet) closed
  induction depth with
  | zero => exact tells fun watched _ => .refl watched
  | succ depth ih => exact tells ih

/-- **Whatever step is made on a view that is shut down, and whatever watchers make of it**, it stays so,
and nobody becomes live or is told to have joined. -/
theorem perform_fades (watched : Watched) (time : Nat) (step : ViewStep) :
    watched.Fades (watched.perform time step).2 :=
  performWithin_fades time _ watched step

/-- An operation that a view which is shut down takes so, and whatever watchers make of it. -/
theorem run_fades {α : Type} (watched : Watched) (time : Nat) {operation : View → Reading → Outcome α}
    (fades : ∀ {view : View}, view.closed = true → ∀ now,
      view.Fades (operation view now).notices (operation view now).view) :
    watched.Fades (watched.run time operation).2 := by
  intro closed
  have fades := fades closed (watched.now time)
  have silent : watched.Fades { watched with view := (operation watched.view (watched.now time)).view } :=
    fun _ => ⟨fades.closed, fades.live, rfl⟩
  exact silent.trans (tellAll_fades (performWithin_fades time _) _ fades.quiet) closed

/-- An operation that a view may refuse is refused when it is shut down. -/
theorem run_of_closed {watched : Watched} (closed : watched.view.closed = true) (time : Nat) (id : NodeId)
    (operation : View → Reading → Outcome Bool) :
    (watched.run time fun view now => view.unlessRefused id (operation view now)) = (.error .closed, watched) := by
  unfold run
  dsimp only
  rw [View.unlessRefused_of_closed closed]
  rfl

end Watched

end PeerMesh
