/-
**Views whose watchers do nothing.**

A watcher that does not react to what it is told records it and does nothing else
(`Watched.tellAll_of_unmoved`). One that has no reaction to make any more never does
(`Watched.run_of_passive`), so a detector with such watchers is changed by its own steps alone.

* `Detector.conclude_of_passive` — the end of a probe.
* `Detector.evict_of_passive` — the end of a round.
-/

import PeerMesh.Detector.Rounds

namespace PeerMesh

/-! ### Watchers that do nothing -/

namespace Watched

/-- No watcher reacts to anything any more. -/
def IsPassive (watched : Watched) : Prop := ∀ watcher ∈ watched.watchers, watcher.reaction = none

/-- No watcher reacts to any of the notices. -/
def IsUnmovedBy (watched : Watched) (notices : List Notice) : Prop :=
  ∀ watcher ∈ watched.watchers, ∀ notice ∈ notices, Watcher.reactionTo? watcher notice = none

/-- From one state to a later one watchers have recorded something, and that is all. -/
def OnlySaw (before after : Watched) : Prop :=
  ∃ sightings, after = { before with sightings := sightings }

variable {watched later : Watched}

theorem OnlySaw.trans {last : Watched} (first : watched.OnlySaw later) (second : later.OnlySaw last) :
    watched.OnlySaw last := by
  obtain ⟨_, rfl⟩ := first
  obtain ⟨sightings, rfl⟩ := second
  exact ⟨sightings, rfl⟩

theorem OnlySaw.isPassive (saw : watched.OnlySaw later) (passive : watched.IsPassive) :
    later.IsPassive := by
  obtain ⟨_, rfl⟩ := saw
  exact passive

theorem IsPassive.isUnmovedBy (passive : watched.IsPassive) (notices : List Notice) :
    watched.IsUnmovedBy notices := by
  intro watcher isThere notice _
  unfold Watcher.reactionTo?
  rw [passive watcher isThere]

theorem OnlySaw.isUnmovedBy {notices : List Notice} (saw : watched.OnlySaw later)
    (unmoved : watched.IsUnmovedBy notices) : later.IsUnmovedBy notices := by
  obtain ⟨_, rfl⟩ := saw
  exact unmoved

theorem tellOne_of_unmoved {notices : List Notice} (unmoved : watched.IsUnmovedBy notices)
    (react : Watched → ViewStep → ViewAnswer × Watched) {notice : Notice} (among : notice ∈ notices)
    (number : Nat) : watched.OnlySaw (tellOne react notice watched number) := by
  unfold tellOne
  split
  · exact ⟨watched.sightings, rfl⟩
  · rename_i watcher found
    split
    · exact ⟨watched.sightings, rfl⟩
    · have silent := unmoved watcher (List.mem_of_getElem? found) notice among
      dsimp only
      rw [silent]
      exact ⟨_, rfl⟩

/-- Watchers that what they are told does not move record it, and do nothing else. -/
theorem tellAll_of_unmoved {notices : List Notice} (unmoved : watched.IsUnmovedBy notices)
    (react : Watched → ViewStep → ViewAnswer × Watched) :
    watched.OnlySaw (watched.tellAll react notices) := by
  have start : watched.OnlySaw watched := ⟨watched.sightings, rfl⟩
  exact List.foldlRecOn notices _ start fun between saw notice among =>
    List.foldlRecOn between.registered _ saw fun last seen number _ =>
      seen.trans (tellOne_of_unmoved (seen.isUnmovedBy unmoved) react among number)

/-- An operation on a view whose watchers are passive is what it is without them. -/
theorem run_of_passive {α : Type} (passive : watched.IsPassive) (time : Nat)
    (operation : View → Reading → Outcome α) :
    (watched.run time operation).1 = (operation watched.view (watched.now time)).answer ∧
      { watched with view := (operation watched.view (watched.now time)).view }.OnlySaw
        (watched.run time operation).2 := by
  have still : Watched.IsPassive { watched with
      view := (operation watched.view (watched.now time)).view } := passive
  exact ⟨rfl, tellAll_of_unmoved (still.isUnmovedBy _) _⟩

end Watched

/-! ### The steps of a round, without reactions -/

namespace Detector

/-- Apart from what the watchers have recorded, a detector is this one with another view and another
count of the dead. -/
structure Changed (before : Detector) (view : View) (declaredDead : Nat) (after : Detector) :
    Prop where
  settings : after.settings = before.settings
  clock : after.watched.clock = before.watched.clock
  watchers : after.watched.watchers = before.watched.watchers
  view : after.view = view
  counts : after.counts = { before.counts with declaredDead := declaredDead }

variable {detector : Detector}

theorem conclude_of_passive (passive : detector.watched.IsPassive) (time : Nat)
    (probing : Probing) :
    let outcome := detector.view.conclude (detector.watched.now time) probing.probe probing.affirmed
    detector.Changed outcome.view (detector.counts.declaredDead + outcome.answer.toNat)
      (detector.conclude time probing) := by
  intro outcome
  obtain ⟨answer, sightings, saw⟩ := Watched.run_of_passive passive time fun view now =>
    view.conclude now probing.probe probing.affirmed
  unfold Detector.conclude Detector.run
  dsimp only
  rw [answer, saw]
  have same : detector.watched.view.conclude (detector.watched.now time) probing.probe
    probing.affirmed = outcome := rfl
  rw [same]
  cases died : outcome.answer with
  | true => exact ⟨rfl, rfl, rfl, rfl, rfl⟩
  | false => exact ⟨rfl, rfl, rfl, rfl, rfl⟩

theorem evict_of_passive (passive : detector.watched.IsPassive) (time : Nat) :
    detector.Changed
      (detector.view.cleanup (detector.watched.now time) detector.settings.gracePeriod).view
      detector.counts.declaredDead (detector.evict time) := by
  obtain ⟨_, sightings, saw⟩ := Watched.run_of_passive passive time fun view now =>
    view.cleanup now detector.settings.gracePeriod
  unfold evict Detector.run
  dsimp only
  rw [saw]
  exact ⟨rfl, rfl, rfl, rfl, rfl⟩

end Detector

end PeerMesh
