/-
**What the watchers of a view hear.**

Watchers that do not act on the view all hear the same (`Watched.Hears`), however often any of them
panics.

* `hears_tellAll` — every attending watcher is told of all notices.
* `perform_of_passive`, `performAll_of_passive` — what they hear of steps are the notices of these steps.
* **`heard_replays_live`** — from what any watcher hears, the live peers are known.
-/

import PeerMesh.Proofs.Detector.Passive
import PeerMesh.Proofs.View.Notices

namespace PeerMesh

namespace Watched

/-- The notices that a watcher was told, in order. -/
def heardBy (watched : Watched) (number : Nat) : List Notice :=
  watched.sightings.reverse.filterMap fun
    | .told watcher notice => if watcher = number then some notice else none
    | .reacted _ _ => none

/-- A watcher is registered once, and takes notice of what it is told. -/
structure Attends (watched : Watched) (number : Nat) : Prop where
  once : watched.registered.count number = 1
  listens : ∃ watcher, watched.watchers[number]? = some watcher ∧ watcher.isDeaf = false

/-- From one state to a later one, every attending watcher has heard some notices. -/
structure Hears (before : Watched) (notices : List Notice) (after : Watched) : Prop where
  watchers : after.watchers = before.watchers
  registered : after.registered = before.registered
  heard : ∀ number, before.Attends number → after.heardBy number = before.heardBy number ++ notices

variable {watched later : Watched} {notices : List Notice}

theorem hears_nothing (watched : Watched) : watched.Hears [] watched :=
  ⟨rfl, rfl, fun _ _ => (List.append_nil _).symm⟩

theorem Hears.attends (hears : watched.Hears notices later) {number : Nat}
    (attends : watched.Attends number) : later.Attends number := by
  refine ⟨?_, ?_⟩
  · rw [hears.registered]
    exact attends.once
  · rw [hears.watchers]
    exact attends.listens

theorem Hears.isPassive (hears : watched.Hears notices later) (passive : watched.IsPassive) :
    later.IsPassive := by
  unfold IsPassive
  rw [hears.watchers]
  exact passive

theorem Hears.trans {last : Watched} {others : List Notice} (first : watched.Hears notices later)
    (second : later.Hears others last) : watched.Hears (notices ++ others) last := by
  refine ⟨second.watchers.trans first.watchers, second.registered.trans first.registered, ?_⟩
  intro number attends
  rw [second.heard number (first.attends attends), first.heard number attends, List.append_assoc]

/-- Whether or not it panics, a watcher that is not moved records the notice that it is told, and nobody
else does. -/
theorem heardBy_tellOne (unmoved : watched.IsUnmovedBy notices)
    (react : Watched → ViewStep → ViewAnswer × Watched) {notice : Notice} (among : notice ∈ notices)
    (told : Nat) {number : Nat}
    (listens : ∃ watcher, watched.watchers[number]? = some watcher ∧ watcher.isDeaf = false) :
    (tellOne react notice watched told).heardBy number =
      watched.heardBy number ++ List.replicate (if told = number then 1 else 0) notice := by
  unfold tellOne
  by_cases same : told = number
  · subst same
    obtain ⟨watcher, found, listening⟩ := listens
    have silent := unmoved watcher (List.mem_of_getElem? found) notice among
    rw [found]
    simp [listening, silent, heardBy, record]
  · rw [if_neg same, List.replicate_zero, List.append_nil]
    split
    · rfl
    · rename_i watcher found
      split
      · rfl
      · have silent := unmoved watcher (List.mem_of_getElem? found) notice among
        simp [silent, heardBy, record, same]

/-- All registered watchers are told of one notice, each as often as it is registered. -/
theorem heardBy_tellEach (react : Watched → ViewStep → ViewAnswer × Watched) {notice : Notice}
    (among : notice ∈ notices) (numbers : List Nat) :
    ∀ watched : Watched, watched.IsUnmovedBy notices → ∀ {number : Nat},
      (∃ watcher, watched.watchers[number]? = some watcher ∧ watcher.isDeaf = false) →
      (numbers.foldl (tellOne react notice) watched).heardBy number =
        watched.heardBy number ++ List.replicate (numbers.count number) notice := by
  induction numbers with
  | nil => exact fun _ _ _ _ => (List.append_nil _).symm
  | cons told rest ih =>
    intro watched unmoved number listens
    have first := heardBy_tellOne unmoved react among told listens
    obtain ⟨sightings, saw⟩ := tellOne_of_unmoved unmoved react among told
    rw [List.foldl_cons]
    rw [saw] at first ⊢
    rw [ih { watched with sightings := sightings } unmoved listens, first,
      List.append_assoc, List.replicate_append_replicate, List.count_cons]
    simp [Nat.add_comm]

/-- **Every attending watcher hears all notices**, whatever watchers panic, if nobody reacts to any. -/
theorem hears_tellAll (react : Watched → ViewStep → ViewAnswer × Watched) (notices : List Notice) :
    ∀ {watched : Watched}, watched.IsUnmovedBy notices →
      watched.Hears notices (watched.tellAll react notices) := by
  induction notices with
  | nil => exact fun _ => hears_nothing _
  | cons notice rest ih =>
    intro watched unmoved
    have calm : watched.IsUnmovedBy [notice] := fun watcher isThere other among =>
      unmoved watcher isThere other (List.mem_singleton.mp among ▸ List.mem_cons_self)
    have first : watched.Hears [notice] (watched.tellAll react [notice]) := by
      obtain ⟨sightings, saw⟩ := tellAll_of_unmoved calm react
      refine ⟨by rw [saw], by rw [saw], fun number attends => ?_⟩
      have heard := heardBy_tellEach react List.mem_cons_self watched.registered watched calm attends.listens
      rw [attends.once] at heard
      exact heard
    refine first.trans (ih fun watcher isThere other among => ?_)
    rw [first.watchers] at isThere
    exact unmoved watcher isThere other (List.mem_cons_of_mem _ among)

/-- A step on a view with passive watchers is the step without them, and every attending watcher hears
its notices. -/
theorem perform_of_passive (passive : watched.IsPassive) (time : Nat) (step : ViewStep) :
    (watched.perform time step).1 = (watched.view.perform (watched.now time) step).1 ∧
      (watched.perform time step).2.view = (watched.view.perform (watched.now time) step).2 ∧
      watched.Hears (watched.view.notices (watched.now time) step) (watched.perform time step).2 := by
  let kept : Kept := ⟨watched.view, watched.clock⟩
  let silent := { watched with
    view := (kept.perform time step).2.1.view
    clock := (kept.perform time step).2.1.clock }
  have same : ((kept.perform time step).1, (kept.perform time step).2.1.view,
      (kept.perform time step).2.2) = ((watched.view.perform (watched.now time) step).1,
      (watched.view.perform (watched.now time) step).2,
      watched.view.notices (watched.now time) step) := by
    cases step <;> rfl
  obtain ⟨answer, rest⟩ := Prod.mk.inj same
  obtain ⟨view, notices⟩ := Prod.mk.inj rest
  rw [← answer, ← view, ← notices]
  have told (react : Watched → ViewStep → ViewAnswer × Watched) :
      (silent.tellAll react (kept.perform time step).2.2).view = silent.view ∧
        watched.Hears (kept.perform time step).2.2
          (silent.tellAll react (kept.perform time step).2.2) := by
    have quiet : silent.IsPassive := passive
    have unmoved := quiet.isUnmovedBy (kept.perform time step).2.2
    have hears := hears_tellAll react (kept.perform time step).2.2 unmoved
    obtain ⟨sightings, saw⟩ := tellAll_of_unmoved unmoved react
    exact ⟨by rw [saw], hears.watchers, hears.registered, fun number attends =>
      hears.heard number ⟨attends.once, attends.listens⟩⟩
  unfold perform performWithin
  split <;> exact ⟨rfl, told _⟩

/-- What watchers that are passive have heard after steps are the notices of these steps. -/
theorem performAll_of_passive (steps : List (Nat × ViewStep)) :
    ∀ {watched : Watched}, watched.IsPassive → ∃ history,
      (watched.performAll steps).view = watched.view.performAll history ∧
      watched.Hears (watched.view.noticesAll history) (watched.performAll steps) := by
  induction steps with
  | nil => exact fun {watched} _ => ⟨[], rfl, hears_nothing watched⟩
  | cons entry rest ih =>
    intro watched passive
    obtain ⟨_, view, first⟩ := perform_of_passive passive entry.1 entry.2
    obtain ⟨history, later, others⟩ := ih (first.isPassive passive)
    refine ⟨(watched.now entry.1, entry.2) :: history, ?_, ?_⟩
    · refine later.trans ?_
      rw [view]
      rfl
    · rw [view] at others
      exact first.trans others

/-- **From what any watcher hears, the live peers are known.** Watchers that make no steps of their own,
whatever notices they panic on, all hear the same: each peer comes first and then goes and comes in turns,
and it is live exactly if it came last. A step that can admit a peer answers yes exactly if the peer was
not live and is live now, and exactly then one more notice is heard: that this peer has come. -/
theorem heard_replays_live (selfId : NodeId) (clock : Timepiece) (watchers : List Watcher)
    (registered : List Nat) (passive : ∀ watcher ∈ watchers, watcher.reaction = none)
    (steps : List (Nat × ViewStep)) :
    let watched := performAll ⟨View.new selfId, clock, watchers, registered, []⟩ steps
    ∃ notices : List Notice,
      (∀ number, watched.Attends number → watched.heardBy number = notices) ∧
      (∀ id, TakesTurns (changesOf id notices) ∧
        (watched.view.isLive id = true ↔ (changesOf id notices).getLast? = some .up)) ∧
      ∀ time step address id version, step.newcomer? = some (address, id, version) →
        ∃ told : List Notice,
          (∀ number, watched.Attends number →
            (watched.perform time step).2.heardBy number = notices ++ told) ∧
          watched.view.Announces address id version (watched.perform time step).1 told
            (watched.perform time step).2.view := by
  intro watched
  let start : Watched := ⟨View.new selfId, clock, watchers, registered, []⟩
  have quiet : start.IsPassive := passive
  obtain ⟨history, view, hears⟩ := performAll_of_passive steps quiet
  have heard : ∀ number, watched.Attends number →
      watched.heardBy number = (View.new selfId).noticesAll history := by
    rintro number ⟨once, listens⟩
    rw [hears.registered] at once
    rw [hears.watchers] at listens
    exact hears.heard number ⟨once, listens⟩
  refine ⟨(View.new selfId).noticesAll history, heard, fun id => ?_, ?_⟩
  · have follows := View.noticesAll_tells history (View.new_sound selfId) id
    rw [← view] at follows
    exact takesTurns_of_follow follows
  · intro time step address id version wants
    have sound : watched.view.Sound selfId := by
      rw [view]
      exact View.sound_performAll selfId history
    obtain ⟨answer, after, others⟩ := perform_of_passive (hears.isPassive quiet) time step
    refine ⟨watched.view.notices (watched.now time) step, fun number attends => ?_, ?_⟩
    · rw [others.heard number attends, heard number attends]
    · rw [answer, after]
      exact View.perform_announces sound (watched.now time) wants

/-- A peer comes, is declared dead and comes again, and then another one comes. A watcher that panics every
time hears of it what its neighbour hears. -/
theorem heard_of_two_peers :
    let watchers : List Watcher := [⟨false, fun _ => true, none⟩, ⟨false, fun _ => false, none⟩]
    let watched := performAll ⟨View.new ⟨"a"⟩, .manual 5, watchers, [0, 1], []⟩
      [(0, .heartbeat ⟨"mem:2"⟩ ⟨"b"⟩), (0, .removeDead ⟨"b"⟩), (0, .heartbeat ⟨"mem:2"⟩ ⟨"b"⟩)]
    let after := (watched.perform 0 (.observe ⟨"mem:3"⟩ ⟨"c"⟩ 4)).2
    (∀ watcher ∈ watchers, watcher.reaction = none) ∧ watched.Attends 0 ∧ watched.Attends 1 ∧
      changesOf ⟨"b"⟩ (watched.heardBy 0) = [.up, .down, .up] ∧
      TakesTurns (changesOf ⟨"b"⟩ (watched.heardBy 0)) ∧
      watched.heardBy 1 = watched.heardBy 0 ∧
      after.heardBy 0 = watched.heardBy 0 ++ [⟨.up, ⟨⟨"c"⟩, ⟨"mem:3"⟩, .normal, 5, 1, 4⟩⟩] := by
  intro watchers watched after
  let steps : List (Nat × ViewStep) :=
    [(0, .heartbeat ⟨"mem:2"⟩ ⟨"b"⟩), (0, .removeDead ⟨"b"⟩), (0, .heartbeat ⟨"mem:2"⟩ ⟨"b"⟩)]
  have passive : ∀ watcher ∈ watchers, watcher.reaction = none := by
    simp [watchers]
  have quiet : IsPassive ⟨View.new ⟨"a"⟩, .manual 5, watchers, [0, 1], []⟩ := passive
  obtain ⟨history, view, hears⟩ := performAll_of_passive steps quiet
  have panicking : watched.Attends 0 := hears.attends ⟨by decide, _, rfl, rfl⟩
  have calm : watched.Attends 1 := hears.attends ⟨by decide, _, rfl, rfl⟩
  obtain ⟨notices, heard, replayed, _⟩ :=
    heard_replays_live ⟨"a"⟩ (.manual 5) watchers [0, 1] passive steps
  refine ⟨passive, panicking, calm, by decide +kernel, ?_, ?_, by decide +kernel⟩
  · rw [heard 0 panicking]
    exact (replayed ⟨"b"⟩).1
  · rw [heard 0 panicking, heard 1 calm]

end Watched

end PeerMesh
