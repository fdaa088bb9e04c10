/-
**A view with its listeners.**

A `Watcher` is a listener on a view: it records every notice it is told, it may panic on any of them,
and it may react once to a chosen change of a chosen peer by a step of its own on the view. A panic
ends the call of that watcher only. `Watched.tell` runs all watchers on a notice, including
what their reactions lead to; since each watcher reacts at most once, the number of watchers that
may still react bounds the depth.
-/

import PeerMesh.View.Step

namespace PeerMesh

/-- What a watcher does once, when it is told of a change of a peer. -/
structure Reaction where
  change : Change
  id : NodeId
  step : ViewStep
  deriving DecidableEq, Repr, Inhabited

/-- A listener on a view. -/
structure Watcher where
  /-- Whether it takes no notice of anything. -/
  isDeaf : Bool
  /-- The notices on which it panics. -/
  panicsOn : Notice → Bool
  /-- The reaction that it still has to make. -/
  reaction : Option Reaction
  deriving Inhabited

/-- A change stands for the notices of this change, and none stands for no notice. -/
instance : Coe (Option Change) (Notice → Bool) := ⟨fun change notice => change = some notice.change⟩

/-- What a watcher has recorded. -/
inductive Sighting where
  /-- The watcher of this number was told. -/
  | told (watcher : Nat) (notice : Notice)
  /-- The watcher of this number has made its own step. -/
  | reacted (watcher : Nat) (answer : ViewAnswer)
  deriving DecidableEq, Repr, Inhabited

/-- A view, its clock and its watchers. -/
structure Watched where
  view : View
  clock : Timepiece
  /-- All watchers by number. -/
  watchers : List Watcher
  /-- The registrations, in order; a watcher may be registered repeatedly. -/
  registered : List Nat
  /-- What was recorded, latest first. -/
  sightings : List Sighting

namespace Watched

/-- A view without watchers. -/
def ofView (view : View) (clock : Timepiece) : Watched := ⟨view, clock, [], [], []⟩

/-- What the clock of the view shows. -/
def now (watched : Watched) (time : Nat) : Reading := watched.clock.reading time

/-- Record something. -/
def record (watched : Watched) (sighting : Sighting) : Watched :=
  { watched with sightings := sighting :: watched.sightings }

/-- Register a new watcher; the answer is its number. -/
def listen (watched : Watched) (watcher : Watcher) : Nat × Watched :=
  let number := watched.watchers.length
  (number, { watched with
    watchers := watched.watchers ++ [watcher]
    registered := watched.registered ++ [number] })

/-- Register a known watcher once more. -/
def listenAgain (watched : Watched) (number : Nat) : Watched :=
  { watched with registered := watched.registered ++ [number] }

/-- Drop every registration of a watcher. -/
def unlisten (watched : Watched) (number : Nat) : Watched :=
  { watched with registered := watched.registered.filter (· ≠ number) }

/-- The reaction that a notice calls for, if the watcher still has to make it. -/
def Watcher.reactionTo? (watcher : Watcher) (notice : Notice) : Option ViewStep :=
  match watcher.reaction with
  | some reaction =>
    if !watcher.panicsOn notice ∧ reaction.change = notice.change
        ∧ reaction.id = notice.node.id then some reaction.step else none
  | none => none

/-- The number of watchers that may still react. -/
def pendingReactions (watched : Watched) : Nat :=
  watched.watchers.countP (·.reaction.isSome)

/-- Note that a watcher has made its reaction. -/
def spendReaction (watched : Watched) (number : Nat) : Watched :=
  { watched with watchers := watched.watchers.modify number fun watcher =>
      { watcher with reaction := none } }

/-- Perform a step without telling anybody. -/
def performSilently (watched : Watched) (time : Nat) (step : ViewStep) :
    ViewAnswer × Watched × List Notice :=
  let (answer, kept, notices) := Kept.perform ⟨watched.view, watched.clock⟩ time step
  (answer, { watched with view := kept.view, clock := kept.clock }, notices)

/-- Tell one watcher of a notice; `react` performs the step of its reaction. -/
def tellOne (react : Watched → ViewStep → ViewAnswer × Watched) (notice : Notice)
    (watched : Watched) (number : Nat) : Watched :=
  match watched.watchers[number]? with
  | none => watched
  | some watcher =>
    if watcher.isDeaf then watched
    else
      let told := watched.record (.told number notice)
      match Watcher.reactionTo? watcher notice with
      | none => told
      | some step =>
        let (answer, after) := react (told.spendReaction number) step
        after.record (.reacted number answer)

/-- Tell all registered watchers of notices, one notice after another. -/
def tellAll (react : Watched → ViewStep → ViewAnswer × Watched) (watched : Watched)
    (notices : List Notice) : Watched :=
  notices.foldl (fun watched notice => watched.registered.foldl (tellOne react notice) watched)
    watched

/-- Perform a step and tell the watchers, with reactions nested at most `depth` deep. -/
def performWithin (time : Nat) : (depth : Nat) → Watched → ViewStep → ViewAnswer × Watched
  | 0, watched, step =>
    let (answer, after, notices) := watched.performSilently time step
    (answer, after.tellAll (fun watched _ => (.nothing, watched)) notices)
  | depth + 1, watched, step =>
    let (answer, after, notices) := watched.performSilently time step
    (answer, after.tellAll (performWithin time depth) notices)

/-- Tell the watchers of notices. -/
def tell (watched : Watched) (time : Nat) (notices : List Notice) : Watched :=
  watched.tellAll (performWithin time watched.pendingReactions) notices

/-- Perform a step and tell the watchers. -/
def perform (watched : Watched) (time : Nat) (step : ViewStep) : ViewAnswer × Watched :=
  performWithin time watched.pendingReactions watched step

/-- Perform an operation of the view and tell the watchers. -/
def run {α : Type} (watched : Watched) (time : Nat)
    (operation : View → Reading → Outcome α) : α × Watched :=
  let outcome := operation watched.view (watched.now time)
  (outcome.answer, { watched with view := outcome.view }.tell time outcome.notices)

/-- Change the view without telling anybody. -/
def mapView (watched : Watched) (change : View → View) : Watched :=
  { watched with view := change watched.view }

/-- What was recorded, in order, and the record emptied. -/
def takeSightings (watched : Watched) : List Sighting × Watched :=
  (watched.sightings.reverse, { watched with sightings := [] })

end Watched

end PeerMesh
