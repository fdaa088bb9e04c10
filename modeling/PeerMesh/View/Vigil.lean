/-
**Waiting for peers while other things happen.**

A `Vigil` is a watched view in running time together with steps that are due at later moments.
`Vigil.awaitPeers` lets time pass until the wait has a verdict: enough peers, a shut-down view, or
the end of the timeout, whichever comes first; a timeout comes before steps of the same moment.
-/

import PeerMesh.View.Watched

namespace PeerMesh

/-- A watched view in running time, with steps due later. -/
structure Vigil where
  watched : Watched
  time : Nat
  /-- Steps and the moments at which they are due, earliest first. -/
  due : List (Nat × ViewStep)

namespace Vigil

/-- Add a step; among steps of one moment the earlier added one comes first. -/
def schedule (vigil : Vigil) (moment : Nat) (step : ViewStep) : Vigil :=
  let sooner := vigil.due.takeWhile (·.1 ≤ moment)
  { vigil with due := sooner ++ (moment, step) :: vigil.due.drop sooner.length }

/-- Perform a step now. -/
def perform (vigil : Vigil) (step : ViewStep) : ViewAnswer × Vigil :=
  let (answer, watched) := vigil.watched.perform vigil.time step
  (answer, { vigil with watched := watched })

/-- Perform the steps of the given moments in order. -/
def performAll (vigil : Vigil) (steps : List (Nat × ViewStep)) : Vigil :=
  steps.foldl (fun vigil entry => (vigil.perform entry.2).2) vigil

/-- Wait until the deadline; `fuel` bounds the number of moments at which steps are due. -/
def awaitUntil (minimum deadline : Nat) : (fuel : Nat) → Vigil → Except ViewError Nat × Vigil
  | fuel, vigil =>
    let expired := deadline ≤ vigil.time
    match vigil.watched.view.awaitVerdict? minimum expired with
    | some verdict => (verdict, vigil)
    | none =>
      let next := (vigil.due.head?.map Prod.fst).getD deadline
      if next < deadline then
        match fuel with
        | 0 => (.error .interrupted, vigil)
        | fuel + 1 =>
          let ready := vigil.due.takeWhile (·.1 ≤ next)
          let later := { vigil with time := max vigil.time next, due := vigil.due.drop ready.length }
          awaitUntil minimum deadline fuel (later.performAll ready)
      else
        let ended := { vigil with time := deadline }
        (((ended.watched.view.awaitVerdict? minimum true).getD (.error .interrupted)), ended)

/-- Wait for at least `minimum` peers, at most for the timeout. -/
def awaitPeers (vigil : Vigil) (timeout : Duration) (minimum : Nat) :
    Except ViewError Nat × Vigil :=
  awaitUntil minimum (vigil.time + timeout.ticks) (vigil.due.length + 1) vigil

end Vigil

end PeerMesh
