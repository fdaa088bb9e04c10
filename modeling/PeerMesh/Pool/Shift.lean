/-
**A pool at work on jobs of known behaviour.**

A `Shift` runs a pool whose jobs do one of four things: end at once, wait at a gate, sleep, or take
their worker with them. `Shift.work` lets idle workers take jobs until none is left for them, and
`Shift.sleep` lets time pass. Finished jobs are recorded in the order in which they end.
-/

import PeerMesh.Duration
import PeerMesh.Pool.Basic
import PeerMesh.Pool.Gate

namespace PeerMesh

/-- What a job does before it ends. -/
inductive Chore where
  | nothing
  | waitAtGate
  | sleep (span : Duration)
  | panic
  deriving DecidableEq, Repr, Inhabited

/-- A job of known behaviour, with the label under which its end is recorded. -/
structure Duty (τ : Type) where
  label : τ
  chore : Chore

/-- A pool at work in running time. -/
structure Shift (τ : Type) where
  pool : Pool (Duty τ)
  gate : Gate (Job (Duty τ))
  /-- The jobs that sleep and the moments at which they wake. -/
  asleep : List (Nat × Job (Duty τ))
  time : Nat
  /-- The labels of finished jobs, latest first. -/
  done : List τ

namespace Shift

variable {τ : Type}

/-- The beginning of a shift. -/
def start (pool : Pool (Duty τ)) : Shift τ := ⟨pool, .shut, [], 0, []⟩

/-- A job ends. -/
def complete (shift : Shift τ) (job : Job (Duty τ)) : Shift τ :=
  { shift with pool := shift.pool.finish job.ticket, done := job.task.label :: shift.done }

/-- A job begins. -/
def begin (shift : Shift τ) (job : Job (Duty τ)) : Shift τ :=
  match job.task.chore with
  | .nothing => shift.complete job
  | .panic => { shift with pool := shift.pool.crash job.ticket }
  | .waitAtGate =>
    let (passes, gate) := shift.gate.arrive job
    let shift := { shift with gate := gate }
    if passes then shift.complete job else shift
  | .sleep span =>
    if span.ticks = 0 then shift.complete job
    else { shift with asleep := shift.asleep ++ [(shift.time + span.ticks, job)] }

/-- Idle workers take jobs, at most `fuel` of them. -/
def workFor : (fuel : Nat) → Shift τ → Shift τ
  | 0, shift => shift
  | fuel + 1, shift =>
    match shift.pool.take? with
    | some (job, pool) => workFor fuel ({ shift with pool := pool }.begin job)
    | none => shift

/-- Idle workers take jobs until none is left for them. -/
def work (shift : Shift τ) : Shift τ := workFor shift.pool.queue.length shift

/-- Submit jobs before any worker takes one. -/
def submitAll (shift : Shift τ) (duties : List (Duty τ)) :
    List (Except PoolError Unit) × Shift τ :=
  let step := fun (answers, (shift : Shift τ)) duty =>
    match shift.pool.submit duty with
    | .ok pool => (.ok () :: answers, { shift with pool := pool })
    | .error error => (.error error :: answers, shift)
  let (answers, shift) := duties.foldl step ([], shift)
  (answers.reverse, shift)

/-- Add permits to the gate. -/
def release (shift : Shift τ) (count : Nat) : Shift τ :=
  let (passing, gate) := shift.gate.release count
  passing.foldl complete { shift with gate := gate }

/-- The earliest moment at which a job wakes. -/
def nextWake? (shift : Shift τ) : Option Nat := (shift.asleep.map Prod.fst).min?

/-- Wake the jobs whose moment has come. -/
def wake (shift : Shift τ) : Shift τ :=
  let ready := shift.asleep.filter (·.1 ≤ shift.time)
  let later := { shift with asleep := shift.asleep.filter (shift.time < ·.1) }
  ready.foldl (fun shift entry => shift.complete entry.2) later

/-- Let time pass until the given moment, through at most `fuel` moments at which jobs wake. -/
def sleepUntil (moment : Nat) : (fuel : Nat) → Shift τ → Shift τ
  | 0, shift => { shift with time := moment }
  | fuel + 1, shift =>
    match shift.nextWake? with
    | some next =>
      if next ≤ moment then sleepUntil moment fuel ({ shift with time := next }.wake.work)
      else { shift with time := moment }
    | none => { shift with time := moment }

/-- Let time pass. -/
def sleep (shift : Shift τ) (span : Duration) : Shift τ :=
  sleepUntil (shift.time + span.ticks) (shift.asleep.length + shift.pool.queue.length) shift

/-- Shut the pool down while its workers wait; jobs that wait or sleep are dropped. -/
def shutdown (shift : Shift τ) : Shift τ :=
  { shift with
    pool := shift.pool.shutdown .nobody
    gate := shift.gate.forget fun _ => true
    asleep := [] }

/-- The finished jobs in order, and the record emptied. -/
def takeDone (shift : Shift τ) : List τ × Shift τ :=
  (shift.done.reverse, { shift with done := [] })

end Shift

end PeerMesh
