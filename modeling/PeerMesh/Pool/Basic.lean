/-
**A bounded queue of jobs with a fixed number of workers.**

Submitting never waits: a job is queued, or refused because the queue is full (`saturated`) or
because no worker will ever take it (`closed`). The steps of a pool are

* `Pool.submit` — queue a job at the end;
* `Pool.take?` — an idle worker takes the job at the front;
* `Pool.finish` — a job that is running is over and its worker idle again;
* `Pool.crash` — a job that is running takes its worker with it; without any worker left the queued
  jobs are dropped and every later one is refused;
* `Pool.shutdown` — every later job is refused, and the workers are called off. That ends a worker where it
  next has to wait: one that is in the middle of a turn (`Turns`) goes on until then, with its job and with
  queued ones, and one that waits is gone at once, with its job;
* `Pool.wait` — a worker has to wait. Of an open pool nothing comes of it; of one that was shut down the
  worker is gone.

Each accepted job gets a ticket, in the order of submission.
-/

import PeerMesh.Power

namespace PeerMesh

/-- Why a job is refused. -/
inductive PoolError where
  /-- The queue is full. -/
  | saturated
  /-- The pool takes no job any more. -/
  | closed
  deriving DecidableEq, Repr, Inhabited

namespace PoolError

/-- The word for the kind of error. -/
def name : PoolError → String
  | .saturated => "Saturated"
  | .closed => "Closed"

/-- The text shown for an error. -/
def message : PoolError → String
  | .saturated => "worker queue is full"
  | .closed => "worker pool is shut down"

end PoolError

/-- An accepted job with its ticket. -/
structure Job (α : Type) where
  ticket : Nat
  task : α
  deriving DecidableEq, Repr, Inhabited

/-- The workers of a pool that are in the middle of a turn, and not waiting for anything. -/
structure Turns where
  /-- The tickets of the jobs that they are at. -/
  amid : List Nat
  /-- How many of them are between two jobs. -/
  between : Nat
  deriving DecidableEq, Repr, Inhabited

/-- No worker is in the middle of a turn. -/
def Turns.nobody : Turns := ⟨[], 0⟩

/-- A queue of jobs and the jobs that workers are busy with. -/
structure Pool (α : Type) where
  /-- The most jobs that may be queued. -/
  capacity : Nat
  /-- The workers that are alive, idle or busy. -/
  workers : Nat
  /-- The ticket of the next accepted job. -/
  nextTicket : Nat
  /-- The accepted jobs that no worker has taken, first to be taken first. -/
  queue : List (Job α)
  /-- The jobs that workers are busy with, first taken first. -/
  running : List (Job α)
  isShutDown : Bool
  deriving Repr, Inhabited

namespace Pool

variable {α : Type}

/-- The largest capacity that a pool can have. -/
def maxCapacity : Nat := 2 ^ 61 - 1

/-- A pool with at least one worker and room for at least one job. There is none with more room than
the largest capacity. -/
def open? (workers capacity : Nat) : Option (Pool α) :=
  if max capacity 1 ≤ maxCapacity then
    some ⟨max capacity 1, max workers 1, 0, [], [], false⟩
  else none

/-- Whether some worker can still take jobs. -/
def isServed (pool : Pool α) : Bool := !pool.isShutDown && 0 < pool.workers

/-- Queue a job, or say why not. -/
def submit (pool : Pool α) (task : α) : Except PoolError (Pool α) :=
  if !pool.isServed then .error .closed
  else if pool.capacity ≤ pool.queue.length then .error .saturated
  else .ok { pool with
    queue := pool.queue ++ [⟨pool.nextTicket, task⟩]
    nextTicket := pool.nextTicket + 1 }

/-- Whether some worker is idle. -/
def hasIdle (pool : Pool α) : Bool := pool.running.length < pool.workers

/-- An idle worker takes the first queued job. -/
def take? (pool : Pool α) : Option (Job α × Pool α) :=
  match pool.queue with
  | job :: rest =>
    if pool.hasIdle then
      some (job, { pool with queue := rest, running := pool.running ++ [job] })
    else none
  | [] => none

/-- The running jobs without the one of a ticket. -/
def withoutRunning (pool : Pool α) (ticket : Nat) : List (Job α) :=
  pool.running.filter (·.ticket ≠ ticket)

/-- A running job is over. -/
def finish (pool : Pool α) (ticket : Nat) : Pool α :=
  { pool with running := pool.withoutRunning ticket }

/-- A worker is gone. Without any left the queued jobs are dropped. -/
def lose (pool : Pool α) : Pool α :=
  let workers := pool.workers - 1
  { pool with
    workers := workers
    queue := if workers = 0 then [] else pool.queue }

/-- A running job takes its worker with it. -/
def crash (pool : Pool α) (ticket : Nat) : Pool α := (pool.finish ticket).lose

/-- Whether the job of a ticket is running. -/
def isRunning (pool : Pool α) (ticket : Nat) : Bool := pool.running.any (·.ticket = ticket)

/-- The worker that is at the job of a ticket has to wait, or an idle one, if no ticket is given. -/
def wait (pool : Pool α) : Option Nat → Pool α
  | some ticket => if pool.isShutDown && pool.isRunning ticket then pool.crash ticket else pool
  | none => if pool.isShutDown && pool.hasIdle then pool.lose else pool

/-- The workers that are left when a pool is shut down. -/
def staying (pool : Pool α) (turns : Turns) : Nat :=
  (pool.running.filter (·.ticket ∈ turns.amid)).length + min turns.between (pool.workers - pool.running.length)

/-- Refuse every later job, and call the workers off: those that are in the middle of a turn go on. -/
def shutdown (pool : Pool α) (turns : Turns) : Pool α :=
  if pool.isShutDown then pool
  else { pool with
    workers := pool.staying turns
    queue := if pool.staying turns = 0 then [] else pool.queue
    running := pool.running.filter (·.ticket ∈ turns.amid)
    isShutDown := true }

/-- What is left of a pool that is shut down, if any worker is. -/
def remnant? (pool : Pool α) (turns : Turns) : Option (Pool α) :=
  (some (pool.shutdown turns)).filter (0 < ·.workers)

end Pool

end PeerMesh
