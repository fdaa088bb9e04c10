/-
**The runs of a pool.**

A run is a list of steps, in any order: jobs are submitted, idle workers take the first of the queued
jobs, jobs end, workers have to wait, and the pool is shut down while some of its workers are in the middle
of a turn (`Pool.Step`). No job takes its worker with it.

A `Journal` is kept beside a run: each submission with its answer, and the jobs that were started and
that have ended, in the order in which this happened.

* `IsKept` — what every step preserves (`IsKept.note`): tickets number the accepted jobs, there is
  room for what is queued and a worker for what is running, and what is queued comes right after what was
  started; an open pool holds whatever it has accepted and not started.
* `IsKept.exists_started` — the workers of an open pool can always get through the queue.
* `Journal.Dwindles` — what happens once the pool is shut down: some of the jobs that are queued may be
  started yet, as long as there are workers. Every step does so (`dwindles_note`).
* `run_lawful` — all of it, about every run; `run_lawful_least` — the least pool.
* `started_after_shutdown` — a job that shuts its pool down is followed by the one behind it.
-/

import Mathlib.Data.List.Induction
import Mathlib.Data.List.Nodup
import PeerMesh.Proofs.Consumer.Runs

namespace PeerMesh.Pool

/-- One thing that happens to a pool. -/
inductive Step (α : Type) where
  | submit (task : α)
  /-- An idle worker takes the first queued job, if there are both. -/
  | take
  /-- The running job of a ticket ends. -/
  | finish (ticket : Nat)
  /-- The worker at the job of a ticket has to wait, or one that is at none. -/
  | wait (ticket? : Option Nat)
  /-- The pool is shut down while workers are in the middle of their turns. -/
  | shutdown (turns : Turns)

/-- The pool is shut down in one of the steps. -/
def IsOver {α : Type} (steps : List (Step α)) : Prop := ∃ turns, .shutdown turns ∈ steps

/-- What is written down about a run. -/
structure Journal (α : Type) where
  pool : Pool α
  /-- The submitted tasks with their tickets, or with why they were refused. -/
  submissions : List (α × Except PoolError Nat)
  started : List (Job α)
  ended : List (Job α)

variable {α : Type}

/-- The job of a submission that was accepted. -/
def jobOf? : α × Except PoolError Nat → Option (Job α)
  | (task, .ok ticket) => some ⟨ticket, task⟩
  | (_, .error _) => none

namespace Journal

/-- The jobs that were accepted, in the order of submission. -/
def accepted (journal : Journal α) : List (Job α) := journal.submissions.filterMap jobOf?

/-- A pool of which nothing is known yet. -/
def start (pool : Pool α) : Journal α := ⟨pool, [], [], []⟩

/-- Write down one more step. -/
def note (journal : Journal α) : Step α → Journal α
  | .submit task =>
    match journal.pool.submit task with
    | .ok later => { journal with
        pool := later
        submissions := journal.submissions ++ [(task, .ok journal.pool.nextTicket)] }
    | .error error => { journal with
        submissions := journal.submissions ++ [(task, .error error)] }
  | .take =>
    match journal.pool.take? with
    | some (job, later) => { journal with pool := later, started := journal.started ++ [job] }
    | none => journal
  | .finish ticket => { journal with
      pool := journal.pool.finish ticket
      ended := journal.ended ++ journal.pool.running.filter (·.ticket = ticket) }
  | .wait ticket? => { journal with pool := journal.pool.wait ticket? }
  | .shutdown turns => { journal with pool := journal.pool.shutdown turns }

/-- The journal after steps. -/
def follow (journal : Journal α) (steps : List (Step α)) : Journal α := steps.foldl note journal

end Journal

/-! ### One step -/

/-- What a submission does, and when. -/
theorem submit_cases (pool : Pool α) (task : α) :
    pool.isServed = false ∧ pool.submit task = .error .closed ∨
      pool.isServed = true ∧ pool.capacity ≤ pool.queue.length ∧
        pool.submit task = .error .saturated ∨
      pool.isServed = true ∧ pool.queue.length < pool.capacity ∧
        pool.submit task = .ok { pool with
          queue := pool.queue ++ [⟨pool.nextTicket, task⟩]
          nextTicket := pool.nextTicket + 1 } := by
  unfold submit
  by_cases served : pool.isServed = true
  · by_cases full : pool.capacity ≤ pool.queue.length
    · exact .inr (.inl ⟨served, full, by simp [served, full]⟩)
    · exact .inr (.inr ⟨served, Nat.lt_of_not_le full, by simp [served, full]⟩)
  · exact .inl ⟨Bool.eq_false_iff.mpr served, by simp [served]⟩

/-- What a worker takes is the first queued job; without an idle worker, and without a queued job, nothing
is taken. -/
theorem take?_eq_some {pool later : Pool α} {job : Job α}
    (taken : pool.take? = some (job, later)) :
    pool.running.length < pool.workers ∧
      ∃ rest, pool.queue = job :: rest ∧
        later = { pool with queue := rest, running := pool.running ++ [job] } := by
  unfold take? at taken
  cases queued : pool.queue with
  | nil => simp [queued] at taken
  | cons first rest =>
    rw [queued] at taken
    dsimp only at taken
    split_ifs at taken with idle
    obtain ⟨rfl, rfl⟩ := Prod.mk.inj (Option.some.inj taken)
    exact ⟨of_decide_eq_true idle, rest, rfl, rfl⟩

/-- A worker of an open pool may wait. Of one that was shut down it is gone then, with the job that it is at. -/
theorem wait_cases (pool : Pool α) (ticket? : Option Nat) :
    pool.wait ticket? = pool ∨ pool.isShutDown = true ∧ ∃ running, running.length ≤ pool.running.length ∧
      (pool.running.length ≤ pool.workers → running.length ≤ pool.workers - 1) ∧
        pool.wait ticket? = { pool.lose with running := running } := by
  unfold wait
  cases ticket? with
  | none =>
    dsimp only
    split
    · rename_i gone
      obtain ⟨shut, idle⟩ := Bool.and_eq_true_iff.mp gone
      have idle : pool.running.length < pool.workers := of_decide_eq_true idle
      exact .inr ⟨shut, pool.running, Nat.le_refl _, fun _ => Nat.le_sub_one_of_lt idle, rfl⟩
    · exact .inl rfl
  | some ticket =>
    dsimp only
    split
    · rename_i gone
      obtain ⟨shut, runs⟩ := Bool.and_eq_true_iff.mp gone
      obtain ⟨job, running, same⟩ := List.any_eq_true.mp runs
      have fewer : (pool.withoutRunning ticket).length < pool.running.length :=
        List.length_filter_lt_length_iff_exists.mpr ⟨job, running, by simpa using same⟩
      exact .inr ⟨shut, pool.withoutRunning ticket, Nat.le_of_lt fewer, fun busy => by omega, rfl⟩
    · exact .inl rfl

/-- Of the workers of an open pool there stay, when it is shut down, those that are in the middle of a turn. -/
theorem shutdown_of_open {pool : Pool α} (opened : pool.isShutDown = false) (turns : Turns) :
    pool.shutdown turns = { pool with
      workers := pool.staying turns
      queue := if pool.staying turns = 0 then [] else pool.queue
      running := pool.running.filter (·.ticket ∈ turns.amid)
      isShutDown := true } := by
  unfold shutdown
  rw [opened, if_neg Bool.false_ne_true]

/-- They are no more than there were. -/
theorem staying_le {pool : Pool α} (busy : pool.running.length ≤ pool.workers) (turns : Turns) :
    pool.staying turns ≤ pool.workers := by
  have fewer := List.length_filter_le (fun job : Job α => decide (job.ticket ∈ turns.amid)) pool.running
  unfold staying
  omega

/-! ### What every step preserves -/

/-- **A journal is kept**: of a pool that was opened for so many workers and with so much room, and shut
down or not. -/
structure IsKept (workers capacity : Nat) (isOver : Prop) (journal : Journal α) : Prop where
  workers_le : journal.pool.workers ≤ max workers 1
  workers_eq : ¬isOver → journal.pool.workers = max workers 1
  capacity_eq : journal.pool.capacity = max capacity 1
  shut : journal.pool.isShutDown = true ↔ isOver
  /-- The tickets number the accepted jobs. -/
  tickets : journal.accepted.map Job.ticket = List.range journal.pool.nextTicket
  room : journal.pool.queue.length ≤ journal.pool.capacity
  busy : journal.pool.running.length ≤ journal.pool.workers
  /-- What was started, and then what is queued, is the first part of what was accepted. -/
  inOrder : journal.started ++ journal.pool.queue <+: journal.accepted
  /-- An open pool still has what it has not started. -/
  waiting : ¬isOver → journal.accepted = journal.started ++ journal.pool.queue
  /-- What an open pool has started is running until it ends. -/
  working : ¬isOver → journal.started.Perm (journal.ended ++ journal.pool.running)

variable {workers capacity : Nat} {isOver : Prop} {journal later : Journal α}

theorem isKept_start {pool : Pool α} (opened : open? workers capacity = some pool) :
    IsKept workers capacity False (.start pool) := by
  unfold open? at opened
  split_ifs at opened
  obtain rfl := Option.some.inj opened
  exact ⟨Nat.le_refl _, fun _ => rfl, rfl, by simp [Journal.start], rfl, Nat.zero_le _, Nat.zero_le _,
    List.prefix_rfl, fun _ => rfl, fun _ => .refl _⟩

namespace IsKept

/-- An open pool has workers. -/
theorem isStaffed (kept : IsKept workers capacity isOver journal) (opened : ¬isOver) :
    journal.pool.IsStaffed := by
  refine ⟨Bool.eq_false_iff.mpr (opened ∘ kept.shut.mp), ?_, kept.busy⟩
  rw [kept.workers_eq opened]
  omega

/-- Workers serve the pool until it is shut down. -/
theorem served_iff (kept : IsKept workers capacity isOver journal) :
    journal.pool.isServed = true ↔ ¬isOver := by
  constructor
  · intro served ended
    simp [isServed, kept.shut.mpr ended] at served
  · exact fun opened => (kept.isStaffed opened).isServed

/-- A submission that was refused leaves the jobs as they are. -/
theorem note_refused (kept : IsKept workers capacity isOver journal) (task : α) (error : PoolError) :
    IsKept workers capacity isOver
      { journal with submissions := journal.submissions ++ [(task, .error error)] } := by
  have same : Journal.accepted
      { journal with submissions := journal.submissions ++ [(task, .error error)] } =
        journal.accepted := by
    simp [Journal.accepted, jobOf?]
  exact { kept with
    tickets := by rw [same]; exact kept.tickets
    inOrder := by rw [same]; exact kept.inOrder
    waiting := by rw [same]; exact kept.waiting }

/-- A job that is accepted is the last of the accepted jobs, and the last of the queued ones. -/
theorem note_accepted (kept : IsKept workers capacity isOver journal) {task : α}
    (served : journal.pool.isServed = true) (room : journal.pool.queue.length < journal.pool.capacity) :
    IsKept workers capacity isOver { journal with
      pool := { journal.pool with
        queue := journal.pool.queue ++ [⟨journal.pool.nextTicket, task⟩]
        nextTicket := journal.pool.nextTicket + 1 }
      submissions := journal.submissions ++ [(task, .ok journal.pool.nextTicket)] } := by
  have before := kept.waiting (kept.served_iff.mp served)
  simp only [Journal.accepted] at before
  refine { kept with tickets := ?_, room := ?_, inOrder := ?_, waiting := fun _ => ?_ }
  · simp [Journal.accepted, jobOf?, List.range_succ]
    exact kept.tickets
  · simpa using Nat.succ_le_of_lt room
  · simp [Journal.accepted, jobOf?, before]
  · simp [Journal.accepted, jobOf?, before]

theorem note_take (kept : IsKept workers capacity isOver journal) :
    IsKept workers capacity isOver (journal.note .take) := by
  unfold Journal.note
  cases taken : journal.pool.take? with
  | none => exact kept
  | some entry =>
    obtain ⟨job, later⟩ := entry
    obtain ⟨idle, rest, front, rfl⟩ := take?_eq_some taken
    have inOrder := kept.inOrder
    rw [front, List.append_cons] at inOrder
    have room := kept.room
    rw [front, List.length_cons] at room
    refine { kept with room := ?_, busy := ?_, inOrder := inOrder, waiting := ?_, working := ?_ }
    · exact Nat.le_of_succ_le room
    · simpa using Nat.succ_le_of_lt idle
    · intro opened
      have before := kept.waiting opened
      rwa [front, List.append_cons] at before
    · intro opened
      simpa [List.append_assoc] using (kept.working opened).append_right [job]

theorem note_finish (kept : IsKept workers capacity isOver journal) (ticket : Nat) :
    IsKept workers capacity isOver (journal.note (.finish ticket)) := by
  refine { kept with busy := ?_, working := ?_ }
  · exact Nat.le_trans (List.length_filter_le _ _) kept.busy
  · intro opened
    have parts := List.filter_append_perm (fun job : Job α => decide (job.ticket = ticket))
      journal.pool.running
    simp only [Journal.note, finish, withoutRunning, List.append_assoc]
    refine (kept.working opened).trans (List.Perm.append_left _ ?_)
    simpa using parts.symm

/-- A queue that is cut off is what it was, or empty. -/
theorem inOrder_of_cut (kept : IsKept workers capacity isOver journal) {queue : List (Job α)}
    (cut : queue = journal.pool.queue ∨ queue = []) :
    journal.started ++ queue <+: journal.accepted ∧ queue.length ≤ journal.pool.capacity := by
  rcases cut with rfl | rfl
  · exact ⟨kept.inOrder, kept.room⟩
  · rw [List.append_nil]
    exact ⟨(List.prefix_append _ _).trans kept.inOrder, Nat.zero_le _⟩

theorem note_wait (kept : IsKept workers capacity isOver journal) (ticket? : Option Nat) :
    IsKept workers capacity isOver (journal.note (.wait ticket?)) := by
  unfold Journal.note
  rcases journal.pool.wait_cases ticket? with same | ⟨shut, running, -, fewer, gone⟩
  · dsimp only
    rw [same]
    exact kept
  · have ended := kept.shut.mp shut
    obtain ⟨inOrder, room⟩ := kept.inOrder_of_cut journal.pool.lose_queue
    dsimp only
    rw [gone]
    exact { kept with
      workers_le := Nat.le_trans (Nat.sub_le _ _) kept.workers_le
      workers_eq := fun opened => absurd ended opened
      room := room
      busy := fewer kept.busy
      inOrder := inOrder
      waiting := fun opened => absurd ended opened
      working := fun opened => absurd ended opened }

theorem note_shutdown (kept : IsKept workers capacity isOver journal) (turns : Turns) :
    IsKept workers capacity True (journal.note (.shutdown turns)) := by
  unfold Journal.note
  by_cases ended : isOver
  · have same : journal.pool.shutdown turns = journal.pool := by
      unfold shutdown
      rw [kept.shut.mpr ended, if_pos rfl]
    dsimp only
    rw [same]
    exact { kept with
      workers_eq := fun opened => absurd trivial opened
      shut := iff_of_true (kept.shut.mpr ended) trivial
      waiting := fun opened => absurd trivial opened
      working := fun opened => absurd trivial opened }
  · have opened : journal.pool.isShutDown = false := Bool.eq_false_iff.mpr (ended ∘ kept.shut.mp)
    have cut : (if journal.pool.staying turns = 0 then [] else journal.pool.queue) = journal.pool.queue ∨
        (if journal.pool.staying turns = 0 then [] else journal.pool.queue) = [] := by
      split <;> simp
    obtain ⟨inOrder, room⟩ := kept.inOrder_of_cut cut
    dsimp only
    rw [shutdown_of_open opened]
    exact { kept with
      workers_le := Nat.le_trans (staying_le kept.busy turns) kept.workers_le
      workers_eq := fun opened => absurd trivial opened
      shut := iff_of_true rfl trivial
      room := room
      busy := Nat.le_add_right _ _
      inOrder := inOrder
      waiting := fun opened => absurd trivial opened
      working := fun opened => absurd trivial opened }

/-- **Every step keeps the journal.** -/
theorem note (kept : IsKept workers capacity isOver journal) (step : Step α) :
    IsKept workers capacity (isOver ∨ ∃ turns, step = .shutdown turns) (journal.note step) := by
  cases step with
  | submit task =>
    simp only [reduceCtorEq, exists_false, or_false, Journal.note]
    rcases submit_cases journal.pool task with ⟨-, refused⟩ | ⟨-, -, refused⟩ | ⟨served, room, queued⟩
    · simpa only [refused] using kept.note_refused task .closed
    · simpa only [refused] using kept.note_refused task .saturated
    · simpa only [queued] using kept.note_accepted served room
  | take => simpa using kept.note_take
  | finish ticket => simpa using kept.note_finish ticket
  | wait ticket? => simpa using kept.note_wait ticket?
  | shutdown turns => simpa using kept.note_shutdown turns

theorem follow (kept : IsKept workers capacity isOver journal) (steps : List (Step α)) :
    IsKept workers capacity (isOver ∨ IsOver steps) (journal.follow steps) := by
  induction steps generalizing isOver journal with
  | nil => simpa [Journal.follow, IsOver] using kept
  | cons step steps ih =>
    have rest := ih (kept.note step)
    have isOver_cons : IsOver (step :: steps) ↔ (∃ turns, step = .shutdown turns) ∨ IsOver steps := by
      simp [IsOver, exists_or, eq_comm]
    rw [isOver_cons, ← or_assoc]
    exact rest

/-! ### What follows from it -/

/-- What was started is the first part of what was accepted. -/
theorem started_prefix (kept : IsKept workers capacity isOver journal) : journal.started <+: journal.accepted :=
  (List.prefix_append _ _).trans kept.inOrder

/-- Accepted jobs have different tickets. -/
theorem distinct (kept : IsKept workers capacity isOver journal) :
    (journal.accepted.map Job.ticket).Nodup := by
  rw [kept.tickets]
  exact List.nodup_range

theorem submit_saturated_iff (kept : IsKept workers capacity isOver journal) (task : α) :
    journal.pool.submit task = .error .saturated ↔
      ¬isOver ∧ journal.pool.queue.length = max capacity 1 := by
  have room := kept.room
  rw [← kept.served_iff, ← kept.capacity_eq]
  rcases submit_cases journal.pool task with
    ⟨closed, refused⟩ | ⟨served, full, refused⟩ | ⟨served, free, queued⟩
  · simp [closed, refused]
  · simp [served, refused]
    omega
  · simp [served, queued]
    omega

theorem submit_closed_iff (kept : IsKept workers capacity isOver journal) (task : α) :
    journal.pool.submit task = .error .closed ↔ isOver := by
  rw [← not_iff_not, ← kept.served_iff]
  rcases submit_cases journal.pool task with
    ⟨closed, refused⟩ | ⟨served, -, refused⟩ | ⟨served, -, queued⟩
  · simp [closed, refused]
  · simp [served, refused]
  · simp [served, queued]

end IsKept

/-! ### After the shutdown -/

/-- **A pool that was shut down dwindles**: some of the jobs that were queued have been started since, in their
order, none of them without a worker; and there are no more workers than there were. -/
structure Journal.Dwindles (journal later : Journal α) : Prop where
  shut : later.pool.isShutDown = true
  workers_le : later.pool.workers ≤ journal.pool.workers
  late : ∃ late, later.started = journal.started ++ late ∧
    late ++ later.pool.queue <+: journal.pool.queue ∧ (journal.pool.workers = 0 → late = [])

namespace Journal

theorem Dwindles.refl (shut : journal.pool.isShutDown = true) : journal.Dwindles journal :=
  ⟨shut, Nat.le_refl _, [], (List.append_nil _).symm, List.prefix_rfl, fun _ => rfl⟩

theorem Dwindles.trans {last : Journal α} (first : journal.Dwindles later) (second : later.Dwindles last) :
    journal.Dwindles last := by
  obtain ⟨late, started, queued, none⟩ := first.late
  obtain ⟨more, startedMore, queuedMore, noneMore⟩ := second.late
  refine ⟨second.shut, Nat.le_trans second.workers_le first.workers_le, late ++ more, ?_, ?_, fun nobody => ?_⟩
  · rw [startedMore, started, List.append_assoc]
  · rw [List.append_assoc]
    exact (List.prefix_append_right_inj late).mpr queuedMore |>.trans queued
  · have gone : later.pool.workers = 0 := Nat.le_zero.mp (nobody ▸ first.workers_le)
    rw [none nobody, noneMore gone, List.append_nil]

/-- **Every step of a pool that was shut down lets it dwindle.** -/
theorem dwindles_note (shut : journal.pool.isShutDown = true) (step : Step α) :
    journal.Dwindles (journal.note step) := by
  have stays := Dwindles.refl shut
  cases step with
  | submit task =>
    have closed : journal.pool.submit task = .error .closed := by
      simp [submit, isServed, shut]
    simp only [note, closed]
    exact ⟨stays.shut, stays.workers_le, stays.late⟩
  | take =>
    simp only [note]
    cases taken : journal.pool.take? with
    | none => exact stays
    | some entry =>
      obtain ⟨job, later⟩ := entry
      obtain ⟨idle, rest, front, rfl⟩ := take?_eq_some taken
      refine ⟨shut, Nat.le_refl _, [job], rfl, ?_, fun nobody => ?_⟩
      · rw [front]
        exact List.prefix_rfl
      · rw [nobody] at idle
        exact absurd idle (Nat.not_lt_zero _)
  | finish ticket => exact ⟨shut, Nat.le_refl _, stays.late⟩
  | wait ticket? =>
    simp only [note]
    rcases journal.pool.wait_cases ticket? with same | ⟨-, running, -, -, gone⟩
    · rw [same]
      exact stays
    · rw [gone]
      refine ⟨shut, Nat.sub_le _ _, [], (List.append_nil _).symm, ?_, fun _ => rfl⟩
      show journal.pool.lose.queue <+: journal.pool.queue
      rcases journal.pool.lose_queue with same | cut
      · exact same ▸ List.prefix_rfl
      · exact cut ▸ List.nil_prefix
  | shutdown turns =>
    have same : journal.pool.shutdown turns = journal.pool := by
      unfold shutdown
      rw [shut, if_pos rfl]
    simp only [note, same]
    exact stays

theorem dwindles_follow (shut : journal.pool.isShutDown = true) (steps : List (Step α)) :
    journal.Dwindles (journal.follow steps) := by
  induction steps generalizing journal with
  | nil => exact .refl shut
  | cons step steps ih =>
    have first := dwindles_note shut step
    exact first.trans (ih first.shut)

end Journal

/-! ### Work -/

/-- The step is work: a worker takes a job, or is done with one. -/
def Step.IsWork : Step α → Prop
  | .take | .finish _ => True
  | _ => False

/-- The next job is started, at once if a worker is idle, and otherwise after some job has ended. -/
theorem IsKept.exists_taken (kept : IsKept workers capacity False journal) {job : Job α}
    {rest : List (Job α)} (front : journal.pool.queue = job :: rest) :
    ∃ work : List (Step α), (∀ step ∈ work, step.IsWork) ∧
      (journal.follow work).pool.queue = rest ∧ (journal.follow work).accepted = journal.accepted := by
  have held := kept.isStaffed id
  by_cases idle : journal.pool.hasIdle = true
  · obtain ⟨later, taken, left⟩ := take_of_idle front idle
    refine ⟨[.take], by simp [Step.IsWork], ?_⟩
    simp [Journal.follow, Journal.note, taken, left, Journal.accepted]
  · obtain ⟨busy, running⟩ : ∃ busy, busy ∈ journal.pool.running := by
      refine List.exists_mem_of_ne_nil _ fun none => idle ?_
      simpa [hasIdle, none] using held.served
    obtain ⟨later, taken, left⟩ := take_of_idle
      (show (journal.pool.finish busy.ticket).queue = job :: rest from front)
      (held.hasIdle_finish running)
    refine ⟨[.finish busy.ticket, .take], by simp [Step.IsWork], ?_⟩
    simp [Journal.follow, Journal.note, taken, left, Journal.accepted]

/-- **The workers of an open pool can always start whatever was accepted**, by nothing but work. -/
theorem IsKept.exists_started (kept : IsKept workers capacity False journal) :
    ∃ work : List (Step α), (∀ step ∈ work, step.IsWork) ∧
      (journal.follow work).started = journal.accepted := by
  generalize queued : journal.pool.queue = jobs
  induction jobs generalizing journal with
  | nil =>
    have before := kept.waiting id
    rw [queued, List.append_nil] at before
    exact ⟨[], by simp, before.symm⟩
  | cons job rest ih =>
    obtain ⟨first, works, left, same⟩ := kept.exists_taken queued
    have still : IsKept workers capacity False (journal.follow first) := by
      have none_shuts : ¬ IsOver first := fun ⟨_, member⟩ => works _ member
      simpa [none_shuts] using kept.follow first
    obtain ⟨others, work, started⟩ := ih still left
    refine ⟨first ++ others, fun step member => ?_, ?_⟩
    · rcases List.mem_append.mp member with early | late
      · exact works step early
      · exact work step late
    · rw [Journal.follow, List.foldl_append]
      exact started.trans same

/-! ### Every run -/

/-- **The law of a pool** that was opened for so many workers and with so much room, after steps. -/
structure IsLawful (workers capacity : Nat) (steps : List (Step α)) (journal : Journal α) : Prop where
  /-- Accepted jobs are started in the order of submission, and refused ones are not. -/
  inOrder : journal.started <+: journal.accepted
  /-- No job is started twice. -/
  once : (journal.started.map Job.ticket).Nodup
  room : journal.pool.queue.length ≤ max capacity 1
  busy : journal.pool.running.length ≤ max workers 1
  saturated : ∀ task, journal.pool.submit task = .error .saturated ↔
    ¬ IsOver steps ∧ journal.pool.queue.length = max capacity 1
  closed : ∀ task, journal.pool.submit task = .error .closed ↔ IsOver steps
  /-- Whatever comes after the shutdown, only jobs are started that were queued then, in their order, and none if
  no worker was in the middle of a turn. -/
  halted : ¬ IsOver steps → ∀ turns more, ∃ late,
    ((journal.note (.shutdown turns)).follow more).started = journal.started ++ late ∧
      late <+: journal.pool.queue ∧ (journal.pool.staying turns = 0 → late = [])
  /-- An accepted job is queued until it is started, and running until it has ended. -/
  waiting : ¬ IsOver steps → journal.accepted = journal.started ++ journal.pool.queue
  working : ¬ IsOver steps → journal.started.Perm (journal.ended ++ journal.pool.running)
  /-- Whatever was accepted can still be started, by the work of the workers alone. -/
  startable : ¬ IsOver steps → ∃ work : List (Step α), (∀ step ∈ work, step.IsWork) ∧
    (journal.follow work).started = journal.accepted

theorem IsKept.halted (kept : IsKept workers capacity False journal) (turns : Turns) (more : List (Step α)) :
    ∃ late, ((journal.note (.shutdown turns)).follow more).started = journal.started ++ late ∧
      late <+: journal.pool.queue ∧ (journal.pool.staying turns = 0 → late = []) := by
  have opened : journal.pool.isShutDown = false := Bool.eq_false_iff.mpr kept.shut.mp
  have shut : (journal.note (.shutdown turns)).pool.isShutDown = true :=
    (kept.note_shutdown turns).shut.mpr trivial
  obtain ⟨-, -, late, started, queued, none⟩ := Journal.dwindles_follow shut more
  have left : (journal.note (.shutdown turns)).pool = _ := (shutdown_of_open opened turns :)
  rw [left] at queued none
  refine ⟨late, started, ((List.prefix_append _ _).trans queued).trans ?_, none⟩
  dsimp only
  split
  · exact List.nil_prefix
  · exact List.prefix_rfl

/-- **Every run of a pool obeys the law**, and there is a pool for any number of workers and any room
up to the largest capacity. -/
theorem run_lawful (workers : Nat) {capacity : Nat} (fits : capacity ≤ maxCapacity) :
    ∃ pool : Pool α, open? workers capacity = some pool ∧
      ∀ steps, IsLawful workers capacity steps ((Journal.start pool).follow steps) := by
  obtain ⟨pool, opened, -, -⟩ := open?_of_le (α := α) workers
    (Nat.max_le.mpr ⟨fits, by decide⟩ : max capacity 1 ≤ maxCapacity)
  refine ⟨pool, opened, fun steps => ?_⟩
  have kept : IsKept workers capacity (IsOver steps) ((Journal.start pool).follow steps) := by
    simpa using (isKept_start opened).follow steps
  have keptOpen (opened : ¬ IsOver steps) :
      IsKept workers capacity False ((Journal.start pool).follow steps) := by
    simpa [opened] using kept
  exact {
    inOrder := kept.started_prefix
    once := kept.distinct.sublist (kept.started_prefix.sublist.map Job.ticket)
    room := kept.capacity_eq ▸ kept.room
    busy := Nat.le_trans kept.busy kept.workers_le
    saturated := kept.submit_saturated_iff
    closed := kept.submit_closed_iff
    halted := fun opened => (keptOpen opened).halted
    waiting := kept.waiting
    working := kept.working
    startable := fun opened => (keptOpen opened).exists_started }

/-- One worker and room for one job, which is the least there is: the second job is queued while the
first one runs, the third is refused, and the shutdown drops the second, since the worker waits. -/
theorem run_lawful_least : 0 ≤ maxCapacity ∧
    ∃ pool : Pool String, open? 0 0 = some pool ∧
      (∀ steps, IsLawful 0 0 steps ((Journal.start pool).follow steps)) ∧
      (let journal := (Journal.start pool).follow
        [.submit "a", .take, .submit "b", .submit "c", .shutdown .nobody, .take, .submit "d"]
       journal.submissions = [("a", .ok 0), ("b", .ok 1), ("c", .error .saturated),
          ("d", .error .closed)] ∧
        journal.started = [⟨0, "a"⟩]) := by
  have fits : 0 ≤ maxCapacity := by decide
  obtain ⟨pool, opened, lawful⟩ := run_lawful (α := String) 0 fits
  obtain rfl := Option.some.inj opened
  exact ⟨fits, _, rfl, lawful, rfl, rfl⟩

/-- **A queued job may be started after the shutdown**: the job in front of it shuts the pool down, in the middle of
the turn of the only worker, which then takes the next one. -/
theorem started_after_shutdown :
    ∃ pool : Pool String, open? 1 2 = some pool ∧
      let before := (Journal.start pool).follow [.submit "a", .submit "b", .take]
      let after := before.follow [.shutdown ⟨[0], 0⟩, .finish 0, .take]
      before.started = [⟨0, "a"⟩] ∧ before.pool.queue = [⟨1, "b"⟩] ∧
        after.started = [⟨0, "a"⟩, ⟨1, "b"⟩] ∧ after.pool.isShutDown = true :=
  ⟨_, rfl, rfl, rfl, rfl, rfl⟩

end PeerMesh.Pool
