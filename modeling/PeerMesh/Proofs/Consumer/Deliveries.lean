/-
**What is queued with a consumer, and what is not touched by deliveries.**

`Consumer.pending` are the queued deliveries, and `Consumer.atRest` is the consumer without what
deliveries change: its listeners, its domain, and the room and the workers of its pool.

* `accept_atRest`, `takeDelivery?_pending`, `finishDelivery_pending` — deliveries change nothing else.
* `waitDelivery_pending`, `stop_pending` — workers that go leave the queue as it is, or drop it.
* `mem_pending_accept` — an arriving event is queued only for listeners of its kind, and only if it is
  for this node; what was queued stays queued (`pending_subset_accept`).
* `exists_pending_accept`, `pending_or_dropped` — an event for this node that has one listener is queued if
  there is room, and otherwise it is counted as dropped.
* `takeDelivery?_pending` — a worker takes the first of the queued deliveries.
-/

import PeerMesh.Consumer.Basic

namespace PeerMesh

/-- A pool without jobs. -/
def Pool.atRest {α : Type} (pool : Pool α) : Pool α :=
  { pool with nextTicket := 0, queue := [], running := [] }

/-- A job that is queued goes to the end. -/
theorem Pool.submit_ok {α : Type} {pool later : Pool α} {task : α}
    (queued : pool.submit task = .ok later) :
    later.atRest = pool.atRest ∧ later.queue = pool.queue ++ [⟨pool.nextTicket, task⟩] := by
  unfold Pool.submit at queued
  split at queued
  · cases queued
  · split at queued
    · cases queued
    · obtain rfl := Except.ok.inj queued
      exact ⟨rfl, rfl⟩

/-- A worker takes the job at the front. -/
theorem Pool.take?_front {α : Type} {pool later : Pool α} {job : Job α} (taken : pool.take? = some (job, later)) :
    pool.queue = job :: later.queue ∧ later.atRest = pool.atRest := by
  unfold Pool.take? at taken
  split at taken
  · rename_i queue
    split at taken
    · obtain ⟨rfl, rfl⟩ := Prod.mk.inj (Option.some.inj taken)
      exact ⟨queue, rfl⟩
    · cases taken
  · cases taken

/-- A worker that is gone leaves the queue as it is, or empty if it was the last one. -/
theorem Pool.lose_queue {α : Type} (pool : Pool α) : pool.lose.queue = pool.queue ∨ pool.lose.queue = [] := by
  unfold lose
  dsimp only
  split
  · exact .inr rfl
  · exact .inl rfl

theorem Pool.wait_queue {α : Type} (pool : Pool α) (ticket? : Option Nat) :
    (pool.wait ticket?).queue = pool.queue ∨ (pool.wait ticket?).queue = [] := by
  unfold wait
  cases ticket? with
  | none =>
    dsimp only
    split
    · exact pool.lose_queue
    · exact .inl rfl
  | some ticket =>
    dsimp only
    split
    · exact (pool.finish ticket).lose_queue
    · exact .inl rfl

/-- A pool that is shut down keeps its queue, or drops it if no worker stays. -/
theorem Pool.shutdown_queue {α : Type} (pool : Pool α) (turns : Turns) :
    (pool.shutdown turns).queue = pool.queue ∨ (pool.shutdown turns).queue = [] := by
  unfold shutdown
  split
  · exact .inl rfl
  · dsimp only
    split
    · exact .inr rfl
    · exact .inl rfl

/-- What is left of a pool was queued before. -/
theorem Pool.remnant?_queue {α : Type} {pool left : Pool α} {turns : Turns}
    (stays : pool.remnant? turns = some left) : left.queue = pool.queue ∨ left.queue = [] := by
  obtain rfl := Option.some.inj (Option.filter_eq_some_iff.mp stays).1
  exact pool.shutdown_queue turns

/-- Nothing is left of a pool none of whose workers is in the middle of a turn. -/
@[simp] theorem Pool.remnant?_nobody {α : Type} (pool : Pool α) (opened : pool.isShutDown = false) :
    pool.remnant? .nobody = none := by
  unfold remnant? shutdown
  rw [opened]
  simp [staying, Turns.nobody, Option.filter]

/-- A job is queued if there is room and somebody to take it. -/
theorem Pool.submit_of_room {α : Type} {pool : Pool α} (served : pool.isServed = true)
    (room : pool.queue.length < pool.capacity) (task : α) :
    ∃ later, pool.submit task = .ok later := by
  unfold Pool.submit
  rw [served, if_neg (by decide), if_neg (Nat.not_le_of_lt room)]
  exact ⟨_, rfl⟩

/-- A pool that can be had is served, and nothing is queued in it. -/
theorem Pool.open?_of_le {α : Type} (workers : Nat) {capacity : Nat}
    (room : max capacity 1 ≤ maxCapacity) :
    ∃ pool : Pool α, open? workers capacity = some pool ∧ pool.isServed = true ∧ pool.queue = [] := by
  unfold open?
  rw [if_pos room]
  refine ⟨_, rfl, ?_, rfl⟩
  show decide (0 < max workers 1) = true
  exact decide_eq_true (by omega)

namespace Consumer

variable {α β : Type}

/-- The queued deliveries, first to be taken first. -/
def pending (consumer : Consumer α β) : List (Job (Delivery α)) :=
  (consumer.workforce?.map (·.queue)).getD []

/-- What is queued with an open pool, whatever is left of an earlier one. -/
theorem pending_of_open {consumer : Consumer α β} {pool : Pool (Delivery α)} (opened : consumer.pool = some pool) :
    consumer.pending = pool.queue := by
  unfold pending workforce?
  rw [opened]
  rfl

/-- What deliveries do not change about a consumer. -/
def atRest (consumer : Consumer α β) : Consumer α β :=
  { consumer with
    pool := consumer.pool.map Pool.atRest
    remnant := consumer.remnant.map Pool.atRest
    delivered := 0
    dropped := 0 }

/-- Queuing one delivery changes only the queue, which may grow by it at its end. -/
theorem deliver_spec (event : Event) (consumer : Consumer α β) (entry : ListenerId × α) :
    (deliver event consumer entry).atRest = consumer.atRest ∧
      ((deliver event consumer entry).pending = consumer.pending ∨
        ∃ ticket, (deliver event consumer entry).pending =
          consumer.pending ++ [⟨ticket, ⟨entry.1, entry.2, event⟩⟩]) := by
  unfold deliver
  cases opened : consumer.pool with
  | none => exact ⟨rfl, .inl rfl⟩
  | some pool =>
    dsimp only
    cases queued : pool.submit ⟨entry.1, entry.2, event⟩ with
    | error error =>
      refine ⟨?_, .inl ?_⟩
      · unfold atRest
        rw [opened]
      · exact (pending_of_open opened).symm ▸ rfl
    | ok later =>
      obtain ⟨terms, queue⟩ := Pool.submit_ok queued
      refine ⟨?_, .inr ⟨pool.nextTicket, ?_⟩⟩
      · unfold atRest
        rw [opened, Option.map_some, Option.map_some, terms]
      · rw [pending_of_open opened, ← queue]
        rfl

theorem accept_atRest (consumer : Consumer α β) (event : Event) :
    (consumer.accept event).atRest = consumer.atRest := by
  have each : ∀ (entries : List (ListenerId × α)) (consumer : Consumer α β),
      (entries.foldl (deliver event) consumer).atRest = consumer.atRest := by
    intro entries
    induction entries with
    | nil => exact fun _ => rfl
    | cons entry rest ih =>
      exact fun consumer => (ih _).trans (deliver_spec event consumer entry).1
  unfold accept
  split
  · exact each _ consumer
  · rfl

/-- Who answers an event does not depend on what is queued. -/
theorem replier?_of_atRest {consumer later : Consumer α β} (same : later.atRest = consumer.atRest)
    (event : Event) : later.replier? event = consumer.replier? event := by
  show later.atRest.replier? event = consumer.atRest.replier? event
  rw [same]

/-- What was queued stays queued. -/
theorem pending_subset_accept (consumer : Consumer α β) (event : Event) :
    consumer.pending ⊆ (consumer.accept event).pending := by
  have each : ∀ (entries : List (ListenerId × α)) (consumer : Consumer α β),
      consumer.pending ⊆ (entries.foldl (deliver event) consumer).pending := by
    intro entries
    induction entries with
    | nil => exact fun _ => List.Subset.refl _
    | cons entry rest ih =>
      intro consumer
      refine List.Subset.trans ?_ (ih _)
      rcases (deliver_spec event consumer entry).2 with same | ⟨ticket, grown⟩
      · rw [same]
        exact List.Subset.refl _
      · rw [grown]
        exact List.subset_append_left _ _
  unfold accept
  split
  · exact each _ consumer
  · exact List.Subset.refl _

/-- **Only an event for this node is queued, and only for listeners of its kind.** -/
theorem mem_pending_accept {consumer : Consumer α β} {event : Event} {job : Job (Delivery α)}
    (queued : job ∈ (consumer.accept event).pending) :
    job ∈ consumer.pending ∨ (consumer.wants event = true ∧ job.task.event = event ∧
      ∃ id, (id, job.task.listener) ∈ consumer.asyncOf event.kind) := by
  have each : ∀ (entries : List (ListenerId × α)) (consumer : Consumer α β),
      job ∈ (entries.foldl (deliver event) consumer).pending → job ∈ consumer.pending ∨
        (job.task.event = event ∧ ∃ id, (id, job.task.listener) ∈ entries) := by
    intro entries
    induction entries with
    | nil => exact fun _ queued => .inl queued
    | cons entry rest ih =>
      intro consumer queued
      rcases ih _ queued with earlier | ⟨same, id, listed⟩
      · rcases (deliver_spec event consumer entry).2 with unchanged | ⟨ticket, grown⟩
        · rw [unchanged] at earlier
          exact .inl earlier
        · rw [grown] at earlier
          rcases List.mem_append.mp earlier with before | last
          · exact .inl before
          · rw [List.mem_singleton.mp last]
            exact .inr ⟨rfl, entry.1, List.mem_cons_self⟩
      · exact .inr ⟨same, id, List.mem_cons_of_mem _ listed⟩
  unfold accept at queued
  split at queued
  · rename_i wanted
    exact (each _ consumer queued).imp_right fun new => ⟨wanted, new⟩
  · exact .inl queued

/-- **An event for this node is queued if there is room.** -/
theorem exists_pending_accept {consumer : Consumer α β} {event : Event} {pool : Pool (Delivery α)}
    {id : ListenerId} {listener : α} (wanted : consumer.wants event = true)
    (listens : consumer.asyncOf event.kind = [(id, listener)]) (opened : consumer.pool = some pool)
    (served : pool.isServed = true) (room : pool.queue.length < pool.capacity) :
    ∃ job ∈ (consumer.accept event).pending, job.task.event = event := by
  obtain ⟨later, queued⟩ := Pool.submit_of_room served room ⟨id, listener, event⟩
  have accepted : (consumer.accept event).pending = later.queue := by
    unfold accept
    rw [if_pos wanted, listens, List.foldl_cons, List.foldl_nil]
    unfold deliver
    rw [opened]
    dsimp only
    rw [queued]
    rfl
  rw [accepted, (Pool.submit_ok queued).2]
  exact ⟨_, List.mem_append_right _ (List.mem_singleton.mpr rfl), rfl⟩

/-- No delivery that was dropped is counted back. -/
theorem dropped_le_accept (consumer : Consumer α β) (event : Event) :
    consumer.dropped ≤ (consumer.accept event).dropped := by
  have each (consumer : Consumer α β) (entry : ListenerId × α) :
      consumer.dropped ≤ (deliver event consumer entry).dropped := by
    unfold deliver
    split
    · exact Nat.le_refl _
    · split
      · exact Nat.le_refl _
      · exact Nat.le_succ _
  unfold accept
  split
  · exact List.foldlRecOn (motive := fun later : Consumer α β => consumer.dropped ≤ later.dropped) _ _
      (Nat.le_refl _) fun later grown entry _ => Nat.le_trans grown (each later entry)
  · exact Nat.le_refl _

/-- **An event for this node is queued, or it is counted that it was not**, if it has one listener. -/
theorem pending_or_dropped {consumer : Consumer α β} {event : Event} {pool : Pool (Delivery α)}
    {id : ListenerId} {listener : α} (wanted : consumer.wants event = true)
    (listens : consumer.asyncOf event.kind = [(id, listener)]) (opened : consumer.pool = some pool)
    (served : pool.isServed = true) :
    (∃ job ∈ (consumer.accept event).pending, job.task.event = event) ∨
      consumer.dropped < (consumer.accept event).dropped := by
  by_cases room : pool.queue.length < pool.capacity
  · exact .inl (exists_pending_accept wanted listens opened served room)
  · right
    have full : pool.submit ⟨id, listener, event⟩ = .error .saturated := by
      unfold Pool.submit
      rw [served, if_neg (by decide), if_pos (Nat.le_of_not_lt room)]
    unfold accept
    rw [if_pos wanted, listens, List.foldl_cons, List.foldl_nil]
    unfold deliver
    rw [opened]
    dsimp only
    rw [full]
    exact Nat.lt_succ_self _

/-- **A worker takes the first of the queued deliveries.** -/
theorem takeDelivery?_pending {consumer later : Consumer α β} {job : Job (Delivery α)}
    (taken : consumer.takeDelivery? = some (job, later)) :
    consumer.pending = job :: later.pending ∧ later.atRest = consumer.atRest := by
  unfold takeDelivery? at taken
  cases opened : consumer.pool with
  | some pool =>
    rw [opened] at taken
    obtain ⟨⟨first, rest⟩, front, same⟩ := Option.map_eq_some_iff.mp taken
    obtain ⟨rfl, rfl⟩ := Prod.mk.inj same
    obtain ⟨queue, terms⟩ := Pool.take?_front front
    refine ⟨?_, ?_⟩
    · rw [pending_of_open opened, queue]
      rfl
    · unfold atRest
      rw [opened, Option.map_some, Option.map_some, terms]
  | none =>
    rw [opened] at taken
    obtain ⟨pool, left, taken⟩ := Option.bind_eq_some_iff.mp taken
    obtain ⟨⟨first, rest⟩, front, same⟩ := Option.map_eq_some_iff.mp taken
    obtain ⟨rfl, rfl⟩ := Prod.mk.inj same
    obtain ⟨queue, terms⟩ := Pool.take?_front front
    refine ⟨?_, ?_⟩
    · unfold pending workforce?
      rw [opened, left]
      exact queue
    · unfold atRest
      rw [opened, left, Option.map_some, Option.map_some, terms]

theorem finishDelivery_pending (consumer : Consumer α β) (ticket : Nat) :
    (consumer.finishDelivery ticket).pending = consumer.pending ∧
      (consumer.finishDelivery ticket).atRest = consumer.atRest := by
  unfold finishDelivery pending workforce? atRest
  cases consumer.pool <;> cases consumer.remnant <;> exact ⟨rfl, rfl⟩

/-- A worker that has to wait leaves the queue as it is, or drops it with a consumer that was stopped. -/
theorem waitDelivery_pending (consumer : Consumer α β) (ticket? : Option Nat) :
    (consumer.waitDelivery ticket?).pending = consumer.pending ∨
      (consumer.waitDelivery ticket?).pending = [] := by
  unfold waitDelivery pending workforce?
  cases consumer.pool with
  | some pool => exact .inl rfl
  | none =>
    cases consumer.remnant with
    | none => exact .inl rfl
    | some pool => exact pool.wait_queue ticket?

/-- A consumer that is stopped keeps the queue as it is, or drops it if no worker stays. -/
theorem stop_pending (consumer : Consumer α β) (turns : Turns) :
    (consumer.stop turns).pending = consumer.pending ∨ (consumer.stop turns).pending = [] := by
  unfold stop remnantAfter pending workforce?
  cases consumer.pool with
  | none => exact .inl rfl
  | some pool =>
    dsimp only
    cases left : pool.remnant? turns with
    | none => exact .inr rfl
    | some rest => exact Pool.remnant?_queue left

end Consumer

end PeerMesh
