/-
**The runs of a consumer.**

A run is a list of steps, in any order: the consumer is started, and stopped while some of its workers are
in the middle of a turn, listeners come and go, the domain changes, events arrive, workers call listeners or
have to wait, and calls end, by returning or by a panic, which makes no difference here (`Consumer.Step`). A
step that is refused changes nothing.

* `isNumbered_run` — as long as ids have not run out, no two listeners of a kind have the same id, and every
  id was given out.
* `isStaffed_run` — an open pool has workers that take jobs, and is there only until the consumer is
  stopped; only then anything is left of it.
* `exists_drained` — whatever was called and however it ended, the workers get through the queue.
-/

import Mathlib.Data.List.Induction
import Mathlib.Tactic.SplitIfs
import PeerMesh.Proofs.Consumer.Deliveries

namespace PeerMesh

/-! ### Pools with workers -/

namespace Pool

variable {α : Type}

/-- The pool is open, and no more jobs are running than it has workers. -/
structure IsStaffed (pool : Pool α) : Prop where
  opened : pool.isShutDown = false
  served : 0 < pool.workers
  busy : pool.running.length ≤ pool.workers

theorem IsStaffed.isServed {pool : Pool α} (staffed : pool.IsStaffed) : pool.isServed = true := by
  simp [Pool.isServed, staffed.opened, staffed.served]

theorem isStaffed_open? {workers capacity : Nat} {pool : Pool α}
    (had : open? workers capacity = some pool) : pool.IsStaffed := by
  unfold open? at had
  split at had
  · obtain rfl := Option.some.inj had
    exact ⟨rfl, Nat.lt_of_lt_of_le Nat.zero_lt_one (Nat.le_max_right _ _), Nat.zero_le _⟩
  · cases had

theorem IsStaffed.submit {pool later : Pool α} {task : α} (staffed : pool.IsStaffed)
    (queued : pool.submit task = .ok later) : later.IsStaffed := by
  unfold Pool.submit at queued
  split_ifs at queued
  obtain rfl := Except.ok.inj queued
  exact ⟨staffed.opened, staffed.served, staffed.busy⟩

theorem IsStaffed.take {pool later : Pool α} {job : Job α} (staffed : pool.IsStaffed)
    (taken : pool.take? = some (job, later)) : later.IsStaffed := by
  unfold Pool.take? at taken
  split at taken
  · split_ifs at taken with idle
    obtain ⟨rfl, rfl⟩ := Prod.mk.inj (Option.some.inj taken)
    refine ⟨staffed.opened, staffed.served, ?_⟩
    simp only [hasIdle, decide_eq_true_eq] at idle
    simp only [List.length_append, List.length_singleton]
    omega
  · cases taken

theorem IsStaffed.finish {pool : Pool α} (staffed : pool.IsStaffed) (ticket : Nat) :
    (pool.finish ticket).IsStaffed :=
  ⟨staffed.opened, staffed.served, Nat.le_trans (List.length_filter_le _ _) staffed.busy⟩

/-- An idle worker takes the first queued job. -/
theorem take_of_idle {pool : Pool α} {job : Job α} {rest : List (Job α)}
    (front : pool.queue = job :: rest) (idle : pool.hasIdle = true) :
    ∃ later, pool.take? = some (job, later) ∧ later.queue = rest := by
  unfold take?
  rw [front]
  simp only [idle, if_true]
  exact ⟨_, rfl, rfl⟩

/-- When a running job ends, its worker is idle. -/
theorem IsStaffed.hasIdle_finish {pool : Pool α} {job : Job α} (staffed : pool.IsStaffed)
    (running : job ∈ pool.running) : (pool.finish job.ticket).hasIdle = true := by
  have fewer : (pool.withoutRunning job.ticket).length < pool.running.length :=
    List.length_filter_lt_length_iff_exists.mpr ⟨job, running, by simp⟩
  have busy := staffed.busy
  exact decide_eq_true (Nat.lt_of_lt_of_le fewer busy)

end Pool

namespace Consumer

/-! ### Steps and runs -/

/-- One thing that happens to a consumer. -/
inductive Step (α β : Type) where
  | start (workers capacity : Nat)
  | registerAsync (kind : String) (listener : α)
  | registerSync (kind : String) (listener : β)
  | unregister (id : ListenerId)
  | changeDomain (domain : String)
  /-- An asynchronous event arrives. -/
  | arrive (event : Event)
  /-- A worker calls the listener of the first queued delivery, if a worker is idle. -/
  | call
  /-- The call of a ticket is over: the listener has returned, or has panicked. -/
  | finish (ticket : Nat)
  /-- The worker at the call of a ticket has to wait, or one that is at none. -/
  | wait (ticket? : Option Nat)
  /-- The consumer is stopped while workers are in the middle of their turns. -/
  | stop (turns : Turns)

variable {α β : Type}

/-- What a step does. -/
def step (consumer : Consumer α β) : Step α β → Consumer α β
  | .start workers capacity => (consumer.start workers capacity).toOption.getD consumer
  | .registerAsync kind listener =>
    ((consumer.registerAsync kind listener).toOption.map Prod.snd).getD consumer
  | .registerSync kind listener =>
    ((consumer.registerSync kind listener).toOption.map Prod.snd).getD consumer
  | .unregister id => (consumer.unregister id).2
  | .changeDomain domain => consumer.changeDomain domain
  | .arrive event => consumer.accept event
  | .call => (consumer.takeDelivery?.map Prod.snd).getD consumer
  | .finish ticket => consumer.finishDelivery ticket
  | .wait ticket? => consumer.waitDelivery ticket?
  | .stop turns => consumer.stop turns

/-- A new consumer after steps. -/
def run (selfId : NodeId) (domain : String) (steps : List (Step α β)) : Consumer α β :=
  steps.foldl step (new selfId domain)

variable {selfId : NodeId} {domain : String} {consumer later : Consumer α β}

theorem run_concat (steps : List (Step α β)) (last : Step α β) :
    run selfId domain (steps ++ [last]) = (run selfId domain steps).step last := by
  simp [run]

/-! ### What a step leaves as it was -/

theorem start_eq (consumer : Consumer α β) (workers capacity : Nat) :
    consumer.step (.start workers capacity) = consumer ∨
      consumer.isStopped = false ∧ consumer.pool = none ∧
        consumer.step (.start workers capacity) =
          { consumer with pool := Pool.open? workers capacity } := by
  simp only [step, start]
  cases stopped : consumer.isStopped with
  | true => exact .inl rfl
  | false =>
    cases opened : consumer.pool with
    | some pool => exact .inl rfl
    | none => exact .inr ⟨rfl, rfl, rfl⟩

theorem registerSync_eq (consumer : Consumer α β) (kind : String) (listener : β) :
    consumer.step (.registerSync kind listener) = consumer ∨
      consumer.step (.registerSync kind listener) =
        { consumer with
          syncListeners := consumer.syncListeners.insert kind (consumer.nextId, listener)
          index := consumer.index.insert consumer.nextId (.sync kind)
          handedOut := consumer.handedOut + 1 } := by
  simp only [step, registerSync]
  split_ifs
  · exact .inl rfl
  · exact .inl rfl
  · exact .inr rfl

theorem registerAsync_eq (consumer : Consumer α β) (kind : String) (listener : α) :
    consumer.step (.registerAsync kind listener) = consumer ∨
      consumer.step (.registerAsync kind listener) =
        { consumer with
          asyncListeners := consumer.asyncListeners.insert kind
            (consumer.asyncOf kind ++ [(consumer.nextId, listener)])
          index := consumer.index.insert consumer.nextId (.async kind)
          handedOut := consumer.handedOut + 1 } := by
  simp only [step, registerAsync]
  split_ifs
  · exact .inl rfl
  · exact .inr rfl

/-- Removing a listener changes the listeners and nothing else. -/
theorem unregister_eq (consumer : Consumer α β) (id : ListenerId) :
    ∃ asyncs syncs index, consumer.step (.unregister id) =
      { consumer with asyncListeners := asyncs, syncListeners := syncs, index := index } := by
  simp only [step, unregister]
  split <;> exact ⟨_, _, _, rfl⟩

theorem call_eq (consumer : Consumer α β) :
    consumer.takeDelivery? = none ∧ consumer.step .call = consumer ∨
      ∃ job, consumer.takeDelivery? = some (job, consumer.step .call) := by
  simp only [step]
  cases consumer.takeDelivery? with
  | none => exact .inl ⟨rfl, rfl⟩
  | some taken => exact .inr ⟨taken.1, rfl⟩

/-! ### Ids of listeners -/

/-- The number of an id, as long as they have not run out. -/
theorem toNat_nextId (fits : consumer.handedOut + 1 < 2 ^ 64) :
    consumer.nextId.toNat = consumer.handedOut + 1 := UInt64.toNat_ofNat_of_lt' fits

/-- No step takes an id back. -/
theorem handedOut_le_step (consumer : Consumer α β) (next : Step α β) :
    consumer.handedOut ≤ (consumer.step next).handedOut := by
  have same {later : Consumer α β} (same : later.atRest = consumer.atRest) :
      consumer.handedOut ≤ later.handedOut :=
    Nat.le_of_eq (show consumer.atRest.handedOut = later.atRest.handedOut by rw [same])
  cases next with
  | start workers capacity =>
    rcases start_eq consumer workers capacity with unchanged | ⟨-, -, opened⟩
    · simp [unchanged]
    · simp [opened]
  | registerAsync kind listener =>
    rcases registerAsync_eq consumer kind listener with unchanged | new
    · simp [unchanged]
    · simp [new]
  | registerSync kind listener =>
    rcases registerSync_eq consumer kind listener with unchanged | new
    · simp [unchanged]
    · simp [new]
  | unregister id =>
    obtain ⟨asyncs, syncs, index, removed⟩ := unregister_eq consumer id
    simp [removed]
  | arrive event => exact same (accept_atRest consumer event)
  | call =>
    rcases call_eq consumer with ⟨-, unchanged⟩ | ⟨job, taken⟩
    · simp [unchanged]
    · exact same (takeDelivery?_pending taken).2
  | changeDomain domain => exact Nat.le_refl _
  | finish ticket => exact Nat.le_refl _
  | wait ticket? => exact Nat.le_refl _
  | stop turns => exact Nat.le_refl _

/-- The ids of the listeners of a kind are distinct, and all of them were given out. -/
structure IsNumbered (consumer : Consumer α β) : Prop where
  distinct : ∀ kind, ((consumer.asyncOf kind).map Prod.fst).Nodup
  givenOut : ∀ kind, ∀ entry ∈ consumer.asyncOf kind, entry.1.toNat ≤ consumer.handedOut

theorem isNumbered_new : (new selfId domain : Consumer α β).IsNumbered :=
  ⟨fun _ => List.nodup_nil, fun _ _ listed => absurd listed List.not_mem_nil⟩

/-- Listeners that go, and ids that are given out to others, leave the rest numbered. -/
theorem IsNumbered.of_sublist (numbered : consumer.IsNumbered)
    (fewer : ∀ kind, (later.asyncOf kind).Sublist (consumer.asyncOf kind))
    (next : consumer.handedOut ≤ later.handedOut) : later.IsNumbered where
  distinct kind := (numbered.distinct kind).sublist ((fewer kind).map Prod.fst)
  givenOut kind entry listed :=
    Nat.le_trans (numbered.givenOut kind entry ((fewer kind).subset listed)) next

theorem IsNumbered.of_atRest (numbered : consumer.IsNumbered)
    (same : later.atRest = consumer.atRest) : later.IsNumbered := by
  refine numbered.of_sublist (fun kind => ?_) (Nat.le_of_eq ?_)
  · show (later.atRest.asyncOf kind).Sublist (consumer.atRest.asyncOf kind)
    simp [same]
  · show consumer.atRest.handedOut = later.atRest.handedOut
    rw [same]

theorem IsNumbered.registerAsync (numbered : consumer.IsNumbered) (fits : consumer.handedOut + 1 < 2 ^ 64)
    (kind : String) (listener : α) : (consumer.step (.registerAsync kind listener)).IsNumbered := by
  rcases registerAsync_eq consumer kind listener with same | new
  · rwa [same]
  rw [new]
  have number := toNat_nextId fits
  have listed : ∀ other, asyncOf { consumer with
        asyncListeners := consumer.asyncListeners.insert kind
          (consumer.asyncOf kind ++ [(consumer.nextId, listener)])
        index := consumer.index.insert consumer.nextId (.async kind)
        handedOut := consumer.handedOut + 1 } other =
      if other = kind then consumer.asyncOf kind ++ [(consumer.nextId, listener)]
      else consumer.asyncOf other := by
    intro other
    show ((consumer.asyncListeners.insert kind _).get? other).getD [] = _
    rw [Table.get?_insert]
    split_ifs <;> rfl
  refine ⟨fun other => ?_, fun other entry member => ?_⟩
  · rw [listed]
    split_ifs
    · have fresh : consumer.nextId ∉ (consumer.asyncOf kind).map Prod.fst := by
        intro taken
        obtain ⟨entry, member, same⟩ := List.mem_map.mp taken
        have given := numbered.givenOut kind entry member
        rw [same, number] at given
        exact absurd given (Nat.not_succ_le_self _)
      rw [List.map_append, List.nodup_append]
      refine ⟨numbered.distinct kind, by simp, fun id old other new same => ?_⟩
      rw [List.map_singleton, List.mem_singleton] at new
      rw [same, new] at old
      exact fresh old
    · exact numbered.distinct other
  · rw [listed] at member
    show entry.1.toNat ≤ consumer.handedOut + 1
    split_ifs at member
    · rcases List.mem_append.mp member with old | new
      · exact Nat.le_succ_of_le (numbered.givenOut kind entry old)
      · rw [List.mem_singleton.mp new]
        exact Nat.le_of_eq number
    · exact Nat.le_succ_of_le (numbered.givenOut other entry member)

/-- Removing a listener leaves a part of the listeners of its kind. -/
theorem asyncOf_unregister (consumer : Consumer α β) (id : ListenerId) (kind : String) :
    ((consumer.step (.unregister id)).asyncOf kind).Sublist (consumer.asyncOf kind) := by
  simp only [step, unregister]
  cases found : consumer.index.get? id with
  | none => exact List.Sublist.refl _
  | some registration =>
    cases registration with
    | sync other => exact List.Sublist.refl _
    | async other =>
      show (((consumer.withoutAsync other id).get? kind).getD []).Sublist _
      unfold withoutAsync
      dsimp only
      split_ifs with none
      · rw [Table.get?_erase]
        split_ifs
        · exact List.nil_sublist _
        · exact List.Sublist.refl _
      · rw [Table.get?_insert]
        split_ifs with same
        · rw [same]
          exact List.filter_sublist
        · exact List.Sublist.refl _

theorem IsNumbered.step (numbered : consumer.IsNumbered) (next : Step α β)
    (fits : (consumer.step next).handedOut < 2 ^ 64) : (consumer.step next).IsNumbered := by
  cases next with
  | start workers capacity =>
    rcases start_eq consumer workers capacity with same | ⟨-, -, opened⟩
    · rwa [same]
    · rw [opened]
      exact ⟨numbered.distinct, numbered.givenOut⟩
  | registerAsync kind listener =>
    rcases registerAsync_eq consumer kind listener with same | new
    · rwa [same]
    · rw [new] at fits
      exact numbered.registerAsync fits kind listener
  | registerSync kind listener =>
    rcases registerSync_eq consumer kind listener with same | new
    · rwa [same]
    · rw [new]
      exact numbered.of_sublist (fun _ => List.Sublist.refl _) (Nat.le_succ _)
  | unregister id =>
    refine numbered.of_sublist (asyncOf_unregister consumer id) (Nat.le_of_eq ?_)
    obtain ⟨asyncs, syncs, index, removed⟩ := unregister_eq consumer id
    rw [removed]
  | changeDomain domain => exact ⟨numbered.distinct, numbered.givenOut⟩
  | arrive event => exact numbered.of_atRest (accept_atRest consumer event)
  | call =>
    rcases call_eq consumer with ⟨-, same⟩ | ⟨job, taken⟩
    · rwa [same]
    · exact numbered.of_atRest (takeDelivery?_pending taken).2
  | finish ticket => exact numbered.of_atRest (finishDelivery_pending consumer ticket).2
  | wait ticket? => exact ⟨numbered.distinct, numbered.givenOut⟩
  | stop turns => exact ⟨numbered.distinct, numbered.givenOut⟩

/-- **No two listeners of a kind have the same id**, as long as ids have not run out. -/
theorem isNumbered_run (selfId : NodeId) (domain : String) (steps : List (Step α β))
    (fits : (run selfId domain steps).handedOut < 2 ^ 64) : (run selfId domain steps).IsNumbered := by
  induction steps using List.reverseRecOn with
  | nil => exact isNumbered_new
  | append_singleton steps last ih =>
    rw [run_concat] at fits ⊢
    exact (ih (Nat.lt_of_le_of_lt (handedOut_le_step _ last) fits)).step last fits

/-! ### Workers -/

/-- The pool has workers, and is there only until the consumer is stopped. Only then anything is left of it. -/
structure IsStaffed (consumer : Consumer α β) : Prop where
  staffed : ∀ pool, consumer.pool = some pool → consumer.isStopped = false ∧ pool.IsStaffed
  whole : consumer.isStopped = false → consumer.remnant = none

/-- Another pool with workers comes in the place of one. -/
theorem IsStaffed.replace (staffed : consumer.IsStaffed) {pool grown : Pool (Delivery α)}
    (opened : consumer.pool = some pool) (held : grown.IsStaffed) (same : later.pool = some grown)
    (stopped : later.isStopped = consumer.isStopped) (left : later.remnant = consumer.remnant) :
    later.IsStaffed := by
  refine ⟨fun other isThere => ?_, fun running => ?_⟩
  · rw [same] at isThere
    obtain rfl := Option.some.inj isThere
    exact ⟨stopped.trans (staffed.staffed pool opened).1, held⟩
  · rw [left]
    exact staffed.whole (stopped.symm.trans running)

theorem IsStaffed.deliver (staffed : consumer.IsStaffed) (event : Event) (entry : ListenerId × α) :
    (deliver event consumer entry).IsStaffed := by
  unfold Consumer.deliver
  cases opened : consumer.pool with
  | none => exact staffed
  | some pool =>
    have held := (staffed.staffed pool opened).2
    dsimp only
    cases queued : pool.submit ⟨entry.1, entry.2, event⟩ with
    | error error => exact staffed.replace opened held rfl rfl rfl
    | ok grown => exact staffed.replace opened (held.submit queued) rfl rfl rfl

theorem IsStaffed.accept (staffed : consumer.IsStaffed) (event : Event) :
    (consumer.accept event).IsStaffed := by
  have each : ∀ (entries : List (ListenerId × α)) (consumer : Consumer α β), consumer.IsStaffed →
      (entries.foldl (Consumer.deliver event) consumer).IsStaffed := by
    intro entries
    induction entries with
    | nil => exact fun _ staffed => staffed
    | cons entry rest ih => exact fun _ staffed => ih _ (staffed.deliver event entry)
  unfold Consumer.accept
  split_ifs
  · exact each _ consumer staffed
  · exact staffed

theorem IsStaffed.take {job : Job (Delivery α)} (staffed : consumer.IsStaffed)
    (taken : consumer.takeDelivery? = some (job, later)) : later.IsStaffed := by
  unfold takeDelivery? at taken
  cases opened : consumer.pool with
  | some pool =>
    rw [opened] at taken
    obtain ⟨⟨first, rest⟩, front, same⟩ := Option.map_eq_some_iff.mp taken
    obtain ⟨rfl, rfl⟩ := Prod.mk.inj same
    exact staffed.replace opened ((staffed.staffed pool opened).2.take front) rfl rfl rfl
  | none =>
    rw [opened] at taken
    obtain ⟨pool, left, taken⟩ := Option.bind_eq_some_iff.mp taken
    obtain ⟨⟨first, rest⟩, front, same⟩ := Option.map_eq_some_iff.mp taken
    obtain ⟨rfl, rfl⟩ := Prod.mk.inj same
    refine ⟨fun other isThere => (nomatch isThere), fun running => ?_⟩
    rw [staffed.whole running] at left
    cases left

theorem IsStaffed.finish (staffed : consumer.IsStaffed) (ticket : Nat) :
    (consumer.finishDelivery ticket).IsStaffed := by
  refine ⟨fun other isThere => ?_, fun running => ?_⟩
  · obtain ⟨pool, opened, rfl⟩ := Option.map_eq_some_iff.mp isThere
    obtain ⟨running, held⟩ := staffed.staffed pool opened
    exact ⟨running, held.finish ticket⟩
  · show consumer.remnant.map _ = none
    rw [staffed.whole running]
    rfl

theorem IsStaffed.step (staffed : consumer.IsStaffed) (next : Step α β) :
    (consumer.step next).IsStaffed := by
  cases next with
  | start workers capacity =>
    rcases start_eq consumer workers capacity with same | ⟨running, -, opened⟩
    · rwa [same]
    · rw [opened]
      exact ⟨fun pool had => ⟨running, Pool.isStaffed_open? had⟩, staffed.whole⟩
  | registerAsync kind listener =>
    rcases registerAsync_eq consumer kind listener with same | new
    · rwa [same]
    · rw [new]
      exact ⟨staffed.staffed, staffed.whole⟩
  | registerSync kind listener =>
    rcases registerSync_eq consumer kind listener with same | new
    · rwa [same]
    · rw [new]
      exact ⟨staffed.staffed, staffed.whole⟩
  | unregister id =>
    obtain ⟨asyncs, syncs, index, removed⟩ := unregister_eq consumer id
    rw [removed]
    exact ⟨staffed.staffed, staffed.whole⟩
  | changeDomain domain => exact ⟨staffed.staffed, staffed.whole⟩
  | arrive event => exact staffed.accept event
  | call =>
    rcases call_eq consumer with ⟨-, same⟩ | ⟨job, taken⟩
    · rwa [same]
    · exact staffed.take taken
  | finish ticket => exact staffed.finish ticket
  | wait ticket? =>
    refine ⟨staffed.staffed, fun running => ?_⟩
    show consumer.remnant.map _ = none
    rw [staffed.whole running]
    rfl
  | stop turns => exact ⟨fun _ opened => (nomatch opened), fun running => (nomatch running)⟩

theorem IsStaffed.foldl (staffed : consumer.IsStaffed) (steps : List (Step α β)) :
    (steps.foldl Consumer.step consumer).IsStaffed := by
  induction steps generalizing consumer with
  | nil => exact staffed
  | cons next steps ih => exact ih (staffed.step next)

/-- **A consumer that runs has workers.** -/
theorem isStaffed_run (selfId : NodeId) (domain : String) (steps : List (Step α β)) :
    (run selfId domain steps).IsStaffed :=
  IsStaffed.foldl ⟨fun _ opened => absurd opened (by simp [new]), fun _ => rfl⟩ steps

/-! ### Work -/

/-- The step is work: a worker calls a listener, or a call is over. -/
def Step.IsWork : Step α β → Prop
  | .call | .finish _ => True
  | _ => False

theorem isStopped_work {next : Step α β} (work : next.IsWork) :
    (consumer.step next).isStopped = consumer.isStopped := by
  cases next with
  | call =>
    rcases call_eq consumer with ⟨-, same⟩ | ⟨job, taken⟩
    · rw [same]
    · show (consumer.step .call).atRest.isStopped = consumer.atRest.isStopped
      rw [(takeDelivery?_pending taken).2]
  | finish ticket => rfl
  | _ => exact work.elim

theorem isStopped_foldl_work {work : List (Step α β)} (works : ∀ next ∈ work, next.IsWork) :
    (work.foldl step consumer).isStopped = consumer.isStopped := by
  induction work generalizing consumer with
  | nil => rfl
  | cons next work ih =>
    rw [List.foldl_cons, ih fun other member => works other (List.mem_cons_of_mem _ member)]
    exact isStopped_work (works next List.mem_cons_self)

/-- The next delivery is called, at once if a worker is idle, and otherwise after some call is over. -/
theorem IsStaffed.exists_called {job : Job (Delivery α)} {rest : List (Job (Delivery α))}
    (staffed : consumer.IsStaffed) (running : consumer.isStopped = false)
    (waiting : consumer.pending = job :: rest) :
    ∃ work : List (Step α β), (∀ next ∈ work, next.IsWork) ∧
      (work.foldl Consumer.step consumer).pending = rest := by
  obtain ⟨pool, opened, front⟩ : ∃ pool, consumer.pool = some pool ∧ pool.queue = job :: rest := by
    cases opened : consumer.pool with
    | none => simp [pending, workforce?, opened, staffed.whole running] at waiting
    | some pool => exact ⟨pool, rfl, (pending_of_open opened).symm.trans waiting⟩
  have held := (staffed.staffed pool opened).2
  by_cases idle : pool.hasIdle = true
  · obtain ⟨later, taken, left⟩ := Pool.take_of_idle front idle
    refine ⟨[.call], by simp [Step.IsWork], ?_⟩
    simp [Consumer.step, takeDelivery?, opened, taken, pending, workforce?, left]
  · obtain ⟨busy, running⟩ : ∃ busy, busy ∈ pool.running := by
      refine List.exists_mem_of_ne_nil _ fun none => idle ?_
      simpa [Pool.hasIdle, none] using held.served
    obtain ⟨later, taken, left⟩ := Pool.take_of_idle
      (show (pool.finish busy.ticket).queue = job :: rest from front) (held.hasIdle_finish running)
    refine ⟨[.finish busy.ticket, .call], by simp [Step.IsWork], ?_⟩
    simp [Consumer.step, takeDelivery?, finishDelivery, opened, taken, pending, workforce?, left]

/-- **The queue can always be drained** until the consumer is stopped, whatever is being called and however it
ends. -/
theorem IsStaffed.exists_drained (staffed : consumer.IsStaffed) (running : consumer.isStopped = false) :
    ∃ work : List (Step α β), (∀ next ∈ work, next.IsWork) ∧
      (work.foldl Consumer.step consumer).pending = [] := by
  generalize queued : consumer.pending = jobs
  induction jobs generalizing consumer with
  | nil => exact ⟨[], by simp, queued⟩
  | cons job rest ih =>
    obtain ⟨first, works, left⟩ := staffed.exists_called running queued
    obtain ⟨others, work, drained⟩ := ih (staffed.foldl first) ((isStopped_foldl_work works).trans running) left
    refine ⟨first ++ others, fun next member => ?_, by rwa [List.foldl_append]⟩
    rcases List.mem_append.mp member with early | late
    · exact works next early
    · exact work next late

end Consumer

end PeerMesh
