/-
**A consumer that was stopped.**

* `IsOver` — a stop closes the worker pool for good; every step preserves it (`IsOver.step`).
* `Diary.of_stopped` — from the stop on, nothing is offered to a worker queue, and an asynchronous listener is
  called only for a delivery that was queued then, in its turn, by a worker that the stop has found in the middle of
  one. If it has found none, there are no such calls.
* `Roll.standing_of_stopped` — the registrations survive the stop, until they are removed.
* `replier?_eq_some_iff` — and so the synchronous listeners go on answering.
* `run_after_stop` — all of it, about every run. `called_after_stop` — such a late call.
-/

import PeerMesh.Proofs.Consumer.Accounting
import PeerMesh.Proofs.Consumer.Registry

namespace PeerMesh

namespace Consumer

variable {α β : Type} {selfId : NodeId} {domain : String} {consumer : Consumer α β} {turns : Turns}

/-! ### What a stop leaves -/

/-- The consumer is stopped and has no open pool. -/
structure IsOver (consumer : Consumer α β) : Prop where
  stopped : consumer.isStopped = true
  closed : consumer.pool = none

/-- Nobody is left to call a listener. -/
def IsDeserted (consumer : Consumer α β) : Prop := consumer.isStopped = true ∧ consumer.workforce? = none

namespace IsOver

theorem start (isOver : consumer.IsOver) (workers capacity : Nat) :
    consumer.start workers capacity = .error .stopped := by
  simp [Consumer.start, isOver.stopped]

theorem registerAsync (isOver : consumer.IsOver) (kind : String) (listener : α) :
    consumer.registerAsync kind listener = .error .stopped := by
  simp [Consumer.registerAsync, isOver.stopped]

theorem registerSync (isOver : consumer.IsOver) (kind : String) (listener : β) :
    consumer.registerSync kind listener = .error .stopped := by
  simp [Consumer.registerSync, isOver.stopped]

/-- An event that arrives finds no queue. -/
theorem accept (isOver : consumer.IsOver) (event : Event) : consumer.accept event = consumer := by
  have none_takes : ∀ entries : List (ListenerId × α),
      entries.foldl (deliver event) consumer = consumer := by
    intro entries
    induction entries with
    | nil => rfl
    | cons entry rest ih =>
      have same : deliver event consumer entry = consumer := by simp [deliver, isOver.closed]
      rw [List.foldl_cons, same, ih]
  unfold Consumer.accept
  split_ifs
  · exact none_takes _
  · rfl

/-- Another stop finds nothing to do. -/
theorem stop (isOver : consumer.IsOver) (turns : Turns) : consumer.stop turns = consumer := by
  have left : consumer.remnantAfter turns = consumer.remnant := by simp [remnantAfter, isOver.closed]
  unfold Consumer.stop
  rw [left, ← isOver.closed, ← isOver.stopped]

/-- Nothing but a removal, a change of domain and the workers that are left has an effect any more. -/
theorem step_cases (isOver : consumer.IsOver) (next : Step α β) :
    consumer.step next = consumer ∨ (∃ id, next = .unregister id) ∨ (∃ other, next = .changeDomain other) ∨
      (∃ ticket?, next = .wait ticket?) ∨ next.IsWork := by
  cases next with
  | start workers capacity => exact .inl (by simp [step, isOver.start, Except.toOption])
  | registerAsync kind listener => exact .inl (by simp [step, isOver.registerAsync, Except.toOption])
  | registerSync kind listener => exact .inl (by simp [step, isOver.registerSync, Except.toOption])
  | unregister id => exact .inr (.inl ⟨id, rfl⟩)
  | changeDomain other => exact .inr (.inr (.inl ⟨other, rfl⟩))
  | arrive event => exact .inl (isOver.accept event)
  | call => exact .inr (.inr (.inr (.inr trivial)))
  | finish ticket => exact .inr (.inr (.inr (.inr trivial)))
  | wait ticket? => exact .inr (.inr (.inr (.inl ⟨ticket?, rfl⟩)))
  | stop turns => exact .inl (isOver.stop turns)

/-- **A stop is for good.** -/
theorem step (isOver : consumer.IsOver) (next : Step α β) : (consumer.step next).IsOver := by
  rcases isOver.step_cases next with same | ⟨id, rfl⟩ | ⟨other, rfl⟩ | ⟨ticket?, rfl⟩ | work
  · rwa [same]
  · obtain ⟨asyncs, syncs, index, removed⟩ := unregister_eq consumer id
    rw [removed]
    exact ⟨isOver.stopped, isOver.closed⟩
  · exact ⟨isOver.stopped, isOver.closed⟩
  · exact ⟨isOver.stopped, isOver.closed⟩
  · refine ⟨(isStopped_work work).trans isOver.stopped, ?_⟩
    cases next with
    | call =>
      rcases call_eq consumer with ⟨-, same⟩ | ⟨job, taken⟩
      · rw [same]
        exact isOver.closed
      · have none : (consumer.step .call).atRest.pool = consumer.atRest.pool := by
          rw [(takeDelivery?_pending taken).2]
        simpa [atRest, isOver.closed] using none
    | finish ticket => simp [Consumer.step, finishDelivery, isOver.closed]
    | _ => exact work.elim

/-- A worker that is left takes what it calls from the front of the queue, and nothing else is done to it but that
it may be dropped. -/
theorem pending_step (isOver : consumer.IsOver) (next : Step α β) :
    consumer.callsIn next ++ (consumer.step next).pending.map Job.task <+: consumer.pending.map Job.task := by
  have still (same : (consumer.step next).pending = consumer.pending) (none : consumer.callsIn next = []) :
      consumer.callsIn next ++ (consumer.step next).pending.map Job.task <+: consumer.pending.map Job.task := by
    rw [same, none]
    exact List.prefix_rfl
  rcases isOver.step_cases next with same | ⟨id, rfl⟩ | ⟨other, rfl⟩ | ⟨ticket?, rfl⟩ | work
  · cases next with
    | call =>
      rcases call_eq consumer with ⟨none, -⟩ | ⟨job, taken⟩
      · exact still (congrArg pending same) (by simp [callsIn, none])
      · have front := (takeDelivery?_pending taken).1
        rw [same] at front
        exact absurd front (List.cons_ne_self _ _).symm
    | _ => exact still (congrArg pending same) rfl
  · obtain ⟨asyncs, syncs, index, removed⟩ := unregister_eq consumer id
    exact still (by rw [removed]; rfl) rfl
  · exact still rfl rfl
  · rcases waitDelivery_pending consumer ticket? with same | none
    · exact still same rfl
    · show [] ++ (consumer.waitDelivery ticket?).pending.map Job.task <+: _
      rw [none]
      exact List.nil_prefix
  · cases next with
    | call =>
      rcases call_eq consumer with ⟨none, same⟩ | ⟨job, taken⟩
      · exact still (congrArg pending same) (by simp [callsIn, none])
      · rw [(takeDelivery?_pending taken).1]
        simp [callsIn, taken]
    | finish ticket => exact still (finishDelivery_pending consumer ticket).1 rfl
    | _ => exact work.elim

theorem offersIn (isOver : consumer.IsOver) (arrival : Nat) (next : Step α β) :
    consumer.offersIn arrival next = [] := by
  cases next with
  | arrive event => simp [Consumer.offersIn, isOver.closed]
  | _ => rfl

theorem grantOf? (isOver : consumer.IsOver) (next : Step α β) : consumer.grantOf? next = none := by
  cases next with
  | registerAsync kind listener => simp [Consumer.grantOf?, isOver.registerAsync, Except.toOption]
  | registerSync kind listener => simp [Consumer.grantOf?, isOver.registerSync, Except.toOption]
  | _ => rfl

end IsOver

/-! ### Runs with a stop in them -/

theorem isOver_stop (consumer : Consumer α β) (turns : Turns) : (consumer.stop turns).IsOver := ⟨rfl, rfl⟩

/-- After a stop, and whatever has happened since, the consumer is over. -/
theorem isOver_run (before after : List (Step α β)) :
    (run selfId domain (before ++ .stop turns :: after)).IsOver := by
  induction after using List.reverseRecOn with
  | nil =>
    rw [run_concat]
    exact isOver_stop _ turns
  | append_singleton after last ih =>
    rw [← List.cons_append, ← List.append_assoc, run_concat]
    exact ih.step last

/-- The workers of the open pool that a stop finds in the middle of a turn. -/
def staying (consumer : Consumer α β) (turns : Turns) : Nat := (consumer.pool.map (·.staying turns)).getD 0

/-- What is queued when nobody stays is not called: it is gone at once. -/
theorem pending_stop_of_nobody (running : consumer.remnant = none) (nobody : consumer.staying turns = 0)
    (staffed : ∀ pool, consumer.pool = some pool → pool.isShutDown = false) :
    (consumer.stop turns).pending = [] := by
  unfold Consumer.stop remnantAfter pending workforce?
  cases opened : consumer.pool with
  | none => simp [running]
  | some pool =>
    have gone : (pool.shutdown turns).workers = 0 := by
      have none : pool.staying turns = 0 := by simpa [staying, opened] using nobody
      simp [Pool.shutdown, staffed pool opened, none]
    simp [Pool.remnant?, Option.filter, gone]

end Consumer

namespace Diary

open Consumer

variable {α β : Type} (selfId : NodeId) (domain : String) (turns : Turns)

/-- What is written down after a stop is no offer, and no call but of the first deliveries that were queued then. -/
theorem of_stopped (before after : List (Step α β)) :
    (of selfId domain (before ++ .stop turns :: after)).offers = (of selfId domain before).offers ∧
      ∃ late, (of selfId domain (before ++ .stop turns :: after)).calls = (of selfId domain before).calls ++ late ∧
        late ++ (run selfId domain (before ++ .stop turns :: after)).pending.map Job.task <+:
          (run selfId domain (before ++ [.stop turns])).pending.map Job.task := by
  induction after using List.reverseRecOn with
  | nil => exact ⟨by simp [of_concat, note, offersIn], [], by simp [of_concat, note, callsIn], List.prefix_rfl⟩
  | append_singleton after last ih =>
    have isOver : (run selfId domain (before ++ .stop turns :: after)).IsOver := isOver_run before after
    obtain ⟨offers, late, calls, ahead⟩ := ih
    rw [← List.cons_append, ← List.append_assoc, of_concat, run_concat, note, consumer_of, isOver.offersIn,
      List.append_nil]
    refine ⟨offers, late ++ (run selfId domain (before ++ .stop turns :: after)).callsIn last, ?_, ?_⟩
    · rw [calls, List.append_assoc]
    · rw [List.append_assoc]
      exact ((List.prefix_append_right_inj _).mpr (isOver.pending_step last)).trans ahead

end Diary

namespace Roll

open Consumer

variable {α β : Type} (selfId : NodeId) (domain : String) (turns : Turns)

theorem of_concat (steps : List (Step α β)) (last : Step α β) :
    of selfId domain (steps ++ [last]) = (of selfId domain steps).note last := by
  simp [of, follow]

/-- After a stop, listeners go one by one, by their ids, and none comes. -/
theorem standing_of_stopped (before after : List (Step α β)) :
    (of selfId domain (before ++ .stop turns :: after)).standing =
      (of selfId domain before).standing.filter fun grant =>
        after.all fun next => !next.removes grant.id := by
  induction after using List.reverseRecOn with
  | nil => simp [of_concat, note, standingAfter, Step.removes, Consumer.grantOf?]
  | append_singleton after last ih =>
    have isOver : (of selfId domain (before ++ .stop turns :: after)).consumer.IsOver := by
      rw [consumer_of]
      exact isOver_run before after
    rw [← List.cons_append, ← List.append_assoc, of_concat]
    simp only [note, standingAfter, isOver.grantOf?, ih, List.filter_filter, Option.toList_none,
      List.append_nil, List.all_append, List.all_cons, List.all_nil, Bool.and_true]
    exact List.filter_congr fun grant _ => Bool.and_comm _ _

end Roll

namespace Consumer

variable {α β : Type} {selfId : NodeId} {domain : String} {turns : Turns}

/-- A synchronous event is answered by the listener that stands for its type, whether or not the
consumer is stopped. -/
theorem replier?_eq_some_iff (steps : List (Step α β)) {event : Event} {listener : β}
    (fits : (run selfId domain steps).handedOut < 2 ^ 64) :
    (run selfId domain steps).replier? event = some listener ↔
      event.origin ≠ selfId ∧ event.scope.admits (run selfId domain steps).domain = true ∧
        ∃ id, (⟨id, event.kind, .inr listener⟩ : Grant α β) ∈ (Roll.of selfId domain steps).standing := by
  have agrees := (Roll.isKept_of selfId domain steps).agrees
  rw [Roll.consumer_of] at agrees
  unfold replier?
  simp only [wants, selfId_run, Bool.and_eq_true, decide_eq_true_eq]
  split_ifs with wanted
  · simp only [Option.map_eq_some_iff, Prod.exists, exists_eq_right, (agrees fits).syncListeners_eq_some_iff,
      wanted, true_and, ne_eq, not_false_eq_true]
  · exact iff_of_false (by simp) fun answers => wanted ⟨answers.1, answers.2.1⟩

theorem Step.removes_iff {id : ListenerId} {next : Step α β} :
    next.removes id = true ↔ next = .unregister id := by
  cases next <;> simp [Step.removes, eq_comm]

/-- No id is handed out by a consumer that is over. -/
theorem handedOut_of_stopped (before after : List (Step α β)) :
    (run selfId domain (before ++ .stop turns :: after)).handedOut = (run selfId domain before).handedOut := by
  induction after using List.reverseRecOn with
  | nil => rw [run_concat]; rfl
  | append_singleton after last ih =>
    rw [← List.cons_append, ← List.append_assoc, run_concat]
    rcases handedOut_step (run selfId domain (before ++ .stop turns :: after)) last with
      ⟨-, same⟩ | ⟨grant, given, -, -⟩
    · rw [same, ih]
    · rw [(isOver_run before after).grantOf? last] at given
      cases given

/-- **A stopped consumer.** However a run went on after a stop, nothing was offered to the worker queue since, so
that no event that has arrived since reached an asynchronous listener; both counters stand still, and neither a
start nor a registration is possible. Asynchronous listeners were called since only with the first of the events
that were queued before, and with none if the stop found no worker in the middle of a turn. Its synchronous
listeners are not stopped: an event from another node whose scope admits the consumer's domain is answered by the
listener that was registered for its type before the stop, unless it was removed since, and by no other (as long
as ids have not run out). -/
theorem run_after_stop (selfId : NodeId) (domain : String) (turns : Turns) (before after : List (Step α β)) :
    (Diary.of selfId domain (before ++ .stop turns :: after)).offers =
        (Diary.of selfId domain before).offers ∧
      (∃ late, (Diary.of selfId domain (before ++ .stop turns :: after)).calls =
          (Diary.of selfId domain before).calls ++ late ∧
        late <+: (run selfId domain before).pending.map Job.task ∧
        ((run selfId domain before).isStopped = false → (run selfId domain before).staying turns = 0 →
          late = [])) ∧
      (run selfId domain (before ++ .stop turns :: after)).delivered =
        (run selfId domain before).delivered ∧
      (run selfId domain (before ++ .stop turns :: after)).dropped = (run selfId domain before).dropped ∧
      (∀ event, (run selfId domain (before ++ .stop turns :: after)).accept event =
        run selfId domain (before ++ .stop turns :: after)) ∧
      (∀ workers capacity,
        (run selfId domain (before ++ .stop turns :: after)).start workers capacity = .error .stopped) ∧
      (∀ kind listener,
        (run selfId domain (before ++ .stop turns :: after)).registerAsync kind listener =
          .error .stopped) ∧
      (∀ kind listener,
        (run selfId domain (before ++ .stop turns :: after)).registerSync kind listener =
          .error .stopped) ∧
      ((run selfId domain before).handedOut < 2 ^ 64 → ∀ event listener,
        (run selfId domain (before ++ .stop turns :: after)).replier? event = some listener ↔
          event.origin ≠ selfId ∧
            event.scope.admits (run selfId domain (before ++ .stop turns :: after)).domain = true ∧
            ∃ id, (⟨id, event.kind, .inr listener⟩ : Grant α β) ∈
                (Roll.of selfId domain before).standing ∧
              .unregister id ∉ after) := by
  have isOver : (run selfId domain (before ++ .stop turns :: after)).IsOver := isOver_run before after
  obtain ⟨offers, late, calls, ahead⟩ := Diary.of_stopped selfId domain turns before after
  have earlier := Diary.tallies_of selfId domain before
  have later := Diary.tallies_of selfId domain (before ++ .stop turns :: after)
  have queued := (List.prefix_append _ _).trans ahead
  rw [run_concat] at queued
  change late <+: ((run selfId domain before).stop turns).pending.map Job.task at queued
  refine ⟨offers, ⟨late, calls, ?_, fun running nobody => ?_⟩, ?_, ?_, isOver.accept, isOver.start,
    isOver.registerAsync, isOver.registerSync, fun fits event listener => ?_⟩
  · rcases stop_pending (run selfId domain before) turns with same | none
    · rwa [same] at queued
    · rw [none] at queued
      exact queued.trans List.nil_prefix
  · have staffed := isStaffed_run selfId domain before
    rw [pending_stop_of_nobody (staffed.whole running) nobody fun pool opened =>
      (staffed.staffed pool opened).2.opened] at queued
    exact List.prefix_nil.mp queued
  · rw [← Diary.consumer_of, ← Diary.consumer_of, later.delivered, earlier.delivered, Diary.accepted,
      Diary.accepted, offers]
  · rw [← Diary.consumer_of, ← Diary.consumer_of, later.dropped, earlier.dropped, Diary.refused,
      Diary.refused, offers]
  · rw [replier?_eq_some_iff _ (handedOut_of_stopped before after ▸ fits), Roll.standing_of_stopped]
    simp only [List.mem_filter, List.all_eq_true, Bool.not_eq_true', ← Bool.not_eq_true,
      Step.removes_iff]
    grind

/-- A listener that stops its own consumer is followed by the delivery that was queued behind it, unless its worker
has to wait first. -/
theorem called_after_stop :
    let event : Event := ⟨.all, "evt", [], ⟨"b"⟩, ⟨"m:2"⟩⟩
    let before : List (Step Unit Unit) :=
      [.start 1 8, .registerAsync "evt" (), .arrive event, .arrive event, .call]
    let stop : Step Unit Unit := .stop ⟨[0], 0⟩
    (Diary.of ⟨"a"⟩ "d" before).calls = [⟨1, (), event⟩] ∧
      (Diary.of ⟨"a"⟩ "d" (before ++ [stop, .finish 0, .call])).calls = [⟨1, (), event⟩, ⟨1, (), event⟩] ∧
      (Diary.of ⟨"a"⟩ "d" (before ++ [stop, .wait (some 0), .finish 0, .call])).calls = [⟨1, (), event⟩] := by
  exact ⟨rfl, rfl, rfl⟩

/-- Nobody is called any more for the event that was queued, but the synchronous listener answers after the stop. -/
theorem run_after_stop_of_answered :
    let event : Event := ⟨.all, "evt", [], ⟨"b"⟩, ⟨"m:2"⟩⟩
    let ping : Event := ⟨.all, "ping", [], ⟨"b"⟩, ⟨"m:2"⟩⟩
    let before : List (Step Unit Unit) :=
      [.start 1 8, .registerAsync "evt" (), .registerSync "ping" (), .arrive event]
    (run ⟨"a"⟩ "d" before).isStopped = false ∧ (run ⟨"a"⟩ "d" before).staying .nobody = 0 ∧
      (run ⟨"a"⟩ "d" before).handedOut < 2 ^ 64 ∧ (run ⟨"a"⟩ "d" before).pending.length = 1 ∧
      (Diary.of ⟨"a"⟩ "d" (before ++ [.stop .nobody, .call])).calls = [] ∧
      (run ⟨"a"⟩ "d" (before ++ [.stop .nobody, .call])).replier? ping = some () := by
  intro event ping before
  have running : (run ⟨"a"⟩ "d" before).isStopped = false := by decide
  have nobody : (run ⟨"a"⟩ "d" before).staying .nobody = 0 := by decide
  have fits : (run ⟨"a"⟩ "d" before).handedOut < 2 ^ 64 := by decide
  obtain ⟨-, ⟨late, calls, -, none⟩, -, -, -, -, -, -, answered⟩ :=
    run_after_stop ⟨"a"⟩ "d" .nobody before [.call]
  rw [none running nobody, List.append_nil] at calls
  refine ⟨running, nobody, fits, by decide, calls, (answered fits ping ()).mpr ⟨by decide, by decide, 2, ?_, ?_⟩⟩
  · exact List.mem_cons_of_mem _ List.mem_cons_self
  · simp

end Consumer

end PeerMesh
