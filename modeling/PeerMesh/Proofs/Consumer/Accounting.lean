/-
**Every delivery is accounted for.**

A `Diary` is kept beside a run: which deliveries were offered to the worker queue, at which arrival, and
whether the queue had room for each (`Offer`), and which of them were called.

* `exists_offer_iff` — what is offered is exactly what is due (`IsDue`): for each arrival the listeners
  that were registered for its type just then, if the event was for this node and the pool running.
* `offers_eq_dues` — everything that is due is offered once, in its order; as long as ids have not run out, no
  arrival is offered twice under the same id (`offers_distinct`).
* `Tallies` — what is kept about the numbers: both counters count offers; the calls are the first of
  the offers with room, in order, and what is queued comes right behind them; until the consumer is stopped, that
  is all of these.
* `exists_drained` — the queue can always be drained, whatever is being called and however it ends.
* `run_accounts` — all of it, about every run.
-/

import Mathlib.Data.List.Nodup
import PeerMesh.Proofs.Consumer.Runs

namespace PeerMesh

/-- A delivery that was offered to the worker queue. -/
structure Offer (α : Type) where
  /-- The number of steps before the event arrived. -/
  arrival : Nat
  delivery : Delivery α
  /-- Whether the queue had room for it. -/
  isTaken : Bool

/-- What was offered, and when. -/
def Offer.due {α : Type} (offer : Offer α) : Nat × Delivery α := (offer.arrival, offer.delivery)

/-- What is written down about a run. -/
structure Diary (α β : Type) where
  consumer : Consumer α β
  steps : Nat
  offers : List (Offer α)
  calls : List (Delivery α)

namespace Consumer

variable {α β : Type}

/-- Whether the worker queue takes a delivery. -/
def takes (consumer : Consumer α β) (delivery : Delivery α) : Bool :=
  match consumer.pool with
  | none => false
  | some pool => (pool.submit delivery).isOk

/-- An event is offered to one listener after another. -/
def offersTo (event : Event) (arrival : Nat) :
    Consumer α β → List (ListenerId × α) → List (Offer α)
  | _, [] => []
  | consumer, entry :: entries =>
    ⟨arrival, ⟨entry.1, entry.2, event⟩, consumer.takes ⟨entry.1, entry.2, event⟩⟩ ::
      offersTo event arrival (deliver event consumer entry) entries

/-- What is offered in a step. -/
def offersIn (consumer : Consumer α β) (arrival : Nat) : Step α β → List (Offer α)
  | .arrive event =>
    if consumer.wants event && consumer.pool.isSome then
      offersTo event arrival consumer (consumer.asyncOf event.kind)
    else []
  | _ => []

/-- What is called in a step. -/
def callsIn (consumer : Consumer α β) : Step α β → List (Delivery α)
  | .call => (consumer.takeDelivery?.map (·.1.task)).toList
  | _ => []

end Consumer

namespace Diary

open Consumer

variable {α β : Type}

/-- Write down one more step. -/
def note (diary : Diary α β) (next : Step α β) : Diary α β where
  consumer := diary.consumer.step next
  steps := diary.steps + 1
  offers := diary.offers ++ diary.consumer.offersIn diary.steps next
  calls := diary.calls ++ diary.consumer.callsIn next

/-- The diary of a run. -/
def of (selfId : NodeId) (domain : String) (steps : List (Step α β)) : Diary α β :=
  steps.foldl note ⟨.new selfId domain, 0, [], []⟩

/-- The offers that the queue had room for. -/
def accepted (diary : Diary α β) : List (Offer α) := diary.offers.filter (·.isTaken)

/-- The offers that the queue refused. -/
def refused (diary : Diary α β) : List (Offer α) := diary.offers.filter (!·.isTaken)

variable {selfId : NodeId} {domain : String}

theorem of_concat (steps : List (Step α β)) (last : Step α β) :
    of selfId domain (steps ++ [last]) = (of selfId domain steps).note last := by
  simp [of]

@[simp] theorem steps_of (steps : List (Step α β)) :
    (of selfId domain steps).steps = steps.length := by
  induction steps using List.reverseRecOn with
  | nil => rfl
  | append_singleton steps last ih => simp [of_concat, note, ih]

@[simp] theorem consumer_of (steps : List (Step α β)) :
    (of selfId domain steps).consumer = run selfId domain steps := by
  induction steps using List.reverseRecOn with
  | nil => rfl
  | append_singleton steps last ih => simp [of_concat, note, ih, run_concat]

theorem offers_concat (steps : List (Step α β)) (last : Step α β) :
    (of selfId domain (steps ++ [last])).offers =
      (of selfId domain steps).offers ++ (run selfId domain steps).offersIn steps.length last := by
  simp [of_concat, note]

end Diary

namespace Consumer

variable {α β : Type} {selfId : NodeId} {domain : String} {consumer : Consumer α β}

/-! ### What is offered -/

theorem map_offersTo (event : Event) (arrival : Nat) (consumer : Consumer α β)
    (entries : List (ListenerId × α)) :
    (offersTo event arrival consumer entries).map Offer.due =
      entries.map fun entry => (arrival, ⟨entry.1, entry.2, event⟩) := by
  induction entries generalizing consumer with
  | nil => rfl
  | cons entry entries ih => simp [offersTo, Offer.due, ih]

/-- What is offered in a step is one delivery to each listener of an event that arrives for this node. -/
theorem mem_offersIn_iff {arrival place : Nat} {delivery : Delivery α} {next : Step α β} :
    (place, delivery) ∈ (consumer.offersIn arrival next).map Offer.due ↔
      place = arrival ∧ next = .arrive delivery.event ∧ consumer.wants delivery.event = true ∧
        consumer.pool.isSome = true ∧
          (delivery.id, delivery.listener) ∈ consumer.asyncOf delivery.event.kind := by
  cases next with
  | arrive event =>
    simp only [offersIn]
    by_cases open_ : consumer.wants event && consumer.pool.isSome
    · rw [if_pos open_, map_offersTo]
      rw [Bool.and_eq_true] at open_
      simp only [List.mem_map, Prod.mk.injEq, Step.arrive.injEq]
      constructor
      · rintro ⟨entry, listed, rfl, rfl⟩
        exact ⟨rfl, rfl, open_.1, open_.2, listed⟩
      · rintro ⟨rfl, rfl, -, -, listed⟩
        exact ⟨_, listed, rfl, rfl⟩
    · rw [if_neg open_]
      rw [Bool.and_eq_true] at open_
      simp only [List.map_nil, List.not_mem_nil, Step.arrive.injEq, false_iff]
      rintro ⟨-, rfl, wanted, running, -⟩
      exact open_ ⟨wanted, running⟩
  | _ => simp [offersIn]

/-- **A delivery is due** if its event has arrived after the given number of steps, and came from
another node, in a scope that admitted the domain of the consumer at that moment, while the pool was
running and the listener registered under its id for the type of the event. -/
structure IsDue (selfId : NodeId) (domain : String) (steps : List (Step α β)) (arrival : Nat)
    (delivery : Delivery α) : Prop where
  arrives : steps[arrival]? = some (.arrive delivery.event)
  foreign : delivery.event.origin ≠ selfId
  admitted : delivery.event.scope.admits (run selfId domain (steps.take arrival)).domain = true
  running : (run selfId domain (steps.take arrival)).pool.isSome = true
  registered : (delivery.id, delivery.listener) ∈
    (run selfId domain (steps.take arrival)).asyncOf delivery.event.kind

theorem selfId_of_atRest {later : Consumer α β} (same : later.atRest = consumer.atRest) :
    later.selfId = consumer.selfId := by
  show later.atRest.selfId = consumer.atRest.selfId
  rw [same]

/-- The id of the node stays. -/
theorem selfId_step (consumer : Consumer α β) (next : Step α β) :
    (consumer.step next).selfId = consumer.selfId := by
  cases next with
  | start workers capacity =>
    rcases start_eq consumer workers capacity with same | ⟨-, -, opened⟩
    · rw [same]
    · rw [opened]
  | registerAsync kind listener =>
    rcases registerAsync_eq consumer kind listener with same | new
    · rw [same]
    · rw [new]
  | registerSync kind listener =>
    rcases registerSync_eq consumer kind listener with same | new
    · rw [same]
    · rw [new]
  | unregister id =>
    obtain ⟨asyncs, syncs, index, removed⟩ := unregister_eq consumer id
    rw [removed]
  | changeDomain domain => rfl
  | arrive event => exact selfId_of_atRest (accept_atRest consumer event)
  | call =>
    rcases call_eq consumer with ⟨-, same⟩ | ⟨job, taken⟩
    · rw [same]
    · exact selfId_of_atRest (takeDelivery?_pending taken).2
  | finish ticket => rfl
  | wait ticket? => rfl
  | stop turns => rfl

theorem selfId_run (steps : List (Step α β)) : (run selfId domain steps).selfId = selfId := by
  induction steps using List.reverseRecOn with
  | nil => rfl
  | append_singleton steps last ih => rw [run_concat, selfId_step, ih]

theorem isDue_concat_iff {steps : List (Step α β)} {last : Step α β} {arrival : Nat}
    {delivery : Delivery α} :
    IsDue selfId domain (steps ++ [last]) arrival delivery ↔
      IsDue selfId domain steps arrival delivery ∨
        (arrival, delivery) ∈
          ((run selfId domain steps).offersIn steps.length last).map Offer.due := by
  rw [mem_offersIn_iff]
  simp only [wants, selfId_run, Bool.and_eq_true, decide_eq_true_eq]
  rcases Nat.lt_trichotomy arrival steps.length with earlier | rfl | later
  · have before : (steps ++ [last]).take arrival = steps.take arrival :=
      List.take_append_of_le_length (Nat.le_of_lt earlier)
    have same : (steps ++ [last])[arrival]? = steps[arrival]? := List.getElem?_append_left earlier
    constructor
    · rintro ⟨arrives, foreign, admitted, running, registered⟩
      rw [before] at admitted running registered
      rw [same] at arrives
      exact .inl ⟨arrives, foreign, admitted, running, registered⟩
    · rintro (⟨arrives, foreign, admitted, running, registered⟩ | ⟨rfl, -⟩)
      · rw [← before] at admitted running registered
        rw [← same] at arrives
        exact ⟨arrives, foreign, admitted, running, registered⟩
      · exact absurd earlier (Nat.lt_irrefl _)
  · constructor
    · rintro ⟨arrives, foreign, admitted, running, registered⟩
      rw [List.take_left] at admitted running registered
      rw [List.getElem?_concat_length] at arrives
      exact .inr ⟨rfl, Option.some.inj arrives, ⟨foreign, admitted⟩, running, registered⟩
    · rintro (⟨arrives, -⟩ | ⟨-, rfl, ⟨foreign, admitted⟩, running, registered⟩)
      · simp at arrives
      · refine ⟨List.getElem?_concat_length, foreign, ?_, ?_, ?_⟩ <;> rwa [List.take_left]
  · constructor
    · rintro ⟨arrives, -⟩
      rw [List.getElem?_eq_none (by simp; omega)] at arrives
      cases arrives
    · rintro (⟨arrives, -⟩ | ⟨rfl, -⟩)
      · rw [List.getElem?_eq_none (Nat.le_of_lt later)] at arrives
        cases arrives
      · exact absurd later (Nat.lt_irrefl _)

/-- What is due in a step: one delivery to each listener of an event that arrives for this node. -/
def duesIn (consumer : Consumer α β) (arrival : Nat) : Step α β → List (Nat × Delivery α)
  | .arrive event =>
    if consumer.wants event && consumer.pool.isSome then
      (consumer.asyncOf event.kind).map fun entry => (arrival, ⟨entry.1, entry.2, event⟩)
    else []
  | _ => []

/-- What is due in a run, step by step. -/
def dues (selfId : NodeId) (domain : String) (steps : List (Step α β)) : List (Nat × Delivery α) :=
  (List.range steps.length).flatMap fun arrival =>
    (steps[arrival]?.map ((run selfId domain (steps.take arrival)).duesIn arrival)).getD []

theorem map_offersIn (consumer : Consumer α β) (arrival : Nat) (next : Step α β) :
    (consumer.offersIn arrival next).map Offer.due = consumer.duesIn arrival next := by
  cases next with
  | arrive event =>
    simp only [offersIn, duesIn]
    split_ifs
    · exact map_offersTo event arrival consumer _
    · rfl
  | _ => rfl

theorem dues_concat (steps : List (Step α β)) (last : Step α β) :
    dues selfId domain (steps ++ [last]) =
      dues selfId domain steps ++ (run selfId domain steps).duesIn steps.length last := by
  unfold dues
  rw [List.length_append, List.length_singleton, List.range_succ, List.flatMap_append, List.flatMap_singleton]
  congr 1
  · refine List.flatMap_congr fun arrival listed => ?_
    have earlier := List.mem_range.mp listed
    rw [List.getElem?_append_left earlier, List.take_append_of_le_length (Nat.le_of_lt earlier)]
  · rw [List.getElem?_concat_length, List.take_left]
    rfl

/-- **Everything that is due is offered once, in its order.** -/
theorem offers_eq_dues (steps : List (Step α β)) :
    (Diary.of selfId domain steps).offers.map Offer.due = dues selfId domain steps := by
  induction steps using List.reverseRecOn with
  | nil => rfl
  | append_singleton steps last ih =>
    rw [Diary.offers_concat, List.map_append, ih, map_offersIn, dues_concat]

/-- **What is offered is exactly what is due.** -/
theorem mem_offers_iff (steps : List (Step α β)) {arrival : Nat} {delivery : Delivery α} :
    (arrival, delivery) ∈ (Diary.of selfId domain steps).offers.map Offer.due ↔
      IsDue selfId domain steps arrival delivery := by
  induction steps using List.reverseRecOn with
  | nil => exact ⟨fun listed => absurd listed List.not_mem_nil, fun due => nomatch due.arrives⟩
  | append_singleton steps last ih =>
    rw [Diary.offers_concat, List.map_append, List.mem_append, ih, isDue_concat_iff]

/-- **No arrival is offered twice under the same id**, as long as ids have not run out. -/
theorem offers_distinct (steps : List (Step α β)) (fits : (run selfId domain steps).handedOut < 2 ^ 64) :
    ((Diary.of selfId domain steps).offers.map fun offer =>
      (offer.arrival, offer.delivery.id)).Nodup := by
  induction steps using List.reverseRecOn with
  | nil => exact List.nodup_nil
  | append_singleton steps last ih =>
    rw [run_concat] at fits
    have fitted := Nat.lt_of_le_of_lt (handedOut_le_step _ last) fits
    rw [Diary.offers_concat, List.map_append, List.nodup_append]
    refine ⟨ih fitted, ?_, ?_⟩
    · cases last with
      | arrive event =>
        simp only [offersIn]
        split_ifs
        · have ids : (offersTo event steps.length (run selfId domain steps)
              ((run selfId domain steps).asyncOf event.kind)).map
                (fun offer => (offer.arrival, offer.delivery.id)) =
              (((run selfId domain steps).asyncOf event.kind).map Prod.fst).map
                fun id => (steps.length, id) := by
            have dues := congrArg (List.map fun due => (due.1, due.2.id))
              (map_offersTo event steps.length (run selfId domain steps)
                ((run selfId domain steps).asyncOf event.kind))
            simpa [Offer.due, Function.comp_def] using dues
          rw [ids]
          exact List.Nodup.map (fun one two same => (Prod.mk.inj same).2)
            ((isNumbered_run selfId domain steps fitted).distinct event.kind)
        · exact List.nodup_nil
      | _ => exact List.nodup_nil
    · intro early old late new same
      obtain ⟨offer, listed, rfl⟩ := List.mem_map.mp old
      obtain ⟨other, offered, rfl⟩ := List.mem_map.mp new
      have due := (mem_offers_iff steps).mp (List.mem_map_of_mem (f := Offer.due) listed)
      have now := (mem_offersIn_iff.mp (List.mem_map_of_mem (f := Offer.due) offered)).1
      have before : offer.arrival < steps.length := by
        have arrives := due.arrives
        exact (List.getElem?_eq_some_iff.mp arrives).1
      rw [(Prod.mk.inj same).1] at before
      exact absurd now (Nat.ne_of_lt before)

/-! ### What becomes of what is offered -/

/-- The queue takes a delivery and it is counted as delivered, or refuses it and it is counted as
dropped. -/
theorem deliver_tally (event : Event) (entry : ListenerId × α)
    (running : consumer.pool.isSome = true) :
    (deliver event consumer entry).pool.isSome = true ∧
      ((consumer.takes ⟨entry.1, entry.2, event⟩ = true ∧
          (deliver event consumer entry).delivered = consumer.delivered + 1 ∧
          (deliver event consumer entry).dropped = consumer.dropped ∧
          (deliver event consumer entry).pending.map Job.task =
            consumer.pending.map Job.task ++ [⟨entry.1, entry.2, event⟩]) ∨
        (consumer.takes ⟨entry.1, entry.2, event⟩ = false ∧
          (deliver event consumer entry).delivered = consumer.delivered ∧
          (deliver event consumer entry).dropped = consumer.dropped + 1 ∧
          (deliver event consumer entry).pending = consumer.pending)) := by
  obtain ⟨pool, opened⟩ := Option.isSome_iff_exists.mp running
  simp only [deliver, takes, pending, workforce?, opened]
  cases queued : pool.submit ⟨entry.1, entry.2, event⟩ with
  | ok grown =>
    refine ⟨rfl, .inl ⟨rfl, rfl, rfl, ?_⟩⟩
    simp [(Pool.submit_ok queued).2]
  | error error => exact ⟨rfl, .inr ⟨rfl, rfl, rfl, rfl⟩⟩

/-- Nothing is offered without a pool, and to a node that the event is not for. -/
theorem accept_of_no_offer {event : Event}
    (closed : ¬ (consumer.wants event && consumer.pool.isSome) = true) :
    consumer.accept event = consumer := by
  have each : ∀ entries : List (ListenerId × α), consumer.pool = none →
      entries.foldl (deliver event) consumer = consumer := by
    intro entries none
    induction entries with
    | nil => rfl
    | cons entry entries ih =>
      have same : deliver event consumer entry = consumer := by simp only [deliver, none]
      rw [List.foldl_cons, same, ih]
  unfold accept
  split_ifs with wanted
  · refine each _ (Option.isNone_iff_eq_none.mp ?_)
    simpa [wanted] using closed
  · rfl

theorem foldl_deliver_tally (event : Event) (arrival : Nat) (entries : List (ListenerId × α))
    (running : consumer.pool.isSome = true) :
    (entries.foldl (deliver event) consumer).delivered = consumer.delivered +
        ((offersTo event arrival consumer entries).filter (·.isTaken)).length ∧
      (entries.foldl (deliver event) consumer).dropped = consumer.dropped +
        ((offersTo event arrival consumer entries).filter (!·.isTaken)).length ∧
      (entries.foldl (deliver event) consumer).pending.map Job.task =
        consumer.pending.map Job.task ++
          ((offersTo event arrival consumer entries).filter (·.isTaken)).map Offer.delivery := by
  induction entries generalizing consumer with
  | nil => simp [offersTo]
  | cons entry entries ih =>
    obtain ⟨still, first⟩ := deliver_tally event entry running
    obtain ⟨delivered, dropped, pending⟩ := ih still
    rw [List.foldl_cons, delivered, dropped, pending]
    rcases first with ⟨taken, one, same, queued⟩ | ⟨refused, same, one, unchanged⟩
    · simp [offersTo, taken, one, same, queued]
      omega
    · simp [offersTo, refused, one, same, unchanged]
      omega

end Consumer

namespace Diary

open Consumer

variable {α β : Type} {selfId : NodeId} {domain : String} {diary : Diary α β} {next : Step α β}

/-- **The numbers of a run.** Both counters count offers, and the calls are the first of the offers that
the queue had room for, and what is queued comes right behind them; until the consumer is stopped, that is all of
these. -/
structure Tallies (diary : Diary α β) : Prop where
  delivered : diary.consumer.delivered = diary.accepted.length
  dropped : diary.consumer.dropped = diary.refused.length
  ahead : diary.calls ++ diary.consumer.pending.map Job.task <+: diary.accepted.map Offer.delivery
  waiting : diary.consumer.isStopped = false →
    diary.calls ++ diary.consumer.pending.map Job.task = diary.accepted.map Offer.delivery

theorem Tallies.called (tallies : diary.Tallies) : diary.calls <+: diary.accepted.map Offer.delivery :=
  (List.prefix_append _ _).trans tallies.ahead

/-- A step that neither offers nor calls anything. What it drops of the queue it drops after a stop. -/
theorem Tallies.quiet (tallies : diary.Tallies) (offers : diary.consumer.offersIn diary.steps next = [])
    (calls : diary.consumer.callsIn next = [])
    (counts : (diary.consumer.step next).delivered = diary.consumer.delivered ∧
      (diary.consumer.step next).dropped = diary.consumer.dropped)
    (kept : (diary.consumer.step next).pending <+: diary.consumer.pending)
    (waits : (diary.consumer.step next).isStopped = false → diary.consumer.isStopped = false ∧
      (diary.consumer.step next).pending = diary.consumer.pending) : (diary.note next).Tallies := by
  have sameOffers : (diary.note next).offers = diary.offers := by simp [note, offers]
  have sameCalls : (diary.note next).calls = diary.calls := by simp [note, calls]
  refine ⟨?_, ?_, ?_, fun goesOn => ?_⟩
  · rw [accepted, sameOffers]
    exact counts.1.trans tallies.delivered
  · rw [refused, sameOffers]
    exact counts.2.trans tallies.dropped
  · rw [accepted, sameOffers, sameCalls]
    exact ((List.prefix_append_right_inj _).mpr (kept.map Job.task)).trans tallies.ahead
  · obtain ⟨went, pending⟩ := waits goesOn
    rw [accepted, sameOffers, sameCalls]
    show diary.calls ++ (diary.consumer.step next).pending.map Job.task = _
    rw [pending]
    exact tallies.waiting went

/-- A step that neither offers nor calls anything, and leaves the queue as it is. -/
theorem Tallies.still (tallies : diary.Tallies) (offers : diary.consumer.offersIn diary.steps next = [])
    (calls : diary.consumer.callsIn next = [])
    (counts : (diary.consumer.step next).delivered = diary.consumer.delivered ∧
      (diary.consumer.step next).dropped = diary.consumer.dropped)
    (pending : (diary.consumer.step next).pending = diary.consumer.pending)
    (stopped : (diary.consumer.step next).isStopped = diary.consumer.isStopped) : (diary.note next).Tallies :=
  tallies.quiet offers calls counts (pending ▸ List.prefix_rfl) fun goesOn => ⟨stopped.symm.trans goesOn, pending⟩

/-- An event arrives. -/
theorem Tallies.arrive (tallies : diary.Tallies) (staffed : diary.consumer.IsStaffed) (event : Event) :
    (diary.note (.arrive event)).Tallies := by
  by_cases offered : diary.consumer.wants event && diary.consumer.pool.isSome
  · obtain ⟨delivered, dropped, pending⟩ := foldl_deliver_tally event diary.steps
      (diary.consumer.asyncOf event.kind) (Bool.and_eq_true_iff.mp offered).2
    have accepts : diary.consumer.step (.arrive event) =
        (diary.consumer.asyncOf event.kind).foldl (deliver event) diary.consumer :=
      if_pos (Bool.and_eq_true_iff.mp offered).1
    have offers : diary.consumer.offersIn diary.steps (.arrive event) =
        offersTo event diary.steps diary.consumer (diary.consumer.asyncOf event.kind) :=
      if_pos offered
    have whole : (diary.note (.arrive event)).calls ++ (diary.note (.arrive event)).consumer.pending.map Job.task =
        (diary.note (.arrive event)).accepted.map Offer.delivery := by
      obtain ⟨pool, opened⟩ := Option.isSome_iff_exists.mp (Bool.and_eq_true_iff.mp offered).2
      have before := tallies.waiting (staffed.staffed pool opened).1
      simp only [note, accepted, accepts, offers, callsIn, pending, List.append_nil,
        List.filter_append, List.map_append, ← List.append_assoc]
      rw [before]
      rfl
    refine ⟨?_, ?_, whole ▸ List.prefix_rfl, fun _ => whole⟩
    · simp [note, accepted, accepts, offers, delivered, tallies.delivered]
    · simp [note, refused, accepts, offers, dropped, tallies.dropped]
  · have same : diary.consumer.step (.arrive event) = diary.consumer := accept_of_no_offer offered
    exact tallies.still (if_neg offered) rfl (by simp [same]) (by rw [same]) (by rw [same])

/-- What taking a delivery leaves as it is. -/
theorem takeDelivery?_counts {consumer later : Consumer α β} {job : Job (Delivery α)}
    (taken : consumer.takeDelivery? = some (job, later)) :
    later.delivered = consumer.delivered ∧ later.dropped = consumer.dropped ∧
      later.isStopped = consumer.isStopped := by
  unfold takeDelivery? at taken
  split at taken
  · obtain ⟨rest, -, same⟩ := Option.map_eq_some_iff.mp taken
    rw [← (Prod.mk.inj same).2]
    exact ⟨rfl, rfl, rfl⟩
  · obtain ⟨pool, -, taken⟩ := Option.bind_eq_some_iff.mp taken
    obtain ⟨rest, -, same⟩ := Option.map_eq_some_iff.mp taken
    rw [← (Prod.mk.inj same).2]
    exact ⟨rfl, rfl, rfl⟩

/-- A worker calls the first of the queued deliveries. -/
theorem Tallies.call (tallies : diary.Tallies) : (diary.note .call).Tallies := by
  rcases call_eq diary.consumer with ⟨none, same⟩ | ⟨job, taken⟩
  · exact tallies.still rfl (by simp [callsIn, none]) (by simp [same]) (by rw [same]) (by rw [same])
  obtain ⟨front, unchanged⟩ := takeDelivery?_pending taken
  obtain ⟨delivered, dropped, stopped⟩ := takeDelivery?_counts taken
  have calls : diary.consumer.callsIn .call = [job.task] := by simp [callsIn, taken]
  have offers : (diary.note .call).accepted = diary.accepted := by
    simp [note, accepted, offersIn]
  have refusals : (diary.note .call).refused = diary.refused := by
    simp [note, refused, offersIn]
  have moved : (diary.note .call).calls ++ (diary.note .call).consumer.pending.map Job.task =
      diary.calls ++ diary.consumer.pending.map Job.task := by
    simp [note, calls, front]
  refine ⟨?_, ?_, ?_, fun goesOn => ?_⟩
  · rw [offers]
    exact delivered.trans tallies.delivered
  · rw [refusals]
    exact dropped.trans tallies.dropped
  · rw [offers, moved]
    exact tallies.ahead
  · rw [offers, moved]
    exact tallies.waiting (stopped.symm.trans goesOn)

/-- A pool is opened where there is none, and nothing was queued. -/
theorem pending_start {consumer : Consumer α β} (staffed : consumer.IsStaffed) (running : consumer.isStopped = false)
    (closed : consumer.pool = none) (workers capacity : Nat) :
    pending { consumer with pool := Pool.open? workers capacity } = consumer.pending := by
  unfold pending workforce?
  rw [closed, staffed.whole running]
  unfold Pool.open?
  split_ifs <;> rfl

theorem Tallies.note (tallies : diary.Tallies) (staffed : diary.consumer.IsStaffed)
    (next : Step α β) : (diary.note next).Tallies := by
  cases next with
  | start workers capacity =>
    rcases start_eq diary.consumer workers capacity with same | ⟨running, closed, opened⟩
    · exact tallies.still rfl rfl (by simp [same]) (by rw [same]) (by rw [same])
    · refine tallies.still rfl rfl (by simp [opened]) ?_ (by rw [opened])
      rw [opened]
      exact pending_start staffed running closed workers capacity
  | registerAsync kind listener =>
    rcases registerAsync_eq diary.consumer kind listener with same | new
    · exact tallies.still rfl rfl (by simp [same]) (by rw [same]) (by rw [same])
    · exact tallies.still rfl rfl (by simp [new]) (by rw [new]; rfl) (by rw [new])
  | registerSync kind listener =>
    rcases registerSync_eq diary.consumer kind listener with same | new
    · exact tallies.still rfl rfl (by simp [same]) (by rw [same]) (by rw [same])
    · exact tallies.still rfl rfl (by simp [new]) (by rw [new]; rfl) (by rw [new])
  | unregister id =>
    obtain ⟨asyncs, syncs, index, removed⟩ := unregister_eq diary.consumer id
    exact tallies.still rfl rfl (by simp [removed]) (by rw [removed]; rfl) (by rw [removed])
  | changeDomain domain => exact tallies.still rfl rfl ⟨rfl, rfl⟩ rfl rfl
  | arrive event => exact tallies.arrive staffed event
  | call => exact tallies.call
  | finish ticket =>
    exact tallies.still rfl rfl ⟨rfl, rfl⟩ (finishDelivery_pending diary.consumer ticket).1 rfl
  | wait ticket? =>
    refine tallies.quiet rfl rfl ⟨rfl, rfl⟩ ?_ fun running => ⟨running, ?_⟩
    · show (diary.consumer.waitDelivery ticket?).pending <+: _
      rcases waitDelivery_pending diary.consumer ticket? with same | none
      · exact same ▸ List.prefix_rfl
      · exact none ▸ List.nil_prefix
    · have whole : diary.consumer.remnant = none := staffed.whole running
      simp [Consumer.step, waitDelivery, pending, workforce?, whole]
  | stop turns =>
    refine tallies.quiet rfl rfl ⟨rfl, rfl⟩ ?_ fun running => ?_
    · show (diary.consumer.stop turns).pending <+: _
      rcases stop_pending diary.consumer turns with same | none
      · exact same ▸ List.prefix_rfl
      · exact none ▸ List.nil_prefix
    · cases running

theorem tallies_of (selfId : NodeId) (domain : String) (steps : List (Step α β)) :
    (of selfId domain steps).Tallies := by
  induction steps using List.reverseRecOn with
  | nil => exact ⟨rfl, rfl, List.prefix_rfl, fun _ => rfl⟩
  | append_singleton steps last ih =>
    rw [of_concat]
    refine ih.note ?_ last
    rw [consumer_of]
    exact isStaffed_run selfId domain steps

/-- Work offers nothing. -/
theorem offers_work (steps : List (Step α β)) {work : List (Step α β)}
    (works : ∀ next ∈ work, next.IsWork) :
    (of selfId domain (steps ++ work)).offers = (of selfId domain steps).offers := by
  induction work using List.reverseRecOn with
  | nil => rw [List.append_nil]
  | append_singleton work last ih =>
    have none : (run selfId domain (steps ++ work)).offersIn (steps ++ work).length last = [] := by
      have isWork := works last (List.mem_append_right _ List.mem_cons_self)
      cases last <;> first | rfl | exact isWork.elim
    rw [← List.append_assoc, offers_concat, none, List.append_nil]
    exact ih fun next member => works next (List.mem_append_left _ member)

end Diary

namespace Consumer

/-- **The deliveries of a run are accounted for.** What is offered to the queue is exactly what is due,
each delivery once, and under an id of its own as long as ids have not run out; each offer is counted, as delivered
if the queue had room for it and else as dropped; and the calls are for offers with room only, at most one for each and in their order. Until
the consumer is stopped, the offers with room that were not called yet are queued, and the workers
can always get through the queue: then each of them was called exactly once. -/
theorem run_accounts {α β : Type} (selfId : NodeId) (domain : String) (steps : List (Step α β)) :
    (∀ arrival delivery, (arrival, delivery) ∈
        (Diary.of selfId domain steps).offers.map Offer.due ↔
          IsDue selfId domain steps arrival delivery) ∧
      (Diary.of selfId domain steps).offers.map Offer.due = dues selfId domain steps ∧
      ((run selfId domain steps).handedOut < 2 ^ 64 →
        ((Diary.of selfId domain steps).offers.map fun offer =>
          (offer.arrival, offer.delivery.id)).Nodup) ∧
      (run selfId domain steps).delivered = (Diary.of selfId domain steps).accepted.length ∧
      (run selfId domain steps).dropped = (Diary.of selfId domain steps).refused.length ∧
      (run selfId domain steps).delivered + (run selfId domain steps).dropped =
        (Diary.of selfId domain steps).offers.length ∧
      (Diary.of selfId domain steps).calls <+:
        (Diary.of selfId domain steps).accepted.map Offer.delivery ∧
      ((run selfId domain steps).isStopped = false →
        (Diary.of selfId domain steps).calls ++
            (run selfId domain steps).pending.map Job.task =
          (Diary.of selfId domain steps).accepted.map Offer.delivery ∧
        ∃ work, (∀ next ∈ work, Step.IsWork next) ∧
          (Diary.of selfId domain (steps ++ work)).calls =
            (Diary.of selfId domain steps).accepted.map Offer.delivery) := by
  have tallies := Diary.tallies_of selfId domain steps
  have delivered := tallies.delivered
  have dropped := tallies.dropped
  rw [Diary.consumer_of] at delivered dropped
  refine ⟨fun _ _ => mem_offers_iff steps, offers_eq_dues steps, offers_distinct steps, delivered, dropped, ?_,
    tallies.called, fun running => ⟨?_, ?_⟩⟩
  · rw [delivered, dropped]
    exact (List.length_eq_length_filter_add _).symm
  · have waiting := tallies.waiting
    rw [Diary.consumer_of] at waiting
    exact waiting running
  -- Work neither stops the consumer nor offers anything, so the accounts of the longer run are about
  -- the same offers.
  · obtain ⟨work, works, drained⟩ := (isStaffed_run selfId domain steps).exists_drained running
    refine ⟨work, works, ?_⟩
    have waiting := (Diary.tallies_of selfId domain (steps ++ work)).waiting
    rw [Diary.consumer_of, run, List.foldl_append, ← run, drained, isStopped_foldl_work works,
      Diary.accepted, Diary.offers_work steps works] at waiting
    simpa [Diary.accepted] using waiting running

/-- Two listeners, one worker and room for one delivery: of the four deliveries that two arrivals make
due, two are refused. -/
def crowdedRun : List (Step Unit Unit) :=
  let event : Event := ⟨.all, "evt", [], ⟨"b"⟩, ⟨"m:2"⟩⟩
  [.start 1 1, .registerAsync "evt" (), .registerAsync "evt" (), .arrive event, .call, .arrive event,
    .finish 0, .call]

/-- The two accepted deliveries of the crowded run were called, and two were dropped. -/
theorem run_accounts_of_crowdedRun :
    (run ⟨"a"⟩ "d" crowdedRun).isStopped = false ∧ (run ⟨"a"⟩ "d" crowdedRun).handedOut < 2 ^ 64 ∧
      (run ⟨"a"⟩ "d" crowdedRun).dropped = 2 ∧
      ((Diary.of ⟨"a"⟩ "d" crowdedRun).offers.map fun offer => (offer.arrival, offer.delivery.id)).Nodup ∧
      (Diary.of ⟨"a"⟩ "d" crowdedRun).calls ++
          (run ⟨"a"⟩ "d" crowdedRun).pending.map Job.task =
        (Diary.of ⟨"a"⟩ "d" crowdedRun).accepted.map Offer.delivery := by
  obtain ⟨-, -, distinct, -, dropped, -, -, accounted⟩ := run_accounts ⟨"a"⟩ "d" crowdedRun
  have running : (run ⟨"a"⟩ "d" crowdedRun).isStopped = false := by decide
  have fits : (run ⟨"a"⟩ "d" crowdedRun).handedOut < 2 ^ 64 := by decide
  exact ⟨running, fits, dropped.trans (by decide), distinct fits, (accounted running).1⟩

end Consumer

end PeerMesh
