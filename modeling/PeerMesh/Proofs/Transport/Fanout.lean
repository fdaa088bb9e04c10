/-
**Sends to many targets do not disturb each other.**

`loneSend` is what a send to one target comes to: its response, and after how many milliseconds it is
there.

* `Fanout.Awaits` — every slot holds the response that belongs there, or an exchange is under way that
  brings it; beginning an exchange (`Awaits.enter`) and letting time pass (`Awaits.advance`) preserve it.
* `Fanout.latest` — the moment at which the last exchange ends, which stays the same as time passes
  (`latest_advance`). `Fanout.finish_enterAll` — what exchanges come to whose ends are known.
* `Response.isSuspect_ofResult_iff`, `loneSend_le_timeout` — who becomes suspect, and how long a send takes at most.
* **`sendMany_eq`** — the responses are those of the lone sends, in the order of the targets, and they are
  complete when the slowest of these would be.
-/

import Mathlib.Order.BoundedOrder.Basic
import Mathlib.Data.List.MinMax
import PeerMesh.Transport.Fanout

namespace PeerMesh

/-- What a send to one target comes to: the response, and after how many milliseconds it is there. -/
def loneSend (timeout : Duration) (target : Address × Behaviour) : Response × Nat :=
  (.ofResult target.1 (target.2.ending timeout).1, (target.2.ending timeout).2)

namespace TransportError

/-- No answer in time, a refused connection, or an address that cannot be reached. -/
theorem isReachability_iff (error : TransportError) : error.isReachability = true ↔
    error = .timeout ∨ (∃ detail, error = .connectionRefused detail) ∨
      ∃ detail, error = .unreachable detail := by
  cases error <;> simp [isReachability]

end TransportError

/-- A target becomes suspect exactly if the send failed for a reason of reachability. -/
theorem Response.isSuspect_ofResult_iff (source : Address)
    (result : Except TransportError (Option Bytes)) :
    (ofResult source result).isSuspect = true ↔
      ∃ error, result = .error error ∧ error.isReachability = true := by
  cases result with
  | ok data => simp [ofResult, ok]
  | error error =>
    unfold ofResult
    cases reached : error.isReachability <;> simp [suspect, failed, reached]

theorem Response.source_ofResult (source : Address) (result : Except TransportError (Option Bytes)) :
    (ofResult source result).source = source := by
  cases result with
  | ok data => rfl
  | error error =>
    unfold ofResult
    dsimp only
    split <;> rfl

/-- No send takes longer than its timeout, in whole milliseconds. -/
theorem loneSend_le_timeout (timeout : Duration) (target : Address × Behaviour) :
    (loneSend timeout target).2 ≤ timeout.ticks := by
  unfold loneSend Behaviour.ending
  dsimp only
  split
  · exact Nat.zero_le _
  · split
    · assumption
    · exact Nat.le_refl _
  · exact Nat.le_refl _

namespace Fanout

variable {fanout : Fanout} {expected : List Response}

/-! ### The responses -/

/-- **Every slot holds the response that is expected there, or an exchange is under way that brings it.** -/
structure Awaits (fanout : Fanout) (expected : List Response) : Prop where
  length : fanout.slots.length = expected.length
  filled : ∀ (slot : Nat) (response : Response), fanout.slots[slot]? = some (some response) →
    expected[slot]? = some response
  vacant : ∀ slot : Nat, fanout.slots[slot]? = some none →
    ∃ exchange ∈ fanout.underWay, exchange.slot = slot
  brings : ∀ exchange ∈ fanout.underWay, expected[exchange.slot]? = some exchange.response

theorem awaits_nothing (time : Nat) : Awaits ⟨[], [], time⟩ [] :=
  ⟨rfl, fun _ _ found => (nomatch found), fun _ found => (nomatch found), fun _ among => nomatch among⟩

/-- How an exchange with an address ends, and after how many milliseconds. -/
abbrev Ending := Address × Except TransportError (Option Bytes) × Nat

/-- The response that an exchange brings. -/
def Ending.response (ending : Ending) : Response := .ofResult ending.1 ending.2.1

/-- The exchange with one more address begins. -/
theorem Awaits.enter (awaits : fanout.Awaits expected) (ending : Ending) :
    (fanout.enter ending.1 ending.2).Awaits (expected ++ [ending.response]) := by
  have length := awaits.length
  refine ⟨by simp [Fanout.enter, length], fun slot response found => ?_, fun slot found => ?_,
    fun exchange among => ?_⟩
  · simp only [Fanout.enter, List.getElem?_append, List.getElem?_singleton] at found ⊢
    split at found
    · rename_i earlier
      rw [if_pos (length ▸ earlier)]
      exact awaits.filled slot response found
    · split at found <;> cases found
  · simp only [Fanout.enter, List.getElem?_append, List.getElem?_singleton] at found ⊢
    split at found
    · obtain ⟨exchange, among, same⟩ := awaits.vacant slot found
      exact ⟨exchange, List.mem_append_left _ among, same⟩
    · rename_i later
      split at found
      · exact ⟨_, List.mem_append_right _ List.mem_cons_self, by dsimp only; omega⟩
      · cases found
  · rcases List.mem_append.mp among with earlier | new
    · exact (List.getElem?_append_left (List.getElem?_eq_some_iff.mp (awaits.brings exchange earlier)).1).trans
        (awaits.brings exchange earlier)
    · obtain rfl := List.mem_singleton.mp new
      dsimp only
      rw [length, List.getElem?_concat_length]
      rfl

/-- Begin all exchanges whose ends are known. -/
def enterAll (endings : List Ending) (time : Nat) : Fanout :=
  endings.foldl (fun fanout ending => fanout.enter ending.1 ending.2) ⟨[], [], time⟩

theorem launchAll_eq (timeout : Duration) (targets : List (Address × Behaviour)) (time : Nat) :
    launchAll timeout targets time =
      enterAll (targets.map fun target => (target.1, target.2.ending timeout)) time := by
  unfold enterAll launchAll
  rw [List.foldl_map]
  rfl

theorem awaits_enterAll (endings : List Ending) (time : Nat) :
    (enterAll endings time).Awaits (endings.map Ending.response) := by
  induction endings using List.reverseRecOn with
  | nil => exact awaits_nothing time
  | append_singleton endings last ih =>
    have entered := ih.enter last
    simpa [enterAll] using entered

/-- What exchanges that end leave in the slots. -/
theorem slots_fill (ended : List Exchange) : ∀ fanout : Fanout,
    (ended.foldl fill fanout).slots.length = fanout.slots.length ∧
      (∀ (slot : Nat) (response : Response), (ended.foldl fill fanout).slots[slot]? = some (some response) →
        fanout.slots[slot]? = some (some response) ∨
          ∃ exchange ∈ ended, exchange.slot = slot ∧ exchange.response = response) ∧
      ∀ slot : Nat, (ended.foldl fill fanout).slots[slot]? = some none →
        fanout.slots[slot]? = some none ∧ ∀ exchange ∈ ended, exchange.slot ≠ slot := by
  induction ended with
  | nil => exact fun fanout => ⟨rfl, fun _ _ => .inl, fun _ found => ⟨found, fun _ none => nomatch none⟩⟩
  | cons first rest ih =>
    intro fanout
    obtain ⟨length, filled, vacant⟩ := ih (fanout.fill first)
    refine ⟨length.trans List.length_set, fun slot response found => ?_, fun slot found => ?_⟩
    · rcases filled slot response found with before | ⟨exchange, among, at_, same⟩
      · simp only [fill, List.getElem?_set] at before
        split at before
        · split at before
          · refine .inr ⟨first, List.mem_cons_self, ‹_›, ?_⟩
            exact Option.some.inj (Option.some.inj before)
          · cases before
        · exact .inl before
      · exact .inr ⟨exchange, List.mem_cons_of_mem _ among, at_, same⟩
    · obtain ⟨before, others⟩ := vacant slot found
      simp only [fill, List.getElem?_set] at before
      split at before
      · split at before <;> cases before
      · rename_i other
        refine ⟨before, fun exchange among => ?_⟩
        rcases List.mem_cons.mp among with rfl | later
        · exact other
        · exact others exchange later

theorem underWay_fill (ended : List Exchange) (fanout : Fanout) :
    (ended.foldl fill fanout).underWay = fanout.underWay ∧
      (ended.foldl fill fanout).time = fanout.time :=
  List.foldlRecOn (motive := fun later : Fanout =>
    later.underWay = fanout.underWay ∧ later.time = fanout.time) ended _ ⟨rfl, rfl⟩ fun _ same _ _ => same

theorem underWay_advance (fanout : Fanout) (moment : Nat) :
    (fanout.advance moment).underWay = fanout.underWay.filter (moment < ·.due) :=
  (underWay_fill _ _).1

theorem time_advance (fanout : Fanout) (moment : Nat) :
    (fanout.advance moment).time = max fanout.time moment := (underWay_fill _ _).2

/-- Time passes, and the exchanges that are due bring their responses. -/
theorem Awaits.advance (awaits : fanout.Awaits expected) (moment : Nat) :
    (fanout.advance moment).Awaits expected := by
  obtain ⟨length, filled, vacant⟩ := slots_fill (fanout.underWay.filter (·.due ≤ moment))
    { fanout with
      time := max fanout.time moment
      underWay := fanout.underWay.filter (moment < ·.due) }
  refine ⟨length.trans awaits.length, fun slot response found => ?_, fun slot found => ?_,
    fun exchange among => ?_⟩
  · rcases filled slot response found with before | ⟨exchange, among, rfl, rfl⟩
    · exact awaits.filled slot response before
    · exact awaits.brings exchange (List.mem_of_mem_filter among)
  · obtain ⟨before, none_due⟩ := vacant slot found
    obtain ⟨exchange, among, rfl⟩ := awaits.vacant slot before
    refine ⟨exchange, ?_, rfl⟩
    rw [underWay_advance]
    refine List.mem_filter.mpr ⟨among, decide_eq_true (Nat.lt_of_not_le fun due => ?_)⟩
    exact none_due exchange (List.mem_filter.mpr ⟨among, decide_eq_true due⟩) rfl
  · rw [underWay_advance] at among
    exact awaits.brings exchange (List.mem_of_mem_filter among)

/-- When no exchange is under way any more, all responses are there. -/
theorem Awaits.responses_of_over (awaits : fanout.Awaits expected) (ended : fanout.underWay = []) :
    fanout.responses = expected := by
  have full : fanout.slots = expected.map some := by
    refine List.ext_getElem? fun slot => ?_
    rw [List.getElem?_map]
    cases found : fanout.slots[slot]? with
    | none =>
      rw [List.getElem?_eq_none_iff, awaits.length, ← List.getElem?_eq_none_iff] at found
      rw [found]
      rfl
    | some content =>
      cases content with
      | none =>
        obtain ⟨exchange, among, -⟩ := awaits.vacant slot found
        rw [ended] at among
        cases among
      | some response =>
        rw [awaits.filled slot response found]
        rfl
  rw [responses, full, List.filterMap_map]
  exact List.filterMap_some

/-! ### The moment at which the whole is over -/

/-- The moment at which the last exchange ends. -/
def latest (fanout : Fanout) : Nat := max fanout.time ((fanout.underWay.map Exchange.due).foldr max 0)

theorem latest_le_iff (fanout : Fanout) (moment : Nat) :
    fanout.latest ≤ moment ↔ fanout.time ≤ moment ∧ ∀ exchange ∈ fanout.underWay, exchange.due ≤ moment := by
  have each (dues : List Nat) : dues.foldr max 0 ≤ moment ↔ ∀ due ∈ dues, due ≤ moment := by
    induction dues with
    | nil => simp
    | cons due rest ih => simp [ih]
  rw [latest, Nat.max_le, each]
  simp

/-- Letting time pass to an exchange that is under way does not change when the last one ends. -/
theorem latest_advance {exchange : Exchange} (among : exchange ∈ fanout.underWay) :
    (fanout.advance exchange.due).latest = fanout.latest := by
  refine eq_of_forall_ge_iff fun moment => ?_
  rw [latest_le_iff, latest_le_iff, time_advance, underWay_advance, Nat.max_le]
  refine ⟨fun ⟨⟨now, due⟩, later⟩ => ⟨now, fun other under => ?_⟩, fun ⟨now, all⟩ =>
    ⟨⟨now, all exchange among⟩, fun other under => all other (List.mem_of_mem_filter under)⟩⟩
  by_cases isLater : exchange.due < other.due
  · exact later other (List.mem_filter.mpr ⟨under, decide_eq_true isLater⟩)
  · exact Nat.le_trans (Nat.le_of_not_lt isLater) due

/-- With a moment for each exchange, all of them end. -/
theorem finishWithin_over (fuel : Nat) : ∀ fanout : Fanout, fanout.underWay.length ≤ fuel →
    fanout.Awaits expected →
      (finishWithin fuel fanout).responses = expected ∧ (finishWithin fuel fanout).time = fanout.latest := by
  induction fuel with
  | zero =>
    intro fanout few awaits
    have ended : fanout.underWay = [] := List.eq_nil_of_length_eq_zero (Nat.le_zero.mp few)
    exact ⟨awaits.responses_of_over ended, by simp [finishWithin, latest, ended]⟩
  | succ fuel ih =>
    intro fanout few awaits
    unfold finishWithin nextDue?
    cases next : (fanout.underWay.map Exchange.due).min? with
    | none =>
      have ended : fanout.underWay = [] := List.map_eq_nil_iff.mp (List.min?_eq_none_iff.mp next)
      exact ⟨awaits.responses_of_over ended, by simp [latest, ended]⟩
    | some moment =>
      obtain ⟨exchange, among, rfl⟩ := List.mem_map.mp (List.min?_mem next)
      have fewer : (fanout.advance exchange.due).underWay.length < fanout.underWay.length := by
        rw [underWay_advance]
        exact List.length_filter_lt_length_iff_exists.mpr ⟨exchange, among, by simp⟩
      obtain ⟨responses, time⟩ := ih _ (by omega) (awaits.advance exchange.due)
      exact ⟨responses, time.trans (latest_advance among)⟩

/-- The exchanges are under way one for each target, and end at their moments. -/
theorem underWay_enterAll (endings : List Ending) (time : Nat) :
    (enterAll endings time).time = time ∧
      (enterAll endings time).underWay.map Exchange.due = endings.map fun ending => time + ending.2.2 := by
  induction endings using List.reverseRecOn with
  | nil => exact ⟨rfl, rfl⟩
  | append_singleton endings last ih =>
    obtain ⟨now, dues⟩ := ih
    have entered : enterAll (endings ++ [last]) time = (enterAll endings time).enter last.1 last.2 := by
      simp [enterAll]
    rw [entered]
    refine ⟨now, ?_⟩
    simp only [enter, List.map_append, List.map_singleton, dues, now]

end Fanout

/-- The last of some moments, counted from a moment on. -/
theorem max_foldr_add (time : Nat) (delays : List Nat) :
    max time ((delays.map (time + ·)).foldr max 0) = time + delays.foldr max 0 := by
  induction delays with
  | nil => simp
  | cons delay rest ih =>
    simp only [List.map_cons, List.foldr_cons]
    omega

/-- The greatest of some delays is within a bound of them all. -/
theorem foldr_max_le {delays : List Nat} {limit : Nat} (each : ∀ delay ∈ delays, delay ≤ limit) :
    delays.foldr max 0 ≤ limit := by
  induction delays with
  | nil => exact Nat.zero_le limit
  | cons delay rest ih =>
    have others : rest.foldr max 0 ≤ limit := ih fun other among => each other (List.mem_cons_of_mem _ among)
    exact Nat.max_le.mpr ⟨each delay List.mem_cons_self, others⟩

/-- **Exchanges whose ends are known bring their responses** in the order of the targets, and are over with the
last one. -/
theorem Fanout.finish_enterAll (endings : List Ending) (time : Nat) :
    let finished := finishWithin endings.length (enterAll endings time)
    finished.responses = endings.map Ending.response ∧
      finished.time = time + (endings.map fun ending => ending.2.2).foldr max 0 := by
  intro finished
  obtain ⟨now, dues⟩ := underWay_enterAll endings time
  have few : (enterAll endings time).underWay.length ≤ endings.length := by
    rw [← List.length_map (f := Exchange.due), dues, List.length_map]
  obtain ⟨responses, ended⟩ := finishWithin_over endings.length _ few (awaits_enterAll endings time)
  refine ⟨responses, ended.trans ?_⟩
  rw [latest, now, dues, ← max_foldr_add, List.map_map]
  rfl

/-- **Sends to many targets are as good as lone sends.** There is one response for each target, in their
order, each the one that a send to this target alone would have brought, and they are complete at the
moment at which the slowest of these sends would be. -/
theorem sendMany_eq (timeout : Duration) (targets : List (Address × Behaviour)) (time : Nat) :
    sendMany timeout targets time =
      (targets.map fun target => (loneSend timeout target).1,
        time + (targets.map fun target => (loneSend timeout target).2).foldr max 0) := by
  obtain ⟨responses, ended⟩ :=
    Fanout.finish_enterAll (targets.map fun target => (target.1, target.2.ending timeout)) time
  rw [List.length_map, ← Fanout.launchAll_eq, List.map_map] at responses ended
  exact Prod.ext responses ended

end PeerMesh
