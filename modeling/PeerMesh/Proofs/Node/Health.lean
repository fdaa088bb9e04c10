/-
**A health record, read off its history.**

What has become of a new record is known from the steps that were taken on it and from what the clock showed at
each of them. The clock may have been set back in between, any number of times.

* `Patience` — a timeout that clocks can count. `Record.Step`, `Record.run` — the steps on a record.
* `IsLargest` — the largest of some numbers, zero if there are none.
* `Record.countAfter` — the touch count after a number of touches; `toNat_nextCount_eq` — after one more of them.
* `Record.Step.Raises` — the steps that raise suspicion; `health_take_iff` — what a step makes of it.
* `Record.Reflects` — the last touch, the touch count, the version and the health are what a history says.
* **`Record.run_reflects`** — so they are after every history of a new record.
-/

import PeerMesh.Proofs.History
import PeerMesh.Proofs.Node.Suspicion
import PeerMesh.Proofs.View.Freshness
import PeerMesh.Proofs.View.Peers

namespace PeerMesh

/-! ### The largest of some numbers -/

/-- A number is the largest of some numbers, or zero if there are none. -/
structure IsLargest (numbers : List UInt64) (largest : UInt64) : Prop where
  above : ∀ number ∈ numbers, number ≤ largest
  among : largest ∈ numbers ∨ numbers = [] ∧ largest = 0

namespace IsLargest

variable {numbers : List UInt64} {largest number : UInt64}

theorem nil : IsLargest [] 0 := ⟨fun _ none => absurd none List.not_mem_nil, .inr ⟨rfl, rfl⟩⟩

/-- Of one more number, the larger one of it and the largest so far is the largest. -/
theorem concat (known : IsLargest numbers largest) (number : UInt64) :
    IsLargest (numbers ++ [number]) (max largest number) := by
  rw [UInt64.max_def]
  split
  · rename_i grows
    refine ⟨fun other member => ?_, .inl (List.mem_append_right _ List.mem_cons_self)⟩
    rcases List.mem_append.mp member with earlier | last
    · exact UInt64.le_trans (known.above other earlier) grows
    · exact List.mem_singleton.mp last ▸ UInt64.le_refl _
  · rename_i falls
    have less : number ≤ largest := UInt64.le_of_lt (UInt64.not_le.mp falls)
    refine ⟨fun other member => ?_, .inl (List.mem_append_left _ ?_)⟩
    · rcases List.mem_append.mp member with earlier | last
      · exact known.above other earlier
      · exact List.mem_singleton.mp last ▸ less
    · refine known.among.resolve_right fun none => falls ?_
      rw [none.2, UInt64.le_iff_toNat_le]
      exact Nat.zero_le _

/-- Of some numbers or one more, the largest does not become smaller. -/
theorem le_append {more : List UInt64} {later : UInt64} (known : IsLargest numbers largest)
    (among : IsLargest (numbers ++ more) later) : largest ≤ later := by
  rcases known.among with member | none
  · exact among.above largest (List.mem_append_left _ member)
  · rw [none.2, UInt64.le_iff_toNat_le]
    exact Nat.zero_le _

end IsLargest

/-! ### Steps on a record -/

/-- A timeout of a whole number of milliseconds, at least one and no more than fit into 64 bits. -/
structure Patience where
  millis : Nat
  pos : 0 < millis
  fits : millis < 2 ^ 64

/-- The timeout as a span of time. -/
def Patience.span (patience : Patience) : Duration := .ofMillis patience.millis

theorem Patience.low_wholeMillis_span (patience : Patience) :
    patience.span.wholeMillis % 2 ^ 64 = patience.millis := by
  unfold span
  rw [Duration.wholeMillis_ofMillis, Nat.mod_eq_of_lt patience.fits]

namespace Record

/-- A step on a record, with what the clock shows at it. -/
inductive Step where
  | touch (now : Reading)
  | suspect
  | reset (now : Reading)
  | checkState (timeout : Patience) (now : Reading)
  | observeVersion (version : UInt64)

namespace Step

/-- What the clock showed when the node was heard of in a step. -/
def heardAt? : Step → Option Reading
  | .touch now | .reset now => some now
  | .suspect | .checkState .. | .observeVersion _ => none

/-- The version that was seen in a step. -/
def seen? : Step → Option UInt64
  | .observeVersion version => some version
  | .touch _ | .suspect | .reset _ | .checkState .. => none

/-- A step raises suspicion against a node that was last heard of at a reading: it is suspected outright, or a check
is made when the timeout has passed since then. -/
def Raises (lastTouch : Reading) : Step → Prop
  | .suspect => True
  | .checkState timeout now => lastTouch.toNat + timeout.millis ≤ now.toNat
  | .touch _ | .reset _ | .observeVersion _ => False

/-- A step clears the node of suspicion. -/
def Clears : Step → Prop
  | .reset _ => True
  | .touch _ | .suspect | .checkState .. | .observeVersion _ => False

end Step

/-- Take one step on a record. -/
def take (record : Record) : Step → Record
  | .touch now => record.touch now
  | .suspect => record.suspect
  | .reset now => record.reset now
  | .checkState timeout now => record.checkState timeout.span now
  | .observeVersion version => record.observeVersion version

/-- Take one step after another. -/
def run (record : Record) (history : List Step) : Record := history.foldl take record

theorem run_concat (record : Record) (history : List Step) (step : Step) :
    record.run (history ++ [step]) = (record.run history).take step :=
  List.foldl_append

/-- The readings at which the node was heard of. -/
def heardAt (history : List Step) : List Reading := history.filterMap Step.heardAt?

/-- The versions that were seen. -/
def seen (history : List Step) : List UInt64 := history.filterMap Step.seen?

/-! ### What a step does -/

variable (record : Record)

theorem lastTouch_checkState (timeout : Duration) (now : Reading) :
    (record.checkState timeout now).lastTouch = record.lastTouch := by
  unfold checkState
  split <;> rfl

theorem touchCount_checkState (timeout : Duration) (now : Reading) :
    (record.checkState timeout now).touchCount = record.touchCount := by
  unfold checkState
  split <;> rfl

theorem lastTouch_observeVersion (version : UInt64) :
    (record.observeVersion version).lastTouch = record.lastTouch := by
  unfold observeVersion
  split <;> rfl

theorem health_observeVersion (version : UInt64) :
    (record.observeVersion version).health = record.health := by
  unfold observeVersion
  split <;> rfl

theorem version_observeVersion (version : UInt64) :
    (record.observeVersion version).version = max record.version version := by
  rw [UInt64.max_def]
  unfold observeVersion isNews
  by_cases news : record.version < version
  · rw [if_pos (decide_eq_true news), if_pos (UInt64.le_of_lt news)]
  · rw [if_neg (by simpa using news)]
    split
    · rename_i atLeast
      exact UInt64.le_antisymm atLeast (UInt64.not_lt.mp news)
    · rfl

/-- A record is about the same node at the same place after a step. -/
theorem node_take (step : Step) :
    (record.take step).id = record.id ∧ (record.take step).address = record.address := by
  cases step with
  | touch now => exact ⟨rfl, rfl⟩
  | suspect => exact ⟨rfl, rfl⟩
  | reset now => exact ⟨rfl, rfl⟩
  | checkState timeout now => exact View.checkState_stays record timeout.span now
  | observeVersion version => exact View.observeVersion_stays record version

/-- A step in which the node was heard of at a later reading moves the last touch there. -/
theorem lastTouch_take (step : Step) : (record.take step).lastTouch =
    match step.heardAt? with
    | some now => max record.lastTouch now
    | none => record.lastTouch := by
  cases step with
  | touch now => rfl
  | suspect => rfl
  | reset now => rfl
  | checkState timeout now => exact record.lastTouch_checkState timeout.span now
  | observeVersion version => exact record.lastTouch_observeVersion version

/-- The touches are counted. -/
theorem touchCount_take (step : Step) : (record.take step).touchCount =
    match step.heardAt? with
    | some _ => nextCount record.touchCount
    | none => record.touchCount := by
  cases step with
  | touch now => rfl
  | suspect => rfl
  | reset now => rfl
  | checkState timeout now => exact record.touchCount_checkState timeout.span now
  | observeVersion version => exact record.touchCount_observeVersion version

/-- A version that is seen replaces a smaller one. -/
theorem version_take (step : Step) : (record.take step).version =
    match step.seen? with
    | some version => max record.version version
    | none => record.version := by
  cases step with
  | touch now => rfl
  | suspect => rfl
  | reset now => rfl
  | checkState timeout now => exact record.version_checkState timeout.span now
  | observeVersion version => exact record.version_observeVersion version

/-- A check is late exactly if it is made when the timeout has passed since the last touch. A timeout of no length
would have passed also if the clock was set back. -/
theorem isDue_span_iff (timeout : Patience) (now : Reading) :
    record.IsDue timeout.span now ↔
      record.health = .suspect ∨ record.lastTouch.toNat + timeout.millis ≤ now.toNat := by
  have long := timeout.pos
  unfold IsDue
  rw [timeout.low_wholeMillis_span]
  refine or_congr Iff.rfl ?_
  omega

/-- **A node is suspected after a step that raises suspicion, and goes on being suspected until it is cleared.** -/
theorem health_take_iff (step : Step) : (record.take step).health = .suspect ↔
    step.Raises record.lastTouch ∨ record.health = .suspect ∧ ¬ step.Clears := by
  cases step with
  | touch now =>
    show record.health = .suspect ↔ False ∨ record.health = .suspect ∧ ¬ False
    simp
  | suspect =>
    show Health.suspect = .suspect ↔ True ∨ _
    simp
  | reset now =>
    show Health.normal = .suspect ↔ False ∨ record.health = .suspect ∧ ¬ True
    simp
  | checkState timeout now =>
    show (record.checkState timeout.span now).health = .suspect ↔
      record.lastTouch.toNat + timeout.millis ≤ now.toNat ∨ record.health = .suspect ∧ ¬ False
    rw [health_checkState_iff, isDue_span_iff, or_comm, and_iff_left not_false]
  | observeVersion version =>
    show (record.observeVersion version).health = .suspect ↔ False ∨ record.health = .suspect ∧ ¬ False
    rw [record.health_observeVersion]
    simp

/-! ### Counting touches -/

/-- The touch count after a number of touches. The largest count is followed by one. -/
def countAfter (touches : Nat) : Nat := if touches = 0 then 0 else 1 + (touches - 1) % (2 ^ 64 - 1)

theorem countAfter_succ (touches : Nat) : countAfter (touches + 1) =
    if countAfter touches = 2 ^ 64 - 1 then 1 else countAfter touches + 1 := by
  unfold countAfter
  cases touches with
  | zero => decide
  | succ before =>
    rw [if_neg (Nat.succ_ne_zero _), if_neg (Nat.succ_ne_zero _), Nat.add_sub_cancel, Nat.add_sub_cancel]
    split <;> omega

theorem toNat_nextCount (count : UInt64) : (nextCount count).toNat =
    if count.toNat = 2 ^ 64 - 1 then 1 else count.toNat + 1 := by
  have largest : count = UInt64.ofNat (UInt64.size - 1) ↔ count.toNat = 2 ^ 64 - 1 :=
    UInt64.toNat_inj.symm
  unfold nextCount
  by_cases full : count.toNat = 2 ^ 64 - 1
  · rw [if_pos (largest.mpr full), if_pos full]
    rfl
  · have bound := count.toNat_lt
    rw [if_neg (mt largest.mp full), if_neg full, UInt64.toNat_add]
    show (count.toNat + 1) % 2 ^ 64 = _
    omega

/-- One more touch is counted. -/
theorem toNat_nextCount_eq {count : UInt64} {touches : Nat} (counted : count.toNat = countAfter touches) :
    (nextCount count).toNat = countAfter (touches + 1) := by
  rw [toNat_nextCount, countAfter_succ, counted]

/-! ### What a history says -/

variable {record}

/-- A record is what has become of another one, a new one, by the steps of a history. -/
structure Reflects (history : List Step) (start record : Record) : Prop where
  /-- It is about the same node at the same place. -/
  node : record.id = start.id ∧ record.address = start.address
  /-- The last touch is the largest reading at any touch or reset. -/
  lastTouch : IsLargest (heardAt history) record.lastTouch
  /-- It has never been larger before. -/
  rises : ∀ earlier later, history = earlier ++ later → (start.run earlier).lastTouch ≤ record.lastTouch
  /-- The touches and resets are counted, from one on again after the largest count. -/
  touchCount : record.touchCount.toNat = countAfter (heardAt history).length
  /-- After the first of them the count is never zero again. -/
  counts : heardAt history ≠ [] → record.touchCount ≠ 0
  /-- The version is the largest one that was seen. -/
  version : IsLargest (seen history) record.version
  /-- The node is suspected exactly if suspicion was raised since the last reset. What a check says depends on the
  last touch at that moment. -/
  suspected_iff : record.health = .suspect ↔ ∃ earlier step later, history = earlier ++ step :: later ∧
    step.Raises (start.run earlier).lastTouch ∧ ∀ next ∈ later, ¬ next.Clears

variable {history : List Step} {start : Record}

theorem heardAt_concat (history : List Step) (step : Step) :
    heardAt (history ++ [step]) = heardAt history ++ step.heardAt?.toList := by
  unfold heardAt
  rw [List.filterMap_append]
  cases heard : step.heardAt? <;> simp [heard]

theorem seen_concat (history : List Step) (step : Step) :
    seen (history ++ [step]) = seen history ++ step.seen?.toList := by
  unfold seen
  rw [List.filterMap_append]
  cases sighted : step.seen? <;> simp [sighted]

theorem lastTouch_run (id : NodeId) (address : Address) (history : List Step) :
    IsLargest (heardAt history) ((fresh id address).run history).lastTouch := by
  induction history using List.reverseRecOn with
  | nil => exact .nil
  | append_singleton history step ih =>
    rw [heardAt_concat, run_concat, lastTouch_take]
    cases step.heardAt? with
    | none => exact (List.append_nil (heardAt history)).symm ▸ ih
    | some now => exact ih.concat now

theorem touchCount_run (id : NodeId) (address : Address) (history : List Step) :
    ((fresh id address).run history).touchCount.toNat = countAfter (heardAt history).length := by
  induction history using List.reverseRecOn with
  | nil => rfl
  | append_singleton history step ih =>
    rw [heardAt_concat, run_concat, touchCount_take, List.length_append]
    cases step.heardAt? with
    | none => exact ih
    | some now => exact toNat_nextCount_eq ih

theorem version_run (id : NodeId) (address : Address) (history : List Step) :
    IsLargest (seen history) ((fresh id address).run history).version := by
  induction history using List.reverseRecOn with
  | nil => exact .nil
  | append_singleton history step ih =>
    rw [seen_concat, run_concat, version_take]
    cases step.seen? with
    | none => exact (List.append_nil (seen history)).symm ▸ ih
    | some version => exact ih.concat version

theorem node_run (record : Record) (history : List Step) :
    (record.run history).id = record.id ∧ (record.run history).address = record.address := by
  induction history using List.reverseRecOn with
  | nil => exact ⟨rfl, rfl⟩
  | append_singleton history step ih =>
    rw [run_concat]
    obtain ⟨sameId, sameAddress⟩ := (record.run history).node_take step
    exact ⟨sameId.trans ih.1, sameAddress.trans ih.2⟩

/-- Nobody is suspected whom no step has raised suspicion against since they were last cleared. -/
theorem health_run_iff (normal : start.health = .normal) (history : List Step) :
    (start.run history).health = .suspect ↔ ∃ earlier step later, history = earlier ++ step :: later ∧
      step.Raises (start.run earlier).lastTouch ∧ ∀ next ∈ later, ¬ next.Clears := by
  have never : ¬ (start.run []).health = .suspect := by
    show ¬ start.health = .suspect
    rw [normal]
    exact Health.noConfusion
  rw [holds_iff_last (fun history => (start.run history).health = .suspect)
    (fun earlier step => step.Raises (start.run earlier).lastTouch) (fun _ next => next.Clears) history never
    fun earlier step _ _ => by rw [run_concat]; exact (start.run earlier).health_take_iff step]
  have uncleared (later : List Step) : (∀ between next rest, later = between ++ next :: rest → ¬ next.Clears) ↔
      ∀ next ∈ later, ¬ next.Clears := by
    constructor
    · intro none next member
      obtain ⟨between, rest, same⟩ := List.append_of_mem member
      exact none between next rest same
    · rintro none between next rest rfl
      exact none next (List.mem_append_right _ List.mem_cons_self)
  simp only [uncleared]

theorem countAfter_pos {touches : Nat} (some : 0 < touches) : 0 < countAfter touches := by
  unfold countAfter
  rw [if_neg (Nat.pos_iff_ne_zero.mp some)]
  exact Nat.lt_of_lt_of_le Nat.one_pos (Nat.le_add_right _ _)

/-- **A record is what its history says**, whatever the steps and the readings of the clock. -/
theorem run_reflects (id : NodeId) (address : Address) (history : List Step) :
    Reflects history (fresh id address) ((fresh id address).run history) where
  node := node_run _ history
  lastTouch := lastTouch_run id address history
  rises := by
    rintro earlier later rfl
    have among := lastTouch_run id address (earlier ++ later)
    unfold heardAt at among
    rw [List.filterMap_append] at among
    exact (lastTouch_run id address earlier).le_append among
  touchCount := touchCount_run id address history
  counts := by
    intro heard zero
    have counted := touchCount_run id address history
    have some := countAfter_pos (List.length_pos_iff.mpr heard)
    rw [zero] at counted
    exact absurd counted (Nat.ne_of_lt some)
  version := version_run id address history
  suspected_iff := health_run_iff rfl history

/-- Setting the clock back does not move the last touch back: the check goes by the reading of 500. -/
example : let timeout : Patience := ⟨300, by decide, by decide⟩
    let record := (fresh ⟨"n1"⟩ ⟨"mem:1"⟩).run [.touch 500, .touch 200, .checkState timeout 799]
    record.lastTouch = 500 ∧ record.touchCount = 2 ∧ record.health = .normal ∧
      (record.take (.checkState timeout 800)).health = .suspect := by
  decide

end Record

end PeerMesh
