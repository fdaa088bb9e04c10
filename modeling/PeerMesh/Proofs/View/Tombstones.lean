/-
**The life of a tombstone.**

A tombstone is raised when a live peer is declared dead. From then on it stays as it is until something
lifts it (`View.Lifts`): the peer is heard of directly, or through another one with a version newer than
the one it died with, or the view is cleared, or its grace period is over when old tombstones are removed.

* `dead_perform_iff` — what one step does to the tombstone of an id.
* `dead_performAll_iff` — which tombstone an id has after any steps from a new view (`Buried`).
* `isDead_performAll_iff` — whether it has one, and that neither a discovery of the peer nor a further
  declaration of death touches it.
-/

import PeerMesh.Proofs.View.History

namespace PeerMesh

namespace View

variable {selfId id : NodeId} {view : View} {tombstone : Tombstone} {now : Reading}
  {step : ViewStep} {steps : List (Reading × ViewStep)}

/-- A step is not refused. -/
def Accepts (view : View) (now : Reading) (step : ViewStep) : Prop :=
  ∀ error, (view.perform now step).1 ≠ .refused error

/-- A step lifts the tombstone of an id, whose grace period is counted in whole milliseconds. -/
def Lifts (view : View) (id : NodeId) (tombstone : Tombstone) (now : Reading) (step : ViewStep) :
    Prop :=
  match step with
  | .heartbeat _ other => other = id ∧ view.Accepts now step
  | .observe _ other version =>
    other = id ∧ view.Accepts now step ∧ tombstone.member.record.version < version
  | .clear => True
  | .cleanup grace => tombstone.downAt.toNat + grace.wholeMillis ≤ now.toNat
  | _ => False

/-- A step declares a live peer dead, which raises a tombstone. -/
def Raises (view : View) (id : NodeId) (tombstone : Tombstone) (now : Reading) (step : ViewStep) :
    Prop :=
  step = .removeDead id ∧ view.live.get? id = some tombstone.member ∧ tombstone.downAt = now

/-! ### One step -/

/-- An operation that may be refused answers that it was, exactly if there is a reason. -/
theorem answer_unlessRefused (view : View) (id : NodeId) (operation : Outcome Bool) :
    (∀ error, ViewAnswer.ofExcept (view.unlessRefused id operation).answer ≠ .refused error) ↔
      view.refusal? id = none := by
  unfold unlessRefused
  cases view.refusal? id with
  | none => simp [ViewAnswer.ofExcept]
  | some error => simp [ViewAnswer.ofExcept]

theorem accepts_heartbeat (view : View) (now : Reading) (address : Address) (other : NodeId) :
    view.Accepts now (.heartbeat address other) ↔ view.refusal? other = none :=
  view.answer_unlessRefused other _

theorem accepts_observe (view : View) (now : Reading) (address : Address) (other : NodeId)
    (version : UInt64) :
    view.Accepts now (.observe address other version) ↔ view.refusal? other = none :=
  view.answer_unlessRefused other _

/-- What holds of the tombstones if nothing is done and if the operation is done, holds of them after an
operation that may be refused. -/
theorem dead_unlessRefused (P : Table NodeId Tombstone → Prop) {operation : Outcome Bool}
    (refused : view.refusal? id ≠ none → P view.dead)
    (accepted : view.refusal? id = none → P operation.view.dead) :
    P (view.unlessRefused id operation).view.dead := by
  unfold unlessRefused
  cases reason : view.refusal? id with
  | none => exact accepted reason
  | some error => exact refused (by rw [reason]; exact Option.some_ne_none error)

theorem dead_addHost (view : View) (now : Reading) (address : Address) (other : NodeId) :
    (view.addHost now address other).view.dead = view.dead := by
  refine dead_unlessRefused (· = view.dead) (fun _ => rfl) fun _ => ?_
  split <;> rfl

/-- A peer that is heard of directly has no tombstone any more. -/
theorem dead_heartbeat (view : View) (now : Reading) (address : Address) (other : NodeId) :
    (view.heartbeat now address other).view.dead.get? id = some tombstone ↔
      view.dead.get? id = some tombstone ∧
        ¬ view.Lifts id tombstone now (.heartbeat address other) := by
  have lifts : view.Lifts id tombstone now (.heartbeat address other) ↔
      other = id ∧ view.refusal? other = none :=
    and_congr_right fun _ => view.accepts_heartbeat now address other
  rw [lifts]
  refine dead_unlessRefused (fun dead => dead.get? id = some tombstone ↔ _) (fun refused => ?_)
    fun accepted => ?_
  · simp [refused]
  · have risen : ((view.dead.erase other).get? id = some tombstone) ↔
        view.dead.get? id = some tombstone ∧ ¬ (other = id ∧ view.refusal? other = none) := by
      rw [Table.get?_erase]
      by_cases same : id = other
      · simp [same, accepted]
      · simp [same, Ne.symm same]
    dsimp only
    split
    · split <;> exact risen
    · exact risen

/-- A peer of which something new is heard through another one has no tombstone any more. -/
theorem dead_observe (view : View) (now : Reading) (address : Address) (other : NodeId)
    (version : UInt64) :
    (view.observe now address other version).view.dead.get? id = some tombstone ↔
      view.dead.get? id = some tombstone ∧
        ¬ view.Lifts id tombstone now (.observe address other version) := by
  have lifts : view.Lifts id tombstone now (.observe address other version) ↔
      other = id ∧ view.refusal? other = none ∧ tombstone.member.record.version < version :=
    and_congr_right fun _ => and_congr_left fun _ => view.accepts_observe now address other version
  rw [lifts]
  refine dead_unlessRefused (fun dead => dead.get? id = some tombstone ↔ _) (fun refused => ?_)
    fun accepted => ?_
  · simp [refused]
  · split
    · rename_i known found
      split
      · rename_i stale
        show view.dead.get? id = some tombstone ↔ _
        constructor
        · intro buried
          refine ⟨buried, ?_⟩
          rintro ⟨rfl, _, newer⟩
          obtain rfl := Option.some.inj (found.symm.trans buried)
          exact absurd newer (UInt64.not_lt.mpr stale)
        · exact fun kept => kept.1
      · rename_i newer
        show (view.dead.erase other).get? id = some tombstone ↔ _
        rw [Table.get?_erase]
        by_cases same : id = other
        · subst same
          rw [if_pos rfl]
          constructor
          · intro gone
            cases gone
          · rintro ⟨buried, kept⟩
            obtain rfl := Option.some.inj (found.symm.trans buried)
            exact absurd ⟨rfl, accepted, UInt64.not_le.mp newer⟩ kept
        · simp [same, Ne.symm same]
    · rename_i absent
      have unchanged : view.dead.get? id = some tombstone ↔ view.dead.get? id = some tombstone ∧
          ¬ (other = id ∧ view.refusal? other = none ∧ tombstone.member.record.version < version) := by
        refine ⟨fun buried => ⟨buried, ?_⟩, fun kept => kept.1⟩
        rintro ⟨rfl, _⟩
        rw [absent] at buried
        cases buried
      split
      · dsimp only
        split <;> exact unchanged
      · exact unchanged

/-- A live peer that is declared dead is given a tombstone of that moment. -/
theorem dead_removeDead (sound : view.Sound selfId) (now : Reading) (other : NodeId) :
    (view.removeDead now other).view.dead.get? id = some tombstone ↔
      view.dead.get? id = some tombstone ∨ view.Raises id tombstone now (.removeDead other) := by
  unfold removeDead
  cases found : view.live.get? other with
  | none =>
    show view.dead.get? id = some tombstone ↔ _
    refine ⟨.inl, fun raised => raised.resolve_right ?_⟩
    rintro ⟨same, live, _⟩
    obtain rfl := ViewStep.removeDead.inj same
    rw [found] at live
    cases live
  | some member =>
    show (view.dead.insert other ⟨member, now⟩).get? id = some tombstone ↔ _
    rw [Table.get?_insert]
    by_cases same : id = other
    · subst same
      have notDead := sound.apart id member found
      rw [if_pos rfl, notDead]
      constructor
      · intro raised
        obtain rfl := Option.some.inj raised
        exact .inr ⟨rfl, found, rfl⟩
      · rintro (buried | ⟨_, live, rfl⟩)
        · cases buried
        · obtain rfl := Option.some.inj (found.symm.trans live)
          rfl
    · have elsewhere : ¬ view.Raises id tombstone now (.removeDead other) :=
        fun raised => same (ViewStep.removeDead.inj raised.1).symm
      simp [same, elsewhere]

/-- Which tombstones stay when old ones go, as the clock counts. -/
theorem dead_cleanup_iff (view : View) (now : Reading) (grace : Duration) :
    (view.cleanup now grace).view.dead.get? id = some tombstone ↔
      view.dead.get? id = some tombstone ∧ now < tombstone.downAt.plus grace.millisWord := by
  have kept := view.dead.get?_filter_iff (fun _ tombstone =>
    decide (now < tombstone.downAt.plus grace.millisWord)) id tombstone
  rw [decide_eq_true_iff] at kept
  unfold cleanup
  dsimp only
  split <;> exact kept

/-- Old tombstones go when their grace period is over, to the millisecond. -/
theorem dead_cleanup (view : View) (now : Reading) (grace : Duration)
    (fits : view.dead.get? id = some tombstone →
      tombstone.downAt.toNat + grace.wholeMillis < 2 ^ 64) :
    (view.cleanup now grace).view.dead.get? id = some tombstone ↔
      view.dead.get? id = some tombstone ∧ ¬ view.Lifts id tombstone now (.cleanup grace) := by
  rw [dead_cleanup_iff]
  refine and_congr_right fun found => ?_
  specialize fits found
  have size : UInt64.size = 2 ^ 64 := rfl
  have word : grace.millisWord.toNat = grace.wholeMillis := UInt64.toNat_ofNat_of_lt' (by omega)
  have lifts : view.Lifts id tombstone now (.cleanup grace) ↔
      tombstone.downAt.toNat + grace.wholeMillis ≤ now.toNat := Iff.rfl
  rw [UInt64.lt_iff_toNat_lt, Reading.toNat_plus, word, lifts]
  omega

/-- **What one step does to the tombstone of an id**: it lifts it, raises it, or leaves it as it is. -/
theorem dead_perform_iff (sound : view.Sound selfId) (now : Reading) (step : ViewStep)
    (fits : ∀ grace, step = .cleanup grace → view.dead.get? id = some tombstone →
      tombstone.downAt.toNat + grace.wholeMillis < 2 ^ 64) :
    (view.perform now step).2.dead.get? id = some tombstone ↔
      (view.dead.get? id = some tombstone ∧ ¬ view.Lifts id tombstone now step) ∨
        view.Raises id tombstone now step := by
  have unraised (other : ∀ peer, step ≠ .removeDead peer) : ¬ view.Raises id tombstone now step :=
    fun raised => other id raised.1
  have untouched (harmless : ¬ view.Lifts id tombstone now step)
      (other : ∀ peer, step ≠ .removeDead peer)
      (same : (view.perform now step).2.dead = view.dead) :
      (view.perform now step).2.dead.get? id = some tombstone ↔
        (view.dead.get? id = some tombstone ∧ ¬ view.Lifts id tombstone now step) ∨
          view.Raises id tombstone now step := by
    rw [same, or_iff_left (unraised other), and_iff_left harmless]
  cases step with
  | addHost address other => exact untouched not_false (by simp) (view.dead_addHost now address other)
  | heartbeat address other =>
    rw [or_iff_left (unraised (by simp))]
    exact view.dead_heartbeat now address other
  | observe address other version =>
    rw [or_iff_left (unraised (by simp))]
    exact view.dead_observe now address other version
  | removeDead other =>
    have harmless : ¬ view.Lifts id tombstone now (.removeDead other) := not_false
    rw [and_iff_left harmless]
    exact dead_removeDead sound now other
  | removeLeaving other =>
    refine untouched not_false (by simp) ?_
    show (view.removeLeaving other).view.dead = view.dead
    unfold removeLeaving
    split <;> rfl
  | clear =>
    rw [or_iff_left (unraised (by simp))]
    show none = some tombstone ↔ _ ∧ ¬ True
    simp
  | cleanup grace =>
    rw [or_iff_left (unraised (by simp))]
    exact view.dead_cleanup now grace (fits grace rfl)
  | shutdown | suspect _ | touch _ | checkState _ _ | observeVersion _ _ | get _ | addressOf _
  | isLive _ | isDead _ | normal | staleness | advance _ | set _ =>
    exact untouched not_false (by simp) rfl

/-! ### All steps from a new view -/

/-- No sum of a clock reading and a grace period of the steps exceeds the largest reading. -/
def SumsFit (steps : List (Reading × ViewStep)) : Prop :=
  ∀ now step, (now, step) ∈ steps → ∀ later grace, (later, .cleanup grace) ∈ steps →
    now.toNat + grace.wholeMillis < 2 ^ 64

/-- Some step has declared a live peer dead, which raised this tombstone, and no later step has lifted
it. -/
def Buried (selfId : NodeId) (steps : List (Reading × ViewStep)) (id : NodeId)
    (tombstone : Tombstone) : Prop :=
  ∃ before now after, steps = before ++ (now, .removeDead id) :: after ∧
    ((new selfId).performAll before).Raises id tombstone now (.removeDead id) ∧
    ∀ middle later step rest, after = middle ++ (later, step) :: rest →
      ¬ ((new selfId).performAll (before ++ (now, .removeDead id) :: middle)).Lifts id tombstone
        later step

theorem not_buried_nil : ¬ Buried selfId [] id tombstone := by
  rintro ⟨before, now, after, parts, _⟩
  simp at parts

/-- A tombstone stays buried through one more step unless the step lifts it, or is the one that raises
it. -/
theorem buried_concat :
    Buried selfId (steps ++ [(now, step)]) id tombstone ↔
      (Buried selfId steps id tombstone ∧
        ¬ ((new selfId).performAll steps).Lifts id tombstone now step) ∨
      ((new selfId).performAll steps).Raises id tombstone now step := by
  constructor
  · rintro ⟨before, moment, after, parts, raised, kept⟩
    -- Either the raising step is the last one, or the last one comes after it.
    rcases List.eq_nil_or_concat after with rfl | ⟨middle, last, rfl⟩
    · obtain ⟨rfl, last⟩ := List.append_inj' parts rfl
      obtain ⟨rfl, rfl⟩ := Prod.mk.inj (List.singleton_inj.mp last)
      exact .inr raised
    · rw [List.concat_eq_append] at parts kept
      rw [← List.cons_append, ← List.append_assoc] at parts
      obtain ⟨rfl, same⟩ := List.append_inj' parts rfl
      obtain rfl := List.singleton_inj.mp same
      refine .inl ⟨⟨before, moment, middle, rfl, raised, ?_⟩, kept middle now step [] rfl⟩
      intro first later other rest split
      exact kept first later other (rest ++ [(now, step)]) (by simp [split])
  · rintro (⟨⟨before, moment, after, rfl, raised, kept⟩, unlifted⟩ | raised)
    · refine ⟨before, moment, after ++ [(now, step)], by simp, raised, ?_⟩
      intro middle later other rest split
      rcases List.eq_nil_or_concat rest with rfl | ⟨first, last, rfl⟩
      · obtain ⟨rfl, last⟩ := List.append_inj' split rfl
        obtain ⟨rfl, rfl⟩ := Prod.mk.inj (List.singleton_inj.mp last)
        exact unlifted
      · rw [List.concat_eq_append, ← List.cons_append, ← List.append_assoc] at split
        exact kept middle later other first (List.append_inj' split rfl).1
    · obtain rfl := raised.1
      refine ⟨steps, now, [], rfl, raised, ?_⟩
      intro middle later step rest parts
      simp at parts

theorem SumsFit.of_concat (fits : SumsFit (steps ++ [(now, step)])) : SumsFit steps :=
  fun moment other member later grace cleaned =>
    fits moment other (List.mem_append_left _ member) later grace (List.mem_append_left _ cleaned)

/-- **The tombstone of an id is the one that is buried**: it was raised when the peer was declared dead,
and not lifted since. -/
theorem dead_performAll_iff (fits : SumsFit steps) :
    ((new selfId).performAll steps).dead.get? id = some tombstone ↔
      Buried selfId steps id tombstone := by
  induction steps using List.reverseRecOn with
  | nil => exact iff_of_false (by simp [performAll, new]) not_buried_nil
  | append_singleton steps entry ih =>
    obtain ⟨now, step⟩ := entry
    specialize ih fits.of_concat
    rw [performAll_concat, buried_concat, ← ih]
    refine dead_perform_iff (sound_performAll selfId steps) now step fun grace cleaning found => ?_
    -- A tombstone is dated by the reading of the step that raised it.
    obtain ⟨before, moment, after, rfl, raised, _⟩ := ih.mp found
    rw [raised.2.2]
    exact fits moment (.removeDead id) (by simp) now grace (by simp [cleaning])

/-- **An id is tombstoned exactly if it was declared dead while live, and its tombstone was not lifted
since.** A discovery of the peer changes no tombstone, and a further declaration of its death does not
date it anew. -/
theorem isDead_performAll_iff (selfId id : NodeId) (steps : List (Reading × ViewStep))
    (fits : SumsFit steps) :
    (((new selfId).performAll steps).isDead id = true ↔
      ∃ tombstone, Buried selfId steps id tombstone) ∧
    (∀ now address other,
      (((new selfId).performAll steps).perform now (.addHost address other)).2.dead.get? id =
        ((new selfId).performAll steps).dead.get? id) ∧
    (((new selfId).performAll steps).isDead id = true → ∀ now other,
      (((new selfId).performAll steps).perform now (.removeDead other)).2.dead.get? id =
        ((new selfId).performAll steps).dead.get? id) := by
  refine ⟨?_, fun now address other => ?_, fun buried now other => ?_⟩
  · rw [isDead, Table.contains, Option.isSome_iff_exists]
    exact exists_congr fun tombstone => dead_performAll_iff fits
  · exact congrArg (·.get? id) (((new selfId).performAll steps).dead_addHost now address other)
  · obtain ⟨tombstone, found⟩ := Option.isSome_iff_exists.mp buried
    rw [found]
    exact (dead_removeDead (sound_performAll selfId steps) now other).mpr (.inl found)

/-- A peer declared dead at 7 is still tombstoned at 9 and no longer at 10 if its grace period is 3. -/
theorem isDead_until_grace_is_over :
    let death : List (Reading × ViewStep) := [(5, .heartbeat ⟨"mem:2"⟩ ⟨"b"⟩), (7, .removeDead ⟨"b"⟩)]
    let early := death ++ [(9, .cleanup (.ofMillis 3))]
    let late := early ++ [(10, .cleanup (.ofMillis 3))]
    (SumsFit early ∧ ∃ tombstone, Buried ⟨"a"⟩ early ⟨"b"⟩ tombstone) ∧
      (SumsFit late ∧ ¬ ∃ tombstone, Buried ⟨"a"⟩ late ⟨"b"⟩ tombstone) := by
  intro death early late
  have lateFits : SumsFit late := by
    intro now step member later grace cleaned
    have few : now.toNat ≤ 10 := by
      simp only [late, early, death, List.cons_append, List.nil_append, List.mem_cons,
        Prod.mk.injEq, List.not_mem_nil, or_false] at member
      rcases member with ⟨rfl, _⟩ | ⟨rfl, _⟩ | ⟨rfl, _⟩ | ⟨rfl, _⟩ <;> decide
    have short : grace = .ofMillis 3 := by
      have either : later = 9 ∧ grace = .ofMillis 3 ∨ later = 10 ∧ grace = .ofMillis 3 := by
        simpa [late, early, death] using cleaned
      exact either.elim And.right And.right
    have whole : grace.wholeMillis = 3 := by rw [short]; rfl
    omega
  have earlyFits : SumsFit early := lateFits.of_concat
  refine ⟨⟨earlyFits, ?_⟩, lateFits, ?_⟩
  · exact (isDead_performAll_iff ⟨"a"⟩ ⟨"b"⟩ early earlyFits).1.mp (by decide +kernel)
  · exact fun buried => absurd ((isDead_performAll_iff ⟨"a"⟩ ⟨"b"⟩ late lateFits).1.mpr buried)
      (by decide +kernel)

end View

end PeerMesh
