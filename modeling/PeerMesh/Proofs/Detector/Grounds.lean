/-
**On what grounds the end of a probe counts as good.**

A round asks its questions one after another, each in some state (`Station.Asks`), and its probes come to
their ends one after another (`Station.Concludes`): at once, or when a reply is heard, whatever has
happened since the round began.

* `View.affirmed_of_conclude` — only a good answer lets the end of a probe make a new record, and only
  for its suspect.
* `Station.beginRound_keeps`, `Station.hear_keeps`, `Station.Asks.keeps` — what every question keeps, and
  whatever a round does to its detector, holds all through the round.
* `Station.turn_cases` — what a scheduler does when its turn comes.
* **`Station.hasGrounds_of_concludes`** — a probe ends well only if a question about its suspect, which
  the same round has asked, had a good answer.
-/

import PeerMesh.Proofs.Detector.Asking
import PeerMesh.Proofs.View.History

namespace PeerMesh

/-! ### What the end of a probe does to records -/

namespace View

/-- A record is kept, for a live peer or in a tombstone. -/
def Holds (view : View) (id : NodeId) (member : Member) : Prop :=
  view.live.get? id = some member ∨
    ∃ tombstone, view.dead.get? id = some tombstone ∧ tombstone.member = member

/-- A peer that is declared dead keeps its record. -/
theorem holds_of_removeDead {view : View} {now : Reading} {dying id : NodeId} {member : Member}
    (holds : (view.removeDead now dying).view.Holds id member) : view.Holds id member := by
  unfold removeDead at holds
  cases found : view.live.get? dying with
  | none =>
    rw [found] at holds
    exact holds
  | some last =>
    rw [found] at holds
    obtain live | ⟨tombstone, dead, same⟩ := holds
    · have still : (view.live.erase dying).get? id = some member := live
      rw [Table.get?_erase] at still
      split at still
      · cases still
      · exact .inl still
    · have buried : (view.dead.insert dying ⟨last, now⟩).get? id = some tombstone := dead
      rw [Table.get?_insert] at buried
      split at buried
      · rename_i isDying
        obtain rfl := Option.some.inj buried
        rw [isDying, ← same]
        exact .inl found
      · exact .inr ⟨tombstone, buried, same⟩

/-- **Only a good answer lets the end of a probe make a new record**, and only for its suspect. -/
theorem affirmed_of_conclude {view : View} {now : Reading} {probe : Probe} {affirmed : Bool}
    {id : NodeId} {member : Member}
    (holds : (view.conclude now probe affirmed).view.Holds id member)
    (new : ¬ view.Holds id member) : affirmed = true ∧ id = probe.id := by
  unfold conclude at holds
  cases affirmed with
  | false =>
    refine absurd ?_ new
    rw [if_neg Bool.false_ne_true] at holds
    split at holds
    · exact holds_of_removeDead holds
    · exact holds
  | true =>
    refine ⟨rfl, Classical.byContradiction fun other => new ?_⟩
    obtain live | ⟨tombstone, dead, same⟩ := holds
    · have kept : (view.live.modify probe.id _).get? id = some member := live
      rw [Table.get?_modify, if_neg other] at kept
      exact .inl kept
    · have kept : (view.dead.modify probe.id _).get? id = some tombstone := dead
      rw [Table.get?_modify, if_neg other] at kept
      exact .inr ⟨tombstone, kept, same⟩

end View

/-! ### Which answers are good -/

/-- The good answer to the question at a place of a probe: the suspect itself is asked first, the
delegates after it. -/
def SyncReply.goodAt (place : Nat) : SyncReply := if place = 0 then .pong else .reachable true

namespace Probing

/-- The questions of a probe: a ping of the suspect at the first place, and questions about it at all
others. -/
theorem mem_start {probe : Probe} {place : Nat} {question : Question}
    (posed : (place, question) ∈ (start probe).pending) :
    (place = 0 ∧ question = ⟨probe.suspect.record.address, .ping⟩) ∨
      (place ≠ 0 ∧ ∃ delegate ∈ probe.delegates, question = ⟨delegate.address, probe.check⟩) := by
  have found : probe.questions[place]? = some question := by
    obtain ⟨⟨_, _⟩, numbered, same⟩ := List.mem_map.mp posed
    cases same
    exact List.mem_zipIdx_iff_getElem?.mp numbered
  cases place with
  | zero => exact .inl ⟨rfl, (Option.some.inj found).symm⟩
  | succ place =>
    have later : (probe.delegates.map fun delegate =>
        (⟨delegate.address, probe.check⟩ : Question))[place]? = some question := found
    obtain ⟨delegate, chosen, same⟩ := List.mem_map.mp (List.mem_of_getElem? later)
    exact .inr ⟨Nat.succ_ne_zero place, delegate, chosen, same.symm⟩

/-- Which answer to a question is good depends only on the place of the question. -/
theorem isAffirmedBy_iff_goodAt {probe : Probe} {place : Nat} {question : Question}
    (posed : (place, question) ∈ (start probe).pending) (reply : Reply) :
    question.request.isAffirmedBy reply = true ↔
      SyncReply.ofReply? reply = some (.goodAt place) := by
  obtain ⟨rfl, rfl⟩ | ⟨later, delegate, _, rfl⟩ := mem_start posed
  · exact SyncRequest.ping_isAffirmedBy_iff
  · unfold SyncReply.goodAt
    rw [if_neg later]
    exact SyncRequest.healthCheck_isAffirmedBy_iff

variable {grounds : NodeId → Prop} {probing : Probing}

/-- The open questions are questions of the probe, and if there was a good answer there are grounds for
it. -/
structure IsGrounded (grounds : NodeId → Prop) (probing : Probing) : Prop where
  posed : probing.pending ⊆ (start probing.probe).pending
  answered : probing.affirmed = true → grounds probing.probe.id

theorem start_isGrounded (probe : Probe) : (start probe).IsGrounded grounds :=
  ⟨List.Subset.refl _, fun good => absurd good Bool.false_ne_true⟩

/-- An answer that is good only on grounds leaves a probe grounded. -/
theorem IsGrounded.answer (grounded : probing.IsGrounded grounds) {place : Nat} {reply : Reply}
    (good : SyncReply.ofReply? reply = some (.goodAt place) → grounds probing.probe.id) :
    (probing.answer place reply).IsGrounded grounds := by
  refine ⟨?_, ?_⟩
  · rw [probing.probe_answer]
    exact List.Subset.trans (probing.answer_sublist place reply).subset grounded.posed
  · rw [probing.probe_answer]
    unfold Probing.answer
    split
    · exact grounded.answered
    · rename_i question found
      intro affirmed
      rcases Bool.or_eq_true_iff.mp affirmed with before | now
      · exact grounded.answered before
      · obtain ⟨first, second, split, _⟩ := List.lookup_eq_some_iff.mp found
        have pending : (place, question) ∈ probing.pending := by
          rw [split]
          exact List.mem_append_right _ List.mem_cons_self
        exact good ((isAffirmedBy_iff_goodAt (grounded.posed pending) reply).mp now)

end Probing

/-- If a reply that is on its way is good there are grounds for it. -/
def Awaited.IsGrounded (grounds : NodeId → Prop) (awaited : Awaited) : Prop :=
  SyncReply.ofReply? awaited.reply = some (.goodAt awaited.place) → grounds awaited.suspect

theorem Probing.IsGrounded.hear {grounds : NodeId → Prop} {probing : Probing}
    (grounded : probing.IsGrounded grounds) {awaited : Awaited} (coming : awaited.IsGrounded grounds) :
    (probing.hear awaited).IsGrounded grounds := by
  unfold Probing.hear
  split
  · rename_i same
    refine grounded.answer fun good => ?_
    rw [same]
    exact coming good
  · exact grounded

/-- Whatever good answers there are in a round, or on their way to it, there are grounds for them. -/
structure Round.IsGrounded (grounds : NodeId → Prop) (round : Round) : Prop where
  probings : ∀ probing ∈ round.probings, probing.IsGrounded grounds
  awaited : ∀ awaited ∈ round.awaited, awaited.IsGrounded grounds

/-! ### What a round asks, and how its probes end -/

/-- What a round does to its detector at a moment. Whoever is declared dead is counted by the end of a
probe alone. -/
inductive Detector.IsRoutine (time : Nat) : (Detector → Detector) → Prop
  | aging : IsRoutine time (·.age time)
  | counting (change : Metrics → Metrics)
      (sameDeaths : ∀ counts, (change counts).declaredDead = counts.declaredDead) :
      IsRoutine time (·.tally change)
  | conclusion (probing : Probing) : IsRoutine time (·.conclude time probing)
  | eviction : IsRoutine time (·.evict time)

namespace Station

variable {σ : Type} (station : Station σ)

/-- A round ages the peers first. -/
def aged (state : σ) : σ := station.update (·.age (station.time state)) state

/-- Whom a round probes, in this order. -/
def suspects (begun : σ) : List Member := (station.detector (station.aged begun)).view.suspects

/-- A probe begins: it is counted, and the delegates are drawn. -/
def launch (state : σ) (suspect : Member) : Probing × σ :=
  let state := station.update
    (·.tally fun counts => { counts with probes := counts.probes + 1 }) state
  let detector := station.detector state
  let candidates := detector.view.delegatesFor suspect.record.id
  (.start ⟨suspect, station.draw detector.settings.delegateCount candidates⟩, state)

/-- All questions of a probe are asked. -/
def inquire (state : σ) (suspect : Member) : Probing × List Awaited × σ :=
  let (probing, launched) := station.launch state suspect
  probing.pending.foldl station.askNext (probing, [], launched)

/-- A round that has probed the first of its suspects. -/
def probeAll (begun : σ) (first : List Member) : Round × σ :=
  first.foldl station.probe (⟨[], []⟩, station.aged begun)

theorem probe_eq (round : Round) (state : σ) (suspect : Member) :
    station.probe (round, state) suspect =
      let (probing, awaited, asked) := station.inquire state suspect
      if probing.isOver then (round, station.conclude probing asked)
      else (⟨round.probings ++ [probing], round.awaited ++ awaited⟩, asked) := rfl

theorem beginRound_eq (begun : σ) : station.beginRound begun =
    station.settle (station.probeAll begun (station.suspects begun)).1
      (station.probeAll begun (station.suspects begun)).2 := rfl

theorem hear_eq (round : Round) (awaited : Awaited) (state : σ) : station.hear round awaited state =
    let heard := round.probings.map (·.hear awaited)
    station.settle ⟨heard.filter (!·.isOver), round.awaited.filter fun other =>
      !(other.suspect = awaited.suspect && other.place = awaited.place)⟩
      ((heard.filter Probing.isOver).foldl (fun state probing => station.conclude probing state) state) :=
  rfl

/-- A round asks a question about a suspect, in a state in which the earlier suspects were probed and the
earlier questions about this one were asked. -/
inductive Asks (begun : σ) : Member → Question → σ → Prop
  | of {first later : List Member} {suspect : Member} {asked rest : List (Nat × Question)}
      {entry : Nat × Question}
      (found : station.suspects begun = first ++ suspect :: later)
      (posed : (station.launch (station.probeAll begun first).2 suspect).1.pending =
        asked ++ entry :: rest) :
      Asks begun suspect entry.2 (asked.foldl station.askNext
        ((station.launch (station.probeAll begun first).2 suspect).1, [],
          (station.launch (station.probeAll begun first).2 suspect).2)).2.2

/-- A round is not over. Anything may have happened between its replies. -/
inductive IsUnderway (begun : σ) : Round → Prop
  | begins {round : Round} (under : (station.beginRound begun).1 = some round) :
      IsUnderway begun round
  | hears {round next : Round} {awaited : Awaited} (state : σ) (underway : IsUnderway begun round)
      (among : awaited ∈ round.awaited) (under : (station.hear round awaited state).1 = some next) :
      IsUnderway begun next

/-- A probe of a round comes to its end in a state: as soon as its questions are asked, or when a reply is
heard, after other probes that come to their ends with the same reply. -/
inductive Concludes (begun : σ) : Probing → σ → Prop
  | at_once {first later : List Member} {suspect : Member}
      (found : station.suspects begun = first ++ suspect :: later)
      (ended : (station.inquire (station.probeAll begun first).2 suspect).1.isOver = true) :
      Concludes begun (station.inquire (station.probeAll begun first).2 suspect).1
        (station.inquire (station.probeAll begun first).2 suspect).2.2
  | in_time {round : Round} {awaited : Awaited} {probing : Probing} {first later : List Probing}
      (state : σ) (underway : station.IsUnderway begun round) (among : awaited ∈ round.awaited)
      (ended : (round.probings.map (·.hear awaited)).filter Probing.isOver =
        first ++ probing :: later) :
      Concludes begun probing (first.foldl (fun state probing => station.conclude probing state) state)

variable {station} {begun moment : σ} {suspect : Member} {question : Question}

/-- A question that a round asks about a suspect is a ping of the suspect, or asks a delegate about it. -/
theorem Asks.form (asks : station.Asks begun suspect question moment) :
    question = ⟨suspect.record.address, .ping⟩ ∨
      ∃ address, question = ⟨address, .healthCheck suspect.record.id suspect.record.address⟩ := by
  obtain ⟨found, posed⟩ := asks
  rename_i first later asked rest entry
  have among : (entry.1, entry.2) ∈
      (station.launch (station.probeAll begun first).2 suspect).1.pending := by
    rw [posed]
    exact List.mem_append_right _ List.mem_cons_self
  obtain ⟨_, isPing⟩ | ⟨_, delegate, _, isCheck⟩ := Probing.mem_start among
  · exact .inl isPing
  · exact .inr ⟨delegate.address, isCheck⟩

theorem Asks.suspect_mem (asks : station.Asks begun suspect question moment) :
    suspect ∈ station.suspects begun := by
  obtain ⟨found, _⟩ := asks
  rw [found]
  exact List.mem_append_right _ List.mem_cons_self

/-! ### What holds all through a round -/

section

variable {stays : σ → Prop}
  (updates : ∀ change state, Detector.IsRoutine (station.time state) change →
    stays state → stays (station.update change state))
  (asks : ∀ state question timeout, stays state → stays (station.ask state question timeout).2)

include asks in
theorem askAll_keeps (entries : List (Nat × Question)) (asked : Probing × List Awaited × σ)
    (kept : stays asked.2.2) : stays (entries.foldl station.askNext asked).2.2 := by
  refine List.foldlRecOn (motive := fun asked : Probing × List Awaited × σ => stays asked.2.2)
    entries _ kept fun asked kept entry _ => ?_
  have heard := asks asked.2.2 entry.2 (station.detector asked.2.2).settings.delegateTimeout kept
  unfold askNext
  dsimp only
  split <;> exact heard

include updates asks in
theorem probeAll_keeps (kept : stays begun) (first : List Member) :
    stays (station.probeAll begun first).2 := by
  refine List.foldlRecOn (motive := fun probed : Round × σ => stays probed.2) first _
    (updates _ _ .aging kept) fun probed kept suspect _ => ?_
  have asked : stays (station.inquire probed.2 suspect).2.2 :=
    askAll_keeps asks _ _ (updates _ _ (.counting _ fun _ => rfl) kept)
  obtain ⟨round, state⟩ := probed
  rw [probe_eq]
  dsimp only
  split
  · exact updates _ _ (.conclusion _) asked
  · exact asked

include updates in
theorem settle_keeps (round : Round) {state : σ} (kept : stays state) :
    stays (station.settle round state).2 := by
  unfold settle
  split
  · exact updates _ _ .eviction kept
  · exact kept

include updates asks in
/-- **What every question keeps, and whatever a round does to its detector, a round keeps that begins.** -/
theorem beginRound_keeps (kept : stays begun) : stays (station.beginRound begun).2 := by
  rw [beginRound_eq]
  exact settle_keeps updates _ (probeAll_keeps updates asks kept _)

include updates in
theorem hear_keeps (round : Round) (awaited : Awaited) {state : σ} (kept : stays state) :
    stays (station.hear round awaited state).2 := by
  rw [hear_eq]
  exact settle_keeps updates _ (List.foldlRecOn _ _ kept fun _ kept probing _ =>
    updates _ _ (.conclusion probing) kept)

include updates asks in
/-- **What every question keeps, and whatever a round does to its detector, holds whenever a question is
asked.** -/
theorem Asks.keeps (isAsked : station.Asks begun suspect question moment) (kept : stays begun) :
    stays moment := by
  obtain ⟨_, _⟩ := isAsked
  exact askAll_keeps asks _ _ (updates _ _ (.counting _ fun _ => rfl)
    (probeAll_keeps updates asks kept _))

end

/-! ### Turns of the scheduler -/

section

variable {state : σ} {P : σ → Prop}

/-- What a scheduler does when its turn comes, whichever way the alarm that rings is found. -/
theorem turn_cases_by (ringing? : Timetable → Nat → Option RoundKind) (waits : P state)
    (sets : ∀ moment, (station.detector state).scheduler = .delayed moment →
      P (station.update (fun detector =>
        { detector with scheduler := .setAlarms detector.settings (station.time state) }) state))
    (begins : ∀ table kind, (station.detector state).scheduler = .idle table →
      ringing? table (station.time state) = some kind →
        P (station.beginScheduled (table.ring (station.time state) kind) kind state)) :
    P (match (station.detector state).scheduler with
      | .delayed moment =>
        if moment ≤ station.time state then
          station.update (fun detector =>
            { detector with scheduler := .setAlarms detector.settings (station.time state) }) state
        else state
      | .idle table =>
        match ringing? table (station.time state) with
        | some kind => station.beginScheduled (table.ring (station.time state) kind) kind state
        | none => state
      | .off | .busy _ | .failed => state) := by
  cases scheduled : (station.detector state).scheduler with
  | off | busy | failed => exact waits
  | delayed moment =>
    dsimp only
    split
    · exact sets moment scheduled
    · exact waits
  | idle table =>
    dsimp only
    split
    · rename_i kind rings
      exact begins table kind scheduled rings
    · exact waits

/-- **What a scheduler does when its turn comes**: it waits, sets its alarms, or lets the round begin
whose alarm rings. -/
theorem turn_cases (waits : P state)
    (sets : ∀ moment, (station.detector state).scheduler = .delayed moment →
      P (station.update (fun detector =>
        { detector with scheduler := .setAlarms detector.settings (station.time state) }) state))
    (begins : ∀ table kind, (station.detector state).scheduler = .idle table →
      table.due? (station.time state) = some kind →
        P (station.beginScheduled (table.ring (station.time state) kind) kind state)) :
    P (station.turn state) :=
  -- with the alarms in view, the cases would be computed through them
  turn_cases_by Timetable.due? waits sets begins

end

/-! ### Grounds -/

variable (station) in
/-- A round has asked a question about an id to which the answer was good. -/
def HasGrounds (begun : σ) (id : NodeId) : Prop :=
  ∃ suspect question moment, station.Asks begun suspect question moment ∧ suspect.record.id = id ∧
    question.request.isAffirmedBy (station.ask moment question
      (station.detector moment).settings.delegateTimeout).1.1 = true

variable {first later : List Member}

/-- While the questions about a suspect are asked, good answers come only on grounds. -/
theorem askAll_isGrounded (found : station.suspects begun = first ++ suspect :: later) :
    let launched := station.launch (station.probeAll begun first).2 suspect
    ∀ asked rest : List (Nat × Question), launched.1.pending = asked ++ rest →
      let after := asked.foldl station.askNext (launched.1, [], launched.2)
      after.1.IsGrounded (station.HasGrounds begun) ∧
        ∀ awaited ∈ after.2.1, awaited.IsGrounded (station.HasGrounds begun) := by
  intro launched asked
  induction asked using List.reverseRecOn with
  | nil => exact fun _ _ => ⟨Probing.start_isGrounded _, fun _ none => absurd none List.not_mem_nil⟩
  | append_singleton asked entry ih =>
    intro rest posed
    rw [List.append_assoc] at posed
    obtain ⟨grounded, coming⟩ := ih (entry :: rest) posed
    let before := asked.foldl station.askNext (launched.1, [], launched.2)
    let asking := station.ask before.2.2 entry.2 (station.detector before.2.2).settings.delegateTimeout
    have about : before.1.probe = launched.1.probe := probe_askAll asked _
    have among : (entry.1, entry.2) ∈ (Probing.start launched.1.probe).pending := by
      show (entry.1, entry.2) ∈ launched.1.pending
      rw [posed]
      exact List.mem_append_right _ List.mem_cons_self
    have good : SyncReply.ofReply? asking.1.1 = some (.goodAt entry.1) →
        station.HasGrounds begun before.1.probe.id := by
      intro good
      rw [about]
      exact ⟨suspect, entry.2, before.2.2, .of found posed, rfl,
        (Probing.isAffirmedBy_iff_goodAt among _).mpr good⟩
    rw [List.foldl_append, List.foldl_cons, List.foldl_nil]
    by_cases instant : asking.1.2 = 0
    · have step : station.askNext before entry =
          (before.1.answer entry.1 asking.1.1, before.2.1, asking.2) := if_pos instant
      rw [step]
      exact ⟨grounded.answer good, coming⟩
    · have step : station.askNext before entry = (before.1, before.2.1 ++ [⟨before.1.probe.id, entry.1,
          station.time asking.2 + asking.1.2, asking.1.1⟩], asking.2) := if_neg instant
      rw [step]
      refine ⟨grounded, fun awaited waits => ?_⟩
      rcases List.mem_append.mp waits with known | new
      · exact coming awaited known
      · rw [List.mem_singleton.mp new]
        exact good

theorem inquire_isGrounded (found : station.suspects begun = first ++ suspect :: later) :
    let asked := station.inquire (station.probeAll begun first).2 suspect
    asked.1.IsGrounded (station.HasGrounds begun) ∧
      ∀ awaited ∈ asked.2.1, awaited.IsGrounded (station.HasGrounds begun) :=
  askAll_isGrounded found _ [] (List.append_nil _).symm

/-- While a round probes its suspects, good answers come only on grounds. -/
theorem probeAll_isGrounded (first : List Member) :
    ∀ later : List Member, station.suspects begun = first ++ later →
      (station.probeAll begun first).1.IsGrounded (station.HasGrounds begun) := by
  induction first using List.reverseRecOn with
  | nil =>
    exact fun _ _ => ⟨fun _ none => absurd none List.not_mem_nil, fun _ none => absurd none List.not_mem_nil⟩
  | append_singleton first suspect ih =>
    intro later found
    rw [List.append_assoc] at found
    obtain ⟨probings, awaited⟩ := ih (suspect :: later) found
    obtain ⟨grounded, coming⟩ := inquire_isGrounded found
    have step : station.probeAll begun (first ++ [suspect]) =
        station.probe (station.probeAll begun first) suspect := List.foldl_append
    rw [step, show station.probeAll begun first = ((station.probeAll begun first).1,
      (station.probeAll begun first).2) from rfl, probe_eq]
    dsimp only
    split
    · exact ⟨probings, awaited⟩
    · refine ⟨fun probing among => ?_, fun reply among => ?_⟩
      · rcases List.mem_append.mp among with old | new
        · exact probings probing old
        · rw [List.mem_singleton.mp new]
          exact grounded
      · rcases List.mem_append.mp among with old | new
        · exact awaited reply old
        · exact coming reply new

/-- In a round that is not over good answers come only on grounds. -/
theorem IsUnderway.isGrounded {round : Round} (underway : station.IsUnderway begun round) :
    round.IsGrounded (station.HasGrounds begun) := by
  induction underway with
  | begins under =>
    rw [beginRound_eq] at under
    rw [settle_under under]
    exact probeAll_isGrounded _ [] (List.append_nil _).symm
  | hears state _ among under ih =>
    rw [hear_eq] at under
    rw [settle_under under]
    refine ⟨fun probing heard => ?_, fun reply waits => ih.awaited reply (List.mem_filter.mp waits).1⟩
    obtain ⟨earlier, listed, rfl⟩ := List.mem_map.mp (List.mem_filter.mp heard).1
    exact (ih.probings earlier listed).hear (ih.awaited _ among)

/-- **A probe ends well only if a question about its suspect had a good answer**, and the round itself has
asked it. -/
theorem hasGrounds_of_concludes {probing : Probing} {state : σ}
    (concludes : station.Concludes begun probing state) (affirmed : probing.affirmed = true) :
    station.HasGrounds begun probing.probe.id := by
  cases concludes with
  | at_once found _ => exact (inquire_isGrounded found).1.answered affirmed
  | in_time _ underway among ended =>
    rename_i round awaited first later _
    have listed : probing ∈ first ++ probing :: later := List.mem_append_right _ List.mem_cons_self
    rw [← ended] at listed
    obtain ⟨earlier, known, rfl⟩ := List.mem_map.mp (List.mem_filter.mp listed).1
    have grounded := underway.isGrounded
    exact ((grounded.probings earlier known).hear (grounded.awaited _ among)).answered affirmed

end Station

end PeerMesh
