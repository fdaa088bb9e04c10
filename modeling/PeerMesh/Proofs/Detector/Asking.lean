/-
**How the questions of a probe are asked.**

* `Station.Undisturbed` — asking a question does nothing to the detector.
* **`Station.askAll`** — the questions of a probe are asked one after another, and each has one reply. A
  reply that comes at once is heard at once, every other one is awaited (`Station.Asked`).
* **`Station.Asked.hearing`** — a probe all of whose questions were asked is a hearing, and the replies
  that are awaited lead to its verdict.
-/

import Mathlib.Data.List.Nodup
import PeerMesh.Proofs.Detector.Answers

namespace PeerMesh

namespace Station

variable {σ : Type}

/-- What the clock of the view shows. -/
def reading (station : Station σ) (state : σ) : Reading :=
  (station.detector state).watched.now (station.time state)

/-- A station whose detector is changed by nobody else: asking a question changes neither the detector
nor the clock, and the questions with their replies are known from the state. -/
structure Undisturbed (station : Station σ) (heard : σ → List (Question × Reply)) : Prop where
  update : ∀ change state, station.detector (station.update change state) =
    change (station.detector state)
  updateTime : ∀ change state, station.time (station.update change state) = station.time state
  updateHeard : ∀ change state, heard (station.update change state) = heard state
  ask : ∀ state question timeout, station.detector (station.ask state question timeout).2 =
    station.detector state
  askReading : ∀ state question timeout,
    station.reading (station.ask state question timeout).2 = station.reading state
  askHeard : ∀ state question timeout, heard (station.ask state question timeout).2 =
    heard state ++ [(question, (station.ask state question timeout).1.1)]

variable {station : Station σ} {heard : σ → List (Question × Reply)} {state later : σ}

/-- Some questions of a probe were asked: a reply that came at once was heard at once, every other one
is awaited. -/
structure Asked (station : Station σ) (heard : σ → List (Question × Reply)) (probing : Probing)
    (kept : List (Nat × Question)) (awaited : List Awaited) (state : σ)
    (answers : List ((Nat × Question) × Reply)) (after : Probing × List Awaited × σ) : Prop where
  detector : station.detector after.2.2 = station.detector state
  reading : station.reading after.2.2 = station.reading state
  heard : heard after.2.2 = heard state ++ answers.map fun answer => (answer.1.2, answer.2)
  probe : after.1.probe = probing.probe
  places : after.1.HasPlaces
  part : after.1.pending ⊆ probing.pending
  earlier : awaited ⊆ after.2.1
  coming : ∀ reply ∈ after.2.1, reply ∈ awaited ∨ (reply.suspect = probing.probe.id ∧
    ∃ question, ((reply.place, question), reply.reply) ∈ answers)
  expected : ∀ entry ∈ after.1.pending, entry ∈ kept ∨
    ∃ reply ∈ after.2.1, reply.suspect = probing.probe.id ∧ reply.place = entry.1
  promise : ∀ good : Nat → Bool,
    (∀ answer ∈ answers, answer.1.2.request.isAffirmedBy answer.2 = good answer.1.1) →
      after.1.promise good = probing.promise good

/-- However the questions of a probe are answered, it stays a probe of its suspect. -/
theorem probe_askAll (entries : List (Nat × Question)) (asked : Probing × List Awaited × σ) :
    (entries.foldl station.askNext asked).1.probe = asked.1.probe := by
  induction entries generalizing asked with
  | nil => rfl
  | cons entry rest ih =>
    rw [List.foldl_cons, ih]
    unfold askNext
    dsimp only
    split
    · exact asked.1.probe_answer _ _
    · rfl

/-- A round that goes on is the one that was to be settled. -/
theorem settle_under {round next : Round} (under : (station.settle round state).1 = some next) :
    next = round := by
  unfold settle at under
  split at under
  · cases under
  · exact (Option.some.inj under).symm

variable {probing : Probing} {kept : List (Nat × Question)} {awaited : List Awaited}
  {answers : List ((Nat × Question) × Reply)} {entry : Nat × Question} {reply : Reply}
  {after : Probing × List Awaited × σ}

theorem asked_nil (places : probing.HasPlaces) (covered : probing.pending ⊆ kept) (state : σ) :
    station.Asked heard probing kept awaited state [] (probing, awaited, state) where
  detector := rfl
  reading := rfl
  heard := (List.append_nil _).symm
  probe := rfl
  places := places
  part := List.Subset.refl _
  earlier := List.Subset.refl _
  coming := fun _ among => .inl among
  expected := fun _ among => .inl (covered among)
  promise := fun _ _ => rfl

/-- A reply that comes at once is heard at once. -/
theorem Asked.at_once (places : probing.HasPlaces) (asked : entry ∈ probing.pending)
    (detector : station.detector later = station.detector state)
    (reading : station.reading later = station.reading state)
    (listened : heard later = heard state ++ [(entry.2, reply)])
    (rest : station.Asked heard (probing.answer entry.1 reply) kept awaited later answers after) :
    station.Asked heard probing kept awaited state ((entry, reply) :: answers) after := by
  have probe := probing.probe_answer entry.1 reply
  constructor
  · exact rest.detector.trans detector
  · exact rest.reading.trans reading
  · rw [rest.heard, listened, List.append_assoc]
    rfl
  · exact rest.probe.trans probe
  · exact rest.places
  · exact fun other among => (probing.answer_sublist _ _).subset (rest.part among)
  · exact rest.earlier
  · intro other among
    rw [← probe]
    exact (rest.coming other among).imp_right fun ⟨about, question, answer⟩ =>
      ⟨about, question, List.mem_cons_of_mem _ answer⟩
  · rw [← probe]
    exact rest.expected
  · intro good foreseen
    rw [rest.promise good fun answer among => foreseen answer (List.mem_cons_of_mem _ among)]
    refine Probing.promise_answer places fun question among => ?_
    rw [places.question_eq among asked]
    exact foreseen (entry, reply) List.mem_cons_self

/-- A reply that comes later is awaited. -/
theorem Asked.in_time {due : Nat} (detector : station.detector later = station.detector state)
    (reading : station.reading later = station.reading state)
    (listened : heard later = heard state ++ [(entry.2, reply)])
    (rest : station.Asked heard probing (entry :: kept)
      (awaited ++ [⟨probing.probe.id, entry.1, due, reply⟩]) later answers after) :
    station.Asked heard probing kept awaited state ((entry, reply) :: answers) after := by
  constructor
  · exact rest.detector.trans detector
  · exact rest.reading.trans reading
  · rw [rest.heard, listened, List.append_assoc]
    rfl
  · exact rest.probe
  · exact rest.places
  · exact rest.part
  · exact fun other among => rest.earlier (List.mem_append_left _ among)
  · intro other among
    rcases rest.coming other among with known | ⟨about, question, answer⟩
    · refine (List.mem_append.mp known).imp_right fun new => ?_
      rw [List.mem_singleton.mp new]
      exact ⟨rfl, entry.2, List.mem_cons_self⟩
    · exact .inr ⟨about, question, List.mem_cons_of_mem _ answer⟩
  · intro other among
    rcases rest.expected other among with listed | waits
    · rcases List.mem_cons.mp listed with rfl | old
      · exact .inr ⟨_, rest.earlier (List.mem_append_right _ (List.mem_singleton.mpr rfl)), rfl, rfl⟩
      · exact .inl old
    · exact .inr waits
  · exact fun good foreseen =>
      rest.promise good fun answer among => foreseen answer (List.mem_cons_of_mem _ among)

/-- **The questions of a probe are asked one after another**, and each has one reply. -/
theorem askAll (undisturbed : station.Undisturbed heard) (entries : List (Nat × Question)) :
    ∀ (kept : List (Nat × Question)) (probing : Probing) (awaited : List Awaited) (state : σ),
      probing.HasPlaces → (entries.map Prod.fst).Nodup → entries ⊆ probing.pending →
      (∀ entry ∈ probing.pending, entry ∈ kept ∨ entry ∈ entries) →
      ∃ answers, answers.map Prod.fst = entries ∧ station.Asked heard probing kept awaited state
        answers (entries.foldl station.askNext (probing, awaited, state)) := by
  induction entries with
  | nil =>
    intro kept probing awaited state places _ _ covered
    exact ⟨[], rfl, asked_nil places
      (fun entry among => (covered entry among).resolve_right List.not_mem_nil) state⟩
  | cons entry rest ih =>
    intro kept probing awaited state places distinct part covered
    obtain ⟨entryOpen, restOpen⟩ := List.cons_subset.mp part
    obtain ⟨entryNew, restDistinct⟩ := List.nodup_cons.mp distinct
    let timeout := (station.detector state).settings.delegateTimeout
    let asked := station.ask state entry.2 timeout
    have detector : station.detector asked.2 = station.detector state :=
      undisturbed.ask state entry.2 timeout
    have reading : station.reading asked.2 = station.reading state :=
      undisturbed.askReading state entry.2 timeout
    have listened : heard asked.2 = heard state ++ [(entry.2, asked.1.1)] :=
      undisturbed.askHeard state entry.2 timeout
    rw [List.foldl_cons]
    by_cases instant : asked.1.2 = 0
    · have step : station.askNext (probing, awaited, state) entry =
          (probing.answer entry.1 asked.1.1, awaited, asked.2) := if_pos instant
      have pending := Probing.mem_pending_answer places entry.1 asked.1.1
      have stillOpen : rest ⊆ (probing.answer entry.1 asked.1.1).pending := fun other among =>
        (pending other).mpr ⟨restOpen among, fun same =>
          entryNew (same ▸ List.mem_map_of_mem among)⟩
      have stillCovered : ∀ other ∈ (probing.answer entry.1 asked.1.1).pending,
          other ∈ kept ∨ other ∈ rest := by
        intro other among
        obtain ⟨still, elsewhere⟩ := (pending other).mp among
        refine (covered other still).imp_right fun listed => ?_
        exact (List.mem_cons.mp listed).resolve_left fun same => elsewhere (congrArg Prod.fst same)
      obtain ⟨answers, same, others⟩ := ih kept _ awaited asked.2 (places.answer entry.1 asked.1.1)
        restDistinct stillOpen stillCovered
      rw [step]
      exact ⟨(entry, asked.1.1) :: answers, by rw [List.map_cons, same],
        others.at_once places entryOpen detector reading listened⟩
    · have step : station.askNext (probing, awaited, state) entry = (probing, awaited ++
          [⟨probing.probe.id, entry.1, station.time asked.2 + asked.1.2, asked.1.1⟩], asked.2) :=
        if_neg instant
      have stillCovered : ∀ other ∈ probing.pending, other ∈ entry :: kept ∨ other ∈ rest := by
        intro other among
        rcases covered other among with old | listed
        · exact .inl (List.mem_cons_of_mem _ old)
        · rcases List.mem_cons.mp listed with rfl | later
          · exact .inl List.mem_cons_self
          · exact .inr later
      obtain ⟨answers, same, others⟩ := ih (entry :: kept) probing _ asked.2 places restDistinct
        restOpen stillCovered
      rw [step]
      exact ⟨(entry, asked.1.1) :: answers, by rw [List.map_cons, same],
        others.in_time detector reading listened⟩

/-- **A probe all of whose questions were asked is a hearing**, and the replies that are awaited lead to
its verdict. -/
theorem Asked.hearing {probe : Probe}
    (asked : station.Asked heard (Probing.start probe) [] [] state answers after)
    (all : answers.map Prod.fst = (Probing.start probe).pending) :
    let hearing : Hearing := ⟨probe, answers.map fun answer => (answer.1.2, answer.2)⟩
    hearing.IsWhole ∧ ∃ good, after.1.Foretells after.2.1 good hearing.affirmed := by
  intro hearing
  have places := Probing.start_hasPlaces probe
  have distinct : (answers.map fun answer => answer.1.1).Nodup := by
    have same : answers.map (fun answer => answer.1.1) =
        (Probing.start probe).pending.map Prod.fst := by
      rw [← all, List.map_map]
      rfl
    rw [same]
    exact places
  let good (place : Nat) : Bool := answers.any fun answer =>
    answer.1.1 = place && answer.1.2.request.isAffirmedBy answer.2
  have foreseen : ∀ answer ∈ answers,
      answer.1.2.request.isAffirmedBy answer.2 = good answer.1.1 := by
    intro answer among
    rw [Bool.eq_iff_iff, List.any_eq_true]
    constructor
    · exact fun well => ⟨answer, among, by simp [well]⟩
    · rintro ⟨other, listed, well⟩
      rw [Bool.and_eq_true, decide_eq_true_iff] at well
      have same := List.inj_on_of_nodup_map distinct listed among well.1
      rw [← same]
      exact well.2
  refine ⟨?_, good, asked.places, ?_, ?_, ?_⟩
  · show (answers.map fun answer => (answer.1.2, answer.2)).map Prod.fst = probe.questions
    have questions : (Probing.start probe).pending.map Prod.snd = probe.questions := by
      rw [← List.zipIdx_map_fst 0 probe.questions]
      exact List.map_map
    rw [← questions, ← all, List.map_map, List.map_map]
    rfl
  · intro reply among _ question pending
    obtain known | ⟨_, other, answer⟩ := asked.coming reply among
    · exact absurd known List.not_mem_nil
    · have unanswered : (reply.place, other) ∈ (Probing.start probe).pending := by
        rw [← all]
        exact List.mem_map_of_mem answer
      rw [places.question_eq (asked.part pending) unanswered]
      exact foreseen _ answer
  · intro entry pending
    rw [asked.probe]
    exact (asked.expected entry pending).resolve_left List.not_mem_nil
  · rw [asked.promise good foreseen]
    show (false || (Probing.start probe).pending.any fun entry => good entry.1) =
      (answers.map fun answer => (answer.1.2, answer.2)).any fun exchange =>
        exchange.1.request.isAffirmedBy exchange.2
    rw [Bool.false_or, ← all, List.any_map, List.any_map, Bool.eq_iff_iff, List.any_eq_true,
      List.any_eq_true]
    refine exists_congr fun answer => and_congr_right fun among => ?_
    exact Bool.eq_iff_iff.mp (foreseen answer among).symm

end Station

end PeerMesh
