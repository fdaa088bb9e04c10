/-
**The answers to the questions of a probe.**

* `Hearing` — a probe with all its questions and how each of them ended. A hearing is confirmed if the
  suspect has answered the ping or a delegate has answered that it reaches the suspect
  (`Hearing.affirmed_iff`); every other reply counts for nothing.
* `Probing.promise` — how a probe under way will end if its open questions end as foreseen.
* **`Probing.Foretells.hear`** — a reply that is heard changes nothing about that end, whichever reply
  it is.
-/

import PeerMesh.Detector.Rounds

namespace PeerMesh

/-! ### Good answers -/

theorem SyncReply.ofReply?_eq_some_iff {reply : Reply} {answer : SyncReply} :
    SyncReply.ofReply? reply = some answer ↔ ∃ bytes, reply = .ok (some bytes) ∧
      SyncReply.codec.decode maxFrameSize bytes = .ok answer := by
  constructor
  · intro read
    cases reply with
    | error _ => cases read
    | ok content =>
      cases content with
      | none => cases read
      | some bytes =>
        refine ⟨bytes, rfl, ?_⟩
        have decoded : (SyncReply.codec.decode maxFrameSize bytes).toOption = some answer := read
        cases result : SyncReply.codec.decode maxFrameSize bytes with
        | error error =>
          rw [result] at decoded
          cases decoded
        | ok other =>
          rw [result] at decoded
          rw [Option.some.inj decoded]
  · rintro ⟨bytes, rfl, read⟩
    show (SyncReply.codec.decode maxFrameSize bytes).toOption = some answer
    rw [read]
    rfl

theorem SyncRequest.ping_isAffirmedBy_iff {reply : Reply} :
    SyncRequest.ping.isAffirmedBy reply = true ↔ SyncReply.ofReply? reply = some .pong := by
  unfold isAffirmedBy
  cases SyncReply.ofReply? reply with
  | none => simp
  | some answer => cases answer <;> simp

theorem SyncRequest.healthCheck_isAffirmedBy_iff {target : NodeId} {address : Address}
    {reply : Reply} :
    (SyncRequest.healthCheck target address).isAffirmedBy reply = true ↔
      SyncReply.ofReply? reply = some (.reachable true) := by
  unfold isAffirmedBy
  cases SyncReply.ofReply? reply with
  | none => simp
  | some answer => cases answer <;> simp

/-- A probe with the questions that were asked and how they ended. -/
structure Hearing where
  probe : Probe
  exchanges : List (Question × Reply)

namespace Hearing

/-- Whose record it is about. -/
def id (hearing : Hearing) : NodeId := hearing.probe.id

/-- All questions of the probe were asked, in order, and no others. -/
def IsWhole (hearing : Hearing) : Prop := hearing.exchanges.map Prod.fst = hearing.probe.questions

/-- The suspect has answered the ping, or a delegate has answered that it reaches the suspect. -/
def IsConfirmed (hearing : Hearing) : Prop :=
  (∃ bytes, (⟨hearing.probe.suspect.record.address, .ping⟩, .ok (some bytes)) ∈ hearing.exchanges ∧
    SyncReply.codec.decode maxFrameSize bytes = .ok .pong) ∨
  ∃ delegate ∈ hearing.probe.delegates, ∃ bytes,
    (⟨delegate.address, hearing.probe.check⟩, .ok (some bytes)) ∈ hearing.exchanges ∧
      SyncReply.codec.decode maxFrameSize bytes = .ok (.reachable true)

/-- Whether some reply is a good answer. -/
def affirmed (hearing : Hearing) : Bool :=
  hearing.exchanges.any fun exchange => exchange.1.request.isAffirmedBy exchange.2

/-- **Only a pong from the suspect or a positive answer of a delegate is a good answer.** -/
theorem affirmed_iff {hearing : Hearing} (whole : hearing.IsWhole) :
    hearing.affirmed = true ↔ hearing.IsConfirmed := by
  unfold affirmed
  rw [List.any_eq_true]
  constructor
  · rintro ⟨⟨question, reply⟩, among, good⟩
    have asked : question ∈ hearing.probe.questions := by
      rw [← whole]
      exact List.mem_map_of_mem among
    rcases List.mem_cons.mp asked with rfl | other
    · obtain ⟨bytes, rfl, read⟩ :=
        SyncReply.ofReply?_eq_some_iff.mp (SyncRequest.ping_isAffirmedBy_iff.mp good)
      exact .inl ⟨bytes, among, read⟩
    · obtain ⟨delegate, chosen, rfl⟩ := List.mem_map.mp other
      obtain ⟨bytes, rfl, read⟩ :=
        SyncReply.ofReply?_eq_some_iff.mp (SyncRequest.healthCheck_isAffirmedBy_iff.mp good)
      exact .inr ⟨delegate, chosen, bytes, among, read⟩
  · rintro (⟨bytes, among, read⟩ | ⟨delegate, _, bytes, among, read⟩)
    · exact ⟨_, among, SyncRequest.ping_isAffirmedBy_iff.mpr
        (SyncReply.ofReply?_eq_some_iff.mpr ⟨bytes, rfl, read⟩)⟩
    · exact ⟨_, among, SyncRequest.healthCheck_isAffirmedBy_iff.mpr
        (SyncReply.ofReply?_eq_some_iff.mpr ⟨bytes, rfl, read⟩)⟩

end Hearing

namespace Probing

variable {probing : Probing} {awaited : List Awaited} {good : Nat → Bool} {verdict : Bool}

/-- No two open questions have one place. -/
def HasPlaces (probing : Probing) : Prop := (probing.pending.map Prod.fst).Nodup

theorem start_hasPlaces (probe : Probe) : (start probe).HasPlaces := by
  have places : (start probe).pending.map Prod.fst = List.range' 0 probe.questions.length := by
    rw [← List.zipIdx_map_snd]
    exact List.map_map
  unfold HasPlaces
  rw [places]
  exact List.nodup_range'

/-- The outcome of a probe, if the questions at some places are going to end well and no others. -/
def promise (probing : Probing) (good : Nat → Bool) : Bool :=
  probing.affirmed || probing.pending.any fun entry => good entry.1

theorem HasPlaces.question_eq (places : probing.HasPlaces) {place : Nat} {first second : Question}
    (one : (place, first) ∈ probing.pending) (other : (place, second) ∈ probing.pending) :
    first = second := by
  have found := (Table.lookup_eq_some_iff_mem place first places).mpr one
  rw [(Table.lookup_eq_some_iff_mem place second places).mpr other] at found
  exact (Option.some.inj found).symm

/-- What an answer does: it closes its question. -/
theorem answer_eq (places : probing.HasPlaces) {place : Nat} {question : Question}
    (asked : (place, question) ∈ probing.pending) (reply : Reply) :
    probing.answer place reply = { probing with
      pending := probing.pending.filter (·.1 ≠ place)
      affirmed := probing.affirmed || question.request.isAffirmedBy reply } := by
  unfold answer
  rw [(Table.lookup_eq_some_iff_mem place question places).mpr asked]

theorem answer_of_closed {place : Nat} (closed : ∀ question, (place, question) ∉ probing.pending)
    (reply : Reply) : probing.answer place reply = probing := by
  unfold answer
  have absent : probing.pending.lookup place = none := by
    rw [Table.lookup_eq_none_iff_notMem]
    intro among
    obtain ⟨⟨_, question⟩, asked, rfl⟩ := List.mem_map.mp among
    exact closed question asked
  rw [absent]

/-- The open questions after an answer. -/
theorem mem_pending_answer (places : probing.HasPlaces) (place : Nat) (reply : Reply)
    (entry : Nat × Question) :
    entry ∈ (probing.answer place reply).pending ↔ entry ∈ probing.pending ∧ entry.1 ≠ place := by
  by_cases asked : ∃ question, (place, question) ∈ probing.pending
  · obtain ⟨question, asked⟩ := asked
    rw [answer_eq places asked, List.mem_filter, decide_eq_true_iff]
  · rw [answer_of_closed (not_exists.mp asked)]
    refine (and_iff_left_of_imp fun still same => ?_).symm
    exact asked ⟨entry.2, same ▸ still⟩

theorem answer_sublist (probing : Probing) (place : Nat) (reply : Reply) :
    (probing.answer place reply).pending.Sublist probing.pending := by
  unfold answer
  split
  · exact List.Sublist.refl _
  · exact List.filter_sublist

theorem HasPlaces.answer (places : probing.HasPlaces) (place : Nat) (reply : Reply) :
    (probing.answer place reply).HasPlaces :=
  ((probing.answer_sublist place reply).map Prod.fst).nodup places

/-- **An answer that was foreseen changes nothing about the outcome.** -/
theorem promise_answer (places : probing.HasPlaces) {place : Nat} {reply : Reply}
    (foreseen : ∀ question, (place, question) ∈ probing.pending →
      question.request.isAffirmedBy reply = good place) :
    (probing.answer place reply).promise good = probing.promise good := by
  by_cases asked : ∃ question, (place, question) ∈ probing.pending
  · obtain ⟨question, asked⟩ := asked
    have split : (probing.pending.any fun entry => good entry.1) =
        (good place || (probing.pending.filter (·.1 ≠ place)).any fun entry => good entry.1) := by
      rw [Bool.eq_iff_iff, Bool.or_eq_true, List.any_eq_true, List.any_eq_true]
      constructor
      · rintro ⟨entry, among, well⟩
        by_cases same : entry.1 = place
        · exact .inl (same ▸ well)
        · exact .inr ⟨entry, List.mem_filter.mpr ⟨among, decide_eq_true same⟩, well⟩
      · rintro (well | ⟨entry, among, well⟩)
        · exact ⟨_, asked, well⟩
        · exact ⟨entry, (List.mem_filter.mp among).1, well⟩
    rw [answer_eq places asked]
    unfold promise
    rw [split, foreseen question asked, Bool.or_assoc]
  · rw [answer_of_closed (not_exists.mp asked)]

/-! ### Probes under way -/

/-- Each open question of a probe has a reply on its way, and the replies will lead to the verdict. -/
structure Foretells (probing : Probing) (awaited : List Awaited) (good : Nat → Bool)
    (verdict : Bool) : Prop where
  places : probing.HasPlaces
  coming : ∀ reply ∈ awaited, reply.suspect = probing.probe.id → ∀ question,
    (reply.place, question) ∈ probing.pending →
      question.request.isAffirmedBy reply.reply = good reply.place
  expected : ∀ entry ∈ probing.pending,
    ∃ reply ∈ awaited, reply.suspect = probing.probe.id ∧ reply.place = entry.1
  promised : probing.promise good = verdict

/-- Replies about others do not matter. -/
theorem Foretells.within (foretells : probing.Foretells awaited good verdict) {all : List Awaited}
    (part : awaited ⊆ all)
    (own : ∀ reply ∈ all, reply.suspect = probing.probe.id → reply ∈ awaited) :
    probing.Foretells all good verdict := by
  refine ⟨foretells.places, fun reply among about => ?_, fun entry asked => ?_, foretells.promised⟩
  · exact foretells.coming reply (own reply among about) about
  · obtain ⟨reply, among, same⟩ := foretells.expected entry asked
    exact ⟨reply, part among, same⟩

/-- The verdict of a probe that is over is that of its good answers. -/
theorem Foretells.affirmed_of_isOver (foretells : probing.Foretells awaited good verdict)
    (ended : probing.isOver = true) : probing.affirmed = verdict := by
  rw [← foretells.promised]
  unfold promise
  rw [List.isEmpty_iff.mp ended]
  exact (Bool.or_false _).symm

/-- A probe hears a reply if it is about its suspect. -/
def hear (probing : Probing) (awaited : Awaited) : Probing :=
  if probing.probe.id = awaited.suspect then probing.answer awaited.place awaited.reply
  else probing

theorem probe_answer (probing : Probing) (place : Nat) (reply : Reply) :
    (probing.answer place reply).probe = probing.probe := by
  unfold answer
  split <;> rfl

theorem probe_hear (probing : Probing) (awaited : Awaited) :
    (probing.hear awaited).probe = probing.probe := by
  unfold hear
  split
  · exact probing.probe_answer _ _
  · rfl

/-- **A reply that is heard changes nothing about the verdict**, and the replies to the other open
questions are still on their way. -/
theorem Foretells.hear (foretells : probing.Foretells awaited good verdict) {reply : Awaited}
    (among : reply ∈ awaited) :
    (probing.hear reply).Foretells (awaited.filter fun other =>
      !(other.suspect = reply.suspect && other.place = reply.place)) good verdict := by
  have stays {other : Awaited} (waits : other ∈ awaited)
      (differs : ¬ (other.suspect = reply.suspect ∧ other.place = reply.place)) :
      other ∈ awaited.filter fun other =>
        !(other.suspect = reply.suspect && other.place = reply.place) :=
    List.mem_filter.mpr ⟨waits, by
      rw [Bool.not_eq_true', Bool.and_eq_false_imp]
      intro suspect
      exact decide_eq_false fun place => differs ⟨of_decide_eq_true suspect, place⟩⟩
  unfold Probing.hear
  split
  · rename_i about
    refine ⟨foretells.places.answer _ _, fun other waits same question asked => ?_,
      fun entry asked => ?_, ?_⟩
    · rw [probing.probe_answer] at same
      exact foretells.coming other (List.mem_filter.mp waits).1 same question
        ((mem_pending_answer foretells.places _ _ _).mp asked).1
    · rw [probing.probe_answer]
      obtain ⟨still, elsewhere⟩ := (mem_pending_answer foretells.places _ _ _).mp asked
      obtain ⟨other, waits, same, place⟩ := foretells.expected entry still
      exact ⟨other, stays waits fun both => elsewhere (place.symm.trans both.2), same, place⟩
    · rw [promise_answer foretells.places (foretells.coming reply among about.symm)]
      exact foretells.promised
  · rename_i elsewhere
    refine ⟨foretells.places, fun other waits => foretells.coming other (List.mem_filter.mp waits).1,
      fun entry asked => ?_, foretells.promised⟩
    obtain ⟨other, waits, same, place⟩ := foretells.expected entry asked
    exact ⟨other, stays waits fun both => elsewhere (same.symm.trans both.1), same, place⟩

end Probing

end PeerMesh
