/-
**How the hearings of a round are decided.**

* `Station.Completes` — a control round from its beginning to its end: replies come in any order, and
  time may pass between them.
* `Station.Standing` — what the hearings that are over have made of a detector; `Standing.conclude`
  decides one more.
* `Station.Underway` — a round whose other hearings have their replies on the way. One more suspect is
  probed (`Underway.probe`), and one more reply is heard (`Underway.hear`).
* **`Goes.of_ends`**, **`Goes.exists_ends`** — a round comes to its end, and all hearings are over then.
-/

import PeerMesh.Proofs.View.Verdicts
import PeerMesh.Proofs.Detector.Passive
import PeerMesh.Proofs.Detector.Asking

namespace PeerMesh

/-! ### Rounds -/

namespace Station

variable {σ : Type}

/-- Nothing happens to the detector, and its clock does not move. -/
structure Idles (station : Station σ) (heard : σ → List (Question × Reply)) (before after : σ) :
    Prop where
  detector : station.detector after = station.detector before
  reading : station.reading after = station.reading before
  heard : heard after = heard before

theorem idles_refl {station : Station σ} {heard : σ → List (Question × Reply)} (state : σ) :
    station.Idles heard state state :=
  ⟨rfl, rfl, rfl⟩

/-- A round goes on to its end while replies come one by one, in any order. -/
inductive Ends (station : Station σ) (heard : σ → List (Question × Reply)) :
    Option Round × σ → σ → Prop
  | finished (state : σ) : Ends station heard (none, state) state
  | hear {round : Round} {state waited final : σ} {reply : Awaited} (among : reply ∈ round.awaited)
      (idles : station.Idles heard state waited)
      (ends : Ends station heard (station.hear round reply waited) final) :
      Ends station heard (some round, state) final

/-- A control round from its beginning to its end. -/
def Completes (station : Station σ) (heard : σ → List (Question × Reply)) (state final : σ) : Prop :=
  station.Ends heard (station.beginRound state) final

end Station

/-! ### What the hearings so far have made of a detector -/

/-- The verdicts of the hearings that are over. -/
def verdicts (hearings : List Hearing) (unsettled : List NodeId) (id : NodeId) : Option Bool :=
  if id ∈ unsettled then none else (hearings.find? (·.id = id)).map Hearing.affirmed

/-- The hearings are whole, each is about another suspect of a view, and about nobody else. -/
structure Hearing.AreOf (aged : View) (hearings : List Hearing) : Prop where
  distinct : (hearings.map Hearing.id).Nodup
  whole : ∀ hearing ∈ hearings, hearing.IsWhole
  found : ∀ hearing ∈ hearings, aged.live.get? hearing.id = some hearing.probe.suspect
  suspected : ∀ hearing ∈ hearings, hearing.probe.suspect.record.health = .suspect

namespace Hearing

variable {aged : View} {hearings : List Hearing} {hearing : Hearing} {unsettled : List NodeId}

theorem AreOf.find_eq (of : AreOf aged hearings) (among : hearing ∈ hearings) :
    hearings.find? (·.id = hearing.id) = some hearing := by
  cases found : hearings.find? (·.id = hearing.id) with
  | none => exact absurd (List.find?_eq_none.mp found hearing among) (by simp)
  | some other =>
    have same : other.id = hearing.id := by simpa using List.find?_some found
    have listed := List.mem_of_find?_eq_some found
    rw [List.inj_on_of_nodup_map of.distinct listed among same]

/-- One more suspect of the view is heard. -/
theorem AreOf.concat (of : AreOf aged hearings) (new : hearing.id ∉ hearings.map Hearing.id)
    (whole : hearing.IsWhole) (found : aged.live.get? hearing.id = some hearing.probe.suspect)
    (suspected : hearing.probe.suspect.record.health = .suspect) :
    AreOf aged (hearings ++ [hearing]) := by
  have either {other : Hearing} (among : other ∈ hearings ++ [hearing]) :
      other ∈ hearings ∨ other = hearing :=
    (List.mem_append.mp among).imp_right List.mem_singleton.mp
  refine ⟨?_, fun other among => ?_, fun other among => ?_, fun other among => ?_⟩
  · rw [List.map_append]
    exact List.Nodup.append of.distinct (List.nodup_singleton _) (by simpa using new)
  · rcases either among with old | rfl
    · exact of.whole other old
    · exact whole
  · rcases either among with old | rfl
    · exact of.found other old
    · exact found
  · rcases either among with old | rfl
    · exact of.suspected other old
    · exact suspected

theorem verdicts_settle (of : AreOf aged hearings) (among : hearing ∈ hearings)
    {rest : List NodeId} (left : ∀ id, id ∈ rest ↔ id ∈ unsettled ∧ id ≠ hearing.id) :
    verdicts hearings rest = fun id =>
      if id = hearing.id then some hearing.affirmed else verdicts hearings unsettled id := by
  funext id
  unfold verdicts
  by_cases same : id = hearing.id
  · rw [if_neg fun remains => ((left id).mp remains).2 same, if_pos same, same, of.find_eq among]
    rfl
  · rw [if_neg same]
    simp only [left, ne_eq, same, not_false_iff, and_true]

theorem verdicts_concat (new : hearing.id ∉ hearings.map Hearing.id)
    (part : ∀ id ∈ unsettled, id ∈ hearings.map Hearing.id) :
    verdicts (hearings ++ [hearing]) (unsettled ++ [hearing.id]) = verdicts hearings unsettled := by
  funext id
  unfold verdicts
  by_cases same : id = hearing.id
  · have closed : id ∉ unsettled := fun waits => new (same ▸ part id waits)
    have absent : hearings.find? (·.id = id) = none := by
      rw [List.find?_eq_none]
      intro other among
      have differs : other.id ≠ id := fun eq => new (same ▸ eq ▸ List.mem_map_of_mem among)
      simpa using differs
    rw [if_pos (by simp [same]), if_neg closed, absent]
    rfl
  · have other : hearing.id ≠ id := fun eq => same eq.symm
    simp [same, other, List.find?_append]

end Hearing

namespace Station

variable {σ : Type} {station : Station σ} {heard : σ → List (Question × Reply)}

/-- Where a round stands that has changed a detector at one reading of its clock: what the hearings that
are over have made of it, and what was heard and counted. -/
structure Standing (station : Station σ) (heard : σ → List (Question × Reply)) (aged : Detector)
    (now : Reading) (log : List (Question × Reply)) (hearings : List Hearing)
    (unsettled : List NodeId) (state : σ) : Prop where
  settings : (station.detector state).settings = aged.settings
  reading : station.reading state = now
  passive : (station.detector state).watched.IsPassive
  heard : heard state = log ++ hearings.flatMap Hearing.exchanges
  judged : aged.view.Judged now (verdicts hearings unsettled) (station.detector state).view
  probes : (station.detector state).counts.probes = aged.counts.probes + hearings.length
  removed : (station.detector state).counts.declaredDead + (station.detector state).view.nodeCount =
    aged.counts.declaredDead + aged.view.nodeCount

variable {aged : Detector} {now : Reading} {log : List (Question × Reply)} {hearings : List Hearing}
  {unsettled : List NodeId} {state : σ}

/-- Nothing that happens between two replies changes where a round stands. -/
theorem Standing.idle (standing : station.Standing heard aged now log hearings unsettled state)
    {later : σ} (idles : station.Idles heard state later) :
    station.Standing heard aged now log hearings unsettled later := by
  obtain ⟨settings, reading, passive, listened, judged, probes, removed⟩ := standing
  constructor
  · rw [idles.detector]; exact settings
  · rw [idles.reading]; exact reading
  · rw [idles.detector]; exact passive
  · rw [idles.heard]; exact listened
  · rw [idles.detector]; exact judged
  · rw [idles.detector]; exact probes
  · rw [idles.detector]; exact removed

/-- It matters only which hearings are not over, not in which order. -/
theorem Standing.of_mem_iff (standing : station.Standing heard aged now log hearings unsettled state)
    {same : List NodeId} (mem : ∀ id, id ∈ same ↔ id ∈ unsettled) :
    station.Standing heard aged now log hearings same state := by
  have verdicts : verdicts hearings same = verdicts hearings unsettled := by
    funext id
    unfold PeerMesh.verdicts
    simp only [mem]
  exact { standing with judged := verdicts ▸ standing.judged }

/-- **A hearing that is over is decided by whether there was a good answer.** -/
theorem Standing.conclude (undisturbed : station.Undisturbed heard)
    (standing : station.Standing heard aged now log hearings unsettled state)
    (of : Hearing.AreOf aged.view hearings)
    (apart : ∀ id member, aged.view.live.get? id = some member → aged.view.dead.get? id = none)
    {hearing : Hearing} (among : hearing ∈ hearings) (waits : hearing.id ∈ unsettled)
    {probing : Probing} (same : probing.probe = hearing.probe)
    (verdict : probing.affirmed = hearing.affirmed) {rest : List NodeId}
    (left : ∀ id, id ∈ rest ↔ id ∈ unsettled ∧ id ≠ hearing.id) :
    station.Standing heard aged now log hearings rest (station.conclude probing state) := by
  have found := of.found hearing among
  have suspected := of.suspected hearing among
  have undecided : verdicts hearings unsettled hearing.id = none := if_pos waits
  obtain ⟨live, _⟩ := standing.judged.undecided apart found undecided
  obtain ⟨answer, fewer⟩ := View.conclude_removes live suspected now hearing.affirmed
  obtain ⟨settings, clock, watchers, view, counts⟩ :=
    Detector.conclude_of_passive standing.passive (station.time state) probing
  have showing : (station.detector state).watched.now (station.time state) = now := standing.reading
  rw [showing, same, verdict] at view counts
  unfold Station.conclude
  constructor
  · rw [undisturbed.update, settings, standing.settings]
  · unfold Station.reading Watched.now
    rw [undisturbed.update, undisturbed.updateTime, clock]
    exact showing
  · rw [undisturbed.update]
    unfold Watched.IsPassive
    rw [watchers]
    exact standing.passive
  · rw [undisturbed.updateHeard, standing.heard]
  · rw [undisturbed.update, view, Hearing.verdicts_settle of among left]
    exact standing.judged.conclude apart found suspected undecided hearing.affirmed
  · rw [undisturbed.update, counts]
    exact standing.probes
  · rw [undisturbed.update, view, counts, ← standing.removed, ← fewer, answer]
    dsimp only
    omega

/-! ### A round under way -/

/-- A round stands where the hearings that are over have led, and the replies that it awaits lead to the
verdicts of the others. -/
structure Underway (station : Station σ) (heard : σ → List (Question × Reply)) (aged : Detector)
    (now : Reading) (log : List (Question × Reply)) (hearings : List Hearing) (round : Round)
    (state : σ) : Prop where
  of : Hearing.AreOf aged.view hearings
  standing : station.Standing heard aged now log hearings
    (round.probings.map fun probing => probing.probe.id) state
  distinct : (round.probings.map fun probing => probing.probe.id).Nodup
  foretold : ∀ probing ∈ round.probings, ∃ hearing ∈ hearings, probing.probe = hearing.probe ∧
    ∃ good, probing.Foretells round.awaited good hearing.affirmed
  about : ∀ reply ∈ round.awaited, reply.suspect ∈ hearings.map Hearing.id

variable {round : Round}

theorem Underway.hearing_of_probing
    (underway : station.Underway heard aged now log hearings round state) {id : NodeId}
    (waits : id ∈ round.probings.map fun probing => probing.probe.id) :
    id ∈ hearings.map Hearing.id := by
  obtain ⟨probing, among, rfl⟩ := List.mem_map.mp waits
  obtain ⟨hearing, listed, same, _⟩ := underway.foretold probing among
  rw [same]
  exact List.mem_map_of_mem listed

/-- The probe of one more suspect has begun: its questions were asked. -/
theorem Standing.ask
    (standing : station.Standing heard aged now log hearings unsettled state)
    {hearing : Hearing} (new : hearing.id ∉ hearings.map Hearing.id)
    (part : ∀ id ∈ unsettled, id ∈ hearings.map Hearing.id)
    (detector : station.detector later = (station.detector state).tally fun counts =>
      { counts with probes := counts.probes + 1 })
    (reading : station.reading later = station.reading state)
    (listened : heard later = heard state ++ hearing.exchanges) :
    station.Standing heard aged now log (hearings ++ [hearing]) (unsettled ++ [hearing.id]) later := by
  constructor
  · rw [detector]
    exact standing.settings
  · rw [reading]
    exact standing.reading
  · rw [detector]
    exact standing.passive
  · rw [listened, standing.heard, List.flatMap_append, List.append_assoc]
    simp
  · rw [detector, Hearing.verdicts_concat new part]
    exact standing.judged
  · rw [detector, List.length_append]
    show (station.detector state).counts.probes + 1 = _
    rw [standing.probes]
    rfl
  · rw [detector]
    exact standing.removed

/-- **One more suspect is probed.** -/
theorem Underway.probe (undisturbed : station.Undisturbed heard)
    (underway : station.Underway heard aged now log hearings round state)
    (apart : ∀ id member, aged.view.live.get? id = some member → aged.view.dead.get? id = none)
    {suspect : Member} (found : aged.view.live.get? suspect.record.id = some suspect)
    (suspected : suspect.record.health = .suspect)
    (new : suspect.record.id ∉ hearings.map Hearing.id) :
    ∃ hearing : Hearing, hearing.probe.suspect = suspect ∧
      station.Underway heard aged now log (hearings ++ [hearing])
        (station.probe (round, state) suspect).1 (station.probe (round, state) suspect).2 := by
  let tallied := station.update
    (·.tally fun counts => { counts with probes := counts.probes + 1 }) state
  let probe : Probe := ⟨suspect, station.draw (station.detector tallied).settings.delegateCount
    ((station.detector tallied).view.delegatesFor suspect.record.id)⟩
  have places := Probing.start_hasPlaces probe
  obtain ⟨answers, all, asked⟩ := askAll undisturbed (Probing.start probe).pending []
    (Probing.start probe) [] tallied places places (List.Subset.refl _) fun _ among => .inr among
  obtain ⟨whole, good, foretells⟩ := asked.hearing all
  let asking := (Probing.start probe).pending.foldl station.askNext (Probing.start probe, [], tallied)
  let hearing : Hearing := ⟨probe, answers.map fun answer => (answer.1.2, answer.2)⟩
  have detector : station.detector asking.2.2 = (station.detector state).tally fun counts =>
      { counts with probes := counts.probes + 1 } := asked.detector.trans (undisturbed.update _ state)
  have reading : station.reading asking.2.2 = station.reading state := by
    refine asked.reading.trans ?_
    unfold Station.reading
    rw [undisturbed.update, undisturbed.updateTime]
    rfl
  have listened : heard asking.2.2 = heard state ++ hearing.exchanges := by
    rw [asked.heard, undisturbed.updateHeard]
  have standing : station.Standing heard aged now log (hearings ++ [hearing])
      (round.probings.map (fun probing => probing.probe.id) ++ [hearing.id]) asking.2.2 :=
    underway.standing.ask new (fun id waits => underway.hearing_of_probing waits) detector reading
      listened
  have closed : hearing.id ∉ round.probings.map fun probing => probing.probe.id :=
    fun waits => new (underway.hearing_of_probing waits)
  have of : Hearing.AreOf aged.view (hearings ++ [hearing]) :=
    underway.of.concat new whole found suspected
  have last : hearing ∈ hearings ++ [hearing] := List.mem_append_right _ (List.mem_singleton.mpr rfl)
  have same : asking.1.probe = hearing.probe := asked.probe
  have earlier : ∀ probing ∈ round.probings, ∃ other ∈ hearings ++ [hearing],
      probing.probe = other.probe ∧
        ∃ good, probing.Foretells round.awaited good other.affirmed := by
    intro probing among
    obtain ⟨other, listed, equal, foretold⟩ := underway.foretold probing among
    exact ⟨other, List.mem_append_left _ listed, equal, foretold⟩
  have known : ∀ reply ∈ round.awaited, reply.suspect ∈ (hearings ++ [hearing]).map Hearing.id := by
    intro reply among
    rw [List.map_append]
    exact List.mem_append_left _ (underway.about reply among)
  have step : station.probe (round, state) suspect =
      if asking.1.isOver then (round, station.conclude asking.1 asking.2.2)
      else (⟨round.probings ++ [asking.1], round.awaited ++ asking.2.1⟩, asking.2.2) := rfl
  refine ⟨hearing, rfl, ?_⟩
  rw [step]
  by_cases ended : asking.1.isOver = true
  · rw [if_pos ended]
    have left : ∀ id, id ∈ round.probings.map (fun probing => probing.probe.id) ↔
        id ∈ round.probings.map (fun probing => probing.probe.id) ++ [hearing.id] ∧
          id ≠ hearing.id := by
      intro id
      rw [List.mem_append, List.mem_singleton]
      constructor
      · exact fun waits => ⟨.inl waits, fun equal => closed (equal ▸ waits)⟩
      · exact fun ⟨either, differs⟩ => either.resolve_right differs
    exact ⟨of, standing.conclude undisturbed of apart last (by simp) same
      (foretells.affirmed_of_isOver ended) left, underway.distinct, earlier, known⟩
  · rw [if_neg ended]
    have appended : (round.probings ++ [asking.1]).map (fun probing => probing.probe.id) =
        round.probings.map (fun probing => probing.probe.id) ++ [hearing.id] := by
      rw [List.map_append, List.map_singleton, same]
      rfl
    have coming : ∀ reply ∈ asking.2.1, reply.suspect = hearing.id := fun reply among =>
      ((asked.coming reply among).resolve_left List.not_mem_nil).1
    refine ⟨of, ?_, ?_, ?_, ?_⟩
    · rw [appended]
      exact standing
    · rw [appended]
      exact List.Nodup.append underway.distinct (List.nodup_singleton _) (by simpa using closed)
    · intro probing among
      rcases List.mem_append.mp among with old | latest
      · obtain ⟨other, listed, equal, good, foretold⟩ := earlier probing old
        refine ⟨other, listed, equal, good, foretold.within (List.subset_append_left _ _) ?_⟩
        intro reply either about
        refine (List.mem_append.mp either).resolve_right fun recent => closed ?_
        rw [← coming reply recent, about]
        exact List.mem_map_of_mem old
      · rw [List.mem_singleton.mp latest]
        refine ⟨hearing, last, same, good, foretells.within (List.subset_append_right _ _) ?_⟩
        intro reply either about
        refine (List.mem_append.mp either).resolve_left fun old => new ?_
        have listed := underway.about reply old
        rw [show reply.suspect = hearing.id from about.trans (congrArg Probe.id same)] at listed
        exact listed
    · intro reply either
      rcases List.mem_append.mp either with old | recent
      · exact known reply old
      · rw [coming reply recent]
        exact List.mem_map_of_mem last

/-- A probe that is appended to a round is under way. -/
theorem probe_isUnder (suspect : Member) (state : σ)
    (unfinished : ∀ probing ∈ round.probings, probing.isOver = false) :
    ∀ probing ∈ (station.probe (round, state) suspect).1.probings, probing.isOver = false := by
  unfold Station.probe
  dsimp only
  split
  · exact unfinished
  · rename_i notOver
    intro probing among
    rcases List.mem_append.mp among with old | latest
    · exact unfinished probing old
    · rw [List.mem_singleton.mp latest]
      exact Bool.eq_false_iff.mpr notOver

/-- **All suspects are probed**, one after another. -/
theorem Underway.probeAll (undisturbed : station.Undisturbed heard)
    (apart : ∀ id member, aged.view.live.get? id = some member → aged.view.dead.get? id = none)
    (suspects : List Member) :
    ∀ (hearings : List Hearing) (round : Round) (state : σ),
      station.Underway heard aged now log hearings round state →
      (∀ probing ∈ round.probings, probing.isOver = false) →
      (∀ suspect ∈ suspects, aged.view.live.get? suspect.record.id = some suspect ∧
        suspect.record.health = .suspect) →
      (hearings.map Hearing.id ++ suspects.map fun suspect => suspect.record.id).Nodup →
      ∃ more : List Hearing, more.map (fun hearing => hearing.probe.suspect) = suspects ∧
        station.Underway heard aged now log (hearings ++ more)
          (suspects.foldl station.probe (round, state)).1
          (suspects.foldl station.probe (round, state)).2 ∧
        ∀ probing ∈ (suspects.foldl station.probe (round, state)).1.probings,
          probing.isOver = false := by
  induction suspects with
  | nil =>
    intro hearings round state underway unfinished _ _
    exact ⟨[], rfl, by rw [List.append_nil]; exact underway, unfinished⟩
  | cons suspect rest ih =>
    intro hearings round state underway unfinished found distinct
    obtain ⟨here, suspected⟩ := found suspect List.mem_cons_self
    have new : suspect.record.id ∉ hearings.map Hearing.id := fun old =>
      (List.nodup_append.mp distinct).2.2 _ old _ List.mem_cons_self rfl
    obtain ⟨hearing, same, first⟩ := underway.probe undisturbed apart here suspected new
    have id : hearing.id = suspect.record.id := congrArg (fun member => member.record.id) same
    have distinctRest : ((hearings ++ [hearing]).map Hearing.id ++
        rest.map fun suspect => suspect.record.id).Nodup := by
      rw [List.map_append, List.map_singleton, id, List.append_assoc]
      exact distinct
    obtain ⟨more, members, underway', unfinished'⟩ := ih (hearings ++ [hearing]) _ _ first
      (probe_isUnder suspect state unfinished)
      (fun other among => found other (List.mem_cons_of_mem _ among)) distinctRest
    refine ⟨hearing :: more, by rw [List.map_cons, same, members], ?_, unfinished'⟩
    rw [List.append_assoc] at underway'
    exact underway'

/-! ### Replies that come later -/

/-- Probes that are over are decided one after another. -/
theorem Standing.concludeAll (undisturbed : station.Undisturbed heard)
    (of : Hearing.AreOf aged.view hearings)
    (apart : ∀ id member, aged.view.live.get? id = some member → aged.view.dead.get? id = none)
    {rest : List NodeId} (finished : List Probing) :
    ∀ (unsettled : List NodeId) (state : σ),
      station.Standing heard aged now log hearings unsettled state →
      (∀ probing ∈ finished, ∃ hearing ∈ hearings, probing.probe = hearing.probe ∧
        probing.affirmed = hearing.affirmed) →
      (∀ id, id ∈ unsettled ↔ id ∈ finished.map (fun probing => probing.probe.id) ∨ id ∈ rest) →
      (finished.map fun probing => probing.probe.id).Nodup →
      (∀ probing ∈ finished, probing.probe.id ∉ rest) →
      station.Standing heard aged now log hearings rest
        (finished.foldl (fun state probing => station.conclude probing state) state) := by
  induction finished with
  | nil =>
    intro unsettled state standing _ mem _ _
    exact standing.of_mem_iff fun id => by simpa using (mem id).symm
  | cons probing others ih =>
    intro unsettled state standing decided mem distinct apartFromRest
    obtain ⟨hearing, among, same, verdict⟩ := decided probing List.mem_cons_self
    obtain ⟨new, distinctOthers⟩ := List.nodup_cons.mp distinct
    have id_eq : probing.probe.id = hearing.id := congrArg Probe.id same
    have waits : hearing.id ∈ unsettled := by
      rw [mem, ← id_eq]
      exact .inl List.mem_cons_self
    have left : ∀ id, id ∈ others.map (fun probing => probing.probe.id) ++ rest ↔
        id ∈ unsettled ∧ id ≠ hearing.id := by
      intro id
      rw [mem, List.mem_append, List.map_cons, List.mem_cons, ← id_eq]
      constructor
      · rintro (other | kept)
        · refine ⟨.inl (.inr other), fun equal => new ?_⟩
          show probing.probe.id ∈ _
          rw [← equal]
          exact other
        · refine ⟨.inr kept, fun equal => apartFromRest probing List.mem_cons_self ?_⟩
          rw [← equal]
          exact kept
      · rintro ⟨(equal | other) | kept, differs⟩
        · exact absurd equal differs
        · exact .inl other
        · exact .inr kept
    exact ih _ _ (standing.conclude undisturbed of apart among waits same verdict left)
      (fun other listed => decided other (List.mem_cons_of_mem _ listed))
      (fun id => List.mem_append) distinctOthers
      fun other listed => apartFromRest other (List.mem_cons_of_mem _ listed)

/-- **A reply is heard**: the probes that are over then are decided, and the round goes on with the
others. -/
theorem Underway.hear (undisturbed : station.Undisturbed heard)
    (underway : station.Underway heard aged now log hearings round state)
    (apart : ∀ id member, aged.view.live.get? id = some member → aged.view.dead.get? id = none)
    {reply : Awaited} (among : reply ∈ round.awaited) :
    let probings := round.probings.map fun probing => probing.hear reply
    station.Underway heard aged now log hearings
      ⟨probings.filter (!·.isOver), round.awaited.filter fun other =>
        !(other.suspect = reply.suspect && other.place = reply.place)⟩
      ((probings.filter Probing.isOver).foldl
        (fun state probing => station.conclude probing state) state) := by
  intro probings
  have ids : probings.map (fun probing => probing.probe.id) =
      round.probings.map fun probing => probing.probe.id := by
    rw [List.map_map]
    exact List.map_congr_left fun probing _ => congrArg Probe.id (probing.probe_hear reply)
  have distinct : (probings.map fun probing => probing.probe.id).Nodup := ids ▸ underway.distinct
  have foretold : ∀ probing ∈ probings, ∃ hearing ∈ hearings, probing.probe = hearing.probe ∧
      ∃ good, probing.Foretells (round.awaited.filter fun other =>
        !(other.suspect = reply.suspect && other.place = reply.place)) good hearing.affirmed := by
    intro probing listed
    obtain ⟨earlier, known, rfl⟩ := List.mem_map.mp listed
    obtain ⟨hearing, inside, same, good, foretells⟩ := underway.foretold earlier known
    exact ⟨hearing, inside, (earlier.probe_hear reply).trans same, good, foretells.hear among⟩
  have finished : ∀ probing ∈ probings.filter Probing.isOver, ∃ hearing ∈ hearings,
      probing.probe = hearing.probe ∧ probing.affirmed = hearing.affirmed := by
    intro probing listed
    obtain ⟨inside, ended⟩ := List.mem_filter.mp listed
    obtain ⟨hearing, member, same, good, foretells⟩ := foretold probing inside
    exact ⟨hearing, member, same, foretells.affirmed_of_isOver ended⟩
  have either : ∀ id, id ∈ round.probings.map (fun probing => probing.probe.id) ↔
      id ∈ (probings.filter Probing.isOver).map (fun probing => probing.probe.id) ∨
        id ∈ (probings.filter (!·.isOver)).map fun probing => probing.probe.id := by
    intro id
    rw [← ids, ← List.mem_append, ← List.map_append, List.mem_map, List.mem_map]
    refine exists_congr fun probing => and_congr_left fun _ => ?_
    rw [List.mem_append, List.mem_filter, List.mem_filter]
    cases probing.isOver <;> simp
  have apartFromRest : ∀ probing ∈ probings.filter Probing.isOver, probing.probe.id ∉
      (probings.filter (!·.isOver)).map fun probing => probing.probe.id := by
    intro probing listed waits
    obtain ⟨other, unfinished, same⟩ := List.mem_map.mp waits
    obtain ⟨inside, ended⟩ := List.mem_filter.mp listed
    obtain ⟨otherInside, notOver⟩ := List.mem_filter.mp unfinished
    rw [List.inj_on_of_nodup_map distinct otherInside inside same, ended] at notOver
    cases notOver
  exact ⟨underway.of, underway.standing.concludeAll undisturbed underway.of apart _ _ _ finished
      either (distinct.sublist (List.filter_sublist.map _)) apartFromRest,
    distinct.sublist (List.filter_sublist.map _),
    fun probing listed => foretold probing (List.mem_filter.mp listed).1,
    fun other listed => underway.about other (List.mem_filter.mp listed).1⟩

/-! ### From the beginning of a round to its end -/

/-- A round that is over, or that goes on because some probe is not over. -/
def Goes (station : Station σ) (heard : σ → List (Question × Reply)) (aged : Detector)
    (now : Reading) (log : List (Question × Reply)) (hearings : List Hearing) :
    Option Round × σ → Prop
  | (none, state) => ∃ last, station.Standing heard aged now log hearings [] last ∧
      state = station.update (·.evict (station.time last)) last
  | (some round, state) => station.Underway heard aged now log hearings round state ∧
      round.probings ≠ [] ∧ ∀ probing ∈ round.probings, probing.isOver = false

theorem Underway.settle (underway : station.Underway heard aged now log hearings round state)
    (unfinished : ∀ probing ∈ round.probings, probing.isOver = false) :
    station.Goes heard aged now log hearings (station.settle round state) := by
  unfold Station.settle
  split
  · rename_i empty
    have standing := underway.standing
    rw [List.isEmpty_iff.mp empty] at standing
    exact ⟨state, standing, rfl⟩
  · rename_i nonempty
    exact ⟨underway, fun empty => nonempty (List.isEmpty_iff.mpr empty), unfinished⟩

theorem Underway.goes (undisturbed : station.Undisturbed heard)
    (underway : station.Underway heard aged now log hearings round state)
    (apart : ∀ id member, aged.view.live.get? id = some member → aged.view.dead.get? id = none)
    {waited : σ} (idles : station.Idles heard state waited) {reply : Awaited}
    (among : reply ∈ round.awaited) :
    station.Goes heard aged now log hearings (station.hear round reply waited) := by
  have waiting : station.Underway heard aged now log hearings round waited :=
    { underway with standing := underway.standing.idle idles }
  refine (waiting.hear undisturbed apart among).settle fun probing listed => ?_
  exact Bool.eq_false_iff.mpr fun ended => by simp [ended] at listed

/-- Whatever the order of the replies, a round ends where all hearings are over. -/
theorem Goes.of_ends (undisturbed : station.Undisturbed heard)
    (apart : ∀ id member, aged.view.live.get? id = some member → aged.view.dead.get? id = none)
    {begun : Option Round × σ} {final : σ} (ends : station.Ends heard begun final)
    (goes : station.Goes heard aged now log hearings begun) :
    station.Goes heard aged now log hearings (none, final) := by
  induction ends with
  | finished => exact goes
  | hear among idles _ ih => exact ih (goes.1.goes undisturbed apart idles among)

/-- A round that goes on awaits some reply. -/
theorem Goes.exists_reply (goes : station.Goes heard aged now log hearings (some round, state)) :
    ∃ reply, reply ∈ round.awaited := by
  obtain ⟨underway, some, notOver⟩ := goes
  obtain ⟨probing, among⟩ := List.exists_mem_of_ne_nil _ some
  obtain ⟨_, _, _, _, foretells⟩ := underway.foretold probing among
  have pending : probing.pending ≠ [] := fun none =>
    Bool.eq_false_iff.mp (notOver probing among) (List.isEmpty_iff.mpr none)
  obtain ⟨entry, asked⟩ := List.exists_mem_of_ne_nil _ pending
  obtain ⟨reply, waits, _⟩ := foretells.expected entry asked
  exact ⟨reply, waits⟩

/-- **A round comes to its end**, since fewer replies are awaited each time one was heard. -/
theorem Goes.exists_ends (undisturbed : station.Undisturbed heard)
    (apart : ∀ id member, aged.view.live.get? id = some member → aged.view.dead.get? id = none)
    {begun : Option Round × σ} (goes : station.Goes heard aged now log hearings begun) :
    ∃ final, station.Ends heard begun final := by
  have within : ∀ (bound : Nat) (round : Round) (state : σ), round.awaited.length ≤ bound →
      station.Goes heard aged now log hearings (some round, state) →
        ∃ final, station.Ends heard (some round, state) final := by
    intro bound
    induction bound with
    | zero =>
      intro round state few goes
      obtain ⟨reply, among⟩ := goes.exists_reply
      have some := List.length_pos_of_mem among
      omega
    | succ bound ih =>
      intro round state few goes
      obtain ⟨reply, among⟩ := goes.exists_reply
      have next := goes.1.goes undisturbed apart (idles_refl state) among
      cases after : station.hear round reply state with
      | mk round? later =>
        rw [after] at next
        cases round? with
        | none => exact ⟨later, .hear among (idles_refl state) (after ▸ .finished later)⟩
        | some round' =>
          have same := settle_under (congrArg Prod.fst after)
          have fewer : round'.awaited.length < round.awaited.length := by
            rw [same]
            exact List.length_filter_lt_length_iff_exists.mpr ⟨reply, among, by simp⟩
          obtain ⟨final, ends⟩ := ih round' later (by omega) next
          exact ⟨final, .hear among (idles_refl state) (after ▸ ends)⟩
  obtain ⟨round?, state⟩ := begun
  cases round? with
  | none => exact ⟨state, .finished state⟩
  | some round => exact within round.awaited.length round state (Nat.le_refl _) goes

end Station

end PeerMesh
