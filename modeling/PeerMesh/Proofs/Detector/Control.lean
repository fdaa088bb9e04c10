/-
**A control round from its beginning to its end.**

A round is about the peers that are due (`Record.IsDue`). Each of them has one hearing, in which it is
pinged itself and some delegates are asked about it, and is decided by it alone.

* `Detector.HasDecided` — the peers, the tombstones and the counts after a round with given hearings.
* `Station.goes_beginRound` — the beginning of a round.
* **`Station.completes_hasDecided`** — every round comes to an end, and however it went on it has decided
  so.
-/

import PeerMesh.Proofs.Detector.Judgement

namespace PeerMesh

namespace View

/-- The suspects of a sound view are listed once each. -/
theorem Sound.suspects_distinct {selfId : NodeId} {view : View} (sound : view.Sound selfId) :
    (view.suspects.map fun suspect => suspect.record.id).Nodup :=
  sound.distinct.sublist (List.filter_sublist.map _)

/-- A suspect of a sound view is live under its own id. -/
theorem Sound.live_of_suspect {selfId : NodeId} {view : View} (sound : view.Sound selfId)
    {suspect : Member} (among : suspect ∈ view.suspects) :
    view.live.get? suspect.record.id = some suspect ∧ suspect.record.health = .suspect := by
  obtain ⟨⟨id, found⟩, suspected⟩ := mem_suspects_iff.mp among
  rw [(sound.liveFiled id suspect found).named]
  exact ⟨found, suspected⟩

end View

/-- What a round has made of a detector, given its hearings. -/
structure Detector.HasDecided (before : Detector) (now : Reading) (hearings : List Hearing)
    (after : Detector) : Prop where
  /-- Whoever is not due keeps its record. -/
  spared : ∀ id member, before.view.live.get? id = some member →
    ¬ member.record.IsDue before.settings.heartbeatTimeout now →
    after.view.live.get? id = some member ∧ after.view.dead.get? id = none
  /-- Whoever is due has a hearing. If it is confirmed the peer is heard of now; if not, it is dead from
  now on, and its tombstone is there unless the eviction at the end has dropped it. -/
  due : ∀ id member, before.view.live.get? id = some member →
    member.record.IsDue before.settings.heartbeatTimeout now →
    ∃ hearing ∈ hearings, hearing.IsWhole ∧
      hearing.probe.suspect = { member with record := member.record.suspect } ∧
      (hearing.IsConfirmed →
        after.view.live.get? id = some { member with record := member.record.reset now } ∧
        after.view.dead.get? id = none) ∧
      (¬ hearing.IsConfirmed →
        after.view.live.get? id = none ∧ ∀ tombstone, after.view.dead.get? id = some tombstone ↔
          tombstone = ⟨{ member with record := member.record.suspect }, now⟩ ∧
            View.Lasts now before.settings.gracePeriod tombstone)
  /-- Nobody is new, and older tombstones stay as long as they last. -/
  strangers : ∀ id, before.view.live.get? id = none →
    after.view.live.get? id = none ∧ ∀ tombstone, after.view.dead.get? id = some tombstone ↔
      before.view.dead.get? id = some tombstone ∧
        View.Lasts now before.settings.gracePeriod tombstone
  /-- One probe is counted for each hearing. -/
  probes : after.counts.probes = before.counts.probes + hearings.length
  /-- As many peers are counted as dead as there are fewer peers. -/
  removed : after.counts.declaredDead + after.view.nodeCount =
    before.counts.declaredDead + before.view.nodeCount

namespace View

variable {before last : View} {selfId : NodeId} {now : Reading} {timeout : Duration}
  {hearings : List Hearing} {id : NodeId} {member : Member}

/-- Whoever is not due is suspected by nobody. -/
theorem verdict_of_not_due (of : Hearing.AreOf (before.age now timeout) hearings)
    (spared : ∀ member, before.live.get? id = some member → ¬ member.record.IsDue timeout now) :
    verdicts hearings [] id = none := by
  have absent : hearings.find? (·.id = id) = none := by
    rw [List.find?_eq_none]
    intro hearing among same
    have equal : hearing.id = id := of_decide_eq_true same
    have found := of.found hearing among
    rw [live_age, equal] at found
    obtain ⟨member, known, suspect⟩ := Option.map_eq_some_iff.mp found
    have suspected := of.suspected hearing among
    rw [← suspect] at suspected
    exact spared member known (Record.health_checkState_iff.mp suspected)
  unfold verdicts
  rw [if_neg List.not_mem_nil, absent]
  rfl

/-- Whoever is due has a hearing, and its verdict. -/
theorem exists_hearing_of_due (sound : before.Sound selfId)
    (of : Hearing.AreOf (before.age now timeout) hearings)
    (all : hearings.map (fun hearing => hearing.probe.suspect) = (before.age now timeout).suspects)
    (found : before.live.get? id = some member) (due : member.record.IsDue timeout now) :
    ∃ hearing ∈ hearings, hearing.IsWhole ∧
      hearing.probe.suspect = { member with record := member.record.suspect } ∧
      verdicts hearings [] id = some hearing.affirmed := by
  have aged : (before.age now timeout).live.get? id =
      some { member with record := member.record.suspect } := by
    rw [live_age, found, Option.map_some, Record.checkState_of_due due]
  have suspect : { member with record := member.record.suspect } ∈
      (before.age now timeout).suspects := mem_suspects_iff.mpr ⟨⟨id, aged⟩, rfl⟩
  rw [← all] at suspect
  obtain ⟨hearing, among, same⟩ := List.mem_map.mp suspect
  have equal : hearing.id = id := by
    show hearing.probe.suspect.record.id = id
    rw [same]
    exact (sound.liveFiled id member found).named
  refine ⟨hearing, among, of.whole hearing among, same, ?_⟩
  unfold verdicts
  rw [if_neg List.not_mem_nil, ← equal, of.find_eq among]
  rfl

end View

/-! ### The end of a round -/

namespace Detector

/-- The peers and tombstones after a round are those of the aged view, but for the verdicts of the
hearings and for the tombstones that were evicted. -/
structure EndsWith (before : Detector) (now : Reading) (hearings : List Hearing) (after : Detector) :
    Prop where
  live : ∀ id, after.view.live.get? id = View.liveAfter now
    ((before.view.age now before.settings.heartbeatTimeout).live.get? id) (verdicts hearings [] id)
  dead : ∀ id tombstone, after.view.dead.get? id = some tombstone ↔
    View.deadAfter now ((before.view.age now before.settings.heartbeatTimeout).live.get? id)
      (before.view.dead.get? id) (verdicts hearings [] id) = some tombstone ∧
      View.Lasts now before.settings.gracePeriod tombstone

variable {before after : Detector} {now : Reading} {hearings : List Hearing} {selfId id : NodeId}
  {member : Member}

theorem EndsWith.notDead (ends : before.EndsWith now hearings after)
    (absent : View.deadAfter now
      ((before.view.age now before.settings.heartbeatTimeout).live.get? id)
      (before.view.dead.get? id) (verdicts hearings [] id) = none) :
    after.view.dead.get? id = none := by
  cases found : after.view.dead.get? id with
  | none => rfl
  | some tombstone =>
    have lasts := (ends.dead id tombstone).mp found
    rw [absent] at lasts
    cases lasts.1

/-- A peer that is not due keeps its record. -/
theorem EndsWith.spared (ends : before.EndsWith now hearings after)
    (sound : before.view.Sound selfId)
    (of : Hearing.AreOf (before.view.age now before.settings.heartbeatTimeout) hearings)
    (found : before.view.live.get? id = some member)
    (notDue : ¬ member.record.IsDue before.settings.heartbeatTimeout now) :
    after.view.live.get? id = some member ∧ after.view.dead.get? id = none := by
  have undecided : verdicts hearings [] id = none := View.verdict_of_not_due of fun other known => by
    rw [found] at known
    rw [← Option.some.inj known]
    exact notDue
  constructor
  · rw [ends.live, undecided, View.live_age, found, Option.map_some,
      Record.checkState_of_not_due notDue]
    rfl
  · refine ends.notDead ?_
    rw [undecided]
    exact sound.apart id member found

/-- A peer that is due is decided by its hearing. -/
theorem EndsWith.due (ends : before.EndsWith now hearings after) (sound : before.view.Sound selfId)
    (of : Hearing.AreOf (before.view.age now before.settings.heartbeatTimeout) hearings)
    (all : hearings.map (fun hearing => hearing.probe.suspect) =
      (before.view.age now before.settings.heartbeatTimeout).suspects)
    (found : before.view.live.get? id = some member)
    (due : member.record.IsDue before.settings.heartbeatTimeout now) :
    ∃ hearing ∈ hearings, hearing.IsWhole ∧
      hearing.probe.suspect = { member with record := member.record.suspect } ∧
      (hearing.IsConfirmed →
        after.view.live.get? id = some { member with record := member.record.reset now } ∧
        after.view.dead.get? id = none) ∧
      (¬ hearing.IsConfirmed →
        after.view.live.get? id = none ∧ ∀ tombstone, after.view.dead.get? id = some tombstone ↔
          tombstone = ⟨{ member with record := member.record.suspect }, now⟩ ∧
            View.Lasts now before.settings.gracePeriod tombstone) := by
  obtain ⟨hearing, among, whole, suspect, verdict⟩ :=
    View.exists_hearing_of_due sound of all found due
  have aged : (before.view.age now before.settings.heartbeatTimeout).live.get? id =
      some { member with record := member.record.suspect } := by
    rw [View.live_age, found, Option.map_some, Record.checkState_of_due due]
  refine ⟨hearing, among, whole, suspect, fun confirmed => ?_, fun unconfirmed => ?_⟩
  · rw [(hearing.affirmed_iff whole).mpr confirmed] at verdict
    refine ⟨?_, ends.notDead ?_⟩
    · rw [ends.live, verdict, aged]
      rfl
    · rw [verdict]
      exact sound.apart id member found
  · have refuted : hearing.affirmed = false := Bool.eq_false_iff.mpr fun affirmed =>
      unconfirmed ((hearing.affirmed_iff whole).mp affirmed)
    rw [refuted] at verdict
    refine ⟨?_, fun tombstone => ?_⟩
    · rw [ends.live, verdict]
      rfl
    · rw [ends.dead, verdict, aged]
      refine and_congr_left fun _ => ?_
      exact ⟨fun same => (Option.some.inj same).symm, fun same => congrArg some same.symm⟩

/-- Nobody comes to be known in a round. -/
theorem EndsWith.strangers (ends : before.EndsWith now hearings after)
    (of : Hearing.AreOf (before.view.age now before.settings.heartbeatTimeout) hearings)
    (unknown : before.view.live.get? id = none) :
    after.view.live.get? id = none ∧ ∀ tombstone, after.view.dead.get? id = some tombstone ↔
      before.view.dead.get? id = some tombstone ∧
        View.Lasts now before.settings.gracePeriod tombstone := by
  have undecided : verdicts hearings [] id = none := View.verdict_of_not_due of fun other known => by
    rw [unknown] at known
    cases known
  refine ⟨?_, fun tombstone => ?_⟩
  · rw [ends.live, undecided, View.live_age, unknown]
    rfl
  · rw [ends.dead, undecided]
    rfl

end Detector

namespace Station

variable {σ : Type} {station : Station σ} {heard : σ → List (Question × Reply)} {selfId : NodeId}
  {state last : σ} {log : List (Question × Reply)} {hearings : List Hearing}

/-- **All hearings are over, and old tombstones have gone.** -/
theorem Standing.hasDecided (undisturbed : station.Undisturbed heard)
    (sound : (station.detector state).view.Sound selfId)
    (standing : station.Standing heard ((station.detector state).age (station.time state))
      (station.reading state) log hearings [] last)
    (of : Hearing.AreOf ((station.detector state).age (station.time state)).view hearings)
    (all : hearings.map (fun hearing => hearing.probe.suspect) =
      ((station.detector state).age (station.time state)).view.suspects) :
    (station.detector state).HasDecided (station.reading state) hearings
      (station.detector (station.update (·.evict (station.time last)) last)) := by
  let before := station.detector state
  let after := station.detector (station.update (·.evict (station.time last)) last)
  have showing : (station.detector last).watched.now (station.time last) = station.reading state :=
    standing.reading
  have changed := Detector.evict_of_passive standing.passive (station.time last)
  rw [showing, standing.settings,
    ← undisturbed.update (·.evict (station.time last)) last] at changed
  have ends : before.EndsWith (station.reading state) hearings after := by
    constructor
    · intro id
      rw [changed.view, View.live_cleanup, standing.judged.live]
      rfl
    · intro id tombstone
      rw [changed.view, View.dead_cleanup_iff_lasts, standing.judged.dead]
      rfl
  have counts : after.counts = (station.detector last).counts := changed.counts
  have nodeCount : after.view.nodeCount = (station.detector last).view.nodeCount := by
    unfold View.nodeCount
    rw [changed.view, View.live_cleanup]
  have agedCount : ((before.age (station.time state)).view).nodeCount = before.view.nodeCount :=
    Table.size_mapValues before.view.live _
  constructor
  · exact fun _ _ => ends.spared sound of
  · exact fun _ _ => ends.due sound of all
  · exact fun _ => ends.strangers of
  · rw [counts]
    exact standing.probes
  · rw [counts, nodeCount, ← agedCount]
    exact standing.removed

/-! ### The beginning of a round -/

theorem standing_aged (undisturbed : station.Undisturbed heard)
    (passive : (station.detector state).watched.IsPassive) :
    station.Standing heard ((station.detector state).age (station.time state))
      (station.reading state) (heard state) [] []
      (station.update (·.age (station.time state)) state) := by
  constructor
  · rw [undisturbed.update]
  · unfold reading
    rw [undisturbed.update, undisturbed.updateTime]
    rfl
  · rw [undisturbed.update]
    exact passive
  · rw [undisturbed.updateHeard]
    exact (List.append_nil _).symm
  · rw [undisturbed.update]
    have noVerdict : verdicts [] [] = fun _ => none := by
      funext id
      rfl
    rw [noVerdict]
    exact View.judged_refl _ _
  · rw [undisturbed.update]
    rfl
  · rw [undisturbed.update]

/-- **A round begins with a hearing for each suspect**, in their order. -/
theorem goes_beginRound (undisturbed : station.Undisturbed heard)
    (sound : (station.detector state).view.Sound selfId)
    (passive : (station.detector state).watched.IsPassive) :
    ∃ hearings : List Hearing,
      hearings.map (fun hearing => hearing.probe.suspect) =
        ((station.detector state).age (station.time state)).view.suspects ∧
      Hearing.AreOf ((station.detector state).age (station.time state)).view hearings ∧
      station.Goes heard ((station.detector state).age (station.time state))
        (station.reading state) (heard state) hearings (station.beginRound state) := by
  have aged : ((station.detector state).age (station.time state)).view.Sound selfId :=
    sound.age _ _
  have start := standing_aged undisturbed passive
  have first : station.Underway heard ((station.detector state).age (station.time state))
      (station.reading state) (heard state) [] ⟨[], []⟩
      (station.update (·.age (station.time state)) state) := by
    refine ⟨⟨List.nodup_nil, ?_, ?_, ?_⟩, start, List.nodup_nil, ?_, ?_⟩ <;>
      exact fun _ none => absurd none List.not_mem_nil
  obtain ⟨hearings, all, underway, notOver⟩ := Underway.probeAll undisturbed aged.apart
    ((station.detector state).age (station.time state)).view.suspects [] ⟨[], []⟩ _ first
    (fun _ none => absurd none List.not_mem_nil) (fun _ among => aged.live_of_suspect among)
    aged.suspects_distinct
  refine ⟨hearings, all, underway.of, ?_⟩
  have same : station.detector (station.update (·.age (station.time state)) state) =
      (station.detector state).age (station.time state) := undisturbed.update _ state
  unfold beginRound
  dsimp only
  rw [same]
  exact underway.settle notOver

/-- **What a control round decides.** Every round comes to an end, in whatever order the replies come;
it has asked the questions of its hearings and no others, and has decided by their answers. -/
theorem completes_hasDecided (station : Station σ) (heard : σ → List (Question × Reply))
    (undisturbed : station.Undisturbed heard) (selfId : NodeId) (state : σ)
    (sound : (station.detector state).view.Sound selfId)
    (passive : (station.detector state).watched.IsPassive) :
    (∃ final, station.Completes heard state final) ∧
      ∀ final, station.Completes heard state final → ∃ hearings : List Hearing,
        hearings.map (fun hearing => hearing.probe.suspect) =
          ((station.detector state).age (station.time state)).view.suspects ∧
        heard final = heard state ++ hearings.flatMap Hearing.exchanges ∧
        (station.detector state).HasDecided (station.reading state) hearings
          (station.detector final) := by
  obtain ⟨hearings, all, of, goes⟩ := goes_beginRound undisturbed sound passive
  have aged : ((station.detector state).age (station.time state)).view.Sound selfId :=
    sound.age _ _
  refine ⟨goes.exists_ends undisturbed aged.apart, fun final ends => ?_⟩
  obtain ⟨last, standing, rfl⟩ := goes.of_ends undisturbed aged.apart ends
  refine ⟨hearings, all, ?_, standing.hasDecided undisturbed sound of all⟩
  rw [undisturbed.updateHeard]
  exact standing.heard

/-- A station whose questions are answered as a script says: the reply and its delay may depend on all
that was asked before. -/
def scripted (script : List (Question × Reply) → Question → Reply × Nat) (draw : Draw) :
    Station (Detector × List (Question × Reply)) where
  detector := Prod.fst
  update change state := (change state.1, state.2)
  time _ := 0
  ask state question _ := (script state.2 question,
    (state.1, state.2 ++ [(question, (script state.2 question).1)]))
  send state _ _ := (true, state)
  broadcast state _ := (.ok (), state)
  draw := draw

theorem scripted_undisturbed (script : List (Question × Reply) → Question → Reply × Nat)
    (draw : Draw) : (scripted script draw).Undisturbed Prod.snd where
  update _ _ := rfl
  updateTime _ _ := rfl
  updateHeard _ _ := rfl
  ask _ _ _ := rfl
  askReading _ _ _ := rfl
  askHeard _ _ _ := rfl

/-- Of two peers that are due and of which nobody answers at once, both are probed in a round. -/
theorem completes_with_two_suspects :
    let known : List (Reading × ViewStep) :=
      [(0, .heartbeat ⟨"mem:2"⟩ ⟨"b"⟩), (0, .heartbeat ⟨"mem:3"⟩ ⟨"c"⟩)]
    let detector : Detector := { Detector.new .standard ⟨"a"⟩ (.manual 60000) with
      watched := .ofView ((View.new ⟨"a"⟩).performAll known) (.manual 60000) }
    let slow : List (Question × Reply) → Question → Reply × Nat := fun _ question =>
      (if question.address = ⟨"mem:2"⟩ then .ok (some SyncReply.pong.bytes) else .error .timeout, 7)
    ∃ final, (scripted slow Draw.first).Completes Prod.snd (detector, []) final ∧
      final.1.counts.probes = 2 ∧ final.1.counts.declaredDead + final.1.view.nodeCount = 2 := by
  intro known detector slow
  have sound : ((scripted slow Draw.first).detector (detector, [])).view.Sound ⟨"a"⟩ :=
    View.sound_performAll ⟨"a"⟩ known
  have passive : ((scripted slow Draw.first).detector (detector, [])).watched.IsPassive :=
    fun _ none => absurd none List.not_mem_nil
  obtain ⟨⟨final, completes⟩, decides⟩ := completes_hasDecided (scripted slow Draw.first) Prod.snd
    (scripted_undisturbed slow Draw.first) ⟨"a"⟩ (detector, []) sound passive
  obtain ⟨hearings, all, _, decided⟩ := decides final completes
  have two : hearings.length = 2 := by
    rw [← List.length_map (fun hearing : Hearing => hearing.probe.suspect), all]
    decide +kernel
  refine ⟨final, completes, ?_, ?_⟩
  · refine decided.probes.trans ?_
    rw [two]
    rfl
  · refine decided.removed.trans ?_
    decide +kernel

end Station

end PeerMesh
