/-
**A peer that shows life while it is probed is not buried.**

Between the moment at which a peer is found to be suspected and the end of its probe anything may happen
to the view. Whatever refreshes the record of the peer, replaces it, removes it or admits the peer anew
is a sign (`View.Stirs`), and after a sign the admission that is probed is not live any more, or is not
suspected any more (`View.Settled`).

* `stirs_of_heartbeat`, `stirs_of_observe`, `stirs_of_removal` — which operations are signs.
* `settled_of_stirred` — after a sign, whatever else happens, the admission is settled.
* **`conclude_of_stirred`** — the end of a probe whose suspect showed a sign neither buries nor admits
  anybody.
* `beginRound_probesOnly`, `hear_probesOnly` — a round under way probes suspects that were found at its
  beginning, and nobody else.
-/

import PeerMesh.Proofs.View.Happenings
import PeerMesh.Proofs.Detector.Asking
import PeerMesh.Detector.Rig

namespace PeerMesh

namespace View

variable {view : View} {id : NodeId} {serial : Nat} {happening : Happening}
  {happenings : List Happening}

/-- Which admission of a peer is live, and how often it was heard of. -/
def signs (view : View) (id : NodeId) : Option (Nat × UInt64) :=
  (view.live.get? id).map fun member => (member.serial, member.record.touchCount)

/-- A happening refreshes the record of a peer, replaces it, removes it or admits the peer. -/
def Stirs (view : View) (happening : Happening) (id : NodeId) : Prop :=
  (view.undergo happening).signs id ≠ view.signs id

/-- Some of the happenings is a sign of a peer. -/
def Stirred (view : View) (happenings : List Happening) (id : NodeId) : Prop :=
  ∃ before happening after, happenings = before ++ happening :: after ∧
    (view.undergoAll before).Stirs happening id

/-- The admission of a serial number is not live under an id, or is not suspected. -/
def Settled (view : View) (id : NodeId) (serial : Nat) : Prop :=
  ∀ member, view.live.get? id = some member → member.serial = serial →
    member.record.health = .normal

/-! ### What is a sign -/

/-- A new record under an id is a sign. -/
theorem enroll_signs (view : View) (numbered : view.Numbered) (now : Reading) (address : Address)
    (version : UInt64) :
    (view.enroll (newRecord now address id version)).signs id ≠ view.signs id := by
  have entry : (view.enroll (newRecord now address id version)).live.get? id =
      some ⟨view.nextSerial, newRecord now address id version⟩ := by
    show (view.live.insert _ _).get? id = _
    rw [Table.get?_insert, if_pos (newRecord_filed now address id version).named.symm]
  unfold signs
  rw [entry]
  cases known : view.live.get? id with
  | none => exact Option.some_ne_none _
  | some member =>
    intro same
    have given := numbered id member known
    have serials : view.nextSerial = member.serial := congrArg Prod.fst (Option.some.inj same)
    omega

/-- A record that is heard of is a sign. -/
theorem reset_signs (view : View) {record : Record} (known : view.get? id = some record)
    (change : Record → Record) (touched : ∀ record, (change record).touchCount =
      Record.nextCount record.touchCount) :
    (view.modifyRecord id change).signs id ≠ view.signs id := by
  obtain ⟨member, found, rfl⟩ := Option.map_eq_some_iff.mp known
  have entry : (view.modifyRecord id change).live.get? id =
      some { member with record := change member.record } := by
    show (view.live.modify id _).get? id = _
    rw [Table.get?_modify, if_pos rfl, found]
    rfl
  unfold signs
  rw [entry, found]
  intro same
  have counts : (change member.record).touchCount = member.record.touchCount :=
    congrArg Prod.snd (Option.some.inj same)
  rw [touched] at counts
  exact Record.nextCount_ne _ counts

/-- **Whoever is heard of directly shows a sign**, at whatever address, unless the view refuses it. -/
theorem stirs_of_heartbeat (numbered : view.Numbered) (accepted : view.refusal? id = none)
    (now : Reading) (address : Address) :
    view.Stirs (.operation now (.heartbeat address id)) id := by
  show (view.heartbeat now address id).view.signs id ≠ view.signs id
  have enrolled : ((view.unbury id).enroll (newRecord now address id 0)).signs id ≠ view.signs id :=
    (view.unbury id).enroll_signs numbered now address 0
  unfold heartbeat unlessRefused
  rw [accepted]
  dsimp only
  split
  · rename_i record known
    split
    · exact (view.unbury id).reset_signs known (·.reset now) fun _ => rfl
    · exact enrolled
  · exact enrolled

/-- **A live peer of which a newer version is heard shows a sign.** -/
theorem stirs_of_observe {record : Record} (accepted : view.refusal? id = none)
    (notDead : view.dead.get? id = none) (known : view.get? id = some record) {version : UInt64}
    (newer : record.isNews version = true) (now : Reading) (address : Address) :
    view.Stirs (.operation now (.observe address id version)) id := by
  show (view.observe now address id version).view.signs id ≠ view.signs id
  have refreshed : (view.modifyRecord id fun known =>
      (known.observeVersion version).reset now).signs id ≠ view.signs id := by
    refine view.reset_signs known _ fun record => ?_
    show Record.nextCount (record.observeVersion version).touchCount = _
    unfold Record.observeVersion
    split <;> rfl
  unfold observe unlessRefused
  rw [accepted, notDead, known]
  dsimp only
  rw [if_pos newer]
  exact refreshed

/-- **A live peer that is removed, in whatever way, shows a sign.** -/
theorem stirs_of_removal {member : Member} (live : view.live.get? id = some member)
    (now : Reading) {step : ViewStep}
    (removal : step = .removeDead id ∨ step = .removeLeaving id ∨ step = .clear) :
    view.Stirs (.operation now step) id := by
  have gone : (view.undergo (.operation now step)).live.get? id = none := by
    have erased : (view.live.erase id).get? id = none := by rw [Table.get?_erase, if_pos rfl]
    rcases removal with rfl | rfl | rfl
    · show (view.removeDead now id).view.live.get? id = none
      unfold removeDead
      rw [live]
      exact erased
    · show (view.removeLeaving id).view.live.get? id = none
      unfold removeLeaving
      rw [live]
      exact erased
    · rfl
  unfold Stirs signs
  rw [gone, live]
  exact fun same => Option.some_ne_none _ same.symm

/-! ### After a sign -/

/-- A settled admission stays settled as long as nobody suspects the peer. -/
theorem Settled.undergo (settled : view.Settled id serial) (given : serial < view.nextSerial)
    (spares : happening.Spares id) : (view.undergo happening).Settled id serial := by
  intro member found same
  obtain ⟨earlier, known, sameSerial, calm⟩ | ⟨isNew, _, _⟩ :=
    (view.undergo_succeeds happening).heirs id member found
  · rcases calm spares with ⟨_, health⟩ | normal
    · rw [health]
      exact settled earlier known (sameSerial.symm.trans same)
    · exact normal
  · exact absurd same (Nat.ne_of_gt (Nat.lt_of_lt_of_le given isNew))

/-- A sign settles the admission that was live before. -/
theorem settled_of_stirs (stirs : view.Stirs happening id) (given : serial < view.nextSerial)
    (spares : happening.Spares id) : (view.undergo happening).Settled id serial := by
  intro member found same
  obtain ⟨earlier, known, sameSerial, calm⟩ | ⟨isNew, _, _⟩ :=
    (view.undergo_succeeds happening).heirs id member found
  · rcases calm spares with ⟨count, _⟩ | normal
    · refine absurd ?_ stirs
      unfold signs
      rw [found, known, Option.map_some, Option.map_some, sameSerial, count]
    · exact normal
  · exact absurd same (Nat.ne_of_gt (Nat.lt_of_lt_of_le given isNew))

theorem serials_undergoAll (view : View) (happenings : List Happening) :
    view.nextSerial ≤ (view.undergoAll happenings).nextSerial := by
  induction happenings generalizing view with
  | nil => exact Nat.le_refl _
  | cons happening rest ih =>
    exact Nat.le_trans (view.undergo_succeeds happening).serials (ih (view.undergo happening))

theorem Settled.undergoAll (settled : view.Settled id serial) (given : serial < view.nextSerial)
    (spared : ∀ happening ∈ happenings, happening.Spares id) :
    (view.undergoAll happenings).Settled id serial := by
  induction happenings generalizing view with
  | nil => exact settled
  | cons happening rest ih =>
    have first := settled.undergo given (spared happening List.mem_cons_self)
    have later := Nat.lt_of_lt_of_le given (view.undergo_succeeds happening).serials
    exact ih first later fun other member => spared other (List.mem_cons_of_mem _ member)

/-- **After a sign the admission is settled**, whatever happens before and afterwards. -/
theorem settled_of_stirred (stirred : view.Stirred happenings id) (given : serial < view.nextSerial)
    (spared : ∀ happening ∈ happenings, happening.Spares id) :
    (view.undergoAll happenings).Settled id serial := by
  obtain ⟨before, happening, after, rfl, stirs⟩ := stirred
  have reached := Nat.lt_of_lt_of_le given (view.serials_undergoAll before)
  have settled := settled_of_stirs stirs reached (spared happening (by simp))
  have later := Nat.lt_of_lt_of_le reached
    ((view.undergoAll before).undergo_succeeds happening).serials
  rw [undergoAll_append]
  exact settled.undergoAll later fun other member => spared other (by simp [member])

/-! ### The end of the probe -/

theorem contains_modify {ν : Type} (table : Table NodeId ν) (key other : NodeId) (change : ν → ν) :
    (table.modify key change).contains other = table.contains other := by
  unfold Table.contains
  rw [Table.get?_modify]
  split
  · rename_i same
    rw [same, Option.isSome_map]
  · rfl

/-- **The end of a probe of a settled admission tells nobody of anything**, and leaves everybody live
or tombstoned as before. -/
theorem conclude_of_settled {probe : Probe} (settled : view.Settled probe.id probe.suspect.serial)
    (now : Reading) (affirmed : Bool) :
    (view.conclude now probe affirmed).answer = false ∧
      (view.conclude now probe affirmed).notices = [] ∧
      ∀ id, (view.conclude now probe affirmed).view.isLive id = view.isLive id ∧
        (view.conclude now probe affirmed).view.isDead id = view.isDead id := by
  have notSuspect : view.isStillSuspect probe.suspect = false := by
    unfold isStillSuspect
    cases found : view.live.get? probe.suspect.record.id with
    | none => rfl
    | some member =>
      rw [Option.any_some, Bool.and_eq_false_iff, decide_eq_false_iff_not, decide_eq_false_iff_not]
      by_cases same : member.serial = probe.suspect.serial
      · right
        rw [settled member found same]
        decide
      · exact .inl same
  unfold conclude
  cases affirmed with
  | true =>
    exact ⟨rfl, rfl, fun id => ⟨contains_modify view.live probe.id id _,
      contains_modify view.dead probe.id id _⟩⟩
  | false =>
    rw [notSuspect]
    exact ⟨rfl, rfl, fun id => ⟨rfl, rfl⟩⟩

end View

/-- The end of a probe of a settled admission changes no count, and leaves everybody live or tombstoned as
before, whoever watches the view. -/
theorem Detector.conclude_of_settled {detector : Detector} {probing : Probing}
    (settled : detector.view.Settled probing.probe.id probing.probe.suspect.serial) (time : Nat) :
    (detector.conclude time probing).counts = detector.counts ∧
      ∀ id, (detector.conclude time probing).view.isLive id = detector.view.isLive id ∧
        (detector.conclude time probing).view.isDead id = detector.view.isDead id := by
  obtain ⟨unanswered, untold, same⟩ := View.conclude_of_settled settled
    (detector.watched.now time) probing.affirmed
  have ended : detector.conclude time probing = { detector with watched := { detector.watched with
      view := (detector.view.conclude (detector.watched.now time) probing.probe
        probing.affirmed).view } } := by
    unfold Detector.conclude Detector.run Watched.run
    rw [show detector.watched.view = detector.view from rfl]
    dsimp only
    rw [unanswered, untold]
    rfl
  rw [ended]
  exact ⟨rfl, same⟩

/-! ### Whom a round probes -/

/-- Only some of the suspects are probed in a round. -/
def Round.ProbesOnly (round : Round) (suspects : List Member) : Prop :=
  ∀ probing ∈ round.probings, probing.probe.suspect ∈ suspects

namespace Station

variable {σ : Type} {station : Station σ} {round later : Round} {suspects : List Member}

theorem probe_probesOnly (only : round.ProbesOnly suspects) {suspect : Member}
    (member : suspect ∈ suspects) (state : σ) :
    (station.probe (round, state) suspect).1.ProbesOnly suspects := by
  unfold probe
  dsimp only
  split
  · exact only
  · intro probing among
    rcases List.mem_append.mp among with old | new
    · exact only probing old
    · rw [List.mem_singleton.mp new, probe_askAll]
      exact member

/-- **A round under way probes suspects that were found at its beginning**, and nobody else. -/
theorem beginRound_probesOnly
    (updates : ∀ change state,
      station.detector (station.update change state) = change (station.detector state))
    {begun : σ} (under : (station.beginRound begun).1 = some round) :
    round.ProbesOnly ((station.detector begun).age (station.time begun)).view.suspects := by
  have probeAll : ∀ (suspects part : List Member) (asked : Round × σ), part ⊆ suspects →
      asked.1.ProbesOnly suspects → (part.foldl station.probe asked).1.ProbesOnly suspects := by
    intro suspects part
    induction part with
    | nil => exact fun _ _ only => only
    | cons suspect rest ih =>
      intro asked among only
      obtain ⟨member, others⟩ := List.cons_subset.mp among
      exact ih _ others (probe_probesOnly only member asked.2)
  rw [settle_under under, updates]
  exact probeAll _ _ (⟨[], []⟩, _) (List.Subset.refl _) fun _ none => absurd none List.not_mem_nil

/-- The suspects probed in a round stay the same while replies come. -/
theorem hear_probesOnly (only : round.ProbesOnly suspects) {awaited : Awaited} {state : σ}
    (under : (station.hear round awaited state).1 = some later) : later.ProbesOnly suspects := by
  rw [settle_under under]
  intro probing among
  obtain ⟨earlier, known, rfl⟩ := List.mem_map.mp (List.mem_filter.mp among).1
  have same : (earlier.hear awaited).probe = earlier.probe := earlier.probe_hear awaited
  show (earlier.hear awaited).probe.suspect ∈ suspects
  rw [same]
  exact only earlier known

/-! ### The end of a probe under way -/

/-- **A probe never buries a peer that showed a sign while it was under way.** If the peer was removed it
is not buried either, nor admitted again, and nobody is counted as dead. -/
theorem conclude_of_stirred (station : Station σ)
    (updates : ∀ change state,
      station.detector (station.update change state) = change (station.detector state))
    (selfId : NodeId) (past meanwhile : List Happening) (begun decided : σ) (suspect : Member)
    (probing : Probing)
    (reached : (station.detector begun).view = (View.new selfId).undergoAll past)
    (found : suspect ∈ ((station.detector begun).age (station.time begun)).view.suspects)
    (probed : probing.probe.suspect = suspect)
    (course : (station.detector decided).view =
      ((station.detector begun).age (station.time begun)).view.undergoAll meanwhile)
    (spared : ∀ happening ∈ meanwhile, happening.Spares suspect.record.id)
    (stirred : ((station.detector begun).age (station.time begun)).view.Stirred meanwhile
      suspect.record.id) :
    let before := station.detector decided
    let after := station.detector (station.conclude probing decided)
    after.counts = before.counts ∧ ∀ id, after.view.isLive id = before.view.isLive id ∧
      after.view.isDead id = before.view.isDead id := by
  have aged : ((station.detector begun).age (station.time begun)).view.Numbered := by
    have numbered := (View.new_numbered selfId).undergoAll past
    rw [← reached] at numbered
    exact numbered.succeeds (View.age_succeeds _ _ _)
  obtain ⟨⟨key, live⟩, _⟩ := View.mem_suspects_iff.mp found
  have settled := View.settled_of_stirred stirred (aged key suspect live) spared
  rw [← course, ← probed] at settled
  unfold conclude
  rw [updates]
  exact Detector.conclude_of_settled settled (station.time decided)

/-- A suspect that leaves and comes back at another address while it is probed stays, although nobody
answers for it. -/
theorem conclude_of_rejoin :
    let peer : NodeId := ⟨"b"⟩
    let past : List Happening := [.operation 0 (.heartbeat ⟨"mem:2"⟩ peer)]
    let meanwhile : List Happening :=
      [.operation 60000 (.removeLeaving peer), .operation 60000 (.addHost ⟨"mem:9"⟩ peer)]
    let suspect : Member := ⟨0, (View.newRecord 0 ⟨"mem:2"⟩ peer 0).suspect⟩
    let begun := (Rig.new .standard ⟨"a"⟩ (.manual 60000) true).update fun detector =>
      { detector with watched := detector.watched.mapView (·.undergoAll past) }
    let decided := begun.update fun detector =>
      { detector with watched := (detector.age 0).watched.mapView (·.undergoAll meanwhile) }
    let after := Rig.station.conclude ⟨⟨suspect, []⟩, [], false⟩ decided
    after.detector.view.isLive peer = true ∧ after.detector.view.isDead peer = false := by
  intro peer past meanwhile suspect begun decided after
  have spared : ∀ happening ∈ meanwhile, happening.Spares peer := by
    intro happening member
    rcases List.mem_cons.mp member with rfl | second
    · trivial
    · rw [List.mem_singleton.mp second]
      trivial
  have stirred : (begun.detector.age begun.time).view.Stirred meanwhile peer :=
    ⟨[], .operation 60000 (.removeLeaving peer), _, rfl, by
      show View.signs _ _ ≠ View.signs _ _
      decide +kernel⟩
  obtain ⟨_, same⟩ := conclude_of_stirred Rig.station (fun _ _ => rfl) ⟨"a"⟩ past meanwhile begun
    decided suspect ⟨⟨suspect, []⟩, [], false⟩ rfl (by decide +kernel) rfl rfl spared stirred
  obtain ⟨live, dead⟩ := same peer
  refine ⟨live.trans ?_, dead.trans ?_⟩
  · decide +kernel
  · decide +kernel

end Station

end PeerMesh
