/-
**Closed channels are inert, and stay so.**

* `Mesh.IsConsistent` — the network holds no more of a channel than the channel itself, a channel that is only
  created has no end on it and no socket, and closed channels are inert. A channel that is being started or taken
  apart is left out (*busy*).
* `Mesh.Ages` — from one mesh to a later one no phase goes back, and the channels at rest have only left off.
* `Mesh.Proceeds` — a consistent mesh stays so and ages, its closed channels at rest.
* **`start_proceeds`**, **`close_proceeds`** — the beginning and the end of a channel.
-/

import PeerMesh.Proofs.Mesh.Ends

namespace PeerMesh

/-- How far a channel has come by its phase. -/
def Phase.rank : Phase → Nat
  | .created => 0
  | .started => 1
  | .closed => 2

theorem Phase.eq_closed_of_rank {phase : Phase} (far : Phase.rank .closed ≤ phase.rank) : phase = .closed := by
  cases phase with
  | closed => rfl
  | created | started => exact absurd far (by decide)

namespace Mesh

variable {rests busy : Nat → Prop} {mesh later last : Mesh} {n : Nat}

/-! ### Growing older -/

/-- No phase has gone back, and the channels at rest have only left off. -/
structure Ages (rests : Nat → Prop) (before after : Mesh) : Prop where
  count : before.channels.length ≤ after.channels.length
  phase : ∀ n, (before.channel n).phase.rank ≤ (after.channel n).phase.rank
  ports : ∀ n, rests n → after.portsOf n = before.portsOf n
  rest : ∀ n, rests n → (before.channel n).StaysInert (after.channel n)
  log : ∃ since, after.log = since ++ before.log ∧
    ∀ n, rests n → (before.channel n).LeavesOff n since (after.channel n)

theorem Ages.refl (rests : Nat → Prop) (mesh : Mesh) : mesh.Ages rests mesh :=
  ⟨Nat.le_refl _, fun _ => Nat.le_refl _, fun _ _ => rfl, fun _ _ => .refl _, [], rfl, fun n _ => .refl n _⟩

theorem Ages.trans (first : mesh.Ages rests later) (second : later.Ages rests last) : mesh.Ages rests last := by
  obtain ⟨earlier, begins, leaves⟩ := first.log
  obtain ⟨since, goesOn, stillLeaves⟩ := second.log
  exact ⟨Nat.le_trans first.count second.count, fun n => Nat.le_trans (first.phase n) (second.phase n),
    fun n isRest => (second.ports n isRest).trans (first.ports n isRest),
    fun n isRest => (first.rest n isRest).trans (second.rest n isRest),
    since ++ earlier, by rw [goesOn, begins, List.append_assoc],
    fun n isRest => (leaves n isRest).trans (stillLeaves n isRest)⟩

/-- Fewer channels are at rest. -/
theorem Ages.mono {fewer : Nat → Prop} (ages : mesh.Ages rests later) (less : ∀ n, fewer n → rests n) :
    mesh.Ages fewer later := by
  obtain ⟨since, log, leaves⟩ := ages.log
  exact ⟨ages.count, ages.phase, fun n isRest => ages.ports n (less n isRest),
    fun n isRest => ages.rest n (less n isRest),
    since, log, fun n isRest => leaves n (less n isRest)⟩

theorem PassesBy.ages (passes : mesh.PassesBy rests later) : mesh.Ages rests later where
  count := Nat.le_of_eq passes.count.symm
  phase n := by rw [show (later.channel n).phase = _ from congrArg Channel.Standing.phase (passes.standing n)]; rfl
  ports n _ := congrFun passes.ports n
  rest := passes.rest
  log := passes.log

theorem Alters.ages (alters : mesh.Alters n later) (awake : ¬ rests n) : mesh.Ages rests later := by
  have other (m : Nat) (isRest : rests m) : m ≠ n := fun same => awake (same ▸ isRest)
  have same (m : Nat) (isRest : rests m) : later.channel m = mesh.channel m := alters.others m (other m isRest)
  refine ⟨Nat.le_of_eq alters.count.symm, fun m => ?_, fun m isRest => alters.ports m (other m isRest),
    fun m isRest => ?_, [], alters.log, fun m isRest => ?_⟩
  · by_cases same : m = n
    · subst same
      rw [alters.phase]
    · rw [alters.others m same]
  · rw [same m isRest]
    exact .refl _
  · rw [same m isRest]
    exact .refl m _

/-- The network holds no more of a channel than the channel itself; one that is only created has no end on it, and
no socket at which connections are accepted; closed channels are inert, and nobody waits on their behalf. Busy
channels are left out. -/
structure IsConsistent (busy : Nat → Prop) (mesh : Mesh) : Prop where
  matched : mesh.IsMatched
  created : ∀ n, ¬ busy n → (mesh.channel n).phase = .created → (mesh.channel n).HasNoEnds
  unported : ∀ n, ¬ busy n → (mesh.channel n).phase = .created → mesh.portsOf n = []
  closed : ∀ n, ¬ busy n → (mesh.channel n).phase = .closed → (mesh.channel n).IsInert
  waiting : ∀ parked ∈ mesh.gate.waiting, ¬ busy parked.channel →
    (mesh.channel parked.channel).phase ≠ .closed
  errands : ∀ errand ∈ mesh.errands, ¬ busy errand.channel → (mesh.channel errand.channel).phase ≠ .closed

/-- The channels at rest: those that are closed, but for the busy ones. -/
def AtRest (busy : Nat → Prop) (mesh : Mesh) (n : Nat) : Prop := ¬ busy n ∧ (mesh.channel n).phase = .closed

/-- No channel is busy. -/
def Nobody : Nat → Prop := fun _ => False

theorem IsConsistent.isApart (consistent : mesh.IsConsistent busy) : mesh.IsApart (mesh.AtRest busy) := by
  refine ⟨fun n isRest => consistent.closed n isRest.1 isRest.2, fun address endpoint found => ?_,
    fun party among => ?_, fun parked waits isRest => consistent.waiting parked waits isRest.1 isRest.2,
    fun errand runs isRest => consistent.errands errand runs isRest.1 isRest.2⟩
  · cases receives : endpoint.receiver with
    | outsider receiver => trivial
    | channel n =>
      intro isRest
      exact (consistent.closed n isRest.1 isRest.2).hasNoEnds.line address
        (consistent.matched.unicast address endpoint found n receives)
  · cases party with
    | outsider receiver => trivial
    | channel n =>
      intro isRest
      obtain ⟨number, joined⟩ := (Table.mem_values_iff _ _).mp among
      exact (consistent.closed n isRest.1 isRest.2).hasNoEnds.group number
        (consistent.matched.groups number _ joined n rfl)

/-- Traffic keeps a mesh consistent. -/
theorem PassesBy.isConsistent (passes : mesh.PassesBy (mesh.AtRest busy) later)
    (consistent : mesh.IsConsistent busy) : later.IsConsistent busy := by
  have phase (n : Nat) : (later.channel n).phase = (mesh.channel n).phase :=
    congrArg Channel.Standing.phase (passes.standing n)
  refine ⟨consistent.matched.of_standing passes.network passes.standing, fun n free isNew => ?_,
    fun n free isNew => ?_, fun n free ended => ?_, fun parked waits free ended => ?_,
    fun errand runs free ended => ?_⟩
  · rw [phase] at isNew
    exact (consistent.created n free isNew).of_standing (passes.standing n)
  · rw [phase] at isNew
    exact (congrFun passes.ports n).trans (consistent.unported n free isNew)
  · rw [phase] at ended
    exact (passes.rest n ⟨free, ended⟩ (consistent.closed n free ended)).1
  · rw [phase] at ended
    exact consistent.waiting parked (passes.waiting parked waits ⟨free, ended⟩) free ended
  · rw [phase] at ended
    exact consistent.errands errand (passes.errands errand runs ⟨free, ended⟩) free ended

/-- Work on the busy channel keeps the others consistent. -/
theorem Alters.isConsistent (alters : mesh.Alters n later) (matched : later.IsMatched)
    (consistent : mesh.IsConsistent (· = n)) : later.IsConsistent (· = n) := by
  refine ⟨matched, fun m other isNew => ?_, fun m other isNew => ?_, fun m other ended => ?_,
    fun parked waits other => ?_, fun errand runs other => ?_⟩
  · rw [alters.others m other] at isNew ⊢
    exact consistent.created m other isNew
  · rw [alters.others m other] at isNew
    exact (alters.ports m other).trans (consistent.unported m other isNew)
  · rw [alters.others m other] at ended ⊢
    exact consistent.closed m other ended
  · rw [alters.others _ other]
    exact consistent.waiting parked (alters.waiting waits) other
  · rw [alters.others _ other]
    exact consistent.errands errand (alters.errands runs) other

/-- A channel that is started is busy no more. -/
theorem IsConsistent.release (consistent : mesh.IsConsistent (· = n))
    (started : (mesh.channel n).phase = .started) : mesh.IsConsistent Nobody := by
  have other {m : Nat} {phase : Phase} (inPhase : (mesh.channel m).phase = phase) (differs : phase ≠ .started) :
      m ≠ n := by
    intro same
    subst same
    exact differs (inPhase.symm.trans started)
  refine ⟨consistent.matched, fun m _ isNew => consistent.created m (other isNew (by decide)) isNew,
    fun m _ isNew => consistent.unported m (other isNew (by decide)) isNew,
    fun m _ ended => consistent.closed m (other ended (by decide)) ended,
    fun parked waits _ ended => consistent.waiting parked waits (other ended (by decide)) ended,
    fun errand runs _ ended => consistent.errands errand runs (other ended (by decide)) ended⟩

/-- A closed channel that is taken apart is busy no more. -/
theorem IsConsistent.teardown (consistent : mesh.IsConsistent (· = n))
    (closed : (mesh.channel n).phase = .closed) : (mesh.teardown n).IsConsistent Nobody := by
  have there := there_of_phase closed (by decide)
  obtain ⟨inert, noneWaits, noneRuns⟩ := teardown_isInert there closed
  have apart := (mesh.teardown_alters n).isConsistent (consistent.matched.teardown n) consistent
  have notNew {m : Nat} (isNew : ((mesh.teardown n).channel m).phase = .created) : m ≠ n := by
    intro same
    subst same
    rw [inert.closed] at isNew
    cases isNew
  refine ⟨apart.matched, fun m _ isNew => apart.created m (notNew isNew) isNew,
    fun m _ isNew => apart.unported m (notNew isNew) isNew, fun m _ ended => ?_,
    fun parked waits _ => apart.waiting parked waits (noneWaits parked waits),
    fun errand runs _ => apart.errands errand runs (noneRuns errand runs)⟩
  by_cases same : m = n
  · subst same
    exact inert
  · exact apart.closed m same ended

/-! ### From one moment to the next -/

/-- A consistent mesh stays so and ages, its closed channels at rest. -/
def Proceeds (before after : Mesh) : Prop :=
  before.IsConsistent Nobody → after.IsConsistent Nobody ∧ before.Ages (before.AtRest Nobody) after

theorem Proceeds.refl (mesh : Mesh) : mesh.Proceeds mesh := fun consistent => ⟨consistent, .refl _ mesh⟩

/-- What is closed is still so later. -/
theorem Ages.atRest (ages : mesh.Ages rests later) (n : Nat) (isRest : mesh.AtRest Nobody n) :
    later.AtRest Nobody n := by
  refine ⟨isRest.1, Phase.eq_closed_of_rank ?_⟩
  rw [← isRest.2]
  exact ages.phase n

theorem Proceeds.trans (first : mesh.Proceeds later) (second : later.Proceeds last) : mesh.Proceeds last := by
  intro consistent
  obtain ⟨stillConsistent, ages⟩ := first consistent
  obtain ⟨everConsistent, agesOn⟩ := second stillConsistent
  exact ⟨everConsistent, ages.trans (agesOn.mono ages.atRest)⟩

theorem isApart_nobody (mesh : Mesh) : mesh.IsApart Nobody := by
  have awake (party : Party) : party.IsAwake Nobody := by
    cases party with
    | outsider receiver => trivial
    | channel n => exact id
  exact ⟨fun _ none => none.elim, fun _ endpoint _ => awake endpoint.receiver, fun party _ => awake party,
    fun _ _ => id, fun _ _ => id⟩

/-- Whatever channels are at rest, traffic leaves the standing of all channels alone. -/
theorem Traffic.standing (traffic : mesh.Traffic Nobody later) (n : Nat) :
    (later.channel n).standing = (mesh.channel n).standing :=
  (traffic (isApart_nobody mesh)).standing n

theorem postAll_standing (mesh : Mesh) (n m : Nat) (outgoing : List Outgoing) :
    ((mesh.postAll n outgoing).channel m).standing = (mesh.channel m).standing := by
  have traffic : mesh.Traffic Nobody (mesh.postAll n outgoing) := mesh.postAll_traffic id outgoing
  exact traffic.standing m

theorem channel_modify_phase (there : n < mesh.channels.length) (phase : Phase) :
    ((mesh.modify n ({ · with phase := phase })).channel n).phase = phase := by
  rw [channel_modify there]

/-- What a start does to a channel that is only created. -/
theorem start_cases (created : (mesh.channel n).phase = .created) :
    let begun := mesh.modify n ({ · with phase := .started })
    mesh.start n = (.ok (), (begun.startParts n).2) ∨
      ∃ error, mesh.start n = (.error error,
        ((begun.startParts n).2.modify n ({ · with phase := .closed })).teardown n) := by
  intro begun
  unfold Mesh.start
  rw [created]
  dsimp only
  cases parts : begun.startParts n with
  | mk result later =>
    cases result with
    | ok done => exact .inl rfl
    | error error => exact .inr ⟨error, rfl⟩

/-- What closing does to a started channel, its place in the registry apart. -/
def shutDown (mesh : Mesh) (n : Nat) : Mesh :=
  ((mesh.modify n ({ · with phase := .closed })).postAll n (farewell (mesh.channel n) .shutdown)).teardown n

theorem close_of_started (started : (mesh.channel n).phase = .started) :
    mesh.close n =
      if (mesh.channel n).isLinked then ((mesh.shutDown n).unregister n).2 else mesh.shutDown n := by
  unfold Mesh.close
  dsimp only
  rw [if_pos started]
  rfl

theorem close_of_not_started (notStarted : (mesh.channel n).phase ≠ .started) : mesh.close n = mesh := by
  unfold Mesh.close
  dsimp only
  rw [if_neg notStarted]

theorem shutDown_phase (started : (mesh.channel n).phase = .started) :
    ((mesh.shutDown n).channel n).phase = .closed := by
  rw [shutDown, (teardown_alters _ n).phase]
  exact (congrArg Channel.Standing.phase (postAll_standing _ n n _)).trans
    (channel_modify_phase (there_of_phase started (by decide)) .closed)

@[simp] theorem channel_unregister (mesh : Mesh) (n m : Nat) : (mesh.unregister n).2.channel m = mesh.channel m := rfl

end Mesh

end PeerMesh
