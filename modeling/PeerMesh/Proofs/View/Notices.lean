/-
**What is told of the peers of a view.**

Every step tells who has come and who has gone, and nothing else, so whoever follows the notices knows
which peers are live.

* `View.Tells` — followed from one view on, notices lead to the peers of a later one.
* `View.Admission` — how the three operations that can admit a peer end: it comes, and that is told, or
  nobody comes or goes, and nothing is told.
* `perform_tells`, `noticesAll_tells` — one step, and all steps, tell what they do.
* `TakesTurns` — a peer comes first, and then goes and comes in turns (`takesTurns_of_follow`).
* `perform_announces` — a step that can admit a peer answers yes exactly if it has come, and exactly then
  one notice is told.
-/

import Mathlib.Data.List.Chain
import PeerMesh.Proofs.View.History

namespace PeerMesh

/-! ### Following notices -/

/-- Whether a peer is live after a change, if the change is one for it. -/
def Change.follow? (isLive : Bool) : Change → Option Bool
  | .up => if isLive then none else some true
  | .down | .left => if isLive then some false else none

/-- The changes of one peer that notices tell of. -/
def changesOf (id : NodeId) (notices : List Notice) : List Change :=
  (notices.filter (·.node.id = id)).map Notice.change

theorem changesOf_append (id : NodeId) (first second : List Notice) :
    changesOf id (first ++ second) = changesOf id first ++ changesOf id second := by
  unfold changesOf
  rw [List.filter_append, List.map_append]

theorem changesOf_singleton (id : NodeId) (notice : Notice) :
    changesOf id [notice] = if notice.node.id = id then [notice.change] else [] := by
  unfold changesOf
  by_cases same : notice.node.id = id <;> simp [same]

/-- A peer comes first, and then goes and comes in turns. -/
structure TakesTurns (changes : List Change) : Prop where
  comesFirst : ∀ change ∈ changes.head?, change = .up
  inTurns : changes.IsChain fun first second => first = .up ↔ second ≠ .up

theorem Change.follow?_eq_some_iff {isLive later : Bool} {change : Change} :
    change.follow? isLive = some later ↔ (change = .up ↔ isLive = false) ∧ later = !isLive := by
  cases change <;> cases isLive <;> cases later <;> decide

/-- Changes that can be followed come in turns, and the last one says whether the peer is live. -/
theorem inTurns_of_follow (changes : List Change) : ∀ {isLive later : Bool},
    changes.foldlM Change.follow? isLive = some later →
      (∀ change ∈ changes.head?, (change = .up ↔ isLive = false)) ∧
      (changes.IsChain fun first second => first = .up ↔ second ≠ .up) ∧
      ∀ last ∈ changes.getLast?, (later = true ↔ last = .up) := by
  induction changes with
  | nil => exact fun _ => ⟨fun _ none => (by cases none), .nil, fun _ none => (by cases none)⟩
  | cons change rest ih =>
    intro isLive later followed
    rw [List.foldlM_cons] at followed
    obtain ⟨next, first, others⟩ := Option.bind_eq_some_iff.mp followed
    obtain ⟨turn, rfl⟩ := Change.follow?_eq_some_iff.mp first
    obtain ⟨head, chain, last⟩ := ih others
    refine ⟨?_, List.isChain_cons.mpr ⟨fun second among => ?_, chain⟩, ?_⟩
    · rintro _ ⟨⟩
      exact turn
    · rw [turn, Ne, head second among]
      cases isLive <;> decide
    · cases rest with
      | nil =>
        rintro _ ⟨⟩
        obtain rfl := Option.some.inj others
        show (!isLive) = true ↔ change = .up
        rw [turn]
        cases isLive <;> decide
      | cons second rest =>
        rw [List.getLast?_cons_cons]
        exact last

/-- **Changes that can be followed from nobody on take turns**, and the peer is live exactly if it came
last. -/
theorem takesTurns_of_follow {changes : List Change} {later : Bool}
    (followed : changes.foldlM Change.follow? false = some later) :
    TakesTurns changes ∧ (later = true ↔ changes.getLast? = some .up) := by
  obtain ⟨head, chain, last⟩ := inTurns_of_follow changes followed
  refine ⟨⟨fun change among => (head change among).mpr rfl, chain⟩, ?_⟩
  cases final : changes.getLast? with
  | none =>
    obtain rfl := List.getLast?_eq_none_iff.mp final
    obtain rfl := Option.some.inj followed
    decide
  | some change =>
    rw [last change final, Option.some_inj]

/-- Whom a step may admit: at which address, under which id, and with which version. -/
def ViewStep.newcomer? : ViewStep → Option (Address × NodeId × UInt64)
  | .addHost address id | .heartbeat address id => some (address, id, 0)
  | .observe address id version => some (address, id, version)
  | _ => none

namespace View

/-- The notices of a step that is made while the clock shows a reading. -/
def notices (view : View) (now : Reading) (step : ViewStep) : List Notice :=
  (Kept.perform ⟨view, .manual now⟩ 0 step).2.2

/-- The notices of steps that are made one after another, each at its reading. -/
def noticesAll (view : View) : List (Reading × ViewStep) → List Notice
  | [] => []
  | (now, step) :: rest => view.notices now step ++ (view.perform now step).2.noticesAll rest

/-- Followed from one view on, notices lead to the peers of a later one. -/
def Tells (before : View) (notices : List Notice) (after : View) : Prop :=
  ∀ id, (changesOf id notices).foldlM Change.follow? (before.isLive id) = some (after.isLive id)

variable {selfId : NodeId} {view later : View}

theorem isLive_eq (view : View) (id : NodeId) : view.isLive id = (view.get? id).isSome := by
  unfold isLive Table.contains get?
  rw [Option.isSome_map]

/-- Nobody comes or goes. -/
theorem tells_nothing (same : ∀ id, later.isLive id = view.isLive id) : view.Tells [] later :=
  fun id => congrArg some (same id).symm

theorem Tells.trans {last : View} {first second : List Notice} (begins : view.Tells first later)
    (goesOn : later.Tells second last) : view.Tells (first ++ second) last := by
  intro id
  rw [changesOf_append, List.foldlM_append, begins id]
  exact goesOn id

/-- One peer comes or goes, and everybody else stays. -/
theorem tells_change {notice : Notice} (isLive : Bool)
    (turn : notice.change.follow? (view.isLive notice.node.id) = some isLive)
    (live : ∀ id, later.isLive id = if id = notice.node.id then isLive else view.isLive id) :
    view.Tells [notice] later := by
  intro id
  rw [changesOf_singleton, live]
  by_cases same : notice.node.id = id
  · subst same
    simp [turn]
  · rw [if_neg same, if_neg (Ne.symm same)]
    rfl

/-! ### Operations that can admit a peer -/

/-- How an operation that can admit the peer of a record ends: the peer comes, and that is told, or nobody
comes or goes, and nothing is told. -/
inductive Admission (before : View) (record : Record) : Outcome (Except ViewError Bool) → Prop where
  | admitted {after : View} (stranger : before.isLive record.id = false)
      (live : ∀ id, after.get? id = if id = record.id then some record else before.get? id) :
      Admission before record ⟨.ok true, after, [⟨.up, record⟩]⟩
  | nobody {answer : Except ViewError Bool} {after : View} (denied : answer ≠ .ok true)
      (same : ∀ id, after.isLive id = before.isLive id) : Admission before record ⟨answer, after, []⟩

variable {record : Record} {outcome : Outcome (Except ViewError Bool)}

theorem Admission.tells (admission : view.Admission record outcome) :
    view.Tells outcome.notices outcome.view := by
  cases admission with
  | admitted stranger live =>
    refine tells_change true ?_ fun id => ?_
    · show Change.follow? (view.isLive record.id) .up = some true
      rw [stranger]
      rfl
    · rw [isLive_eq, live]
      show Option.isSome (if id = record.id then _ else _) = if id = record.id then true else _
      split
      · rfl
      · exact (view.isLive_eq id).symm
  | nobody denied same => exact tells_nothing same

/-- The record of a peer just heard of. -/
theorem newRecord_eq (now : Reading) (address : Address) (id : NodeId) (version : UInt64) :
    newRecord now address id version = ⟨id, address, .normal, max 0 now, 1, version⟩ := by
  unfold newRecord Record.observeVersion Record.isNews
  split
  · rfl
  · rename_i stale
    have zero : version = 0 := by
      refine UInt64.toNat_inj.mp (Nat.eq_zero_of_not_pos fun positive => stale ?_)
      exact decide_eq_true (UInt64.lt_iff_toNat_lt.mpr positive)
    rw [zero]
    rfl

theorem get?_enroll (view : View) (record : Record) (id : NodeId) :
    (view.enroll record).get? id = if id = record.id then some record else view.get? id := by
  have inserted : (view.enroll record).live.get? id =
      if id = record.id then some ⟨view.nextSerial, record⟩ else view.live.get? id :=
    Table.get?_insert view.live record.id id _
  unfold get?
  rw [inserted]
  split <;> rfl

/-- A peer that was not live is admitted, also if its tombstone is lifted first. -/
theorem admission_of_join {risen : View} (stranger : view.isLive record.id = false)
    (live : ∀ id, risen.get? id = view.get? id) :
    view.Admission record ⟨.ok true, (risen.join record).view, (risen.join record).notices⟩ := by
  refine .admitted stranger fun id => ?_
  show (risen.enroll record).get? id = _
  rw [get?_enroll, live]

/-- An operation that may be refused ends in one of the two ways if it does so when it is not. -/
theorem admission_unlessRefused {id : NodeId} {operation : Outcome Bool}
    (admission : view.Admission record ⟨.ok operation.answer, operation.view, operation.notices⟩) :
    view.Admission record (view.unlessRefused id operation) := by
  unfold unlessRefused
  split
  · exact .nobody (fun good => by cases good) fun _ => rfl
  · exact admission

theorem isLive_of_found {id : NodeId} (found : view.get? id = some record) : view.isLive id = true := by
  rw [isLive_eq, found]
  rfl

theorem isLive_of_absent {id : NodeId} (absent : view.get? id = none) : view.isLive id = false := by
  rw [isLive_eq, absent]
  rfl

/-- Nobody is admitted: a record is changed in place, or replaced, or nothing happens. -/
theorem admission_denied {after : View} (same : ∀ id, after.isLive id = view.isLive id) :
    view.Admission record ⟨.ok false, after, []⟩ :=
  .nobody (fun good => by cases good) same

theorem isLive_modifyRecord (view : View) (key id : NodeId) (change : Record → Record) :
    (view.modifyRecord key change).isLive id = view.isLive id := by
  have changed : (view.modifyRecord key change).live.get? id =
      if id = key then (view.live.get? key).map fun member =>
        { member with record := change member.record } else view.live.get? id :=
    Table.get?_modify view.live key id _
  unfold isLive Table.contains
  rw [changed]
  split
  · rename_i same
    rw [Option.isSome_map, same]
  · rfl

theorem addHost_admission (view : View) (now : Reading) (address : Address) (id : NodeId) :
    view.Admission (newRecord now address id 0) (view.addHost now address id) := by
  refine admission_unlessRefused ?_
  split
  · exact admission_denied fun _ => rfl
  · rename_i unknown
    refine admission_of_join ?_ fun _ => rfl
    rw [newRecord_eq]
    simpa using (Bool.or_eq_false_iff.mp (Bool.eq_false_iff.mpr unknown)).2

theorem heartbeat_admission (view : View) (now : Reading) (address : Address) (id : NodeId) :
    view.Admission (newRecord now address id 0) (view.heartbeat now address id) := by
  refine admission_unlessRefused ?_
  dsimp only
  split
  · rename_i record found
    have live : view.isLive id = true := isLive_of_found found
    split
    · exact admission_denied fun other =>
        (view.unbury id).isLive_modifyRecord id other (·.reset now)
    · refine admission_denied fun other => ?_
      show ((view.unbury id).enroll (newRecord now address id 0)).isLive other = view.isLive other
      rw [isLive_eq, get?_enroll, newRecord_eq]
      split
      · rename_i same
        rw [same, live]
        rfl
      · exact (view.isLive_eq other).symm
  · rename_i absent
    refine admission_of_join ?_ fun _ => rfl
    rw [newRecord_eq]
    exact isLive_of_absent absent

/-- A tombstoned peer is not live, so lifting its tombstone is news. -/
theorem observe_admission (sound : view.Sound selfId) (now : Reading) (address : Address) (id : NodeId)
    (version : UInt64) :
    view.Admission (newRecord now address id version) (view.observe now address id version) := by
  refine admission_unlessRefused ?_
  split
  · rename_i tombstone dead
    split
    · exact admission_denied fun _ => rfl
    · refine admission_of_join ?_ fun _ => rfl
      rw [newRecord_eq]
      cases found : view.live.get? id with
      | none =>
        unfold isLive Table.contains
        rw [found]
        rfl
      | some member =>
        rw [sound.apart id member found] at dead
        cases dead
  · split
    · refine admission_denied fun other => ?_
      show (if _ then _ else _ : View).committed.isLive other = _
      split
      · exact view.isLive_modifyRecord id other fun known => (known.observeVersion version).reset now
      · rfl
    · rename_i absent
      refine admission_of_join ?_ fun _ => rfl
      rw [newRecord_eq]
      exact isLive_of_absent absent

/-! ### Operations by which peers go -/

theorem isLive_dismiss (view : View) (key id : NodeId) :
    ({ view with live := view.live.erase key } : View).isLive id =
      if id = key then false else view.isLive id := by
  show ((view.live.erase key).get? id).isSome = _
  rw [Table.get?_erase]
  split <;> rfl

/-- A peer goes, and that is told. -/
theorem tells_dismiss (sound : view.Sound selfId) {id : NodeId} {member : Member} {change : Change}
    (found : view.live.get? id = some member) (goes : change ≠ .up)
    (live : ∀ other, later.isLive other = if other = id then false else view.isLive other) :
    view.Tells [⟨change, member.record⟩] later := by
  have named := (sound.liveFiled id member found).named
  refine tells_change false ?_ fun other => ?_
  · show change.follow? (view.isLive member.record.id) = some false
    have isLive : view.isLive member.record.id = true := by
      rw [named]
      unfold isLive Table.contains
      rw [found]
      rfl
    rw [isLive]
    cases change with
    | up => exact absurd rfl goes
    | down | left => rfl
  · rw [live, ← named]

theorem removeDead_tells (sound : view.Sound selfId) (now : Reading) (id : NodeId) :
    view.Tells (view.removeDead now id).notices (view.removeDead now id).view := by
  unfold removeDead
  split
  · rename_i member found
    exact tells_dismiss sound found (by decide) (view.isLive_dismiss id)
  · exact tells_nothing fun _ => rfl

theorem removeLeaving_tells (sound : view.Sound selfId) (id : NodeId) :
    view.Tells (view.removeLeaving id).notices (view.removeLeaving id).view := by
  unfold removeLeaving
  split
  · rename_i member found
    exact tells_dismiss sound found (by decide) (view.isLive_dismiss id)
  · exact tells_nothing fun _ => rfl

/-- Everybody who is live leaves, each once. -/
theorem clear_tells (sound : view.Sound selfId) : view.Tells view.clear.notices view.clear.view := by
  intro id
  have records : (view.nodes.map fun record => (⟨.left, record⟩ : Notice)).filter (·.node.id = id) =
      (view.live.entries.filter (·.1 = id)).map fun entry => ⟨.left, entry.2.record⟩ := by
    show ((view.live.entries.map Prod.snd |>.map Member.record).map _).filter _ = _
    rw [List.map_map, List.map_map, List.filter_map]
    refine congrArg (List.map _) (List.filter_congr fun entry among => ?_)
    show decide (entry.2.record.id = id) = decide (entry.1 = id)
    rw [sound.named_of_mem_entries among]
  have changes : changesOf id view.clear.notices =
      ((view.live.get? id).toList.map fun _ => Change.left) := by
    unfold changesOf
    show (List.filter _ (view.nodes.map _)).map _ = _
    rw [records, Table.filter_key, List.map_map, List.map_map]
    rfl
  rw [changes]
  show _ = some false
  unfold isLive Table.contains
  cases view.live.get? id <;> rfl

/-! ### Steps -/

/-- **A step tells what it does** to the set of live peers. -/
theorem perform_tells (sound : view.Sound selfId) (now : Reading) (step : ViewStep) :
    view.Tells (view.notices now step) (view.perform now step).2 := by
  cases step with
  | addHost address id => exact (view.addHost_admission now address id).tells
  | heartbeat address id => exact (view.heartbeat_admission now address id).tells
  | observe address id version => exact (observe_admission sound now address id version).tells
  | removeDead id => exact removeDead_tells sound now id
  | removeLeaving id => exact removeLeaving_tells sound id
  | clear => exact clear_tells sound
  | cleanup grace =>
    refine tells_nothing fun id => ?_
    show (view.cleanup now grace).view.isLive id = view.isLive id
    unfold cleanup
    dsimp only
    split <;> rfl
  | suspect id | touch id | checkState id _ | observeVersion id _ =>
    exact tells_nothing fun other => view.isLive_modifyRecord id other _
  | shutdown | get _ | addressOf _ | isLive _ | isDead _ | normal | staleness | advance _ | set _ =>
    exact tells_nothing fun _ => rfl

/-- A step that can admit a peer ends in one of the two ways. -/
theorem perform_admission (sound : view.Sound selfId) (now : Reading) {step : ViewStep}
    {address : Address} {id : NodeId} {version : UInt64}
    (wants : step.newcomer? = some (address, id, version)) :
    ∃ outcome, view.Admission (newRecord now address id version) outcome ∧
      view.perform now step = (.ofExcept outcome.answer, outcome.view) ∧
      view.notices now step = outcome.notices := by
  cases step with
  | addHost _ _ =>
    cases wants
    exact ⟨_, view.addHost_admission now address id, rfl, rfl⟩
  | heartbeat _ _ =>
    cases wants
    exact ⟨_, view.heartbeat_admission now address id, rfl, rfl⟩
  | observe _ _ _ =>
    cases wants
    exact ⟨_, observe_admission sound now address id version, rfl, rfl⟩
  | removeDead _ | removeLeaving _ | clear | cleanup _ | shutdown | suspect _ | touch _
  | checkState _ _ | observeVersion _ _ | get _ | addressOf _ | isLive _ | isDead _ | normal
  | staleness | advance _ | set _ => cases wants

/-- What a step that can admit a peer answers and tells, from one view to the next. -/
structure Announces (before : View) (address : Address) (id : NodeId) (version : UInt64)
    (answer : ViewAnswer) (told : List Notice) (after : View) : Prop where
  /-- The answer is yes exactly if the peer was not live and is live now. -/
  answersYes : answer = .flag true ↔ before.isLive id = false ∧ after.isLive id = true
  /-- Then one notice is told: that the peer has come, with the record just made of it. -/
  tellsOnce : answer = .flag true → ∃ touches count, told = [⟨.up, ⟨id, address, .normal, touches, count,
    version⟩⟩] ∧ after.get? id = some ⟨id, address, .normal, touches, count, version⟩
  /-- Otherwise nothing is told. -/
  keepsSilent : answer ≠ .flag true → told = []

/-- **A step that can admit a peer announces it exactly if it has come.** -/
theorem perform_announces (sound : view.Sound selfId) (now : Reading) {step : ViewStep}
    {address : Address} {id : NodeId} {version : UInt64}
    (wants : step.newcomer? = some (address, id, version)) :
    view.Announces address id version (view.perform now step).1 (view.notices now step)
      (view.perform now step).2 := by
  obtain ⟨outcome, admission, performed, notices⟩ := perform_admission sound now wants
  rw [performed, notices]
  rw [newRecord_eq] at admission
  cases admission with
  | admitted stranger live =>
    have known := (live id).trans (if_pos rfl)
    refine ⟨iff_of_true rfl ⟨stranger, isLive_of_found known⟩, fun _ => ⟨_, _, rfl, known⟩, ?_⟩
    exact fun no => absurd rfl no
  | @nobody answer after denied same =>
    have no : ViewAnswer.ofExcept answer ≠ .flag true := by
      rintro yes
      cases answer with
      | ok value => exact denied (congrArg Except.ok (ViewAnswer.flag.inj yes))
      | error error => cases yes
    refine ⟨iff_of_false no ?_, fun yes => absurd yes no, fun _ => rfl⟩
    rintro ⟨stranger, live⟩
    rw [same, stranger] at live
    cases live

/-- **All steps tell what they do** to the set of live peers. -/
theorem noticesAll_tells (steps : List (Reading × ViewStep)) : ∀ {view : View}, view.Sound selfId →
    view.Tells (view.noticesAll steps) (view.performAll steps) := by
  induction steps with
  | nil => exact fun _ => tells_nothing fun _ => rfl
  | cons entry rest ih =>
    intro view sound
    exact (perform_tells sound entry.1 entry.2).trans (ih (sound.perform entry.1 entry.2))

end View

end PeerMesh
