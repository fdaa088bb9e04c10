/-
**What the verdicts of a round make of a view.**

A round ages the peers first and decides about the suspects afterwards, one by one and in any order. A
verdict concerns the suspect alone, so the view is known id by id from the verdicts so far.

* `Record.IsDue` — which records are suspected when they are aged (`checkState_of_due`,
  `checkState_of_not_due`).
* `View.Judged` — the peers and tombstones of a view are those of an aged one, but for the verdicts.
* **`Judged.conclude`** — one more verdict.
* `conclude_removes` — the verdict answers whether it removed a peer.
* `dead_cleanup_iff_lasts` — which tombstones outlast the eviction at the end.
-/

import PeerMesh.Proofs.View.Happenings
import PeerMesh.Proofs.View.Tombstones

namespace PeerMesh

theorem Duration.toNat_millisWord (span : Duration) :
    span.millisWord.toNat = span.wholeMillis % 2 ^ 64 :=
  UInt64.toNat_ofNat

/-! ### Records that are aged -/

namespace Record

variable {record : Record} {timeout : Duration} {now : Reading}

/-- A record is suspected already, or was not heard of for as many milliseconds as the timeout has, of
which only the low 64 bits count. -/
def IsDue (record : Record) (timeout : Duration) (now : Reading) : Prop :=
  record.health = .suspect ∨
    timeout.wholeMillis % 2 ^ 64 ≤ now.toNat - record.lastTouch.toNat

/-- A timeout of less than 2 ^ 64 milliseconds counts in full. -/
theorem isDue_iff_of_lt (fits : timeout.wholeMillis < 2 ^ 64) :
    record.IsDue timeout now ↔
      record.health = .suspect ∨ timeout.wholeMillis ≤ now.toNat - record.lastTouch.toNat := by
  unfold IsDue
  rw [Nat.mod_eq_of_lt fits]

/-- A timeout of a multiple of 2 ^ 64 milliseconds has passed at every moment. -/
theorem isDue_of_wrapped (wraps : timeout.wholeMillis % 2 ^ 64 = 0) : record.IsDue timeout now :=
  .inr (wraps ▸ Nat.zero_le _)

theorem timeout_le_idle_iff (record : Record) (timeout : Duration) (now : Reading) :
    timeout.millisWord ≤ record.idle now ↔
      timeout.wholeMillis % 2 ^ 64 ≤ now.toNat - record.lastTouch.toNat := by
  rw [UInt64.le_iff_toNat_le, Duration.toNat_millisWord]
  exact iff_of_eq (congrArg _ (Reading.toNat_since now record.lastTouch))

theorem checkState_of_due (due : record.IsDue timeout now) :
    record.checkState timeout now = record.suspect := by
  unfold checkState
  split
  · rfl
  · rename_i recent
    have suspected : record.health = .suspect :=
      due.resolve_right fun idle => recent ((timeout_le_idle_iff record timeout now).mpr idle)
    unfold suspect
    rw [← suspected]

theorem checkState_of_not_due (notDue : ¬ record.IsDue timeout now) :
    record.checkState timeout now = record := by
  unfold checkState
  rw [if_neg fun idle => notDue (.inr ((timeout_le_idle_iff record timeout now).mp idle))]

/-- Whoever is due is suspected when aged, and nobody else is. -/
theorem health_checkState_iff :
    (record.checkState timeout now).health = .suspect ↔ record.IsDue timeout now := by
  by_cases due : record.IsDue timeout now
  · rw [checkState_of_due due]
    exact iff_of_true rfl due
  · rw [checkState_of_not_due due]
    exact iff_of_false (fun suspected => due (.inl suspected)) due

end Record

namespace View

/-- A live record that was heard of. -/
def heardOf (now : Reading) (member : Member) : Member :=
  { member with record := member.record.reset now }

/-- What a verdict, if there is one, leaves of a live record. -/
def liveAfter (now : Reading) (member : Option Member) : (verdict : Option Bool) → Option Member
  | none => member
  | some true => member.map (heardOf now)
  | some false => none

/-- The tombstone of an id after a verdict, if there is one. -/
def deadAfter (now : Reading) (member : Option Member) (tombstone : Option Tombstone) :
    (verdict : Option Bool) → Option Tombstone
  | none | some true => tombstone
  | some false => member.map (⟨·, now⟩)

/-- The peers and tombstones are those of an aged view, but for the verdicts. -/
structure Judged (aged : View) (now : Reading) (verdict : NodeId → Option Bool) (view : View) :
    Prop where
  live : ∀ id, view.live.get? id = liveAfter now (aged.live.get? id) (verdict id)
  dead : ∀ id, view.dead.get? id =
    deadAfter now (aged.live.get? id) (aged.dead.get? id) (verdict id)

variable {aged view : View} {now : Reading} {verdict : NodeId → Option Bool} {probe : Probe}

theorem judged_refl (aged : View) (now : Reading) : aged.Judged now (fun _ => none) aged :=
  ⟨fun _ => rfl, fun _ => rfl⟩

/-- A live suspect is still a suspect as long as there is no verdict about it. -/
theorem isStillSuspect_of_found (found : view.live.get? probe.id = some probe.suspect)
    (suspected : probe.suspect.record.health = .suspect) :
    view.isStillSuspect probe.suspect = true := by
  have known : view.live.get? probe.suspect.record.id = some probe.suspect := found
  unfold isStillSuspect
  rw [known, Option.any_some, suspected]
  simp

theorem conclude_of_refuted (found : view.live.get? probe.id = some probe.suspect)
    (suspected : probe.suspect.record.health = .suspect) (now : Reading) :
    view.conclude now probe false = view.removeDead now probe.id := by
  have still := isStillSuspect_of_found found suspected
  unfold conclude
  simp [still]

/-- The suspect of a probe without a verdict is live as it was found, and not tombstoned. -/
theorem Judged.undecided (judged : aged.Judged now verdict view)
    (apart : ∀ id member, aged.live.get? id = some member → aged.dead.get? id = none)
    (found : aged.live.get? probe.id = some probe.suspect) (undecided : verdict probe.id = none) :
    view.live.get? probe.id = some probe.suspect ∧ view.dead.get? probe.id = none := by
  rw [judged.live, judged.dead, undecided]
  exact ⟨found, apart probe.id probe.suspect found⟩

/-- **A verdict concerns its suspect and nobody else.** -/
theorem Judged.conclude (judged : aged.Judged now verdict view)
    (apart : ∀ id member, aged.live.get? id = some member → aged.dead.get? id = none)
    (found : aged.live.get? probe.id = some probe.suspect)
    (suspected : probe.suspect.record.health = .suspect) (undecided : verdict probe.id = none)
    (affirmed : Bool) :
    aged.Judged now (fun id => if id = probe.id then some affirmed else verdict id)
      (view.conclude now probe affirmed).view := by
  obtain ⟨live, notDead⟩ := judged.undecided apart found undecided
  have others : ∀ (after : View) (member : Option Member) (tombstone : Option Tombstone),
      (∀ id, after.live.get? id = if id = probe.id then member else view.live.get? id) →
      (∀ id, after.dead.get? id = if id = probe.id then tombstone else view.dead.get? id) →
      member = liveAfter now (some probe.suspect) (some affirmed) →
      tombstone = deadAfter now (some probe.suspect) none (some affirmed) →
      aged.Judged now (fun id => if id = probe.id then some affirmed else verdict id) after := by
    intro after member tombstone lives deads sameMember sameTombstone
    constructor
    · intro id
      rw [lives]
      by_cases same : id = probe.id
      · rw [if_pos same, if_pos same, same, found, sameMember]
      · rw [if_neg same, if_neg same, judged.live]
    · intro id
      rw [deads]
      by_cases same : id = probe.id
      · rw [if_pos same, if_pos same, same, found, apart probe.id probe.suspect found, sameTombstone]
      · rw [if_neg same, if_neg same, judged.dead]
  cases affirmed with
  | true =>
    refine others _ _ _ (fun id => Table.get?_modify view.live probe.id id _)
      (fun id => Table.get?_modify view.dead probe.id id _) ?_ ?_
    · rw [live, Option.map_some, if_pos rfl]
      rfl
    · rw [notDead]
      rfl
  | false =>
    rw [conclude_of_refuted live suspected]
    unfold removeDead
    rw [live]
    exact others _ _ _ (fun id => Table.get?_erase view.live probe.id id)
      (fun id => Table.get?_insert view.dead probe.id id _) rfl rfl

/-- A verdict answers whether it has removed a peer. -/
theorem conclude_removes (live : view.live.get? probe.id = some probe.suspect)
    (suspected : probe.suspect.record.health = .suspect) (now : Reading) (affirmed : Bool) :
    (view.conclude now probe affirmed).answer = !affirmed ∧
      (view.conclude now probe affirmed).view.nodeCount + (!affirmed).toNat = view.nodeCount := by
  cases affirmed with
  | true => exact ⟨rfl, Table.size_modify view.live probe.id _⟩
  | false =>
    rw [conclude_of_refuted live suspected]
    unfold removeDead
    rw [live]
    have known : view.live.contains probe.id = true := by
      unfold Table.contains
      rw [live]
      rfl
    exact ⟨rfl, view.live.size_erase_of_present probe.id known⟩

/-! ### The eviction at the end -/

/-- A tombstone outlasts its grace period, of whose milliseconds only the low 64 bits count. No moment
is later than the largest reading. -/
def Lasts (now : Reading) (grace : Duration) (tombstone : Tombstone) : Prop :=
  now.toNat < min (tombstone.downAt.toNat + grace.wholeMillis % 2 ^ 64) (2 ^ 64 - 1)

theorem dead_cleanup_iff_lasts (view : View) (now : Reading) (grace : Duration) {id : NodeId}
    {tombstone : Tombstone} :
    (view.cleanup now grace).view.dead.get? id = some tombstone ↔
      view.dead.get? id = some tombstone ∧ Lasts now grace tombstone := by
  rw [dead_cleanup_iff, UInt64.lt_iff_toNat_lt, Reading.toNat_plus, Duration.toNat_millisWord]
  rfl

theorem live_cleanup (view : View) (now : Reading) (grace : Duration) :
    (view.cleanup now grace).view.live = view.live := by
  unfold cleanup
  dsimp only
  split <;> rfl

end View

end PeerMesh
