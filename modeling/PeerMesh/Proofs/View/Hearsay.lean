/-
**Second-hand news of peers.**

Gossip is repeated and overtakes itself, so what a view makes of it must not depend on its order. What a
view knows of an id, apart from how often the peer was heard of, is the id's `Standing`.

* `Standing.hear_hear` — of two versions of which is heard only the greater one counts.
* `standing_observe` — second-hand news changes the standing of the id that it is about, and no other one.
* `count_up_hearsay` — it is told that a peer comes if it was not there, and once however often it is heard
  of.
* **`agrees_of_same_hearsay`** — lists of news with the same members leave views that agree, and are
  announced alike.
-/

import Mathlib.Data.List.Dedup
import PeerMesh.Proofs.View.Notices
import PeerMesh.Wire.Payload

namespace PeerMesh

/-! ### Actions whose order and number do not matter -/

section

variable {α β : Type} {act : β → α → β} {first second : List α}

theorem foldl_absorb (settles : ∀ x ∈ first, ∀ state, act (act state x) x = act state x)
    (commutes : ∀ x ∈ first, ∀ y ∈ first, ∀ state, act (act state x) y = act (act state y) x)
    {x : α} (among : x ∈ first) (state : β) : first.foldl act (act state x) = first.foldl act state := by
  induction first generalizing state with
  | nil => cases among
  | cons y rest ih =>
    rw [List.foldl_cons, List.foldl_cons]
    rcases List.mem_cons.mp among with rfl | later
    · rw [settles x List.mem_cons_self]
    · rw [commutes x among y List.mem_cons_self]
      exact ih (fun z member => settles z (List.mem_cons_of_mem _ member))
        (fun z member w other => commutes z (List.mem_cons_of_mem _ member) w
          (List.mem_cons_of_mem _ other)) later _

theorem foldl_dedup [DecidableEq α] (settles : ∀ x ∈ first, ∀ state, act (act state x) x = act state x)
    (commutes : ∀ x ∈ first, ∀ y ∈ first, ∀ state, act (act state x) y = act (act state y) x)
    (state : β) : first.dedup.foldl act state = first.foldl act state := by
  induction first generalizing state with
  | nil => rfl
  | cons x rest ih =>
    have restSettles : ∀ y ∈ rest, ∀ state, act (act state y) y = act state y :=
      fun y member => settles y (List.mem_cons_of_mem _ member)
    have restCommutes : ∀ y ∈ rest, ∀ z ∈ rest, ∀ state, act (act state y) z = act (act state z) y :=
      fun y member z other => commutes y (List.mem_cons_of_mem _ member) z
        (List.mem_cons_of_mem _ other)
    by_cases repeated : x ∈ rest
    · rw [List.dedup_cons_of_mem repeated, ih restSettles restCommutes, List.foldl_cons,
        foldl_absorb restSettles restCommutes repeated]
    · rw [List.dedup_cons_of_notMem repeated, List.foldl_cons, List.foldl_cons,
        ih restSettles restCommutes]

/-- Actions that commute, and do nothing when they are repeated, come to the same in any order and with any
repetitions. -/
theorem foldl_eq_of_mem_iff (same : ∀ x, x ∈ second ↔ x ∈ first)
    (settles : ∀ x ∈ first, ∀ state, act (act state x) x = act state x)
    (commutes : ∀ x ∈ first, ∀ y ∈ first, ∀ state, act (act state x) y = act (act state y) x)
    (state : β) : second.foldl act state = first.foldl act state := by
  classical
  have members : first.dedup.Perm second.dedup := by
    refine (List.perm_ext_iff_of_nodup first.nodup_dedup second.nodup_dedup).mpr fun x => ?_
    rw [List.mem_dedup, List.mem_dedup, same]
  calc second.foldl act state
      = second.dedup.foldl act state := by
        refine (foldl_dedup ?_ ?_ state).symm
        · exact fun x member => settles x ((same x).mp member)
        · exact fun x member y other => commutes x ((same x).mp member) y ((same y).mp other)
    _ = first.dedup.foldl act state := by
        refine (members.foldl_eq' (fun x member y other state => ?_) state).symm
        exact commutes x (List.mem_dedup.mp member) y (List.mem_dedup.mp other) state
    _ = first.foldl act state := foldl_dedup settles commutes state

/-- Actions on one place of a table each: those on the same place have to commute, and each of them to do
nothing when it is repeated. -/
theorem foldl_update_eq_of_mem_iff {ι ν : Type} [DecidableEq ι] (place : α → ι) (change : α → ν → ν)
    (same : ∀ x, x ∈ second ↔ x ∈ first)
    (settles : ∀ x ∈ first, ∀ value, change x (change x value) = change x value)
    (commutes : ∀ x ∈ first, ∀ y ∈ first, place x = place y →
      ∀ value, change y (change x value) = change x (change y value)) (state : ι → ν) :
    second.foldl (fun state x => Function.update state (place x) (change x (state (place x)))) state =
      first.foldl (fun state x => Function.update state (place x) (change x (state (place x)))) state := by
  refine foldl_eq_of_mem_iff same (fun x member state => ?_) (fun x member y other state => ?_) state
  · rw [Function.update_self, Function.update_idem, settles x member]
  · by_cases apart : place x = place y
    · rw [apart, Function.update_self, Function.update_self, Function.update_idem, Function.update_idem,
        commutes x member y other apart]
    · rw [Function.update_of_ne apart, Function.update_of_ne (Ne.symm apart),
        Function.update_comm apart]

end

/-! ### What a view knows of an id -/

theorem Reading.max_def (first second : Reading) :
    max first second = if first ≤ second then second else first := rfl

/-- A record apart from its touch count. -/
def Record.uncounted (record : Record) : Record := { record with touchCount := 0 }

/-- What a view knows of an id, apart from how often it was heard of. -/
structure Standing where
  tombstone : Option Tombstone
  record : Option Record

namespace Standing

/-- The id is that of a peer, and not tombstoned. -/
def isPresent (standing : Standing) : Bool := standing.tombstone.isNone && standing.record.isSome

/-- The standing of an id of which a version was heard through somebody else. -/
def hear (now : Reading) (address : Address) (id : NodeId) (version : UInt64) : Standing → Standing
  | ⟨some tombstone, record⟩ =>
    if version ≤ tombstone.member.record.version then ⟨some tombstone, record⟩
    else ⟨none, some (View.newRecord now address id version).uncounted⟩
  | ⟨none, some record⟩ =>
    ⟨none, some (if record.isNews version then ((record.observeVersion version).reset now).uncounted
      else record)⟩
  | ⟨none, none⟩ => ⟨none, some (View.newRecord now address id version).uncounted⟩

variable {now : Reading} {address : Address} {id : NodeId} {older newer : UInt64}

theorem uncounted_refresh {record : Record} {version : UInt64} (news : record.version < version) :
    ((record.observeVersion version).reset now).uncounted =
      ⟨record.id, record.address, .normal, max record.lastTouch now, 0, version⟩ := by
  unfold Record.observeVersion Record.isNews
  rw [if_pos (decide_eq_true news)]
  rfl

theorem hear_stale {record : Record} {version : UInt64} (stale : ¬ record.version < version) :
    hear now address id version ⟨none, some record⟩ = ⟨none, some record⟩ := by
  simp [hear, Record.isNews, stale]

theorem hear_news {record : Record} {version : UInt64} (news : record.version < version) :
    hear now address id version ⟨none, some record⟩ =
      ⟨none, some ⟨record.id, record.address, .normal, max record.lastTouch now, 0, version⟩⟩ := by
  simp [hear, Record.isNews, news, uncounted_refresh news]

theorem max_max (earlier : Reading) : max (max earlier now) now = max earlier now := by
  rw [Reading.max_def, Reading.max_def]
  grind

/-- The greater one of two versions. -/
def latest (first second : UInt64) : UInt64 := if first < second then second else first

theorem latest_comm (first second : UInt64) : latest first second = latest second first := by
  unfold latest
  grind

theorem lt_latest_iff (bound first second : UInt64) :
    bound < latest first second ↔ bound < first ∨ bound < second := by
  unfold latest
  grind

/-- A peer heard of just now, of which another version is heard. -/
theorem hear_again (first second : UInt64) (earlier : Reading) (peer : NodeId) (place : Address) :
    hear now address id second ⟨none, some ⟨peer, place, .normal, max earlier now, 0, first⟩⟩ =
      ⟨none, some ⟨peer, place, .normal, max earlier now, 0, latest first second⟩⟩ := by
  by_cases news : first < second
  · rw [hear_news news, max_max, latest, if_pos news]
  · rw [hear_stale news, latest, if_neg news]

theorem hear_newcomer (first second : UInt64) :
    hear now address id second ⟨none, some (View.newRecord now address id first).uncounted⟩ =
      ⟨none, some (View.newRecord now address id (latest first second)).uncounted⟩ := by
  rw [View.newRecord_eq, View.newRecord_eq]
  exact hear_again first second 0 id address

theorem hear_buried {tombstone : Tombstone} {version : UInt64}
    (stale : ¬ tombstone.member.record.version < version) (record : Option Record) :
    hear now address id version ⟨some tombstone, record⟩ = ⟨some tombstone, record⟩ := by
  have old : version ≤ tombstone.member.record.version := by grind
  simp [hear, old]

theorem hear_risen {tombstone : Tombstone} {version : UInt64}
    (news : tombstone.member.record.version < version) (record : Option Record) :
    hear now address id version ⟨some tombstone, record⟩ =
      ⟨none, some (View.newRecord now address id version).uncounted⟩ := by
  have young : ¬ version ≤ tombstone.member.record.version := by grind
  simp [hear, young]

/-- **Of two versions only the greater one counts**, whichever is heard of first. -/
theorem hear_hear (first second : UInt64) (standing : Standing) :
    hear now address id second (hear now address id first standing) =
      hear now address id (latest first second) standing := by
  have stillStale {bound : UInt64} (stale : ¬ bound < first) (older : ¬ first < second) :
      ¬ bound < second := by
    grind
  obtain ⟨_ | tombstone, known⟩ := standing
  · cases known with
    | none => exact hear_newcomer first second
    | some record =>
      by_cases news : record.version < first
      · rw [hear_news news, hear_again, hear_news ((lt_latest_iff ..).mpr (.inl news))]
      · rw [hear_stale news]
        by_cases later : first < second
        · rw [latest, if_pos later]
        · rw [latest, if_neg later, hear_stale news, hear_stale (stillStale news later)]
  · by_cases news : tombstone.member.record.version < first
    · rw [hear_risen news, hear_newcomer, hear_risen ((lt_latest_iff ..).mpr (.inl news))]
    · rw [hear_buried news]
      by_cases later : first < second
      · rw [latest, if_pos later]
      · rw [latest, if_neg later, hear_buried news, hear_buried (stillStale news later)]

theorem hear_comm (first second : UInt64) (standing : Standing) :
    hear now address id second (hear now address id first standing) =
      hear now address id first (hear now address id second standing) := by
  rw [hear_hear, hear_hear, latest_comm]

theorem hear_twice (version : UInt64) (standing : Standing) :
    hear now address id version (hear now address id version standing) =
      hear now address id version standing := by
  rw [hear_hear, latest, ite_self]

end Standing

/-! ### Hearsay -/

namespace View

/-- What a view knows of the ids. -/
def standing (view : View) (id : NodeId) : Standing :=
  ⟨view.dead.get? id, (view.get? id).map Record.uncounted⟩

/-- Two views know the same of all ids, apart from how often each peer was heard of. -/
def Agrees (first second : View) : Prop := ∀ id, first.standing id = second.standing id

/-- Peers are heard of through others, one after another, while the clock shows a reading. -/
def hearsay (now : Reading) (entries : List GossipEntry) : List (Reading × ViewStep) :=
  entries.map fun entry => (now, .observe entry.address entry.id entry.version)

/-- What news of a peer makes of what a view knows of it: nothing if it is refused. -/
def heed (view : View) (now : Reading) (entry : GossipEntry) (standing : Standing) : Standing :=
  if (view.refusal? entry.id).isSome then standing
  else standing.hear now entry.address entry.id entry.version

variable {view later : View}

theorem standing_unbury (view : View) (id : NodeId) :
    (view.unbury id).standing =
      Function.update view.standing id ⟨none, (view.get? id).map Record.uncounted⟩ := by
  funext other
  show Standing.mk ((view.dead.erase id).get? other) _ = _
  rw [Table.get?_erase]
  by_cases same : other = id
  · subst same
    simp [unbury, get?]
  · simp [unbury, same, standing, get?]

theorem standing_enroll (view : View) (record : Record) :
    (view.enroll record).standing =
      Function.update view.standing record.id ⟨view.dead.get? record.id, some record.uncounted⟩ := by
  funext other
  show Standing.mk (view.dead.get? other) (((view.enroll record).get? other).map Record.uncounted) = _
  rw [get?_enroll]
  by_cases same : other = record.id
  · subst same
    simp
  · simp [same, standing]

theorem standing_modifyRecord (view : View) (id : NodeId) (change : Record → Record) :
    (view.modifyRecord id change).standing =
      Function.update view.standing id
        ⟨view.dead.get? id, (view.get? id).map fun record => (change record).uncounted⟩ := by
  funext other
  show Standing.mk (view.dead.get? other) (Option.map Record.uncounted
    (((view.live.modify id _).get? other).map Member.record)) = _
  rw [Table.get?_modify]
  by_cases same : other = id
  · subst same
    simp [get?, Function.comp_def]
  · simp [same, standing, get?]

/-- A peer heard of just now is admitted. -/
theorem standing_newcomer {id : NodeId} (alive : view.dead.get? id = none) (now : Reading)
    (address : Address) (version : UInt64) :
    (view.join (newRecord now address id version)).view.standing =
      Function.update view.standing id ⟨none, some (newRecord now address id version).uncounted⟩ := by
  have named : (newRecord now address id version).id = id := by rw [newRecord_eq]
  show (view.enroll (newRecord now address id version)).standing = _
  rw [standing_enroll, named, alive]

/-- **News of one id changes what a view knows of this id**, and nothing else. -/
theorem standing_observe (view : View) (now : Reading) (entry : GossipEntry) :
    (view.observe now entry.address entry.id entry.version).view.standing =
      Function.update view.standing entry.id (view.heed now entry (view.standing entry.id)) := by
  obtain ⟨id, address, version⟩ := entry
  have known : view.standing id = ⟨view.dead.get? id, (view.get? id).map Record.uncounted⟩ := rfl
  unfold observe unlessRefused heed
  cases refused : view.refusal? id with
  | some error => simp
  | none =>
    simp only [Option.isSome_none, Bool.false_eq_true, if_false]
    cases dead : view.dead.get? id with
    | some tombstone =>
      rw [dead] at known
      by_cases news : tombstone.member.record.version < version
      · have young : ¬ version ≤ tombstone.member.record.version := by grind
        have risen : (view.unbury id).dead.get? id = none := by simp [unbury]
        simp only [if_neg young]
        rw [known, Standing.hear_risen news, standing_newcomer risen, standing_unbury,
          Function.update_idem]
      · have old : version ≤ tombstone.member.record.version := by grind
        simp only [if_pos old]
        rw [known, Standing.hear_buried news, ← known, Function.update_eq_self]
        rfl
    | none =>
      cases found : view.get? id with
      | none =>
        rw [known, dead, found]
        exact standing_newcomer dead now address version
      | some record =>
        have known : view.standing id = ⟨none, some record.uncounted⟩ := by
          rw [known, dead, found]
          rfl
        rw [known]
        by_cases news : record.version < version
        · simp only [Record.isNews, decide_eq_true news, if_true]
          have refreshed := view.standing_modifyRecord id fun known =>
            (known.observeVersion version).reset now
          rw [dead, found, Option.map_some, Standing.uncounted_refresh news] at refreshed
          rw [Standing.hear_news (show record.uncounted.version < version from news)]
          exact refreshed
        · simp only [Record.isNews, decide_eq_false news, Bool.false_eq_true, if_false]
          rw [Standing.hear_stale (show ¬ record.uncounted.version < version from news), ← known,
            Function.update_eq_self]
          rfl

/-- What the refusals of a view depend on. -/
def gate (view : View) : NodeId × Bool := (view.selfId, view.closed)

theorem refusal?_of_gate (same : later.gate = view.gate) : later.refusal? = view.refusal? := by
  obtain ⟨selfId, closed⟩ := Prod.mk.inj same
  funext id
  unfold refusal?
  rw [selfId, closed]

theorem gate_observe (view : View) (now : Reading) (address : Address) (id : NodeId) (version : UInt64) :
    (view.observe now address id version).view.gate = view.gate := by
  unfold observe unlessRefused
  cases view.refusal? id with
  | some error => rfl
  | none =>
    cases view.dead.get? id with
    | some tombstone => dsimp only; split <;> rfl
    | none =>
      cases view.get? id with
      | none => rfl
      | some record => dsimp only; split <;> rfl

theorem changesOf_observe_of_ne (view : View) (now : Reading) (entry : GossipEntry) {id : NodeId}
    (other : id ≠ entry.id) :
    changesOf id (view.observe now entry.address entry.id entry.version).notices = [] := by
  have named : (newRecord now entry.address entry.id entry.version).id = entry.id := by
    rw [newRecord_eq]
  have elsewhere : changesOf id [⟨.up, newRecord now entry.address entry.id entry.version⟩] = [] := by
    rw [changesOf_singleton, if_neg]
    exact fun same => other (same.symm.trans named)
  unfold observe unlessRefused
  cases view.refusal? entry.id with
  | some error => rfl
  | none =>
    cases view.dead.get? entry.id with
    | some tombstone =>
      dsimp only
      split
      · rfl
      · exact elsewhere
    | none =>
      cases view.get? entry.id with
      | none => exact elsewhere
      | some record => rfl

/-- It is told of a peer that it comes exactly if it was not there and is there now. -/
theorem count_up_observe (view : View) (now : Reading) (entry : GossipEntry) (id : NodeId) :
    (changesOf id (view.observe now entry.address entry.id entry.version).notices).count .up +
        (view.standing id).isPresent.toNat =
      ((view.observe now entry.address entry.id entry.version).view.standing id).isPresent.toNat := by
  rw [standing_observe]
  by_cases same : id = entry.id
  · subst same
    unfold observe unlessRefused heed standing
    cases refused : view.refusal? entry.id with
    | some error => simp [changesOf]
    | none =>
      cases dead : view.dead.get? entry.id with
      | some tombstone =>
        by_cases old : entry.version ≤ tombstone.member.record.version <;>
          simp [old, changesOf, Standing.hear, Standing.isPresent, join, newRecord_eq]
      | none =>
        cases view.get? entry.id <;>
          simp [changesOf, Standing.hear, Standing.isPresent, join, newRecord_eq]
  · rw [changesOf_observe_of_ne view now entry same, Function.update_of_ne same]
    exact Nat.zero_add _

/-! ### News that is repeated and reordered -/

theorem heed_twice (view : View) (now : Reading) (entry : GossipEntry) (standing : Standing) :
    view.heed now entry (view.heed now entry standing) = view.heed now entry standing := by
  unfold heed
  split
  · rfl
  · exact Standing.hear_twice entry.version standing

theorem heed_comm (view : View) (now : Reading) {first second : GossipEntry}
    (samePeer : first.id = second.id) (onePlace : first.address = second.address) (standing : Standing) :
    view.heed now second (view.heed now first standing) =
      view.heed now first (view.heed now second standing) := by
  unfold heed
  rw [samePeer, onePlace]
  split
  · rfl
  · exact Standing.hear_comm first.version second.version standing

theorem heed_observe (view : View) (now : Reading) (entry : GossipEntry) :
    (view.observe now entry.address entry.id entry.version).view.heed now = view.heed now := by
  funext other standing
  unfold heed
  rw [refusal?_of_gate (view.gate_observe now entry.address entry.id entry.version)]

/-- What a view knows after news is made of each id by the news of this id. -/
theorem standing_hearsay (now : Reading) (entries : List GossipEntry) : ∀ view : View,
    (view.performAll (hearsay now entries)).standing = entries.foldl (fun standings entry =>
      Function.update standings entry.id (view.heed now entry (standings entry.id))) view.standing := by
  induction entries with
  | nil => exact fun _ => rfl
  | cons entry rest ih =>
    intro view
    have later := ih (view.observe now entry.address entry.id entry.version).view
    rw [heed_observe, standing_observe] at later
    exact later

theorem count_up_hearsay (now : Reading) (entries : List GossipEntry) (id : NodeId) : ∀ view : View,
    (changesOf id (view.noticesAll (hearsay now entries))).count .up +
        (view.standing id).isPresent.toNat =
      ((view.performAll (hearsay now entries)).standing id).isPresent.toNat := by
  induction entries with
  | nil => exact fun _ => Nat.zero_add _
  | cons entry rest ih =>
    intro view
    let heard := view.observe now entry.address entry.id entry.version
    have first : (changesOf id heard.notices).count .up + (view.standing id).isPresent.toNat =
        (heard.view.standing id).isPresent.toNat := view.count_up_observe now entry id
    have others := ih heard.view
    show (changesOf id (heard.notices ++ heard.view.noticesAll (hearsay now rest))).count .up +
        (view.standing id).isPresent.toNat =
      ((heard.view.performAll (hearsay now rest)).standing id).isPresent.toNat
    rw [changesOf_append, List.count_append]
    omega

/-- **The order of second-hand news does not matter, nor how often it comes.** Lists of news with the same
members, in which all news of one id carries one address, leave views that agree, and are announced
alike. -/
theorem agrees_of_same_hearsay (view : View) (now : Reading) {entries others : List GossipEntry}
    (same : ∀ entry, entry ∈ others ↔ entry ∈ entries)
    (onePlace : ∀ first ∈ entries, ∀ second ∈ entries, first.id = second.id →
      first.address = second.address) :
    (view.performAll (hearsay now others)).Agrees (view.performAll (hearsay now entries)) ∧
      ∀ id, (changesOf id (view.noticesAll (hearsay now others))).count .up =
        (changesOf id (view.noticesAll (hearsay now entries))).count .up := by
  have agrees : (view.performAll (hearsay now others)).standing =
      (view.performAll (hearsay now entries)).standing := by
    rw [standing_hearsay, standing_hearsay]
    exact foldl_update_eq_of_mem_iff GossipEntry.id (view.heed now) same
      (fun entry _ => view.heed_twice now entry)
      (fun first member second other samePeer =>
        view.heed_comm now samePeer (onePlace first member second other samePeer)) view.standing
  refine ⟨congrFun agrees, fun id => ?_⟩
  have first := count_up_hearsay now others id view
  have second := count_up_hearsay now entries id view
  rw [agrees] at first
  omega

/-- News of a peer that was declared dead, of one that is suspected and of one that is new. Its order shows
only in how often the suspected peer was heard of. -/
theorem agrees_of_shuffled_hearsay :
    let view := (View.new ⟨"a"⟩).performAll [(1, .heartbeat ⟨"mem:2"⟩ ⟨"b"⟩), (1, .removeDead ⟨"b"⟩),
      (2, .heartbeat ⟨"mem:3"⟩ ⟨"c"⟩), (3, .suspect ⟨"c"⟩)]
    let entries : List GossipEntry := [⟨⟨"b"⟩, ⟨"mem:2"⟩, 4⟩, ⟨⟨"c"⟩, ⟨"mem:9"⟩, 2⟩, ⟨⟨"d"⟩, ⟨"mem:4"⟩, 1⟩,
      ⟨⟨"c"⟩, ⟨"mem:9"⟩, 6⟩]
    let others : List GossipEntry := [⟨⟨"c"⟩, ⟨"mem:9"⟩, 6⟩, ⟨⟨"d"⟩, ⟨"mem:4"⟩, 1⟩, ⟨⟨"c"⟩, ⟨"mem:9"⟩, 2⟩,
      ⟨⟨"b"⟩, ⟨"mem:2"⟩, 4⟩, ⟨⟨"b"⟩, ⟨"mem:2"⟩, 4⟩]
    (view.performAll (hearsay 8 others)).Agrees (view.performAll (hearsay 8 entries)) ∧
      (changesOf ⟨"b"⟩ (view.noticesAll (hearsay 8 others))).count .up =
        (changesOf ⟨"b"⟩ (view.noticesAll (hearsay 8 entries))).count .up ∧
      (changesOf ⟨"b"⟩ (view.noticesAll (hearsay 8 entries))).count .up = 1 ∧
      (view.performAll (hearsay 8 others)).get? ⟨"c"⟩ = some ⟨⟨"c"⟩, ⟨"mem:3"⟩, .normal, 8, 2, 6⟩ ∧
      (view.performAll (hearsay 8 entries)).get? ⟨"c"⟩ = some ⟨⟨"c"⟩, ⟨"mem:3"⟩, .normal, 8, 3, 6⟩ := by
  intro view entries others
  have same : ∀ entry, entry ∈ others ↔ entry ∈ entries := by
    simp only [entries, others, List.mem_cons, List.not_mem_nil]
    grind
  have onePlace : ∀ first ∈ entries, ∀ second ∈ entries, first.id = second.id →
      first.address = second.address := by
    decide +kernel
  obtain ⟨agrees, alike⟩ := agrees_of_same_hearsay view 8 same onePlace
  exact ⟨agrees, alike ⟨"b"⟩, by decide +kernel, by decide +kernel, by decide +kernel⟩

end View

end PeerMesh
