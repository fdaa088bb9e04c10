/-
**The listeners of a consumer.**

A `Roll` is kept beside a run: who was ever registered, and who still is. It is written from the
answers of the registrations and from the ids that are removed, without a look at the tables.

* `Agrees` — the tables hold exactly the standing registrations, each under its id; every step
  preserves it (`Agrees.step`), as long as ids have not run out.
* `Agrees.places_eq` — an id is stored at one place, the one that the index names, or at none.
* `Agrees.unregister` — what goes with an id is its listener, and nothing else.
* `Roll.IsKept` — ids number the registrations, in 64 bits.
* `listeners_consistent` — all of it, about every run. Ids come again after all that 64 bits can tell apart; until
  then no id is given out twice, and the listeners are in order.
-/

import Mathlib.Data.List.Nodup
import Mathlib.Data.List.Basic
import Mathlib.Tactic.Tauto
import PeerMesh.Proofs.Consumer.Runs

namespace PeerMesh

/-- A listener that was registered. -/
structure Grant (α β : Type) where
  id : ListenerId
  kind : String
  listener : α ⊕ β

namespace Grant

variable {α β : Type}

/-- Where the listener belongs. -/
def registration (grant : Grant α β) : Registration :=
  match grant.listener with
  | .inl _ => .async grant.kind
  | .inr _ => .sync grant.kind

/-- The entry among the asynchronous listeners of a type. -/
def async? (kind : String) (grant : Grant α β) : Option (ListenerId × α) :=
  match grant.listener with
  | .inl listener => if grant.kind = kind then some (grant.id, listener) else none
  | .inr _ => none

/-- The entry as the synchronous listener of a type. -/
def sync? (kind : String) (grant : Grant α β) : Option (ListenerId × β) :=
  match grant.listener with
  | .inl _ => none
  | .inr listener => if grant.kind = kind then some (grant.id, listener) else none

theorem async?_eq_some {kind : String} {grant : Grant α β} {entry : ListenerId × α} :
    grant.async? kind = some entry ↔ grant = ⟨entry.1, kind, .inl entry.2⟩ := by
  obtain ⟨id, own, listener⟩ := grant
  obtain ⟨other, async⟩ := entry
  cases listener with
  | inl listener =>
    simp [async?]
    tauto
  | inr listener => simp [async?]

theorem sync?_eq_some {kind : String} {grant : Grant α β} {entry : ListenerId × β} :
    grant.sync? kind = some entry ↔ grant = ⟨entry.1, kind, .inr entry.2⟩ := by
  obtain ⟨id, own, listener⟩ := grant
  obtain ⟨other, sync⟩ := entry
  cases listener with
  | inl listener => simp [sync?]
  | inr listener =>
    simp [sync?]
    tauto

/-- The listeners of a type are the asynchronous and the synchronous ones. -/
theorem countP_kind (grants : List (Grant α β)) (kind : String) :
    grants.countP (·.kind = kind) = grants.countP (fun grant => (grant.async? kind).isSome) +
      grants.countP fun grant => (grant.sync? kind).isSome := by
  induction grants with
  | nil => rfl
  | cons grant rest ih =>
    obtain ⟨id, own, listener⟩ := grant
    rw [List.countP_cons, List.countP_cons, List.countP_cons, ih]
    cases listener <;> by_cases same : own = kind <;> simp [async?, sync?, same] <;> omega

end Grant

namespace Consumer

variable {α β : Type} {consumer later : Consumer α β} {standing : List (Grant α β)}

/-! ### The tables and the standing registrations -/

/-- **The tables hold the standing registrations**, in the order in which they came. -/
structure Agrees (consumer : Consumer α β) (standing : List (Grant α β)) : Prop where
  async : ∀ kind, consumer.asyncOf kind = standing.filterMap (Grant.async? kind)
  sync : ∀ kind, (consumer.syncListeners.get? kind).toList = standing.filterMap (Grant.sync? kind)
  index : ∀ id registration, consumer.index.get? id = some registration ↔
    ∃ grant ∈ standing, grant.id = id ∧ grant.registration = registration
  ascending : standing.Pairwise (·.id < ·.id)
  givenOut : ∀ grant ∈ standing, grant.id.toNat ≤ consumer.handedOut

theorem agrees_new (selfId : NodeId) (domain : String) :
    (new selfId domain : Consumer α β).Agrees [] :=
  ⟨fun _ => rfl, fun _ => rfl, by simp [new], List.Pairwise.nil, by simp⟩

/-- The tables of listeners, without anything else. -/
def tables (consumer : Consumer α β) :
    Table String (List (ListenerId × α)) × Table String (ListenerId × β) ×
      Table ListenerId Registration × Nat :=
  (consumer.asyncListeners, consumer.syncListeners, consumer.index, consumer.handedOut)

theorem tables_of_atRest (same : later.atRest = consumer.atRest) : later.tables = consumer.tables := by
  show later.atRest.tables = consumer.atRest.tables
  rw [same]

namespace Agrees

theorem of_tables (agrees : consumer.Agrees standing) (same : later.tables = consumer.tables) :
    later.Agrees standing := by
  simp only [tables, Prod.mk.injEq] at same
  obtain ⟨async, sync, index, next⟩ := same
  refine ⟨fun kind => ?_, fun kind => ?_, fun id registration => ?_, agrees.ascending, ?_⟩
  · rw [← agrees.async, asyncOf, asyncOf, async]
  · rw [← agrees.sync, sync]
  · rw [← agrees.index, index]
  · rw [next]
    exact agrees.givenOut

theorem mem_asyncOf_iff (agrees : consumer.Agrees standing) {kind : String}
    {entry : ListenerId × α} :
    entry ∈ consumer.asyncOf kind ↔ (⟨entry.1, kind, .inl entry.2⟩ : Grant α β) ∈ standing := by
  simp [agrees.async, List.mem_filterMap, Grant.async?_eq_some]

theorem syncListeners_eq_some_iff (agrees : consumer.Agrees standing) {kind : String}
    {entry : ListenerId × β} :
    consumer.syncListeners.get? kind = some entry ↔
      (⟨entry.1, kind, .inr entry.2⟩ : Grant α β) ∈ standing := by
  rw [← Option.mem_toList, agrees.sync]
  simp [List.mem_filterMap, Grant.sync?_eq_some]

/-- The index says where a stored listener belongs. -/
theorem index_of_mem (agrees : consumer.Agrees standing) {grant : Grant α β}
    (stands : grant ∈ standing) : consumer.index.get? grant.id = some grant.registration :=
  (agrees.index _ _).mpr ⟨grant, stands, rfl, rfl⟩

/-- An id that is not in the index does not stand. -/
theorem index_eq_none_iff (agrees : consumer.Agrees standing) (id : ListenerId) :
    consumer.index.get? id = none ↔ ∀ grant ∈ standing, grant.id ≠ id := by
  constructor
  · rintro absent grant stands rfl
    rw [agrees.index_of_mem stands] at absent
    cases absent
  · intro none_has
    cases found : consumer.index.get? id with
    | none => rfl
    | some registration =>
      obtain ⟨grant, stands, same, -⟩ := (agrees.index id registration).mp found
      exact absurd same (none_has grant stands)

/-! ### Registering -/

/-- The next id is above all that are in use. -/
theorem lt_nextId (agrees : consumer.Agrees standing) (fits : consumer.handedOut + 1 < 2 ^ 64)
    {grant : Grant α β} (stands : grant ∈ standing) : grant.id < consumer.nextId := by
  rw [UInt64.lt_iff_toNat_lt, toNat_nextId fits]
  exact Nat.lt_succ_of_le (agrees.givenOut grant stands)

/-- The next id is free. -/
theorem fresh (agrees : consumer.Agrees standing) (fits : consumer.handedOut + 1 < 2 ^ 64)
    {grant : Grant α β} (stands : grant ∈ standing) : grant.id ≠ consumer.nextId :=
  UInt64.ne_of_lt (agrees.lt_nextId fits stands)

/-- What a new registration does to the index, whatever is registered. -/
theorem index_insert (agrees : consumer.Agrees standing) (fits : consumer.handedOut + 1 < 2 ^ 64)
    (grant : Grant α β) (numbered : grant.id = consumer.nextId) (id : ListenerId) (registration : Registration) :
    (consumer.index.insert grant.id grant.registration).get? id = some registration ↔
      ∃ other ∈ standing ++ [grant], other.id = id ∧ other.registration = registration := by
  rw [Table.get?_insert]
  split_ifs with same
  · subst same
    simp only [List.mem_append, List.mem_singleton, or_and_right, exists_or, exists_eq_left, true_and,
      Option.some.injEq]
    refine ⟨.inr, ?_⟩
    rintro (⟨other, stands, taken, -⟩ | known)
    · exact absurd (taken.trans numbered) (agrees.fresh fits stands)
    · exact known
  · simp [agrees.index, or_and_right, exists_or, Ne.symm same]

theorem ascending_append (agrees : consumer.Agrees standing) (fits : consumer.handedOut + 1 < 2 ^ 64)
    {grant : Grant α β} (numbered : grant.id = consumer.nextId) : (standing ++ [grant]).Pairwise (·.id < ·.id) := by
  rw [List.pairwise_append]
  refine ⟨agrees.ascending, List.pairwise_singleton _ _, fun earlier stands last is_last => ?_⟩
  rw [List.mem_singleton.mp is_last, numbered]
  exact agrees.lt_nextId fits stands

theorem givenOut_append (agrees : consumer.Agrees standing) (fits : consumer.handedOut + 1 < 2 ^ 64)
    {grant : Grant α β} (numbered : grant.id = consumer.nextId) :
    ∀ other ∈ standing ++ [grant], other.id.toNat ≤ consumer.handedOut + 1 := by
  intro other stands
  rcases List.mem_append.mp stands with old | new
  · exact Nat.le_succ_of_le (agrees.givenOut other old)
  · rw [List.mem_singleton.mp new, numbered]
    exact Nat.le_of_eq (toNat_nextId fits)

theorem registerAsync (agrees : consumer.Agrees standing) (fits : consumer.handedOut + 1 < 2 ^ 64)
    {kind : String} {listener : α} {id : ListenerId} (done : consumer.registerAsync kind listener = .ok (id, later)) :
    id = consumer.nextId ∧ later.Agrees (standing ++ [⟨id, kind, .inl listener⟩]) := by
  unfold Consumer.registerAsync at done
  split_ifs at done
  obtain ⟨rfl, rfl⟩ := Prod.mk.inj (Except.ok.inj done)
  refine ⟨rfl, fun other => ?_, fun other => ?_,
    agrees.index_insert fits ⟨_, kind, .inl listener⟩ rfl, agrees.ascending_append fits rfl,
    agrees.givenOut_append fits rfl⟩
  · show ((consumer.asyncListeners.insert kind _).get? other).getD [] = _
    rw [Table.get?_insert, List.filterMap_append, ← agrees.async]
    split_ifs with same
    · simp [same, Grant.async?]
    · simp [Ne.symm same, Grant.async?, asyncOf]
  · simp [agrees.sync, Grant.sync?]

theorem registerSync (agrees : consumer.Agrees standing) (fits : consumer.handedOut + 1 < 2 ^ 64)
    {kind : String} {listener : β} {id : ListenerId} (done : consumer.registerSync kind listener = .ok (id, later)) :
    id = consumer.nextId ∧ later.Agrees (standing ++ [⟨id, kind, .inr listener⟩]) := by
  unfold Consumer.registerSync at done
  split_ifs at done with _ taken
  obtain ⟨rfl, rfl⟩ := Prod.mk.inj (Except.ok.inj done)
  refine ⟨rfl, fun other => ?_, fun other => ?_,
    agrees.index_insert fits ⟨_, kind, .inr listener⟩ rfl, agrees.ascending_append fits rfl,
    agrees.givenOut_append fits rfl⟩
  · show consumer.asyncOf other = _
    simp [agrees.async, Grant.async?]
  · rw [Table.get?_insert, List.filterMap_append, ← agrees.sync]
    split_ifs with same
    · have free : consumer.syncListeners.get? kind = none := by
        simpa [Table.contains] using taken
      simp [same, free, Grant.sync?]
    · simp [Ne.symm same, Grant.sync?]

/-! ### Removing -/

/-- An id takes nothing from the asynchronous listeners of a type that the index does not name. -/
theorem filter_asyncOf (agrees : consumer.Agrees standing) (id : ListenerId) (kind : String)
    (elsewhere : consumer.index.get? id ≠ some (.async kind)) :
    (consumer.asyncOf kind).filter (·.1 ≠ id) = consumer.asyncOf kind := by
  refine List.filter_eq_self.mpr fun entry listed => decide_eq_true ?_
  rintro rfl
  exact elsewhere (agrees.index_of_mem (agrees.mem_asyncOf_iff.mp listed))

/-- Nor does it take the synchronous listener of such a type. -/
theorem filter_sync (agrees : consumer.Agrees standing) (id : ListenerId) (kind : String)
    (elsewhere : consumer.index.get? id ≠ some (.sync kind)) :
    (consumer.syncListeners.get? kind).filter (·.1 ≠ id) = consumer.syncListeners.get? kind := by
  cases slot : consumer.syncListeners.get? kind with
  | none => rfl
  | some entry =>
    have other : entry.1 ≠ id := by
      rintro rfl
      exact elsewhere (agrees.index_of_mem (agrees.syncListeners_eq_some_iff.mp slot))
    simp [other]

/-- A synchronous listener that the index names is the one in the slot. -/
theorem slot_of_index (agrees : consumer.Agrees standing) {id : ListenerId} {kind : String}
    (found : consumer.index.get? id = some (.sync kind)) :
    ∃ listener, consumer.syncListeners.get? kind = some (id, listener) := by
  obtain ⟨⟨own, type, listener⟩, stands, rfl, belongs⟩ := (agrees.index id _).mp found
  cases listener with
  | inl listener => cases belongs
  | inr listener =>
    obtain rfl := Registration.sync.inj belongs
    exact ⟨listener, agrees.syncListeners_eq_some_iff.mpr stands⟩

/-- An asynchronous listener that the index names is among those of its type. -/
theorem listed_of_index (agrees : consumer.Agrees standing) {id : ListenerId} {kind : String}
    (found : consumer.index.get? id = some (.async kind)) :
    ∃ listener, (id, listener) ∈ consumer.asyncOf kind := by
  obtain ⟨⟨own, type, listener⟩, stands, rfl, belongs⟩ := (agrees.index id _).mp found
  cases listener with
  | inl listener =>
    obtain rfl := Registration.async.inj belongs
    exact ⟨listener, agrees.mem_asyncOf_iff.mpr stands⟩
  | inr listener => cases belongs

end Agrees

/-- **A consumer without the listener of an id**, in which everything else is as it was. -/
structure Lacks (id : ListenerId) (consumer later : Consumer α β) : Prop where
  async : ∀ kind, later.asyncOf kind = (consumer.asyncOf kind).filter (·.1 ≠ id)
  sync : ∀ kind, later.syncListeners.get? kind = (consumer.syncListeners.get? kind).filter (·.1 ≠ id)
  index : ∀ other, later.index.get? other = if other = id then none else consumer.index.get? other
  rest : { later with
    asyncListeners := consumer.asyncListeners
    syncListeners := consumer.syncListeners
    index := consumer.index } = consumer

/-- The asynchronous listeners of all types but one stay. -/
theorem getD_withoutAsync (consumer : Consumer α β) (kind other : String) (id : ListenerId) :
    ((consumer.withoutAsync kind id).get? other).getD [] =
      if other = kind then (consumer.asyncOf kind).filter (·.1 ≠ id) else consumer.asyncOf other := by
  unfold withoutAsync
  dsimp only
  split_ifs with none same same
  · simpa [same] using none
  · simp [same, asyncOf]
  · simp [same]
  · simp [same, asyncOf]

/-- What goes with an id is its listener, and nothing else. -/
theorem Agrees.lacks (agrees : consumer.Agrees standing) (id : ListenerId) :
    Lacks id consumer (consumer.unregister id).2 := by
  have asyncs := fun kind => agrees.filter_asyncOf id kind
  have syncs := fun kind => agrees.filter_sync id kind
  unfold Consumer.unregister
  cases found : consumer.index.get? id with
  | none =>
    rw [found] at asyncs syncs
    refine ⟨fun kind => (asyncs kind (by simp)).symm, fun kind => (syncs kind (by simp)).symm,
      fun other => ?_, rfl⟩
    split_ifs with same
    · rw [same, found]
    · rfl
  | some registration =>
    rw [found] at asyncs syncs
    cases registration with
    | async kind =>
      refine ⟨fun other => ?_, fun other => (syncs other (by simp)).symm, Table.get?_erase _ _, rfl⟩
      show ((consumer.withoutAsync kind id).get? other).getD [] = _
      rw [getD_withoutAsync]
      split_ifs with same
      · rw [same]
      · exact (asyncs other (by simpa using Ne.symm same)).symm
    | sync kind =>
      refine ⟨fun other => (asyncs other (by simp)).symm, fun other => ?_, Table.get?_erase _ _, rfl⟩
      show (consumer.syncListeners.erase kind).get? other = _
      rw [Table.get?_erase]
      split_ifs with same
      · obtain ⟨listener, slot⟩ := agrees.slot_of_index found
        simp [same, slot, Option.filter]
      · exact (syncs other (by simpa using Ne.symm same)).symm

/-- Without the listener of an id, the registrations that stand are the others. -/
theorem Agrees.unregister (agrees : consumer.Agrees standing) (id : ListenerId) :
    (consumer.unregister id).2.Agrees (standing.filter (·.id ≠ id)) := by
  have lacks := agrees.lacks id
  refine ⟨fun kind => ?_, fun kind => ?_, fun other registration => ?_,
    agrees.ascending.filter _, fun grant stands => ?_⟩
  · rw [lacks.async, agrees.async, List.filter_filterMap, List.filterMap_filter]
    refine List.filterMap_congr fun grant _ => ?_
    cases placed : grant.async? kind with
    | none => simp
    | some entry =>
      rw [Grant.async?_eq_some.mp placed]
      simp [Option.filter]
  · rw [lacks.sync, Option.toList_filter, agrees.sync, List.filter_filterMap, List.filterMap_filter]
    refine List.filterMap_congr fun grant _ => ?_
    cases placed : grant.sync? kind with
    | none => simp
    | some entry =>
      rw [Grant.sync?_eq_some.mp placed]
      simp [Option.filter]
  · rw [lacks.index]
    simp only [ne_eq, List.mem_filter, decide_not, Bool.not_eq_true', decide_eq_false_iff_not]
    split_ifs with same
    · refine iff_of_false (by simp) ?_
      rintro ⟨grant, ⟨-, other⟩, known, -⟩
      exact other (known.trans same)
    · rw [agrees.index]
      refine exists_congr fun grant => and_congr_left fun known => ?_
      simp [known.1, same]
  · have next : (consumer.unregister id).2.handedOut = consumer.handedOut :=
      (congrArg Consumer.handedOut lacks.rest :)
    rw [next]
    exact agrees.givenOut grant (List.mem_filter.mp stands).1

/-! ### Places -/

/-- Where the tables of listeners have an id. -/
def places (consumer : Consumer α β) (id : ListenerId) : List Registration :=
  (consumer.asyncListeners.entries.flatMap fun entry =>
    (entry.2.filter (·.1 = id)).map fun _ => .async entry.1) ++
  consumer.syncListeners.entries.flatMap fun entry =>
    if entry.2.1 = id then [.sync entry.1] else []

/-- What a table has of something that only one key can have. -/
theorem flatMap_entries_of_key {κ ν γ : Type} [DecidableEq κ] (table : Table κ ν) (key : κ)
    {f : κ × ν → List γ} (others : ∀ entry ∈ table.entries, entry.1 ≠ key → f entry = []) :
    table.entries.flatMap f = (table.get? key).toList.flatMap fun value => f (key, value) := by
  have kept : ∀ entries : List (κ × ν), (∀ entry ∈ entries, entry.1 ≠ key → f entry = []) →
      entries.flatMap f = (entries.filter (·.1 = key)).flatMap f := by
    intro entries
    induction entries with
    | nil => exact fun _ => rfl
    | cons entry rest ih =>
      intro others
      have tail := ih fun other member => others other (List.mem_cons_of_mem _ member)
      by_cases same : entry.1 = key
      · simp [same, tail]
      · simp [same, tail, others entry List.mem_cons_self same]
  rw [kept _ others, table.filter_key, List.flatMap_map]

namespace Agrees

theorem nodup_asyncOf (agrees : consumer.Agrees standing) (kind : String) :
    ((consumer.asyncOf kind).map Prod.fst).Nodup := by
  rw [agrees.async, List.Nodup, List.pairwise_map]
  refine agrees.ascending.filterMap _ fun earlier last before entry first other second => ?_
  rw [Grant.async?_eq_some] at first second
  rw [first, second] at before
  exact UInt64.ne_of_lt before

/-- No other type has an id among its asynchronous listeners than the one that the index names. -/
theorem asyncEntry_empty (agrees : consumer.Agrees standing) {id : ListenerId}
    {entry : String × List (ListenerId × α)} (stored : entry ∈ consumer.asyncListeners.entries)
    (elsewhere : consumer.index.get? id ≠ some (.async entry.1)) :
    entry.2.filter (·.1 = id) = [] := by
  have found : consumer.asyncOf entry.1 = entry.2 := by
    rw [asyncOf, (Table.mem_entries_iff _ entry.1 entry.2).mp stored]
    rfl
  have all := agrees.filter_asyncOf _ _ elsewhere
  rw [found, List.filter_eq_self] at all
  simpa [List.filter_eq_nil_iff] using all

theorem syncEntry_other (agrees : consumer.Agrees standing) {id : ListenerId}
    {entry : String × (ListenerId × β)} (stored : entry ∈ consumer.syncListeners.entries)
    (elsewhere : consumer.index.get? id ≠ some (.sync entry.1)) : entry.2.1 ≠ id := by
  rintro rfl
  have slot := (Table.mem_entries_iff _ entry.1 entry.2).mp stored
  exact elsewhere (agrees.index_of_mem (agrees.syncListeners_eq_some_iff.mp slot))

/-- **An id is stored where the index says and nowhere else**, and at one place only. -/
theorem places_eq (agrees : consumer.Agrees standing) (id : ListenerId) :
    consumer.places id = (consumer.index.get? id).toList := by
  have noAsync : (∀ kind, consumer.index.get? id ≠ some (.async kind)) →
      (consumer.asyncListeners.entries.flatMap fun entry =>
        (entry.2.filter (·.1 = id)).map fun _ => Registration.async entry.1) = [] := by
    refine fun elsewhere => List.flatMap_eq_nil_iff.mpr fun entry stored => ?_
    rw [agrees.asyncEntry_empty stored (elsewhere _), List.map_nil]
  have noSync : (∀ kind, consumer.index.get? id ≠ some (.sync kind)) →
      (consumer.syncListeners.entries.flatMap fun entry =>
        if entry.2.1 = id then [Registration.sync entry.1] else []) = [] :=
    fun elsewhere => List.flatMap_eq_nil_iff.mpr fun entry stored =>
      if_neg (agrees.syncEntry_other stored (elsewhere _))
  unfold places
  cases found : consumer.index.get? id with
  | none =>
    rw [noAsync (by simp [found]), noSync (by simp [found])]
    rfl
  | some registration =>
    cases registration with
    | async kind =>
      obtain ⟨listener, listed⟩ := agrees.listed_of_index found
      have once := Table.filter_key_eq_lookup id (agrees.nodup_asyncOf kind)
      rw [(Table.lookup_eq_some_iff_mem id listener (agrees.nodup_asyncOf kind)).mpr listed] at once
      rw [noSync (by simp [found]), flatMap_entries_of_key _ kind]
      · cases stored : consumer.asyncListeners.get? kind with
        | none => simp [asyncOf, stored] at listed
        | some entries =>
          simp only [asyncOf, stored, Option.getD_some] at once
          simp [once]
      · intro entry stored other
        have elsewhere : consumer.index.get? id ≠ some (.async entry.1) := by
          simpa [found] using Ne.symm other
        rw [agrees.asyncEntry_empty stored elsewhere, List.map_nil]
    | sync kind =>
      obtain ⟨listener, slot⟩ := agrees.slot_of_index found
      rw [noAsync (by simp [found]), flatMap_entries_of_key _ kind]
      · simp [slot]
      · intro entry stored other
        exact if_neg (agrees.syncEntry_other stored (by simpa [found] using Ne.symm other))

/-- The number of listeners of a type is that of its standing registrations. -/
theorem listenerCount_eq (agrees : consumer.Agrees standing) (kind : String) :
    consumer.listenerCount kind = standing.countP (·.kind = kind) := by
  have slot : (if consumer.syncListeners.contains kind = true then 1 else 0) =
      (consumer.syncListeners.get? kind).toList.length := by
    unfold Table.contains
    cases consumer.syncListeners.get? kind <;> rfl
  rw [listenerCount, slot, agrees.async, agrees.sync, List.length_filterMap_eq_countP,
    List.length_filterMap_eq_countP, Grant.countP_kind]

/-- At most one of them is synchronous. -/
theorem countP_sync_le (agrees : consumer.Agrees standing) (kind : String) :
    standing.countP (·.registration = .sync kind) ≤ 1 := by
  have slot : standing.countP (fun grant => (grant.sync? kind).isSome) =
      (consumer.syncListeners.get? kind).toList.length := by
    rw [agrees.sync, List.length_filterMap_eq_countP]
  have same : standing.countP (·.registration = .sync kind) =
      standing.countP fun grant => (grant.sync? kind).isSome := by
    refine List.countP_congr fun grant _ => ?_
    cases own : grant.listener <;> simp [Grant.registration, Grant.sync?, own]
  rw [same, slot]
  cases consumer.syncListeners.get? kind <;> simp

/-- Removing is answered by whether the id stands. -/
theorem unregister_iff (agrees : consumer.Agrees standing) (id : ListenerId) :
    (consumer.unregister id).1 = true ↔ id ∈ standing.map Grant.id := by
  have absent := agrees.index_eq_none_iff id
  rw [List.mem_map]
  unfold Consumer.unregister
  cases found : consumer.index.get? id with
  | none => simpa using fun grant stands => absent.mp found grant stands
  | some registration =>
    obtain ⟨grant, stands, known, -⟩ := (agrees.index id registration).mp found
    cases registration <;> exact iff_of_true rfl ⟨grant, stands, known⟩

end Agrees

/-! ### Registrations beside a run -/

/-- What a step registers. -/
def grantOf? (consumer : Consumer α β) : Step α β → Option (Grant α β)
  | .registerAsync kind listener =>
    (consumer.registerAsync kind listener).toOption.map fun done => ⟨done.1, kind, .inl listener⟩
  | .registerSync kind listener =>
    (consumer.registerSync kind listener).toOption.map fun done => ⟨done.1, kind, .inr listener⟩
  | _ => none

/-- The step is a registration. -/
def Step.IsRegistration : Step α β → Prop
  | .registerAsync _ _ | .registerSync _ _ => True
  | _ => False

/-- The step removes the listener of an id. -/
def Step.removes (id : ListenerId) : Step α β → Bool
  | .unregister other => id = other
  | _ => false

/-- What stands after a step. -/
def standingAfter (consumer : Consumer α β) (standing : List (Grant α β)) (next : Step α β) :
    List (Grant α β) :=
  (standing.filter fun grant => !next.removes grant.id) ++ (consumer.grantOf? next).toList

/-- A step registers a listener, removes one, or leaves the tables of listeners as they are. -/
theorem step_kinds (consumer : Consumer α β) (next : Step α β) :
    next.IsRegistration ∨ (∃ id, next = .unregister id) ∨
      (consumer.step next).tables = consumer.tables ∧ consumer.grantOf? next = none ∧
        ∀ id, next.removes id = false := by
  cases next with
  | registerAsync kind listener => exact .inl trivial
  | registerSync kind listener => exact .inl trivial
  | unregister id => exact .inr (.inl ⟨id, rfl⟩)
  | start workers capacity =>
    refine .inr (.inr ⟨?_, rfl, fun _ => rfl⟩)
    rcases start_eq consumer workers capacity with same | ⟨-, -, opened⟩
    · rw [same]
    · rw [opened]
      rfl
  | changeDomain domain => exact .inr (.inr ⟨rfl, rfl, fun _ => rfl⟩)
  | arrive event =>
    exact .inr (.inr ⟨tables_of_atRest (accept_atRest consumer event), rfl, fun _ => rfl⟩)
  | call =>
    refine .inr (.inr ⟨?_, rfl, fun _ => rfl⟩)
    rcases call_eq consumer with ⟨-, same⟩ | ⟨job, taken⟩
    · rw [same]
    · exact tables_of_atRest (takeDelivery?_pending taken).2
  | finish ticket =>
    exact .inr (.inr ⟨tables_of_atRest (finishDelivery_pending consumer ticket).2, rfl,
      fun _ => rfl⟩)
  | wait ticket? => exact .inr (.inr ⟨rfl, rfl, fun _ => rfl⟩)
  | stop turns => exact .inr (.inr ⟨rfl, rfl, fun _ => rfl⟩)

/-- A registration is refused, and then nothing has changed, or the next id is given out. -/
theorem grantOf?_cases (consumer : Consumer α β) {next : Step α β}
    (registration : next.IsRegistration) :
    consumer.grantOf? next = none ∧ consumer.step next = consumer ∨
      ∃ grant, consumer.grantOf? next = some grant ∧ grant.id = consumer.nextId ∧
        (consumer.step next).handedOut = consumer.handedOut + 1 := by
  cases next with
  | registerAsync kind listener =>
    simp only [grantOf?, step, registerAsync]
    split_ifs
    · exact .inl ⟨rfl, rfl⟩
    · exact .inr ⟨_, rfl, rfl, rfl⟩
  | registerSync kind listener =>
    simp only [grantOf?, step, registerSync]
    split_ifs
    · exact .inl ⟨rfl, rfl⟩
    · exact .inl ⟨rfl, rfl⟩
    · exact .inr ⟨_, rfl, rfl, rfl⟩
  | _ => exact registration.elim

/-- An id is given out in a step, or none is. -/
theorem handedOut_step (consumer : Consumer α β) (next : Step α β) :
    consumer.grantOf? next = none ∧ (consumer.step next).handedOut = consumer.handedOut ∨
      ∃ grant, consumer.grantOf? next = some grant ∧ grant.id = consumer.nextId ∧
        (consumer.step next).handedOut = consumer.handedOut + 1 := by
  rcases step_kinds consumer next with registration | ⟨id, rfl⟩ | ⟨tables, none, -⟩
  · exact (grantOf?_cases consumer registration).imp_left fun refused =>
      ⟨refused.1, by rw [refused.2]⟩
  · obtain ⟨asyncs, syncs, index, removed⟩ := unregister_eq consumer id
    exact .inl ⟨rfl, by rw [removed]⟩
  · simp only [Consumer.tables, Prod.mk.injEq] at tables
    exact .inl ⟨none, tables.2.2.2⟩

/-- **Every step keeps the tables at the standing registrations**, as long as ids have not run out. -/
theorem Agrees.step (agrees : consumer.Agrees standing) (next : Step α β)
    (fits : (consumer.step next).handedOut < 2 ^ 64) :
    (consumer.step next).Agrees (consumer.standingAfter standing next) := by
  have grown {grant : Grant α β} (given : consumer.grantOf? next = some grant) :
      consumer.handedOut + 1 < 2 ^ 64 := by
    rcases consumer.handedOut_step next with ⟨none, -⟩ | ⟨-, -, -, grown⟩
    · cases none.symm.trans given
    · exact grown ▸ fits
  rcases step_kinds consumer next with registration | ⟨id, rfl⟩ | ⟨tables, none, stays⟩
  · cases next with
    | registerAsync kind listener =>
      simp only [grantOf?] at grown
      simp only [standingAfter, Step.removes, grantOf?, Consumer.step]
      cases done : consumer.registerAsync kind listener with
      | error error => simpa [Except.toOption] using agrees
      | ok entry =>
        rw [done] at grown
        simpa [Except.toOption] using (agrees.registerAsync (grown rfl) done).2
    | registerSync kind listener =>
      simp only [grantOf?] at grown
      simp only [standingAfter, Step.removes, grantOf?, Consumer.step]
      cases done : consumer.registerSync kind listener with
      | error error => simpa [Except.toOption] using agrees
      | ok entry =>
        rw [done] at grown
        simpa [Except.toOption] using (agrees.registerSync (grown rfl) done).2
    | _ => exact registration.elim
  · simpa [standingAfter, Step.removes, grantOf?, Consumer.step] using agrees.unregister id
  · simpa [standingAfter, stays, none] using agrees.of_tables tables

/-- As long as ids have not run out, the tables hold some registrations that stand. -/
def HasStanding (consumer : Consumer α β) : Prop :=
  consumer.handedOut < 2 ^ 64 → ∃ standing, consumer.Agrees standing

namespace HasStanding

theorem of_tables (has : consumer.HasStanding) (same : later.tables = consumer.tables) : later.HasStanding := by
  intro fits
  have count : later.handedOut = consumer.handedOut := congrArg (fun tables => tables.2.2.2) same
  obtain ⟨standing, agrees⟩ := has (count ▸ fits)
  exact ⟨standing, agrees.of_tables same⟩

theorem step (has : consumer.HasStanding) (next : Step α β) : (consumer.step next).HasStanding := by
  intro fits
  obtain ⟨standing, agrees⟩ := has (Nat.lt_of_le_of_lt (consumer.handedOut_le_step next) fits)
  exact ⟨_, agrees.step next fits⟩

theorem registerAsync (has : consumer.HasStanding) {kind : String} {listener : α} {id : ListenerId}
    (done : consumer.registerAsync kind listener = .ok (id, later)) : later.HasStanding := by
  have registered := has.step (.registerAsync kind listener)
  simp only [Consumer.step] at registered
  rwa [done] at registered

theorem registerSync (has : consumer.HasStanding) {kind : String} {listener : β} {id : ListenerId}
    (done : consumer.registerSync kind listener = .ok (id, later)) : later.HasStanding := by
  have registered := has.step (.registerSync kind listener)
  simp only [Consumer.step] at registered
  rwa [done] at registered

end HasStanding

end Consumer

/-- Who was registered with a consumer, and who still is. -/
structure Roll (α β : Type) where
  consumer : Consumer α β
  /-- All registrations, first one first. -/
  granted : List (Grant α β)
  /-- Those that were not removed since. -/
  standing : List (Grant α β)

namespace Roll

open Consumer

variable {α β : Type} {roll : Roll α β}

/-- Write down one more step. -/
def note (roll : Roll α β) (next : Step α β) : Roll α β where
  consumer := roll.consumer.step next
  granted := roll.granted ++ (roll.consumer.grantOf? next).toList
  standing := roll.consumer.standingAfter roll.standing next

/-- The roll after steps. -/
def follow (roll : Roll α β) (steps : List (Step α β)) : Roll α β := steps.foldl note roll

/-- The roll of a run. -/
def of (selfId : NodeId) (domain : String) (steps : List (Step α β)) : Roll α β :=
  follow ⟨.new selfId domain, [], []⟩ steps

/-- The roll is kept beside the run. -/
theorem consumer_follow (roll : Roll α β) (steps : List (Step α β)) :
    (roll.follow steps).consumer = steps.foldl step roll.consumer := by
  induction steps generalizing roll with
  | nil => rfl
  | cons next steps ih => exact ih (roll.note next)

theorem consumer_of (selfId : NodeId) (domain : String) (steps : List (Step α β)) :
    (of selfId domain steps).consumer = run selfId domain steps :=
  consumer_follow _ steps

/-- The ids of so many registrations: their numbers, in 64 bits. -/
def idsOf (count : Nat) : List ListenerId := (List.range count).map fun before => UInt64.ofNat (before + 1)

/-- What a roll keeps: ids number the registrations, and as long as they have not run out, the tables hold what
stands. -/
structure IsKept (roll : Roll α β) : Prop where
  agrees : roll.consumer.handedOut < 2 ^ 64 → roll.consumer.Agrees roll.standing
  numbered : roll.granted.map Grant.id = idsOf roll.consumer.handedOut

/-- So many ids were given out. -/
theorem IsKept.length_granted (kept : roll.IsKept) : roll.granted.length = roll.consumer.handedOut := by
  have counted := congrArg List.length kept.numbered
  simpa [idsOf] using counted

theorem IsKept.note (kept : roll.IsKept) (next : Step α β) : (roll.note next).IsKept := by
  refine ⟨fun fits => ?_, ?_⟩
  · have before := Nat.lt_of_le_of_lt (roll.consumer.handedOut_le_step next) fits
    exact (kept.agrees before).step next fits
  · rcases handedOut_step roll.consumer next with ⟨none, same⟩ | ⟨last, given, numbered, grown⟩
    · simpa [Roll.note, none, same] using kept.numbered
    · simp [Roll.note, given, grown, kept.numbered, numbered, idsOf, List.range_succ, nextId]

/-- A registration that is refused leaves everything as it is. -/
theorem note_of_refused {next : Step α β} (registration : next.IsRegistration)
    (refused : roll.consumer.grantOf? next = none) : roll.note next = roll := by
  have same : roll.consumer.step next = roll.consumer := by
    rcases grantOf?_cases roll.consumer registration with ⟨-, same⟩ | ⟨grant, given, -⟩
    · exact same
    · rw [refused] at given
      cases given
  have stays : ∀ id, next.removes id = false := by
    cases next with
    | unregister id => exact registration.elim
    | _ => exact fun _ => rfl
  simp [note, same, refused, standingAfter, stays]

theorem isKept_of (selfId : NodeId) (domain : String) (steps : List (Step α β)) :
    (of selfId domain steps).IsKept := by
  have start : (⟨.new selfId domain, [], []⟩ : Roll α β).IsKept := ⟨fun _ => agrees_new selfId domain, rfl⟩
  exact List.foldlRecOn steps note start fun _ kept next _ => kept.note next

/-- No id comes again before they have run out. -/
theorem nodup_idsOf {count : Nat} (fits : count < 2 ^ 64) : (idsOf count).Nodup := by
  refine List.Nodup.map_on (fun first early second late same => ?_) List.nodup_range
  rw [List.mem_range] at early late
  have numbers := congrArg UInt64.toNat same
  have size : UInt64.size = 2 ^ 64 := rfl
  rw [UInt64.toNat_ofNat_of_lt' (by omega), UInt64.toNat_ofNat_of_lt' (by omega)] at numbers
  exact Nat.succ.inj numbers

/-- **The listeners of a consumer are in order.** -/
structure IsConsistent (roll : Roll α β) : Prop where
  /-- An id of the index is stored once, in the table and for the type that the index names, and no
  other id is stored. -/
  places : ∀ id, roll.consumer.places id = (roll.consumer.index.get? id).toList
  /-- What is stored are the listeners that stand, each under its id and for its type. -/
  agrees : roll.consumer.Agrees roll.standing
  /-- No id is given out twice. -/
  neverReused : (roll.granted.map Grant.id).Nodup
  count : ∀ kind, roll.consumer.listenerCount kind = roll.standing.countP (·.kind = kind)
  oneSync : ∀ kind, roll.standing.countP (·.registration = .sync kind) ≤ 1
  /-- Removing is answered by whether the id stands. -/
  answered : ∀ id, (roll.consumer.unregister id).1 = true ↔ id ∈ roll.standing.map Grant.id
  /-- It takes that listener away and leaves everything else. -/
  removed : ∀ id, Lacks id roll.consumer (roll.consumer.unregister id).2

/-- **The listeners of a consumer are in order after any steps**, as long as fewer ids were given out than 64 bits
can tell apart. Whenever that is, ids number the registrations in 64 bits, and a registration that is refused is as
good as none, whatever comes later. -/
theorem listeners_consistent (selfId : NodeId) (domain : String) (steps : List (Step α β)) :
    let roll := of selfId domain steps
    roll.granted.map Grant.id = idsOf roll.granted.length ∧
      (∀ next : Step α β, next.IsRegistration → roll.consumer.grantOf? next = none →
        ∀ more, roll.follow (next :: more) = roll.follow more) ∧
      (roll.granted.length < 2 ^ 64 → roll.IsConsistent) := by
  intro roll
  have kept : roll.IsKept := isKept_of selfId domain steps
  rw [kept.length_granted]
  refine ⟨kept.numbered, fun next registration refused more => ?_, fun fits => ?_⟩
  · exact congrArg (fun roll => follow roll more) (note_of_refused registration refused)
  · have agrees := kept.agrees fits
    exact ⟨agrees.places_eq, agrees, kept.numbered ▸ nodup_idsOf fits, agrees.listenerCount_eq,
      agrees.countP_sync_le, agrees.unregister_iff, agrees.lacks⟩

/-- A stale id takes nothing from the synchronous listener that has come in its place. -/
theorem listeners_consistent_of_successor :
    let roll : Roll Unit Unit := of ⟨"a"⟩ "d"
      [.registerSync "k" (), .unregister 1, .registerSync "k" (), .unregister 1]
    roll.granted.length < 2 ^ 64 ∧ roll.IsConsistent ∧ roll.granted.map Grant.id = [1, 2] ∧
      roll.standing.map Grant.id = [2] ∧ roll.consumer.listenerCount "k" = 1 := by
  intro roll
  have few : roll.granted.length < 2 ^ 64 := by decide
  exact ⟨few, (listeners_consistent ⟨"a"⟩ "d" _).2.2 few, by decide, by decide, by decide⟩

/-- After all of them the first id is given out once more. -/
example : (idsOf 3 = [1, 2, 3]) ∧ UInt64.ofNat (2 ^ 64 + 1) = 1 := by decide

end Roll

end PeerMesh
