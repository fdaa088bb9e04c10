/-
**Finite tables with one entry per key.**

A `Table` keeps its entries in the order in which their keys were first inserted, and its type says
that no key occurs twice. Each operation is pinned down by what it does to look-ups and to the size:

* `get?_empty`, `get?_insert`, `get?_erase`, `get?_modify`, `get?_filter_iff`, `get?_mapValues` —
  look-ups after each operation;
* `size_empty`, `size_insert_of_absent`, `size_insert_of_present`, `size_erase_of_present`,
  `size_modify`, `size_mapValues` — the number of entries;
* `get?_eq_none_iff`, `mem_entries_iff` — a look-up finds a value exactly when its entry is there.
* `All.insert`, `All.erase`, `All.modify`, `All.filter`, `All.mapValues` — what holds of all entries goes on
  holding.
-/

namespace PeerMesh

/-- A finite map, in order of first insertion. -/
structure Table (κ ν : Type) where
  entries : List (κ × ν)
  nodup : (entries.map Prod.fst).Nodup

namespace Table

variable {κ ν : Type}

/-- The table without entries. -/
def empty : Table κ ν := ⟨[], List.nodup_nil⟩

instance : Inhabited (Table κ ν) := ⟨empty⟩

/-- The keys, in order of first insertion. -/
def keys (table : Table κ ν) : List κ := table.entries.map Prod.fst

/-- The values, in order of first insertion of their keys. -/
def values (table : Table κ ν) : List ν := table.entries.map Prod.snd

/-- The number of entries. -/
def size (table : Table κ ν) : Nat := table.entries.length

/-- Whether there is no entry. -/
def isEmpty (table : Table κ ν) : Bool := table.entries.isEmpty

/-- Keep the entries that satisfy a test. -/
def filter (table : Table κ ν) (keep : κ → ν → Bool) : Table κ ν :=
  ⟨table.entries.filter fun entry => keep entry.1 entry.2,
    (List.filter_sublist.map Prod.fst).nodup table.nodup⟩

/-- Change every value, knowing its key. -/
def mapValues {ω : Type} (table : Table κ ν) (change : κ → ν → ω) : Table κ ω :=
  ⟨table.entries.map fun entry => (entry.1, change entry.1 entry.2), by
    simpa [List.map_map, Function.comp_def] using table.nodup⟩

variable [DecidableEq κ]

/-- Set the entry of one key in a list of entries; a new key goes to the end. -/
def put (key : κ) (value : ν) : List (κ × ν) → List (κ × ν)
  | [] => [(key, value)]
  | entry :: rest => if entry.1 = key then (key, value) :: rest else entry :: put key value rest

theorem map_fst_put (key : κ) (value : ν) (entries : List (κ × ν)) :
    (put key value entries).map Prod.fst =
      if key ∈ entries.map Prod.fst then entries.map Prod.fst
      else entries.map Prod.fst ++ [key] := by
  induction entries with
  | nil => simp [put]
  | cons entry rest ih =>
    by_cases same : entry.1 = key
    · simp [put, same]
    · have other : key ≠ entry.1 := fun eq => same eq.symm
      simp only [put, if_neg same, List.map_cons, ih, List.mem_cons, other, false_or]
      split <;> simp

theorem nodup_put (key : κ) (value : ν) {entries : List (κ × ν)}
    (nodup : (entries.map Prod.fst).Nodup) : ((put key value entries).map Prod.fst).Nodup := by
  rw [map_fst_put]
  split
  · exact nodup
  · rename_i absent
    refine List.nodup_append.mpr ⟨nodup, by simp, ?_⟩
    intro first firstMem second secondMem same
    rw [List.mem_singleton.mp secondMem] at same
    exact absent (same ▸ firstMem)

/-- The value stored under a key. -/
def get? (table : Table κ ν) (key : κ) : Option ν := table.entries.lookup key

/-- Whether a key has an entry. -/
def contains (table : Table κ ν) (key : κ) : Bool := (table.get? key).isSome

/-- Store a value under a key; a key that is present keeps its place. -/
def insert (table : Table κ ν) (key : κ) (value : ν) : Table κ ν :=
  ⟨put key value table.entries, nodup_put key value table.nodup⟩

/-- Forget a key. -/
def erase (table : Table κ ν) (key : κ) : Table κ ν :=
  table.filter fun stored _ => stored ≠ key

/-- Change the value of one key, if it has one. -/
def modify (table : Table κ ν) (key : κ) (change : ν → ν) : Table κ ν :=
  match table.get? key with
  | some value => table.insert key (change value)
  | none => table

/-! ### Look-ups -/

@[simp] theorem get?_empty (key : κ) : (empty : Table κ ν).get? key = none := rfl

theorem lookup_put (key other : κ) (value : ν) (entries : List (κ × ν)) :
    (put key value entries).lookup other =
      if other = key then some value else entries.lookup other := by
  induction entries with
  | nil =>
    by_cases same : other = key
    · simp [put, same]
    · simp [put, List.lookup_cons, beq_eq_false_iff_ne.mpr same, same]
  | cons entry rest ih =>
    obtain ⟨stored, old⟩ := entry
    by_cases here : stored = key
    · subst here
      by_cases same : other = stored
      · simp [put, same]
      · simp [put, List.lookup_cons, beq_eq_false_iff_ne.mpr same, same]
    · by_cases same : other = stored
      · subst same; simp [put, here]
      · simp [put, here, List.lookup_cons, beq_eq_false_iff_ne.mpr same, ih]

@[simp] theorem get?_insert (table : Table κ ν) (key other : κ) (value : ν) :
    (table.insert key value).get? other = if other = key then some value else table.get? other :=
  lookup_put key other value table.entries

theorem lookup_filter_ne (key other : κ) (entries : List (κ × ν)) :
    (entries.filter fun entry => entry.1 ≠ key).lookup other =
      if other = key then none else entries.lookup other := by
  induction entries with
  | nil => simp
  | cons entry rest ih =>
    obtain ⟨stored, value⟩ := entry
    by_cases here : stored = key
    · subst here
      by_cases same : other = stored
      · subst same; simpa using ih
      · simpa [List.lookup_cons, beq_eq_false_iff_ne.mpr same, same] using ih
    · by_cases same : other = stored
      · subst same; simp [here]
      · simpa [here, List.lookup_cons, beq_eq_false_iff_ne.mpr same] using ih

@[simp] theorem get?_erase (table : Table κ ν) (key other : κ) :
    (table.erase key).get? other = if other = key then none else table.get? other := by
  simpa [get?, erase, filter] using lookup_filter_ne key other table.entries

theorem get?_modify (table : Table κ ν) (key other : κ) (change : ν → ν) :
    (table.modify key change).get? other =
      if other = key then (table.get? key).map change else table.get? other := by
  unfold modify
  split
  · rename_i value found
    by_cases same : other = key <;> simp [same, found]
  · rename_i absent
    by_cases same : other = key <;> simp [same, absent]

theorem get?_modify_of_absent {table : Table κ ν} {key other : κ} {change : ν → ν}
    (absent : table.get? other = none) : (table.modify key change).get? other = none := by
  rw [get?_modify]
  split
  · rename_i same
    rw [← same, absent]
    rfl
  · exact absent

theorem lookup_eq_none_iff_notMem (key : κ) (entries : List (κ × ν)) :
    entries.lookup key = none ↔ key ∉ entries.map Prod.fst := by
  induction entries with
  | nil => simp
  | cons entry rest ih =>
    obtain ⟨stored, value⟩ := entry
    by_cases same : key = stored
    · subst same; simp
    · simp [List.lookup_cons, beq_eq_false_iff_ne.mpr same, same, ih]

theorem get?_eq_none_iff (table : Table κ ν) (key : κ) :
    table.get? key = none ↔ key ∉ table.keys :=
  lookup_eq_none_iff_notMem key table.entries

theorem lookup_eq_some_iff_mem (key : κ) (value : ν) {entries : List (κ × ν)}
    (nodup : (entries.map Prod.fst).Nodup) :
    entries.lookup key = some value ↔ (key, value) ∈ entries := by
  induction entries with
  | nil => simp
  | cons entry rest ih =>
    obtain ⟨stored, old⟩ := entry
    simp only [List.map_cons, List.nodup_cons] at nodup
    by_cases same : key = stored
    · subst same
      have absent : (key, value) ∉ rest := fun mem =>
        nodup.1 (List.mem_map.mpr ⟨_, mem, rfl⟩)
      simp [absent, eq_comm]
    · simp [List.lookup_cons, beq_eq_false_iff_ne.mpr same, same, ih nodup.2]

/-- A look-up finds a value exactly when the entry is there. -/
theorem mem_entries_iff (table : Table κ ν) (key : κ) (value : ν) :
    (key, value) ∈ table.entries ↔ table.get? key = some value :=
  (lookup_eq_some_iff_mem key value table.nodup).symm

theorem contains_iff_mem_keys (table : Table κ ν) (key : κ) :
    table.contains key = true ↔ key ∈ table.keys := by
  have absent := get?_eq_none_iff table key
  cases found : table.get? key with
  | none => simp [contains, found, absent.mp found]
  | some value =>
    have : ¬ (table.get? key = none) := by simp [found]
    simp only [contains, found, Option.isSome_some, true_iff]
    exact Classical.byContradiction fun notMem => this (absent.mpr notMem)

/-- A value that a filter lets through was there, and satisfies the test. -/
theorem get?_of_filter {table : Table κ ν} {keep : κ → ν → Bool} {key : κ} {value : ν}
    (found : (table.filter keep).get? key = some value) :
    table.get? key = some value ∧ keep key value = true := by
  have entry := ((table.filter keep).mem_entries_iff key value).mpr found
  obtain ⟨stored, kept⟩ := List.mem_filter.mp entry
  exact ⟨(table.mem_entries_iff key value).mp stored, kept⟩

/-- A filter keeps exactly the entries that satisfy the test. -/
theorem get?_filter_iff (table : Table κ ν) (keep : κ → ν → Bool) (key : κ) (value : ν) :
    (table.filter keep).get? key = some value ↔
      table.get? key = some value ∧ keep key value = true := by
  constructor
  · exact get?_of_filter
  · rintro ⟨found, kept⟩
    have entry := (table.mem_entries_iff key value).mpr found
    exact ((table.filter keep).mem_entries_iff key value).mp (List.mem_filter.mpr ⟨entry, kept⟩)

/-- Changing every value changes what look-ups find. -/
theorem get?_mapValues {ω : Type} (table : Table κ ν) (change : κ → ν → ω)
    (key : κ) : (table.mapValues change).get? key = (table.get? key).map (change key) := by
  show (table.entries.map fun entry => (entry.1, change entry.1 entry.2)).lookup key =
    (table.entries.lookup key).map (change key)
  induction table.entries with
  | nil => rfl
  | cons entry rest ih =>
    obtain ⟨stored, value⟩ := entry
    by_cases same : key = stored
    · subst same
      simp
    · rw [List.map_cons, List.lookup_cons, List.lookup_cons, beq_eq_false_iff_ne.mpr same]
      exact ih

theorem filter_key_eq_lookup (key : κ) {entries : List (κ × ν)}
    (nodup : (entries.map Prod.fst).Nodup) :
    entries.filter (·.1 = key) = (entries.lookup key).toList.map fun value => (key, value) := by
  induction entries with
  | nil => rfl
  | cons entry rest ih =>
    obtain ⟨stored, value⟩ := entry
    simp only [List.map_cons, List.nodup_cons] at nodup
    by_cases same : stored = key
    · subst same
      have others := ih nodup.2
      rw [(lookup_eq_none_iff_notMem stored rest).mpr nodup.1] at others
      simp [others]
    · simp [same, List.lookup_cons, beq_eq_false_iff_ne.mpr (Ne.symm same), ih nodup.2]

/-- The entries of one key: at most one. -/
theorem filter_key (table : Table κ ν) (key : κ) :
    table.entries.filter (·.1 = key) = (table.get? key).toList.map fun value => (key, value) :=
  filter_key_eq_lookup key table.nodup

/-- A filter leaves out the keys that were absent. -/
theorem get?_filter_of_absent {table : Table κ ν} {keep : κ → ν → Bool} {key : κ}
    (absent : table.get? key = none) : (table.filter keep).get? key = none := by
  cases found : (table.filter keep).get? key with
  | none => rfl
  | some value => rw [(get?_of_filter found).1] at absent; cases absent

theorem mem_values_iff (table : Table κ ν) (value : ν) :
    value ∈ table.values ↔ ∃ key, table.get? key = some value := by
  constructor
  · intro member
    obtain ⟨⟨key, stored⟩, entry, rfl⟩ := List.mem_map.mp member
    exact ⟨key, (table.mem_entries_iff key stored).mp entry⟩
  · rintro ⟨key, found⟩
    exact List.mem_map.mpr ⟨(key, value), (table.mem_entries_iff key value).mpr found, rfl⟩

/-! ### What holds of all entries -/

/-- Something holds of every key and its value. -/
def All (table : Table κ ν) (holds : κ → ν → Prop) : Prop :=
  ∀ key value, table.get? key = some value → holds key value

variable {table : Table κ ν} {holds : κ → ν → Prop} {key : κ}

theorem all_empty : (empty : Table κ ν).All holds :=
  fun _ _ found => by cases found

theorem All.insert (all : table.All holds) {value : ν} (new : holds key value) :
    (table.insert key value).All holds := by
  intro other stored found
  rw [get?_insert] at found
  split at found
  · rename_i same
    rw [same, ← Option.some.inj found]
    exact new
  · exact all other stored found

theorem All.erase (all : table.All holds) (key : κ) : (table.erase key).All holds := by
  intro other stored found
  rw [get?_erase] at found
  split at found
  · cases found
  · exact all other stored found

theorem All.modify (all : table.All holds) {change : ν → ν}
    (changes : ∀ value, holds key value → holds key (change value)) :
    (table.modify key change).All holds := by
  intro other stored found
  rw [get?_modify] at found
  split at found
  · rename_i same
    obtain ⟨value, was, rfl⟩ := Option.map_eq_some_iff.mp found
    rw [same]
    exact changes value (all key value was)
  · exact all other stored found

theorem All.filter (all : table.All holds) (keep : κ → ν → Bool) : (table.filter keep).All holds :=
  fun other stored found => all other stored (get?_of_filter found).1

theorem All.mapValues (all : table.All holds) {change : κ → ν → ν}
    (changes : ∀ key value, holds key value → holds key (change key value)) :
    (table.mapValues change).All holds := by
  intro other stored found
  rw [get?_mapValues] at found
  obtain ⟨value, was, rfl⟩ := Option.map_eq_some_iff.mp found
  exact changes other value (all other value was)

/-! ### Sizes -/

omit [DecidableEq κ] in
@[simp] theorem size_empty : (empty : Table κ ν).size = 0 := rfl

omit [DecidableEq κ] in
theorem size_eq_length_keys (table : Table κ ν) : table.size = table.keys.length := by
  simp [size, keys]

theorem size_insert_of_absent (table : Table κ ν) (key : κ) (value : ν)
    (absent : table.get? key = none) : (table.insert key value).size = table.size + 1 := by
  have notMem := (get?_eq_none_iff table key).mp absent
  simp only [size_eq_length_keys, keys, insert, map_fst_put] at notMem ⊢
  simp [notMem]

theorem size_insert_of_present (table : Table κ ν) (key : κ) (value : ν)
    (present : table.contains key = true) : (table.insert key value).size = table.size := by
  have mem := (contains_iff_mem_keys table key).mp present
  simp only [size_eq_length_keys, keys, insert, map_fst_put] at mem ⊢
  simp [mem]

theorem size_modify (table : Table κ ν) (key : κ) (change : ν → ν) :
    (table.modify key change).size = table.size := by
  unfold modify
  split
  · rename_i value found
    refine size_insert_of_present table key _ ?_
    rw [contains, found]
    rfl
  · rfl

/-- Forgetting a key that is present makes the table smaller by one. -/
theorem size_erase_of_present (table : Table κ ν) (key : κ)
    (present : table.contains key = true) : (table.erase key).size + 1 = table.size := by
  have found := (contains_iff_mem_keys table key).mp present
  have keys : (table.erase key).keys = table.keys.erase key := by
    refine Eq.trans ?_ (List.Nodup.erase_eq_filter table.nodup key).symm
    show (table.entries.filter fun entry => entry.1 ≠ key).map Prod.fst =
      (table.entries.map Prod.fst).filter fun stored => stored != key
    rw [List.filter_map]
    refine congrArg (List.map Prod.fst) (List.filter_congr fun entry _ => ?_)
    by_cases same : entry.1 = key
    · simp [same]
    · simp [same]
  have some := List.length_pos_of_mem found
  rw [size_eq_length_keys, size_eq_length_keys, keys, List.length_erase_of_mem found]
  omega

omit [DecidableEq κ] in
theorem size_mapValues {ω : Type} (table : Table κ ν) (change : κ → ν → ω) :
    (table.mapValues change).size = table.size :=
  List.length_map _

omit [DecidableEq κ] in
theorem size_filter_le (table : Table κ ν) (keep : κ → ν → Bool) :
    (table.filter keep).size ≤ table.size :=
  List.length_filter_le _ _

end Table

end PeerMesh
