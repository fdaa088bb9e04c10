/-
**Overrides in any order.**

Overrides come without an order of their own. They are visited one after another, and later those that are left take
effect one after another, both in any order.

* `get_set`, `get_set_of_later` — each field of the settings is set by itself; `ofValues?_congr` and
  `read?_of_ofValues?` — settings are made of what each field reads.
* `leavesAt?` — what an override leaves at a setting. `get?_apply` — what all of them leave there.
* `MayLoad` — what comes of overrides in some order. `mayLoad_load`: so does what is loaded in the order in which
  they are given.
* `IsConsistent` — no two overrides leave something at one setting that it reads in different ways.
* **`load_order_irrelevant`** — of consistent overrides the same comes in every order. Of others it does not, unless
  nothing can be loaded of them in any order.
* `load_of_capitals` — two keys that differ only in a capital letter.
-/

import Mathlib.Data.List.Induction
import Mathlib.Data.List.Pairwise
import PeerMesh.Settings.Load

namespace PeerMesh.Settings

/-! ### Fields -/

/-- A field holds what it was set to. -/
theorem get_set : ∀ field ∈ fields, ∀ settings content, field.get (field.set settings content) = content := by
  unfold fields
  simp

/-- A field is not changed by setting a later one. -/
theorem get_set_of_later : fields.Pairwise fun earlier later =>
    ∀ settings content, earlier.get (later.set settings content) = earlier.get settings := by
  unfold fields Kind.word Kind.halfWord
  simp only [List.pairwise_cons, List.forall_mem_cons, List.Pairwise.nil, and_true, List.not_mem_nil,
    false_imp_iff, implies_true]

/-- What a field reads in values, if there is anything for it. -/
def reading? (values : Values) (field : Field) : Option (Option field.kind.Content) :=
  (values.get? field.name).map field.kind.read?

/-- Only what a field reads matters to it. -/
theorem setField_eq (values : Values) (settings : Settings) (field : Field) :
    setField values settings field =
      match reading? values field with
      | none => some settings
      | some content? => content?.map (field.set settings) := by
  unfold setField reading?
  cases values.get? field.name <;> rfl

/-- **Settings are made of what the fields read.** -/
theorem ofValues?_congr {values others : Values}
    (same : ∀ field ∈ fields, reading? values field = reading? others field) :
    ofValues? values = ofValues? others := by
  have among (list : List Field) (inside : list ⊆ fields) : ∀ settings,
      list.foldlM (setField values) settings = list.foldlM (setField others) settings := by
    induction list with
    | nil => exact fun _ => rfl
    | cons field rest ih =>
      intro settings
      obtain ⟨here, later⟩ := List.cons_subset.mp inside
      rw [List.foldlM_cons, List.foldlM_cons, setField_eq, setField_eq, same field here]
      exact congrArg _ (funext (ih later))
  exact among fields (List.Subset.refl fields) standard

/-- A field is not changed by reading the values for others. -/
theorem get_of_foldlM {values : Values} {field : Field} {list : List Field}
    (apart : ∀ later ∈ list, ∀ settings content, field.get (later.set settings content) = field.get settings) :
    ∀ {start settings : Settings}, list.foldlM (setField values) start = some settings →
      field.get settings = field.get start := by
  induction list with
  | nil =>
    intro start settings read
    obtain rfl : start = settings := Option.some.inj read
    rfl
  | cons other rest ih =>
    intro start settings read
    obtain ⟨here, later⟩ := List.forall_mem_cons.mp apart
    rw [List.foldlM_cons] at read
    obtain ⟨between, first, others⟩ := Option.bind_eq_some_iff.mp read
    rw [ih later others]
    unfold setField at first
    split at first
    · rw [Option.some.inj first]
    · obtain ⟨content, -, rfl⟩ := Option.map_eq_some_iff.mp first
      exact here start content

/-- **A field holds what it reads.** -/
theorem read?_of_ofValues? {values : Values} {settings : Settings} (read : ofValues? values = some settings)
    {field : Field} (member : field ∈ fields) {value : Value} (found : values.get? field.name = some value) :
    field.kind.read? value = some (field.get settings) := by
  have among (list : List Field) (inside : list ⊆ fields) (apart : list.Pairwise fun earlier later =>
      ∀ settings content, earlier.get (later.set settings content) = earlier.get settings) : ∀ start,
      list.foldlM (setField values) start = some settings → field ∈ list →
        field.kind.read? value = some (field.get settings) := by
    induction list with
    | nil => exact fun _ _ none => absurd none List.not_mem_nil
    | cons first rest ih =>
      intro start read member
      obtain ⟨here, later⟩ := List.cons_subset.mp inside
      obtain ⟨unchanged, apart⟩ := List.pairwise_cons.mp apart
      rw [List.foldlM_cons] at read
      obtain ⟨between, set, others⟩ := Option.bind_eq_some_iff.mp read
      rcases List.mem_cons.mp member with rfl | elsewhere
      · unfold setField at set
        rw [found] at set
        obtain ⟨content, reads, rfl⟩ := Option.map_eq_some_iff.mp set
        rw [get_of_foldlM unchanged others, get_set field here]
        exact reads
      · exact ih later apart between others elsewhere
  exact among fields (List.Subset.refl fields) get_set_of_later standard read member

/-! ### What overrides say -/

/-- What is left at a setting by a value for a path that begins with it. -/
def leaves (path : Path) (value : Value) : Value := if path.parts.isEmpty then value else .collection

/-- The path of an override, and its value. -/
def said? (override : String × String) : Option (Path × Value) :=
  (Path.parse? override.1.toLower).map fun path => (path, .text override.2)

/-- What an override leaves at a setting, if it is for it. -/
def leavesAt? (name : String) (override : String × String) : Option Value :=
  (said? override).bind fun said => if said.1.root = name then some (leaves said.1 said.2) else none

theorem overridesOf?_concat (overrides : List (String × String)) (override : String × String) :
    overridesOf? (overrides ++ [override]) = (overridesOf? overrides).bind fun table =>
      (said? override).map fun said => table.insert said.1 said.2 := by
  unfold overridesOf?
  rw [List.foldlM_append]
  refine congrArg _ (funext fun table => ?_)
  show (((Path.parse? override.1.toLower).map _).bind some) = _
  unfold said?
  rw [Option.bind_fun_some, Option.map_map]
  rfl

variable {overrides visited : List (String × String)} {table : Table Path Value} {override : String × String}
  {path : Path} {value : Value}

/-- Something is left at a setting by an override for a path that begins with it. -/
theorem leavesAt?_eq_some_iff {name : String} {left : Value} : leavesAt? name override = some left ↔
    ∃ path value, said? override = some (path, value) ∧ path.root = name ∧ leaves path value = left := by
  unfold leavesAt?
  rw [Option.bind_eq_some_iff, Prod.exists]
  simp only [Option.ite_none_right_eq_some, Option.some.injEq]

/-- Overrides are refused exactly if one of them is for no path. -/
theorem overridesOf?_eq_none_iff :
    overridesOf? overrides = none ↔ ∃ override ∈ overrides, said? override = none := by
  induction overrides using List.reverseRecOn with
  | nil => simp [overridesOf?]
  | append_singleton overrides override ih =>
    rw [overridesOf?_concat, Option.bind_eq_none_iff]
    constructor
    · intro none
      cases before : overridesOf? overrides with
      | none =>
        obtain ⟨bad, member, refused⟩ := ih.mp before
        exact ⟨bad, List.mem_append_left _ member, refused⟩
      | some table =>
        exact ⟨override, List.mem_append_right _ List.mem_cons_self,
          Option.map_eq_none_iff.mp (none table before)⟩
    · rintro ⟨bad, member, refused⟩ table before
      rcases List.mem_append.mp member with earlier | last
      · rw [ih.mpr ⟨bad, earlier, refused⟩] at before
        cases before
      · rw [← List.mem_singleton.mp last, refused]
        rfl

/-- What is left for a path was said by an override. -/
theorem said_of_mem (read : overridesOf? overrides = some table) (found : table.get? path = some value) :
    ∃ override ∈ overrides, said? override = some (path, value) := by
  induction overrides using List.reverseRecOn generalizing table with
  | nil =>
    obtain rfl : Table.empty = table := Option.some.inj read
    cases found
  | append_singleton overrides override ih =>
    rw [overridesOf?_concat] at read
    obtain ⟨before, readBefore, last⟩ := Option.bind_eq_some_iff.mp read
    obtain ⟨said, tells, rfl⟩ := Option.map_eq_some_iff.mp last
    rw [Table.get?_insert] at found
    split at found
    · rename_i same
      refine ⟨override, List.mem_append_right _ List.mem_cons_self, tells.trans ?_⟩
      rw [same, ← Option.some.inj found]
    · obtain ⟨earlier, member, tellsSo⟩ := ih readBefore found
      exact ⟨earlier, List.mem_append_left _ member, tellsSo⟩

/-- Something is left for the path of every override. -/
theorem found_of_said (read : overridesOf? overrides = some table) (member : override ∈ overrides)
    (tells : said? override = some (path, value)) : ∃ left, table.get? path = some left := by
  induction overrides using List.reverseRecOn generalizing table with
  | nil => exact absurd member List.not_mem_nil
  | append_singleton overrides last ih =>
    rw [overridesOf?_concat] at read
    obtain ⟨before, readBefore, lastRead⟩ := Option.bind_eq_some_iff.mp read
    obtain ⟨said, lastSays, rfl⟩ := Option.map_eq_some_iff.mp lastRead
    rw [Table.get?_insert]
    split
    · exact ⟨_, rfl⟩
    · rename_i other
      rcases List.mem_append.mp member with earlier | isLast
      · exact ih readBefore earlier
      · rw [← List.mem_singleton.mp isLast, tells] at lastSays
        exact absurd (congrArg Prod.fst (Option.some.inj lastSays)) other

/-- What the last override says is left. -/
theorem get?_of_last (read : overridesOf? (overrides ++ [override]) = some table)
    (tells : said? override = some (path, value)) : table.get? path = some value := by
  rw [overridesOf?_concat] at read
  obtain ⟨before, -, last⟩ := Option.bind_eq_some_iff.mp read
  rw [tells] at last
  obtain rfl := Option.some.inj last
  rw [Table.get?_insert, if_pos rfl]

/-! ### What overrides bring about -/

/-- What is left of overrides takes effect, one after another. -/
def apply (values : Values) (effects : List (Path × Value)) : Values :=
  effects.foldl (fun values effect => put values effect.1 effect.2) values

/-- **At each setting one of the effects is left, or there was none.** -/
theorem get?_apply (values : Values) (effects : List (Path × Value)) (name : String) :
    (∃ effect ∈ effects, effect.1.root = name ∧
        (apply values effects).get? name = some (leaves effect.1 effect.2)) ∨
      (∀ effect ∈ effects, effect.1.root ≠ name) ∧ (apply values effects).get? name = values.get? name := by
  induction effects using List.reverseRecOn with
  | nil => exact .inr ⟨fun _ none => absurd none List.not_mem_nil, rfl⟩
  | append_singleton effects last ih =>
    have takes : (apply values (effects ++ [last])).get? name =
        if name = last.1.root then some (leaves last.1 last.2) else (apply values effects).get? name := by
      unfold apply
      rw [List.foldl_append]
      exact Table.get?_insert _ _ _ _
    rw [takes]
    by_cases here : name = last.1.root
    · exact .inl ⟨last, List.mem_append_right _ List.mem_cons_self, here.symm, if_pos here⟩
    · rw [if_neg here]
      rcases ih with ⟨effect, member, root, left⟩ | ⟨none, left⟩
      · exact .inl ⟨effect, List.mem_append_left _ member, root, left⟩
      · refine .inr ⟨fun effect member => ?_, left⟩
        rcases List.mem_append.mp member with earlier | isLast
        · exact none effect earlier
        · exact List.mem_singleton.mp isLast ▸ fun same => here same.symm

/-- The last effect is left. -/
theorem get?_apply_last (values : Values) (effects : List (Path × Value)) (last : Path × Value) :
    (apply values (effects ++ [last])).get? last.1.root = some (leaves last.1 last.2) := by
  unfold apply
  rw [List.foldl_append]
  exact (Table.get?_insert _ _ _ _).trans (if_pos rfl)

/-- What comes of the variables and of what is left of overrides. -/
def loadOf (environment : List (String × String)) (effects : List (Path × Value)) :
    Except SettingsError Settings :=
  match ofValues? (apply (ofVariables environment) effects) with
  | none => .error .unreadable
  | some settings => settings.validate.map fun _ => settings

/-- What is left of overrides that are visited in some order, to take effect in some order. -/
def IsLeft (overrides : List (String × String)) (effects : List (Path × Value)) : Prop :=
  ∃ visited table, visited.Perm overrides ∧ overridesOf? visited = some table ∧ effects.Perm table.entries

/-- What may come of overrides that are visited in any order, what is left of them taking effect in any order. -/
inductive MayLoad (environment overrides : List (String × String)) : Except SettingsError Settings → Prop where
  | refused {visited : List (String × String)} : visited.Perm overrides → overridesOf? visited = none →
    MayLoad environment overrides (.error .unreadable)
  | applied {effects : List (Path × Value)} : IsLeft overrides effects →
    MayLoad environment overrides (loadOf environment effects)

variable {environment : List (String × String)} {effects others : List (Path × Value)}

theorem load_of_refused (none : overridesOf? overrides = none) :
    load environment overrides = .error .unreadable := by
  unfold load read?
  rw [none]
  rfl

theorem load_of_read (read : overridesOf? overrides = some table) :
    load environment overrides = loadOf environment table.entries := by
  unfold load read?
  rw [read]
  rfl

/-- What is loaded of overrides in one order may come of them. -/
theorem mayLoad_load (environment : List (String × String)) (same : visited.Perm overrides) :
    MayLoad environment overrides (load environment visited) := by
  cases read : overridesOf? visited with
  | none =>
    rw [load_of_refused read]
    exact .refused same read
  | some table =>
    rw [load_of_read read]
    exact .applied ⟨visited, table, same, read, List.Perm.refl _⟩

/-- Whether overrides are refused does not depend on their order. -/
theorem overridesOf?_eq_none_of_perm (same : visited.Perm overrides) (refused : overridesOf? visited = none) :
    overridesOf? overrides = none := by
  obtain ⟨bad, member, refused⟩ := overridesOf?_eq_none_iff.mp refused
  exact overridesOf?_eq_none_iff.mpr ⟨bad, same.mem_iff.mp member, refused⟩

/-- Every effect was said by an override. -/
theorem IsLeft.said (left : IsLeft overrides effects) {effect : Path × Value} (member : effect ∈ effects) :
    ∃ override ∈ overrides, said? override = some effect := by
  obtain ⟨visited, table, same, read, order⟩ := left
  obtain ⟨override, among, tells⟩ :=
    said_of_mem read ((table.mem_entries_iff _ _).mp (order.mem_iff.mp member))
  exact ⟨override, same.mem_iff.mp among, tells⟩

/-- Every override has left an effect on its path. -/
theorem IsLeft.found (left : IsLeft overrides effects) (member : override ∈ overrides)
    (tells : said? override = some (path, value)) : ∃ other, (path, other) ∈ effects := by
  obtain ⟨visited, table, same, read, order⟩ := left
  obtain ⟨other, found⟩ := found_of_said read (same.mem_iff.mpr member) tells
  exact ⟨other, order.mem_iff.mpr ((table.mem_entries_iff _ _).mpr found)⟩

/-- Every effect was left at its setting by an override. -/
theorem IsLeft.leavesAt? (left : IsLeft overrides effects) {effect : Path × Value} (member : effect ∈ effects) :
    ∃ override ∈ overrides, leavesAt? effect.1.root override = some (leaves effect.1 effect.2) := by
  obtain ⟨override, among, tells⟩ := left.said member
  exact ⟨override, among, leavesAt?_eq_some_iff.mpr ⟨effect.1, effect.2, tells, rfl, rfl⟩⟩

/-- In every order there are effects on the same settings. -/
theorem IsLeft.covered (left : IsLeft overrides effects) (right : IsLeft overrides others) {effect : Path × Value}
    (member : effect ∈ effects) : ∃ other ∈ others, other.1.root = effect.1.root := by
  obtain ⟨override, among, tells⟩ := left.said member
  obtain ⟨other, found⟩ := right.found among tells
  exact ⟨_, found, rfl⟩

/-- Any override may have the last word, if none is refused. -/
theorem exists_isLeft_concat (accepted : ∀ override ∈ overrides, said? override ≠ none)
    (member : override ∈ overrides) (tells : said? override = some (path, value)) :
    ∃ earlier, IsLeft overrides (earlier ++ [(path, value)]) := by
  obtain ⟨before, after, rfl⟩ := List.append_of_mem member
  have toTheEnd {ι : Type} (item : ι) (front back : List ι) :
      (front ++ back ++ [item]).Perm (front ++ item :: back) :=
    (List.perm_append_singleton item (front ++ back)).trans List.perm_middle.symm
  have same := toTheEnd override before after
  cases read : overridesOf? (before ++ after ++ [override]) with
  | none =>
    obtain ⟨bad, among, refused⟩ := overridesOf?_eq_none_iff.mp read
    exact absurd refused (accepted bad (same.mem_iff.mp among))
  | some table =>
    obtain ⟨front, back, split⟩ :=
      List.append_of_mem ((table.mem_entries_iff _ _).mpr (get?_of_last read tells))
    exact ⟨front ++ back, _, table, same, read, split ▸ toTheEnd (path, value) front back⟩

/-! ### Overrides that do not clash -/

/-- No two overrides leave something at one setting that it reads in different ways. -/
def IsConsistent (overrides : List (String × String)) : Prop :=
  ∀ field ∈ fields, ∀ first ∈ overrides, ∀ second ∈ overrides, ∀ value other,
    leavesAt? field.name first = some value → leavesAt? field.name second = some other →
      field.kind.read? value = field.kind.read? other

/-- Overrides for different settings are consistent. -/
theorem isConsistent_of_apart (apart : overrides.Pairwise fun first second =>
    ∀ said other, said? first = some said → said? second = some other → said.1.root ≠ other.1.root) :
    IsConsistent overrides := by
  intro field _ first isIn second isInToo value other tells tellsToo
  obtain ⟨path, text, saying, root, -⟩ := leavesAt?_eq_some_iff.mp tells
  obtain ⟨pathToo, textToo, sayingToo, rootToo, -⟩ := leavesAt?_eq_some_iff.mp tellsToo
  have one : first = second := by
    by_contra differ
    have eitherWay : Std.Symm fun first second : String × String => ∀ said other, said? first = some said →
        said? second = some other → said.1.root ≠ other.1.root :=
      ⟨fun _ _ noClash other said tellsOther tells same => noClash said other tells tellsOther same.symm⟩
    exact apart.forall isIn isInToo differ _ _ saying sayingToo (root.trans rootToo.symm)
  rw [one, tellsToo] at tells
  rw [Option.some.inj tells]

/-- What is left of consistent overrides is read alike, whatever the order. -/
theorem IsConsistent.loadOf_eq (consistent : IsConsistent overrides) (left : IsLeft overrides effects)
    (right : IsLeft overrides others) : loadOf environment effects = loadOf environment others := by
  have same : ofValues? (apply (ofVariables environment) effects) =
      ofValues? (apply (ofVariables environment) others) := by
    refine ofValues?_congr fun field isField => ?_
    unfold reading?
    rcases get?_apply (ofVariables environment) effects field.name with
      ⟨effect, member, root, found⟩ | ⟨none, found⟩ <;>
    rcases get?_apply (ofVariables environment) others field.name with
      ⟨other, among, rootToo, foundToo⟩ | ⟨noneToo, foundToo⟩
    · obtain ⟨first, isIn, tells⟩ := left.leavesAt? member
      obtain ⟨second, isInToo, tellsToo⟩ := right.leavesAt? among
      rw [found, foundToo]
      rw [root] at tells
      rw [rootToo] at tellsToo
      exact congrArg some (consistent field isField first isIn second isInToo _ _ tells tellsToo)
    · obtain ⟨other, among, same⟩ := left.covered right member
      exact absurd (same.trans root) (noneToo other among)
    · obtain ⟨effect, member, same⟩ := right.covered left among
      exact absurd (same.trans rootToo) (none effect member)
    · rw [found, foundToo]
  unfold loadOf
  rw [same]

/-- Settings that are loaded were read. -/
theorem ofValues?_of_loadOf {settings : Settings} (loads : loadOf environment effects = .ok settings) :
    ofValues? (apply (ofVariables environment) effects) = some settings := by
  unfold loadOf at loads
  split at loads
  · cases loads
  · rename_i read
    rw [read]
    cases valid : Settings.validate _ with
    | error fault =>
      rw [valid] at loads
      cases loads
    | ok done =>
      rw [valid] at loads
      exact congrArg some (Except.ok.inj loads)

/-- If the same settings come in every order, they hold what every override leaves. -/
theorem read?_of_steady {settings : Settings}
    (steady : ∀ result, MayLoad environment overrides result → result = .ok settings)
    (member : override ∈ overrides) {field : Field} (isField : field ∈ fields)
    (tells : leavesAt? field.name override = some value) :
    field.kind.read? value = some (field.get settings) := by
  have accepted : ∀ override ∈ overrides, said? override ≠ none := by
    intro bad among refused
    have none := overridesOf?_eq_none_iff.mpr ⟨bad, among, refused⟩
    cases steady _ (.refused (List.Perm.refl overrides) none)
  obtain ⟨path, text, saying, root, rfl⟩ := leavesAt?_eq_some_iff.mp tells
  obtain ⟨earlier, left⟩ := exists_isLeft_concat accepted member saying
  have read := ofValues?_of_loadOf (steady _ (.applied left))
  have last := get?_apply_last (ofVariables environment) earlier (path, text)
  rw [root] at last
  exact read?_of_ofValues? read isField last

/-- What comes of overrides, whatever their order. -/
structure OrderLaw (environment overrides : List (String × String)) : Prop where
  /-- Overrides may be loaded in any order. -/
  visits : ∀ visited, visited.Perm overrides → MayLoad environment overrides (load environment visited)
  /-- Of consistent overrides the same comes in every order. -/
  agrees : IsConsistent overrides →
    ∀ result, MayLoad environment overrides result ↔ result = load environment overrides
  /-- If settings come of overrides in some order, they do in every order exactly if the overrides are consistent. -/
  agrees_iff : ∀ settings, MayLoad environment overrides (.ok settings) →
    ((∀ result, MayLoad environment overrides result → result = .ok settings) ↔ IsConsistent overrides)

/-- **The order of overrides is irrelevant exactly as long as they do not clash.** -/
theorem load_order_irrelevant (environment overrides : List (String × String)) :
    OrderLaw environment overrides := by
  have agrees (consistent : IsConsistent overrides) (result : Except SettingsError Settings)
      (may : MayLoad environment overrides result) : result = load environment overrides := by
    cases may with
    | refused same refused => rw [load_of_refused (overridesOf?_eq_none_of_perm same refused)]
    | applied left =>
      have ⟨visited, _, same, read, _⟩ := left
      cases given : overridesOf? overrides with
      | none =>
        rw [overridesOf?_eq_none_of_perm same.symm given] at read
        cases read
      | some table =>
        rw [load_of_read given]
        exact consistent.loadOf_eq left ⟨overrides, table, .refl _, given, .refl _⟩
  refine ⟨fun visited same => mayLoad_load environment same,
    fun consistent result => ⟨agrees consistent result, ?_⟩,
    fun settings may => ⟨fun steady => ?_, fun consistent result other => ?_⟩⟩
  · rintro rfl
    exact mayLoad_load environment (.refl overrides)
  · intro field isField first isIn second isInToo value other tells tellsToo
    rw [read?_of_steady steady isIn isField tells, read?_of_steady steady isInToo isField tellsToo]
  · rw [agrees consistent result other, agrees consistent _ may]

/-- Of two overrides for one path, the one that is visited last has its way. -/
theorem load_of_same_path {earlier : String × String} {earlierValue : Value}
    (tells : said? earlier = some (path, earlierValue)) (tellsToo : said? override = some (path, value)) :
    load environment [earlier, override] = loadOf environment [(path, value)] := by
  have one : overridesOf? [earlier] = some (Table.empty.insert path earlierValue) := by
    rw [show [earlier] = [] ++ [earlier] from rfl, overridesOf?_concat, tells]
    rfl
  have both : overridesOf? [earlier, override] =
      some ((Table.empty.insert path earlierValue).insert path value) := by
    rw [show [earlier, override] = [earlier] ++ [override] from rfl, overridesOf?_concat, one, tellsToo]
    rfl
  rw [load_of_read both]
  congr 1
  show Table.put path value [(path, earlierValue)] = _
  unfold Table.put
  rw [if_pos rfl]

/-- An override whose key is the name of a setting, in capital letters or not. -/
theorem said?_of_name (key name text : String) (lower : key.toLower = name)
    (plain : Path.parse? name = some ⟨name, []⟩) : said? (key, text) = some (⟨name, []⟩, .text text) := by
  unfold said?
  rw [lower, plain]
  rfl

/-- Keys for two settings may come in either order, capital letters or not. With two keys that differ only in a
capital letter, the order decides. -/
theorem load_of_capitals :
    let overrides := [("domain", "orders"), ("Domain", "billing")]
    (∀ result, MayLoad [] [("Domain", "billing"), ("gossip_enabled", "off")] result ↔
        result = load [] [("Domain", "billing"), ("gossip_enabled", "off")]) ∧
      ¬ IsConsistent overrides ∧ load [] overrides = .ok (standard.withDomain "billing") ∧
      load [] overrides.reverse = .ok (standard.withDomain "orders") := by
  intro overrides
  have small := said?_of_name "domain" "domain" "orders" (by decide +kernel) (by decide +kernel)
  have capital := said?_of_name "Domain" "domain" "billing" (by decide +kernel) (by decide +kernel)
  have gossip := said?_of_name "gossip_enabled" "gossip_enabled" "off" (by decide +kernel) (by decide +kernel)
  have last : load [] overrides = .ok (standard.withDomain "billing") :=
    (load_of_same_path small capital).trans (by decide +kernel)
  have first : load [] overrides.reverse = .ok (standard.withDomain "orders") :=
    (load_of_same_path capital small).trans (by decide +kernel)
  refine ⟨(load_order_irrelevant [] _).agrees (isConsistent_of_apart (List.pairwise_pair.mpr ?_)),
    fun consistent => ?_, last, first⟩
  · intro said other tells tellsOther
    rw [← Option.some.inj (capital.symm.trans tells), ← Option.some.inj (gossip.symm.trans tellsOther)]
    decide
  · have law := load_order_irrelevant [] overrides
    have same := ((law.agrees consistent _).mp (law.visits _ overrides.reverse_perm)).symm
    rw [last, first] at same
    have clash : "billing" = "orders" := congrArg Settings.domain (Except.ok.inj same)
    exact absurd clash (by decide)

end PeerMesh.Settings
