/-
**What a view takes in of a digest.**

A digest speaks for its sender (`View.greet`) and tells of others (`View.takeIn`).

* `View.greeted` — the record of a peer that has told its heartbeat number, made of the record of before, of
  the address and of the number.
* `get?_greet`, `standing_greet` — only what is known of the sender changes.
* `get?_absorb_selfId` — a view never takes in its own id.
* **`get?_absorb_sender`** — what a digest makes of the record of its sender is up to where it came from and
  to its heartbeat number alone.
-/

import PeerMesh.Proofs.View.Hearsay

namespace PeerMesh

/-- What a digest brings: word of its sender, and word of others. -/
def Digest.words (digest : Digest) : List (Option GossipEntry) := none :: digest.entries.map some

namespace View

/-- The record of a peer that was heard of directly, at an address: a new one if it is new there. -/
def heardFrom (now : Reading) (address : Address) (id : NodeId) : Option Record → Record
  | some record => if record.address = address then record.reset now else newRecord now address id 0
  | none => newRecord now address id 0

/-- The record of a peer that has told its heartbeat number, from an address. -/
def greeted (now : Reading) (address : Address) (id : NodeId) (number : UInt64) (known : Option Record) :
    Record :=
  (heardFrom now address id known).observeVersion number

/-- A peer tells its heartbeat number. -/
def greet (view : View) (now : Reading) (address : Address) (id : NodeId) (number : UInt64) : View :=
  let heard := view.heartbeat now address id
  match heard.answer with
  | .ok _ => heard.view.modifyRecord id (·.observeVersion number)
  | .error _ => heard.view

/-- A sender tells of a peer. -/
def takeIn (now : Reading) (sender : NodeId) (view : View) (entry : GossipEntry) : View :=
  if entry.id = view.selfId ∨ entry.id = sender then view
  else (view.observe now entry.address entry.id entry.version).view

/-- A digest arrives. -/
def absorb (now : Reading) (address : Address) (sender : NodeId) (view : View) (digest : Digest) : View :=
  if digest.version = protocolVersion then
    digest.entries.foldl (takeIn now sender) (view.greet now address sender digest.heartbeat)
  else view

variable {view : View} {now : Reading} {address : Address} {sender : NodeId} {number : UInt64}

/-! ### The sender -/

theorem get?_modifyRecord (view : View) (id other : NodeId) (change : Record → Record) :
    (view.modifyRecord id change).get? other =
      if other = id then (view.get? id).map change else view.get? other := by
  show Option.map Member.record ((view.live.modify id _).get? other) = _
  rw [Table.get?_modify]
  split
  · simp [get?, Function.comp_def]
  · rfl

theorem greet_of_refused {error : ViewError} (refused : view.refusal? sender = some error) :
    view.greet now address sender number = view := by
  unfold greet heartbeat unlessRefused
  rw [refused]

/-- **Whoever is heard of directly** has no tombstone any more and a record of it. That it comes is answered and
told if it was not live. -/
theorem heartbeat_eq (accepted : view.refusal? sender = none) (now : Reading) (address : Address) :
    (view.heartbeat now address sender).answer = .ok (view.get? sender).isNone ∧
      (view.heartbeat now address sender).notices =
        (if (view.get? sender).isNone then [⟨.up, newRecord now address sender 0⟩] else []) ∧
      (view.heartbeat now address sender).view.dead = view.dead.erase sender ∧
      (view.heartbeat now address sender).view.gate = view.gate ∧
      ∀ other, (view.heartbeat now address sender).view.get? other =
        if other = sender then some (heardFrom now address sender (view.get? sender))
        else view.get? other := by
  have named : (newRecord now address sender 0).id = sender := by rw [newRecord_eq]
  have enrolled (other : NodeId) :
      ((view.unbury sender).enroll (newRecord now address sender 0)).get? other =
        if other = sender then some (newRecord now address sender 0) else view.get? other := by
    rw [get?_enroll, named]
    rfl
  have same : (view.unbury sender).get? sender = view.get? sender := rfl
  unfold heartbeat unlessRefused heardFrom
  rw [accepted]
  dsimp only
  rw [same]
  cases found : view.get? sender with
  | none => exact ⟨rfl, rfl, rfl, rfl, enrolled⟩
  | some record =>
    by_cases stays : record.address = address
    · simp only [if_pos stays]
      refine ⟨rfl, rfl, rfl, rfl, fun other => ?_⟩
      show ((view.unbury sender).modifyRecord sender (·.reset now)).get? other = _
      rw [get?_modifyRecord, same, found]
      rfl
    · simp only [if_neg stays]
      exact ⟨rfl, rfl, rfl, rfl, enrolled⟩

/-- A sender that is not refused has no tombstone any more, and a record of which the number is told. -/
theorem greet_eq (accepted : view.refusal? sender = none) :
    ∃ risen : View, view.greet now address sender number =
        risen.modifyRecord sender (·.observeVersion number) ∧
      risen.dead = view.dead.erase sender ∧ risen.gate = view.gate ∧
      ∀ other, risen.get? other =
        if other = sender then some (heardFrom now address sender (view.get? sender))
        else view.get? other := by
  obtain ⟨answered, _, dead, gate, known⟩ := heartbeat_eq accepted now address
  refine ⟨(view.heartbeat now address sender).view, ?_, dead, gate, known⟩
  unfold greet
  dsimp only
  rw [answered]

/-- **Of the peers only the sender changes.** -/
theorem get?_greet (accepted : view.refusal? sender = none) (other : NodeId) :
    (view.greet now address sender number).get? other =
      if other = sender then some (greeted now address sender number (view.get? sender))
      else view.get? other := by
  obtain ⟨risen, same, _, _, known⟩ := view.greet_eq accepted
  rw [same, get?_modifyRecord, known, known, if_pos rfl]
  split <;> rfl

theorem gate_greet (view : View) (now : Reading) (address : Address) (sender : NodeId) (number : UInt64) :
    (view.greet now address sender number).gate = view.gate := by
  cases refused : view.refusal? sender with
  | some error => rw [greet_of_refused refused]
  | none =>
    obtain ⟨risen, same, _, gate, _⟩ := view.greet_eq refused
    rw [same]
    exact gate

end View

namespace Standing

/-- What is known of the sender of a digest afterwards. -/
def greet (now : Reading) (address : Address) (id : NodeId) (number : UInt64) (standing : Standing) :
    Standing :=
  ⟨none, some (View.greeted now address id number standing.record).uncounted⟩

theorem observeVersion_eq (record : Record) (number : UInt64) :
    record.observeVersion number = { record with version := latest record.version number } := by
  unfold Record.observeVersion Record.isNews latest
  by_cases news : record.version < number <;> simp [news]

theorem latest_latest (first second : UInt64) : latest (latest first second) second = latest first second := by
  unfold latest
  grind

/-- A peer that was heard of directly is where it said, and not suspected. -/
theorem heardFrom_eq (now : Reading) (address : Address) (id : NodeId) (known : Option Record) :
    ∃ peer earlier touches version, View.heardFrom now address id known =
      ⟨peer, address, .normal, max earlier now, touches, version⟩ := by
  unfold View.heardFrom
  rw [View.newRecord_eq]
  cases known with
  | none => exact ⟨_, _, _, _, rfl⟩
  | some record =>
    by_cases stays : record.address = address
    · simp only [if_pos stays]
      rw [← stays]
      exact ⟨_, _, _, _, rfl⟩
    · simp only [if_neg stays]
      exact ⟨_, _, _, _, rfl⟩

theorem greet_twice (now : Reading) (address : Address) (id : NodeId) (number : UInt64)
    (standing : Standing) :
    (standing.greet now address id number).greet now address id number =
      standing.greet now address id number := by
  obtain ⟨peer, earlier, touches, version, heard⟩ := heardFrom_eq now address id standing.record
  unfold greet View.greeted
  rw [observeVersion_eq, observeVersion_eq, heard]
  simp only [View.heardFrom, Record.uncounted, if_true, Record.reset, Record.touch, max_max, latest_latest]

/-- How often the sender was heard of shows in the touch count alone. -/
theorem uncounted_greeted (now : Reading) (address : Address) (id : NodeId) (number : UInt64)
    (known : Option Record) :
    (View.greeted now address id number (known.map Record.uncounted)).uncounted =
      (View.greeted now address id number known).uncounted := by
  unfold View.greeted
  rw [observeVersion_eq, observeVersion_eq]
  cases known with
  | none => rfl
  | some record =>
    by_cases stays : record.address = address <;>
      simp [View.heardFrom, Record.uncounted, Record.reset, Record.touch, stays]

end Standing

namespace View

variable {view : View} {now : Reading} {address : Address} {sender : NodeId} {number : UInt64}

theorem standing_greet (accepted : view.refusal? sender = none) :
    (view.greet now address sender number).standing =
      Function.update view.standing sender
        ((view.standing sender).greet now address sender number) := by
  funext other
  obtain ⟨risen, same, dead, _, _⟩ := view.greet_eq accepted
  have buried : (view.greet now address sender number).dead.get? other =
      if other = sender then none else view.dead.get? other := by
    rw [same]
    show risen.dead.get? other = _
    rw [dead, Table.get?_erase]
  unfold standing
  rw [buried, get?_greet accepted]
  by_cases here : other = sender
  · subst here
    simp [Standing.greet, Standing.uncounted_greeted]
  · simp [here]

/-! ### Everybody else -/

theorem get?_observe_of_ne {id other : NodeId} (apart : other ≠ id) (version : UInt64) :
    (view.observe now address id version).view.get? other = view.get? other := by
  have named : (newRecord now address id version).id = id := by rw [newRecord_eq]
  have enrolled (risen : View) : (risen.enroll (newRecord now address id version)).get? other =
      risen.get? other := by
    rw [get?_enroll, named, if_neg apart]
  unfold observe unlessRefused
  cases view.refusal? id with
  | some error => rfl
  | none =>
    cases view.dead.get? id with
    | some tombstone =>
      dsimp only
      split
      · rfl
      · exact enrolled (view.unbury id)
    | none =>
      cases view.get? id with
      | none => exact enrolled view
      | some record =>
        dsimp only
        split
        · show (view.modifyRecord id fun known => (known.observeVersion version).reset now).get? other = _
          rw [get?_modifyRecord, if_neg apart]
        · rfl

theorem gate_takeIn (view : View) (now : Reading) (sender : NodeId) (entry : GossipEntry) :
    (takeIn now sender view entry).gate = view.gate := by
  unfold takeIn
  split
  · rfl
  · exact view.gate_observe now entry.address entry.id entry.version

/-- Whatever a sender tells, it is not about the receiver, nor about the sender. -/
theorem get?_takeIn {id : NodeId} (spared : id = view.selfId ∨ id = sender) (entry : GossipEntry) :
    (takeIn now sender view entry).get? id = view.get? id := by
  unfold takeIn
  split
  · rfl
  · rename_i foreign
    refine get?_observe_of_ne (fun same => foreign ?_) entry.version
    rw [← same]
    exact spared

theorem get?_takeInAll {id : NodeId} (entries : List GossipEntry) :
    ∀ {view : View}, id = view.selfId ∨ id = sender →
      (entries.foldl (takeIn now sender) view).get? id = view.get? id := by
  induction entries with
  | nil => exact fun _ => rfl
  | cons entry rest ih =>
    intro view spared
    have owner : (takeIn now sender view entry).selfId = view.selfId :=
      congrArg Prod.fst (view.gate_takeIn now sender entry)
    rw [List.foldl_cons, ih (owner.symm ▸ spared), get?_takeIn spared]

/-- **A view never takes in its own id**, whatever it is told, and by whom. -/
theorem get?_absorb_selfId (view : View) (now : Reading) (address : Address) (sender : NodeId)
    (digest : Digest) :
    (view.absorb now address sender digest).get? view.selfId = view.get? view.selfId := by
  unfold absorb
  split
  · have owner : (view.greet now address sender digest.heartbeat).selfId = view.selfId :=
      congrArg Prod.fst (view.gate_greet now address sender digest.heartbeat)
    rw [get?_takeInAll digest.entries (.inl owner.symm)]
    cases refused : view.refusal? sender with
    | some error => rw [greet_of_refused refused]
    | none =>
      have stranger : view.selfId ≠ sender := by
        rintro rfl
        unfold refusal? at refused
        split at refused <;> simp at refused
      rw [get?_greet refused, if_neg stranger]
  · rfl

/-- **The record of the sender is made of where a digest came from and of its heartbeat number**, whatever
the entries say. -/
theorem get?_absorb_sender (accepted : view.refusal? sender = none) (entries : List GossipEntry) :
    (view.absorb now address sender ⟨protocolVersion, number, entries⟩).get? sender =
      some (greeted now address sender number (view.get? sender)) := by
  unfold absorb
  rw [if_pos rfl, get?_takeInAll entries (.inr rfl), get?_greet accepted, if_pos rfl]

/-! ### Many digests of one sender -/

/-- Whom a word of a sender is about. -/
def subject (sender : NodeId) (word : Option GossipEntry) : NodeId := word.elim sender GossipEntry.id

/-- What a word of a sender makes of what a view knows of its subject. -/
def learn (view : View) (now : Reading) (address : Address) (sender : NodeId) (number : UInt64) :
    Option GossipEntry → Standing → Standing
  | none, standing => standing.greet now address sender number
  | some entry, standing =>
    if entry.id = view.selfId ∨ entry.id = sender then standing else view.heed now entry standing

/-- What words of a sender make of what a view knows. -/
def learnAll (view : View) (now : Reading) (address : Address) (sender : NodeId) (number : UInt64)
    (words : List (Option GossipEntry)) (standings : NodeId → Standing) : NodeId → Standing :=
  words.foldl (fun standings word => Function.update standings (subject sender word)
    (view.learn now address sender number word (standings (subject sender word)))) standings

theorem standing_takeIn (view : View) (now : Reading) (address : Address) (sender : NodeId)
    (number : UInt64) (entry : GossipEntry) :
    (takeIn now sender view entry).standing =
      view.learnAll now address sender number [some entry] view.standing := by
  show _ = Function.update view.standing entry.id (if _ then _ else _)
  unfold takeIn
  split
  · exact (Function.update_eq_self _ _).symm
  · exact view.standing_observe now entry

theorem learn_of_gate {later : View} (same : later.gate = view.gate) :
    later.learn now address sender number = view.learn now address sender number := by
  have owner : later.selfId = view.selfId := congrArg Prod.fst same
  funext word standing
  unfold learn heed
  rw [owner, refusal?_of_gate same]

theorem standing_takeInAll (entries : List GossipEntry) : ∀ later : View, later.gate = view.gate →
    (entries.foldl (takeIn now sender) later).standing =
      view.learnAll now address sender number (entries.map some) later.standing := by
  induction entries with
  | nil => exact fun _ _ => rfl
  | cons entry rest ih =>
    intro later same
    rw [List.foldl_cons, ih _ ((gate_takeIn later now sender entry).trans same),
      standing_takeIn later now address sender number entry]
    unfold learnAll
    rw [learn_of_gate same]
    rfl

theorem gate_takeInAll (entries : List GossipEntry) : ∀ view : View,
    (entries.foldl (takeIn now sender) view).gate = view.gate := by
  induction entries with
  | nil => exact fun _ => rfl
  | cons entry rest ih => exact fun view => (ih _).trans (view.gate_takeIn now sender entry)

theorem gate_absorb (view : View) (now : Reading) (address : Address) (sender : NodeId) (digest : Digest) :
    (view.absorb now address sender digest).gate = view.gate := by
  unfold absorb
  split
  · rw [gate_takeInAll, gate_greet]
  · rfl

/-- What a view knows after a digest is made of the words that it brings. -/
theorem standing_absorb (accepted : view.refusal? sender = none) (entries : List GossipEntry) :
    (view.absorb now address sender ⟨protocolVersion, number, entries⟩).standing =
      view.learnAll now address sender number (Digest.words ⟨protocolVersion, number, entries⟩)
        view.standing := by
  unfold absorb
  rw [if_pos rfl, standing_takeInAll entries _ (view.gate_greet now address sender number),
    standing_greet accepted]
  rfl

/-- What a view knows after digests of one number is made of all words that they bring. -/
theorem standing_absorbAll (digests : List Digest)
    (alike : ∀ digest ∈ digests, digest.version = protocolVersion ∧ digest.heartbeat = number) :
    ∀ {later : View}, later.gate = view.gate → view.refusal? sender = none →
      (digests.foldl (absorb now address sender) later).standing =
        view.learnAll now address sender number (digests.flatMap Digest.words) later.standing := by
  induction digests with
  | nil => exact fun _ _ => rfl
  | cons digest rest ih =>
    intro later same accepted
    obtain ⟨current, numbered⟩ := alike digest List.mem_cons_self
    obtain ⟨_, _, entries⟩ := digest
    obtain rfl := current
    obtain rfl := numbered
    have open? : later.refusal? sender = none := by rw [refusal?_of_gate same, accepted]
    rw [List.foldl_cons, ih (fun other member => alike other (List.mem_cons_of_mem _ member))
      ((later.gate_absorb now address sender _).trans same) accepted, standing_absorb open?]
    unfold learnAll
    rw [List.flatMap_cons, List.foldl_append, learn_of_gate same]

theorem learn_twice (view : View) (now : Reading) (address : Address) (sender : NodeId) (number : UInt64)
    (word : Option GossipEntry) (standing : Standing) :
    view.learn now address sender number word (view.learn now address sender number word standing) =
      view.learn now address sender number word standing := by
  cases word with
  | none => exact Standing.greet_twice now address sender number standing
  | some entry =>
    simp only [learn]
    split
    · rfl
    · exact view.heed_twice now entry standing

/-- Words about one subject may be taken in in any order. A sender says nothing about itself but the one
word that stands for it. -/
theorem learn_comm (view : View) (now : Reading) (number : UInt64) {first second : Option GossipEntry}
    (same : subject sender first = subject sender second)
    (onePlace : ∀ entry ∈ first, ∀ other ∈ second, entry.id = other.id → entry.address = other.address)
    (standing : Standing) :
    view.learn now address sender number second (view.learn now address sender number first standing) =
      view.learn now address sender number first
        (view.learn now address sender number second standing) := by
  cases first with
  | none =>
    cases second with
    | none => rfl
    | some other => simp only [learn, if_pos (Or.inr (show other.id = sender from same.symm))]
  | some entry =>
    cases second with
    | none => simp only [learn, if_pos (Or.inr (show entry.id = sender from same))]
    | some other =>
      have samePeer : entry.id = other.id := same
      simp only [learn, samePeer]
      split
      · rfl
      · exact view.heed_comm now samePeer (onePlace entry rfl other rfl samePeer) standing

/-- **It does not matter into how many digests a sender puts its news**, in which order they come, and how
often. -/
theorem agrees_of_absorbAll (accepted : view.refusal? sender = none) {digests : List Digest}
    {entries : List GossipEntry} (some? : digests ≠ [])
    (alike : ∀ digest ∈ digests, digest.version = protocolVersion ∧ digest.heartbeat = number)
    (same : ∀ entry, (∃ digest ∈ digests, entry ∈ digest.entries) ↔ entry ∈ entries)
    (onePlace : ∀ first ∈ entries, ∀ second ∈ entries, first.id = second.id →
      first.address = second.address) :
    (digests.foldl (absorb now address sender) view).Agrees
      (view.absorb now address sender ⟨protocolVersion, number, entries⟩) := by
  refine congrFun ?_
  rw [standing_absorbAll digests alike rfl accepted, standing_absorb accepted]
  have words {entry : GossipEntry} :
      some entry ∈ Digest.words ⟨protocolVersion, number, entries⟩ ↔ entry ∈ entries := by
    simp [Digest.words]
  refine foldl_update_eq_of_mem_iff (subject sender) (view.learn now address sender number)
    (fun word => ?_) (fun word _ => view.learn_twice now address sender number word)
    (fun first member second other samePeer => ?_) view.standing
  · rw [List.mem_flatMap]
    cases word with
    | none =>
      obtain ⟨digest, member⟩ := List.exists_mem_of_ne_nil digests some?
      exact iff_of_true ⟨digest, member, List.mem_cons_self⟩ List.mem_cons_self
    | some entry =>
      rw [words, ← same]
      simp [Digest.words]
  · refine view.learn_comm now number samePeer fun entry here next there => ?_
    obtain rfl := here
    obtain rfl := there
    exact onePlace entry (words.mp member) next (words.mp other)

end View

end PeerMesh
