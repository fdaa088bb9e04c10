/-
**Old news of a live peer.**

The record of a live peer holds a version, and news of the peer that is not newer is nothing to the view. The
version is lost when the peer is heard of directly from another place, for it is given a new record then.

* `View.Moves` — a live peer is heard of from another place; `StaysLive`, `StaysPut` — a peer is live, or does
  not move, all along a stretch of what happens.
* `View.Remembers` — nobody who is live before and after has a smaller version after; every operation but a
  heartbeat is of this kind (`perform_remembers`).
* `undergo_isHeir` — what one happening makes of a version, `version_le_undergoAll` — what a stretch without a
  move makes of it.
* `get?_observe` — what news makes of the record of a live peer.
* **`heedsNews_of_staysLive`** — along a stretch in which a peer is live, which news refreshes its record.
-/

import PeerMesh.Proofs.View.Greetings
import PeerMesh.Proofs.View.Happenings
import PeerMesh.Proofs.View.Tombstones

namespace PeerMesh

/-! ### Records -/

namespace Record

/-- The record was touched, or is not as suspected as before. -/
def IsRefreshed (earlier later : Record) : Prop :=
  later.lastTouch ≠ earlier.lastTouch ∨ later.touchCount ≠ earlier.touchCount ∨
    later.health ≠ earlier.health

/-- The version of a later record of a peer: zero if it has moved, and no smaller than before if not. -/
structure IsHeir (earlier : Record) (moved : Prop) (later : Record) : Prop where
  forgets : moved → later.version = 0
  keeps : ¬ moved → earlier.version ≤ later.version

theorem version_le_observeVersion (record : Record) (version : UInt64) :
    record.version ≤ (record.observeVersion version).version := by
  unfold observeVersion isNews
  split
  · rename_i news
    exact UInt64.le_of_lt (of_decide_eq_true news)
  · exact UInt64.le_refl _

theorem touchCount_observeVersion (record : Record) (version : UInt64) :
    (record.observeVersion version).touchCount = record.touchCount := by
  unfold observeVersion
  split <;> rfl

theorem version_checkState (record : Record) (timeout : Duration) (now : Reading) :
    (record.checkState timeout now).version = record.version := by
  unfold checkState
  split <;> rfl

/-- A record that is reset was heard of once more. -/
theorem isRefreshed_reset {earlier later : Record} (counted : later.touchCount = earlier.touchCount)
    (now : Reading) : earlier.IsRefreshed (later.reset now) := by
  refine .inr (.inl ?_)
  show nextCount later.touchCount ≠ earlier.touchCount
  rw [counted]
  exact nextCount_ne _

theorem not_isRefreshed_self (record : Record) : ¬ record.IsRefreshed record := by
  rintro (other | other | other) <;> exact other rfl

end Record

/-! ### Views -/

namespace View

variable {selfId id : NodeId} {view later : View} {known : Record} {now : Reading} {address : Address}
  {version : UInt64}

/-- A live peer is heard of directly, from another place than where it is known to be. -/
def Moves (view : View) (id : NodeId) (happening : Happening) : Prop :=
  ∃ now address known, happening = .operation now (.heartbeat address id) ∧
    view.refusal? id = none ∧ view.get? id = some known ∧ known.address ≠ address

/-- An id is live before, between and after all of the happenings. -/
def StaysLive (view : View) (id : NodeId) (stretch : List Happening) : Prop :=
  ∀ first rest, stretch = first ++ rest → (view.undergoAll first).isLive id = true

/-- None of the happenings moves a peer. -/
def StaysPut (view : View) (id : NodeId) (stretch : List Happening) : Prop :=
  ∀ first happening rest, stretch = first ++ happening :: rest →
    ¬ (view.undergoAll first).Moves id happening

/-- Nobody who is live in two views has a smaller version in the later one. -/
def Remembers (before after : View) : Prop :=
  ∀ id known later, before.get? id = some known → after.get? id = some later →
    known.version ≤ later.version

theorem remembers_of_get? (same : ∀ id record, later.get? id = some record → view.get? id = some record) :
    view.Remembers later := by
  intro id known record found stays
  obtain rfl := Option.some.inj (found.symm.trans (same id record stays))
  exact UInt64.le_refl _

theorem remembers_refl (view : View) : view.Remembers view := remembers_of_get? fun _ _ found => found

/-- Everybody but one peer stays as they are, and that one has no smaller version. -/
theorem remembers_of_ne (id : NodeId) (others : ∀ other, other ≠ id → later.get? other = view.get? other)
    (grows : ∀ known record, view.get? id = some known → later.get? id = some record →
      known.version ≤ record.version) : view.Remembers later := by
  intro other known record found stays
  by_cases same : other = id
  · subst same
    exact grows known record found stays
  · rw [others other same] at stays
    obtain rfl := Option.some.inj (found.symm.trans stays)
    exact UInt64.le_refl _

theorem modifyRecord_remembers (view : View) (id : NodeId) {change : Record → Record}
    (grows : ∀ record, record.version ≤ (change record).version) :
    view.Remembers (view.modifyRecord id change) := by
  refine remembers_of_ne id (fun other apart => ?_) fun known record found changed => ?_
  · rw [get?_modifyRecord, if_neg apart]
  · rw [get?_modifyRecord, if_pos rfl, found] at changed
    obtain rfl := Option.some.inj changed
    exact grows known

/-- A newcomer has no version to be remembered. -/
theorem enroll_remembers {record : Record} (stranger : view.get? record.id = none) :
    view.Remembers (view.enroll record) := by
  refine remembers_of_ne record.id (fun other apart => ?_) fun known _ found _ => ?_
  · rw [get?_enroll, if_neg apart]
  · rw [stranger] at found
    cases found

/-- Some peers are live no longer, and everybody else stays as they are. -/
theorem remembers_of_live (fewer : ∀ id member, later.live.get? id = some member →
    view.live.get? id = some member) : view.Remembers later := by
  refine remembers_of_get? fun id record found => ?_
  obtain ⟨member, live, rfl⟩ := Option.map_eq_some_iff.mp found
  exact Option.map_eq_some_iff.mpr ⟨member, fewer id member live, rfl⟩

theorem dismiss_remembers (view : View) (id : NodeId) :
    view.Remembers { view with live := view.live.erase id } := by
  refine remembers_of_live fun other member found => ?_
  have stays : (view.live.erase id).get? other = some member := found
  rw [Table.get?_erase] at stays
  split at stays
  · cases stays
  · exact stays

theorem unlessRefused_remembers {operation : Outcome Bool} (remembers : view.Remembers operation.view) :
    view.Remembers (view.unlessRefused id operation).view := by
  unfold unlessRefused
  split
  · exact view.remembers_refl
  · exact remembers

/-! ### The operations -/

theorem addHost_remembers (view : View) (now : Reading) (address : Address) (id : NodeId) :
    view.Remembers (view.addHost now address id).view := by
  refine unlessRefused_remembers ?_
  split
  · exact view.remembers_refl
  · rename_i unknown
    have stranger : view.isLive id = false :=
      (Bool.or_eq_false_iff.mp (Bool.eq_false_iff.mpr unknown)).2
    have nobody : view.get? (newRecord now address id 0).id = none := by
      rw [newRecord_eq]
      rw [isLive_eq] at stranger
      exact Option.isNone_iff_eq_none.mp (Option.isSome_eq_false_iff.mp stranger)
    have enrolled : view.Remembers (view.enroll (newRecord now address id 0)) := enroll_remembers nobody
    exact enrolled

theorem removeDead_remembers (view : View) (now : Reading) (id : NodeId) :
    view.Remembers (view.removeDead now id).view := by
  unfold removeDead
  split
  · exact view.dismiss_remembers id
  · exact view.remembers_refl

theorem removeLeaving_remembers (view : View) (id : NodeId) :
    view.Remembers (view.removeLeaving id).view := by
  unfold removeLeaving
  split
  · exact view.dismiss_remembers id
  · exact view.remembers_refl

theorem cleanup_remembers (view : View) (now : Reading) (grace : Duration) :
    view.Remembers (view.cleanup now grace).view := by
  unfold cleanup
  dsimp only
  split <;> exact remembers_of_live fun _ _ found => found

theorem age_remembers (view : View) (now : Reading) (timeout : Duration) :
    view.Remembers (view.age now timeout) := by
  intro id known later found aged
  obtain ⟨member, live, rfl⟩ := Option.map_eq_some_iff.mp found
  have after : (view.age now timeout).get? id = some (member.record.checkState timeout now) := by
    unfold get?
    rw [live_age, live]
    rfl
  obtain rfl := Option.some.inj (after.symm.trans aged)
  rw [Record.version_checkState]
  exact UInt64.le_refl _

theorem resetAdmission_remembers (view : View) (now : Reading) (id : NodeId) (serial : Nat) :
    view.Remembers (view.resetAdmission now id serial) := by
  intro other known later found refreshed
  obtain ⟨member, live, rfl⟩ := Option.map_eq_some_iff.mp found
  obtain ⟨successor, after, rfl⟩ := Option.map_eq_some_iff.mp refreshed
  have entry : (view.live.modify id fun member =>
      if member.serial = serial then { member with record := member.record.reset now }
      else member).get? other = some successor := after
  rw [Table.get?_modify] at entry
  split at entry
  · rename_i same
    rw [← same, live] at entry
    obtain rfl := Option.some.inj entry
    dsimp only
    split <;> exact UInt64.le_refl _
  · obtain rfl := Option.some.inj (live.symm.trans entry)
    exact UInt64.le_refl _

theorem conclude_remembers (view : View) (now : Reading) (probe : Probe) (affirmed : Bool) :
    view.Remembers (view.conclude now probe affirmed).view := by
  unfold conclude
  split
  · exact view.resetAdmission_remembers now probe.id probe.suspect.serial
  · split
    · exact view.removeDead_remembers now probe.id
    · exact view.remembers_refl

/-- **What news makes of the record of a live peer**: only news that is newer than its version counts. -/
theorem get?_observe (sound : view.Sound selfId) (found : view.get? id = some known) (now : Reading)
    (address : Address) (version : UInt64) :
    (view.observe now address id version).view.get? id =
      some (if view.refusal? id = none ∧ known.version < version then
        (known.observeVersion version).reset now else known) := by
  obtain ⟨member, live, _⟩ := Option.map_eq_some_iff.mp found
  have alive : view.dead.get? id = none := sound.apart id member live
  unfold observe unlessRefused
  cases refused : view.refusal? id with
  | some error => simp [found]
  | none =>
    simp only [alive, found, true_and]
    show (if known.isNews version = true then _ else view).get? id = _
    by_cases newer : known.version < version
    · have news : known.isNews version = true := decide_eq_true newer
      rw [if_pos news, if_pos newer, get?_modifyRecord, if_pos rfl, found]
      rfl
    · have old : ¬ known.isNews version = true := fun news => newer (of_decide_eq_true news)
      rw [if_neg old, if_neg newer, found]

theorem observe_remembers (sound : view.Sound selfId) (now : Reading) (address : Address) (id : NodeId)
    (version : UInt64) : view.Remembers (view.observe now address id version).view := by
  refine remembers_of_ne id (fun _ apart => get?_observe_of_ne apart version) fun known _ found observed => ?_
  rw [get?_observe sound found] at observed
  obtain rfl := Option.some.inj observed
  split
  · exact known.version_le_observeVersion version
  · exact UInt64.le_refl _

/-- Everything but a heartbeat leaves nobody with a smaller version. -/
theorem perform_remembers (sound : view.Sound selfId) (now : Reading) (step : ViewStep)
    (other : ∀ address id, step ≠ .heartbeat address id) : view.Remembers (view.perform now step).2 := by
  cases step with
  | heartbeat address id => exact absurd rfl (other address id)
  | addHost address id => exact view.addHost_remembers now address id
  | observe address id version => exact observe_remembers sound now address id version
  | removeDead id => exact view.removeDead_remembers now id
  | removeLeaving id => exact view.removeLeaving_remembers id
  | clear => exact remembers_of_live fun _ _ found => by cases found
  | cleanup grace => exact view.cleanup_remembers now grace
  | suspect id => exact view.modifyRecord_remembers id fun _ => UInt64.le_refl _
  | touch id => exact view.modifyRecord_remembers id fun _ => UInt64.le_refl _
  | checkState id timeout =>
    exact view.modifyRecord_remembers id fun record =>
      (record.version_checkState timeout now) ▸ UInt64.le_refl _
  | observeVersion id version =>
    exact view.modifyRecord_remembers id fun record => record.version_le_observeVersion version
  | shutdown | get _ | addressOf _ | isLive _ | isDead _ | normal | staleness | advance _ | set _ =>
    exact view.remembers_refl

/-- A heartbeat from where the peer is leaves its version, and one from another place makes it zero. -/
theorem version_heartbeat (found : view.get? id = some known) (now : Reading) (address : Address) :
    ∃ later, (view.heartbeat now address id).view.get? id = some later ∧
      later.version = if view.refusal? id = none ∧ known.address ≠ address then 0 else known.version := by
  cases refused : view.refusal? id with
  | some error =>
    refine ⟨known, ?_, by simp⟩
    unfold heartbeat unlessRefused
    rw [refused]
    exact found
  | none =>
    obtain ⟨_, _, _, _, heard⟩ := heartbeat_eq refused now address
    refine ⟨heardFrom now address id (some known), by rw [heard, if_pos rfl, found], ?_⟩
    unfold heardFrom
    by_cases stays : known.address = address
    · simp only [stays, ne_eq, not_true_eq_false, and_false, if_true, if_false]
      rfl
    · simp only [stays, ne_eq, not_false_eq_true, and_true, if_true, if_false, newRecord_eq]

theorem get?_heartbeat_of_ne {other : NodeId} (apart : other ≠ id) (now : Reading) (address : Address) :
    (view.heartbeat now address id).view.get? other = view.get? other := by
  cases refused : view.refusal? id with
  | some error =>
    unfold heartbeat unlessRefused
    rw [refused]
  | none =>
    obtain ⟨_, _, _, _, heard⟩ := heartbeat_eq refused now address
    rw [heard, if_neg apart]

theorem moves_heartbeat_iff (found : view.get? id = some known) :
    view.Moves id (.operation now (.heartbeat address id)) ↔
      view.refusal? id = none ∧ known.address ≠ address := by
  constructor
  · rintro ⟨_, _, _, same, accepted, live, away⟩
    cases same
    obtain rfl := Option.some.inj (found.symm.trans live)
    exact ⟨accepted, away⟩
  · rintro ⟨accepted, away⟩
    exact ⟨now, address, known, rfl, accepted, found, away⟩

theorem heartbeat_isHeir {record : Record} (peer : NodeId) (found : view.get? id = some known)
    (stays : (view.heartbeat now address peer).view.get? id = some record) :
    known.IsHeir (view.Moves id (.operation now (.heartbeat address peer))) record := by
  by_cases same : id = peer
  · subst same
    obtain ⟨later, after, version⟩ := version_heartbeat found now address
    obtain rfl := Option.some.inj (after.symm.trans stays)
    rw [moves_heartbeat_iff found]
    refine ⟨fun moved => version.trans (if_pos moved), fun unmoved => ?_⟩
    rw [version, if_neg unmoved]
    exact UInt64.le_refl _
  · have unmoved : ¬ view.Moves id (.operation now (.heartbeat address peer)) := by
      rintro ⟨_, _, _, other, _⟩
      cases other
      exact same rfl
    rw [get?_heartbeat_of_ne same] at stays
    obtain rfl := Option.some.inj (found.symm.trans stays)
    exact ⟨fun moved => absurd moved unmoved, fun _ => UInt64.le_refl _⟩

/-- **What one happening makes of the version of a peer that stays live.** -/
theorem undergo_isHeir (sound : view.Sound selfId) (happening : Happening) {record : Record}
    (found : view.get? id = some known) (stays : (view.undergo happening).get? id = some record) :
    known.IsHeir (view.Moves id happening) record := by
  have remembered (other : ∀ now address, happening ≠ .operation now (.heartbeat address id))
      (remembers : view.Remembers (view.undergo happening)) :
      known.IsHeir (view.Moves id happening) record :=
    ⟨fun ⟨now, address, _, beat, _⟩ => absurd beat (other now address),
      fun _ => remembers id known record found stays⟩
  cases happening with
  | aging now timeout =>
    exact remembered (fun _ _ => Happening.noConfusion) (view.age_remembers now timeout)
  | verdict now probe affirmed =>
    exact remembered (fun _ _ => Happening.noConfusion) (view.conclude_remembers now probe affirmed)
  | operation now step =>
    by_cases beat : ∃ address peer, step = .heartbeat address peer
    · obtain ⟨address, peer, rfl⟩ := beat
      exact heartbeat_isHeir peer found stays
    · refine remembered (fun _ address same => ?_) (perform_remembers sound now step fun address peer same => ?_)
      · exact beat ⟨address, id, (Happening.operation.inj same).2⟩
      · exact beat ⟨address, peer, same⟩

/-! ### Along a stretch -/

variable {stretch first rest : List Happening}

theorem StaysLive.get? (live : view.StaysLive id stretch) (first rest : List Happening)
    (whole : stretch = first ++ rest) :
    ∃ record, (view.undergoAll first).get? id = some record := by
  have here := live first rest whole
  rw [isLive_eq] at here
  exact Option.isSome_iff_exists.mp here

theorem staysLive_nil (live : view.isLive id = true) : view.StaysLive id [] := by
  intro first rest whole
  obtain ⟨rfl, rfl⟩ := List.append_eq_nil_iff.mp whole.symm
  exact live

theorem StaysLive.cons {happening : Happening} (live : view.isLive id = true)
    (later : (view.undergo happening).StaysLive id stretch) : view.StaysLive id (happening :: stretch) := by
  intro first rest whole
  cases first with
  | nil => exact live
  | cons head tail =>
    obtain ⟨rfl, same⟩ := List.cons.inj whole
    exact later tail rest same

theorem StaysLive.init (live : view.StaysLive id (first ++ rest)) : view.StaysLive id first := by
  rintro start between rfl
  exact live start (between ++ rest) (List.append_assoc _ _ _)

theorem StaysLive.tail (live : view.StaysLive id (first ++ rest)) :
    (view.undergoAll first).StaysLive id rest := by
  rintro middle last rfl
  rw [← undergoAll_append]
  exact live (first ++ middle) last (List.append_assoc _ _ _).symm

theorem staysPut_nil (view : View) (id : NodeId) : view.StaysPut id [] := by
  intro first happening rest whole
  cases first <;> cases whole

theorem StaysPut.init (put : view.StaysPut id (first ++ rest)) : view.StaysPut id first := by
  rintro start happening between rfl
  exact put start happening (between ++ rest) (by simp)

/-- **Without a move the version of a live peer never becomes smaller.** -/
theorem version_le_undergoAll (sound : view.Sound selfId) (live : view.StaysLive id stretch)
    (put : view.StaysPut id stretch) {earlier later : Record} (before : view.get? id = some earlier)
    (after : (view.undergoAll stretch).get? id = some later) : earlier.version ≤ later.version := by
  induction stretch using List.reverseRecOn generalizing later with
  | nil =>
    obtain rfl := Option.some.inj (before.symm.trans after)
    exact UInt64.le_refl _
  | append_singleton stretch happening ih =>
    obtain ⟨between, found⟩ := live.get? stretch _ rfl
    have settled := ih live.init put.init found
    rw [undergoAll_append] at after
    have heir := undergo_isHeir (sound.undergoAll stretch) happening found after
    exact UInt64.le_trans settled (heir.keeps (put stretch happening [] rfl))

/-- What a view makes of news of a peer that is live all along a stretch. -/
structure HeedsNews (start : View) (id : NodeId) (stretch : List Happening) : Prop where
  /-- Between two moves the version never decreases. -/
  never_decreases (first middle rest : List Happening) (whole : stretch = first ++ (middle ++ rest))
    (put : (start.undergoAll first).StaysPut id middle) :
    ∃ earlier later, (start.undergoAll first).get? id = some earlier ∧
      (start.undergoAll (first ++ middle)).get? id = some later ∧ earlier.version ≤ later.version
  /-- A move leaves the version zero, whatever it was before. -/
  forgotten (first : List Happening) (happening : Happening) (rest : List Happening)
    (whole : stretch = first ++ happening :: rest) (moves : (start.undergoAll first).Moves id happening) :
    ∃ later, (start.undergoAll (first ++ [happening])).get? id = some later ∧ later.version = 0
  /-- News refreshes the record if it is newer than every version since the last move, and only then. Other news
  leaves the record as it is. -/
  refreshed_iff (now : Reading) (address : Address) (version : UInt64) :
    ∃ known later, (start.undergoAll stretch).get? id = some known ∧
      ((start.undergoAll stretch).perform now (.observe address id version)).2.get? id = some later ∧
      (known.IsRefreshed later ∨ later = known) ∧
      (known.IsRefreshed later ↔
        (start.undergoAll stretch).Accepts now (.observe address id version) ∧
          ∀ first rest earlier, stretch = first ++ rest → (start.undergoAll first).StaysPut id rest →
            (start.undergoAll first).get? id = some earlier → earlier.version < version)

/-- **Stale news never refreshes a live peer that does not move**, and of a peer that moves the view forgets how
new its news was. -/
theorem heedsNews_of_staysLive (selfId : NodeId) (history : List Happening)
    (live : ((new selfId).undergoAll history).StaysLive id stretch) :
    ((new selfId).undergoAll history).HeedsNews id stretch := by
  have sound := sound_undergoAll selfId history
  generalize (new selfId).undergoAll history = start at live sound
  refine ⟨?_, ?_, ?_⟩
  · rintro first middle rest rfl put
    obtain ⟨earlier, before⟩ := live.get? first _ rfl
    obtain ⟨later, after⟩ := live.get? (first ++ middle) rest (List.append_assoc _ _ _).symm
    refine ⟨earlier, later, before, after, ?_⟩
    rw [undergoAll_append] at after
    exact version_le_undergoAll (sound.undergoAll first) live.tail.init put before after
  · rintro first happening rest rfl moves
    obtain ⟨known, found⟩ := live.get? first _ rfl
    obtain ⟨later, after⟩ := live.get? (first ++ [happening]) rest (by simp)
    refine ⟨later, after, ?_⟩
    rw [undergoAll_append] at after
    exact (undergo_isHeir (sound.undergoAll first) happening found after).forgets moves
  · intro now address version
    obtain ⟨known, found⟩ := live.get? stretch [] (List.append_nil _).symm
    have observed := get?_observe (sound.undergoAll stretch) found now address version
    refine ⟨known, _, found, observed, ?_⟩
    rw [accepts_observe]
    -- The last version since the last move is the greatest one.
    have newest : known.version < version ↔ ∀ first rest earlier, stretch = first ++ rest →
        (start.undergoAll first).StaysPut id rest → (start.undergoAll first).get? id = some earlier →
          earlier.version < version := by
      constructor
      · rintro newer first rest earlier rfl put before
        rw [undergoAll_append] at found
        have least := version_le_undergoAll (sound.undergoAll first) live.tail put before found
        exact UInt64.lt_of_le_of_lt least newer
      · exact fun all => all stretch [] known (List.append_nil _).symm (staysPut_nil _ _) found
    rw [← newest]
    by_cases counts : (start.undergoAll stretch).refusal? id = none ∧ known.version < version
    · rw [if_pos counts]
      have refreshed := Record.isRefreshed_reset (known.touchCount_observeVersion version) now
      exact ⟨.inl refreshed, iff_of_true refreshed counts⟩
    · rw [if_neg counts]
      exact ⟨.inr rfl, iff_of_false known.not_isRefreshed_self counts⟩

/-- A view that knows version 5 of a peer. -/
def acquainted : View := (new ⟨"a"⟩).undergoAll [.operation 1000 (.observe ⟨"mem:1"⟩ ⟨"b"⟩ 5)]

/-- The peer is heard of from another place. -/
def relocation : List Happening := [.operation 1000 (.heartbeat ⟨"mem:2"⟩ ⟨"b"⟩)]

/-- **A peer that moves is refreshed by older news** than what was known of it. -/
theorem heedsNews_of_relocation :
    acquainted.StaysLive ⟨"b"⟩ relocation ∧
      acquainted.get? ⟨"b"⟩ = some ⟨⟨"b"⟩, ⟨"mem:1"⟩, .normal, 1000, 1, 5⟩ ∧
      (∃ later, (acquainted.undergoAll relocation).get? ⟨"b"⟩ = some later ∧ later.version = 0) ∧
      ((acquainted.undergoAll relocation).perform 1100 (.observe ⟨"mem:2"⟩ ⟨"b"⟩ 3)).2.get? ⟨"b"⟩ =
        some ⟨⟨"b"⟩, ⟨"mem:2"⟩, .normal, 1100, 2, 3⟩ := by
  have live : acquainted.StaysLive ⟨"b"⟩ relocation :=
    StaysLive.cons (by decide +kernel) (staysLive_nil (by decide +kernel))
  have known : acquainted.get? ⟨"b"⟩ = some ⟨⟨"b"⟩, ⟨"mem:1"⟩, .normal, 1000, 1, 5⟩ := by decide +kernel
  have moves : acquainted.Moves ⟨"b"⟩ (.operation 1000 (.heartbeat ⟨"mem:2"⟩ ⟨"b"⟩)) :=
    ⟨1000, ⟨"mem:2"⟩, _, rfl, by decide +kernel, known, by decide⟩
  refine ⟨live, known, ?_, by decide +kernel⟩
  exact (heedsNews_of_staysLive ⟨"a"⟩ _ live).forgotten [] _ [] rfl moves

end View

end PeerMesh
