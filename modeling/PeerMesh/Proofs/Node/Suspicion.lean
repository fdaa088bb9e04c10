/-
**When a peer is suspected, against the timeout that is set.**

Clocks count whole milliseconds in 64 bits, and a timeout is cut down to such a count before it is compared. A
timeout is therefore kept to exactly only if it is such a count itself.

* `Settings.heartbeatTimeout_pos` — settings that a channel can work with have a timeout of some length.
* `Duration.IsCounted` — a span of a whole number of milliseconds, in 64 bits.
* `Record.isDue_of_passed` — no peer is suspected late; `isDue_iff_of_isCounted` — nor early, if the timeout is
  such a span; `early_of_not_isCounted` — there is a peer that is suspected early if it is not.
* `Settings.IsPunctual` — peers are suspected exactly when the timeout has passed.
* **`Settings.suspicion_of_validate`** — when peers are suspected, which settings are punctual, and under which
  settings a peer that was heard of just now may be suspected.
-/

import PeerMesh.Settings.Validity
import PeerMesh.Proofs.View.Verdicts

namespace PeerMesh

/-! ### Settings that a channel can work with -/

theorem Settings.heartbeatTimeout_pos {settings : Settings} (valid : settings.validate = .ok ()) :
    0 < settings.heartbeatTimeout.nanos :=
  have needed : ("heartbeat_timeout", settings.heartbeatTimeout) ∈ settings.neededSpans := List.mem_cons_self
  (needs_of_validate valid).1 _ needed

/-! ### Spans and milliseconds -/

namespace Duration

variable {span : Duration} {count : Nat}

/-- The span is a whole number of milliseconds, and the number has no more than 64 bits. -/
def IsCounted (span : Duration) : Prop := ∃ count, count < 2 ^ 64 ∧ span = ofMillis count

theorem wholeMillis_le_of_le (within : span ≤ ofMillis count) : span.wholeMillis ≤ count :=
  Nat.div_le_of_le_mul (Nat.mul_comm nanosPerMilli count ▸ within)

/-- The whole milliseconds of a span, as a span, fall short of it by less than one. -/
theorem lt_ofMillis_succ_wholeMillis (span : Duration) : span < ofMillis (span.wholeMillis + 1) := by
  show span.nanos < (span.nanos / nanosPerMilli + 1) * nanosPerMilli
  unfold nanosPerMilli
  omega

theorem wholeMillis_ofMillis (count : Nat) : (ofMillis count).wholeMillis = count :=
  Nat.mul_div_cancel count (by decide : 0 < nanosPerMilli)

theorem ofMillis_le_ofMillis_iff {other : Nat} : ofMillis count ≤ ofMillis other ↔ count ≤ other :=
  Nat.mul_le_mul_right_iff (by decide : 0 < nanosPerMilli)

/-- A span that is not longer than the 64 low bits of its whole milliseconds is counted by them. -/
theorem isCounted_of_le_low (within : span ≤ ofMillis (span.wholeMillis % 2 ^ 64)) : span.IsCounted := by
  have fits : span.wholeMillis < 2 ^ 64 := by
    have whole := wholeMillis_le_of_le within
    have low : span.wholeMillis % 2 ^ 64 < 2 ^ 64 := Nat.mod_lt _ (by decide)
    omega
  rw [Nat.mod_eq_of_lt fits] at within
  refine ⟨span.wholeMillis, fits, ?_⟩
  have least : span.nanos / nanosPerMilli * nanosPerMilli ≤ span.nanos := Nat.div_mul_le_self _ _
  have most : span.nanos ≤ span.nanos / nanosPerMilli * nanosPerMilli := within
  have same : span.nanos = span.nanos / nanosPerMilli * nanosPerMilli := Nat.le_antisymm most least
  exact congrArg Duration.mk same

end Duration

/-! ### Records -/

namespace Record

variable {record : Record} {timeout : Duration} {now : Reading}

theorem isDue_iff_of_normal (normal : record.health = .normal) :
    record.IsDue timeout now ↔ timeout.wholeMillis % 2 ^ 64 ≤ now.toNat - record.lastTouch.toNat := by
  have unsuspected : record.health ≠ .suspect := by rw [normal]; exact Health.noConfusion
  exact or_iff_right unsuspected

/-- Nobody is suspected late. -/
theorem isDue_of_passed (passed : timeout ≤ .ofMillis (now.toNat - record.lastTouch.toNat)) :
    record.IsDue timeout now :=
  .inr (Nat.le_trans (Nat.mod_le _ _) (Duration.wholeMillis_le_of_le passed))

/-- Nobody is suspected early if the timeout is counted by a clock. -/
theorem isDue_iff_of_isCounted (normal : record.health = .normal) (counted : timeout.IsCounted) :
    record.IsDue timeout now ↔ timeout ≤ .ofMillis (now.toNat - record.lastTouch.toNat) := by
  obtain ⟨count, fits, rfl⟩ := counted
  rw [isDue_iff_of_normal normal, Duration.wholeMillis_ofMillis, Nat.mod_eq_of_lt fits]
  exact Duration.ofMillis_le_ofMillis_iff.symm

/-- A timeout that no clock can count is taken to have passed before it has. -/
theorem early_of_not_isCounted (uncounted : ¬ timeout.IsCounted) (id : NodeId) (address : Address) :
    ∃ now : Reading, (fresh id address).IsDue timeout now ∧ ¬ timeout ≤ .ofMillis now.toNat := by
  have low : timeout.wholeMillis % 2 ^ 64 < 2 ^ 64 := Nat.mod_lt _ (by decide)
  refine ⟨timeout.millisWord, .inr ?_, ?_⟩
  · rw [Duration.toNat_millisWord]
    exact Nat.le_refl _
  · rw [Duration.toNat_millisWord]
    exact fun within => uncounted (Duration.isCounted_of_le_low within)

/-- After a touch no time has passed, also if the clock was set back before. -/
theorem isDue_touch_iff (normal : record.health = .normal) :
    (record.touch now).IsDue timeout now ↔ timeout.wholeMillis % 2 ^ 64 = 0 := by
  have touched : (record.touch now).health = .normal := normal
  have recent : now.toNat - (record.touch now).lastTouch.toNat = 0 := by
    have later : now.toNat ≤ (max record.lastTouch now).toNat := by
      rw [UInt64.max_def]
      split
      · exact Nat.le_refl _
      · rename_i ahead
        exact Nat.le_of_not_le fun before => ahead (UInt64.le_iff_toNat_le.mpr before)
    exact Nat.sub_eq_zero_of_le later
  rw [isDue_iff_of_normal touched, recent, Nat.le_zero]

end Record

/-! ### Settings -/

namespace Settings

/-- Whoever is not suspected yet becomes so exactly when the timeout has passed since the last touch. -/
def IsPunctual (settings : Settings) : Prop :=
  ∀ (record : Record) (now : Reading), record.health = .normal → record.lastTouch ≤ now →
    ((record.checkState settings.heartbeatTimeout now).health = .suspect ↔
      settings.heartbeatTimeout ≤ .ofMillis (now.toNat - record.lastTouch.toNat))

theorem isPunctual_iff {settings : Settings} :
    settings.IsPunctual ↔ settings.heartbeatTimeout.IsCounted := by
  constructor
  · intro punctual
    by_contra uncounted
    obtain ⟨now, due, early⟩ := Record.early_of_not_isCounted uncounted ⟨""⟩ ⟨""⟩
    have ordered : (0 : Reading) ≤ now := UInt64.le_iff_toNat_le.mpr (Nat.zero_le _)
    have exactly := punctual (.fresh ⟨""⟩ ⟨""⟩) now rfl ordered
    exact early (exactly.mp (Record.health_checkState_iff.mpr due))
  · intro counted record now normal _
    rw [Record.health_checkState_iff, Record.isDue_iff_of_isCounted normal counted]

/-- What the settings of a channel make of the peers that were not heard of for some time. -/
structure Suspicion (settings : Settings) : Prop where
  /-- The low 64 bits of the whole milliseconds of the timeout decide. No time has passed since the last
  touch if the clock was set back. -/
  suspected_iff (record : Record) (now : Reading) (normal : record.health = .normal) :
    (record.checkState settings.heartbeatTimeout now).health = .suspect ↔
      settings.heartbeatTimeout.wholeMillis % 2 ^ 64 ≤ now.toNat - record.lastTouch.toNat
  /-- Once the timeout has passed the peer is suspected. -/
  never_late (record : Record) (now : Reading)
    (passed : settings.heartbeatTimeout ≤ .ofMillis (now.toNat - record.lastTouch.toNat)) :
    (record.checkState settings.heartbeatTimeout now).health = .suspect
  /-- It is suspected by less than one millisecond too early, if the milliseconds fit into 64 bits. -/
  hardly_early (record : Record) (now : Reading) (normal : record.health = .normal)
    (fits : settings.heartbeatTimeout.wholeMillis < 2 ^ 64)
    (suspected : (record.checkState settings.heartbeatTimeout now).health = .suspect) :
    settings.heartbeatTimeout < .ofMillis (now.toNat - record.lastTouch.toNat + 1)
  /-- The timeout is kept to exactly if it is a number of milliseconds that a clock can count, only then. -/
  punctual_iff : settings.IsPunctual ↔
    ∃ count, 0 < count ∧ count < 2 ^ 64 ∧ settings.heartbeatTimeout = .ofMillis count
  /-- Who was heard of at this very reading is suspected if those low bits are zero, only then. -/
  touched_iff (record : Record) (now : Reading) (normal : record.health = .normal) :
    ((record.touch now).checkState settings.heartbeatTimeout now).health = .suspect ↔
      settings.heartbeatTimeout.wholeMillis % 2 ^ 64 = 0

/-- **When peers are suspected under settings that a channel can work with.** -/
theorem suspicion_of_validate {settings : Settings} (valid : settings.validate = .ok ()) :
    settings.Suspicion where
  suspected_iff := fun _ _ normal =>
    Record.health_checkState_iff.trans (Record.isDue_iff_of_normal normal)
  never_late := fun _ _ passed => Record.health_checkState_iff.mpr (Record.isDue_of_passed passed)
  hardly_early := fun record now normal fits suspected => by
    have due := (Record.isDue_iff_of_normal normal).mp (Record.health_checkState_iff.mp suspected)
    rw [Nat.mod_eq_of_lt fits] at due
    have later := Duration.ofMillis_le_ofMillis_iff.mpr (Nat.add_le_add_right due 1)
    exact Nat.lt_of_lt_of_le (Duration.lt_ofMillis_succ_wholeMillis settings.heartbeatTimeout) later
  punctual_iff := by
    rw [isPunctual_iff]
    constructor
    · rintro ⟨count, fits, exactly⟩
      have long : 0 < (Duration.ofMillis count).nanos := exactly ▸ heartbeatTimeout_pos valid
      exact ⟨count, Nat.pos_of_mul_pos_right long, fits, exactly⟩
    · rintro ⟨count, _, fits, exactly⟩
      exact ⟨count, fits, exactly⟩
  touched_iff := fun _ _ normal => Record.health_checkState_iff.trans (Record.isDue_touch_iff normal)

/-- Settings with a timeout of half a millisecond. -/
def hasty : Settings := { standard with heartbeatTimeout := ⟨500000⟩ }

/-- A channel can work with these, and suspects a peer at the very reading at which it heard of it. -/
theorem suspicion_of_hasty :
    hasty.validate = .ok () ∧ ¬ hasty.IsPunctual ∧
      (((Record.fresh ⟨"n1"⟩ ⟨"mem:1"⟩).touch 1000).checkState hasty.heartbeatTimeout 1000).health =
        .suspect := by
  have valid : hasty.validate = .ok () := by decide +kernel
  refine ⟨valid, fun punctual => ?_, ((suspicion_of_validate valid).touched_iff _ _ rfl).mpr rfl⟩
  obtain ⟨count, long, _, exactly⟩ := (suspicion_of_validate valid).punctual_iff.mp punctual
  have half : 500000 = count * 1000000 := congrArg Duration.nanos exactly
  omega

end Settings

end PeerMesh
