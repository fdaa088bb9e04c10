/-
**Exact spans of time.**

A `Duration` is a whole number of nanoseconds. Two coarser readings of it are used:

* `Duration.wholeMillis` — the whole milliseconds it contains, as a clock counts them;
* `Duration.millisWord` — the same count cut down to 64 bits, which is how ages and grace periods
  are compared with clock readings;
* `Duration.ticks` — the number of one-millisecond timer ticks after which it has certainly passed.
-/

namespace PeerMesh

/-- A span of time, exact to the nanosecond. -/
structure Duration where
  nanos : Nat
  deriving DecidableEq, Repr, Inhabited

namespace Duration

/-- Nanoseconds in one millisecond. -/
def nanosPerMilli : Nat := 1000000

/-- Nanoseconds in one second. -/
def nanosPerSecond : Nat := 1000000000

/-- The span of `count` nanoseconds. -/
def ofNanos (count : Nat) : Duration := ⟨count⟩

/-- The span of `count` milliseconds. -/
def ofMillis (count : Nat) : Duration := ⟨count * nanosPerMilli⟩

/-- The span of `count` seconds. -/
def ofSeconds (count : Nat) : Duration := ⟨count * nanosPerSecond⟩

/-- The whole seconds of a span. -/
def wholeSeconds (span : Duration) : Nat := span.nanos / nanosPerSecond

/-- The nanoseconds of a span beyond its whole seconds. -/
def subsecondNanos (span : Duration) : Nat := span.nanos % nanosPerSecond

/-- The whole milliseconds of a span. -/
def wholeMillis (span : Duration) : Nat := span.nanos / nanosPerMilli

/-- The whole milliseconds of a span, cut down to their low 64 bits. -/
def millisWord (span : Duration) : UInt64 := UInt64.ofNat span.wholeMillis

/-- The least number of milliseconds that is not shorter than the span. A timer goes off at the first whole
millisecond that is not before the moment it is set to; here everything happens at whole milliseconds. -/
def ticks (span : Duration) : Nat := (span.nanos + (nanosPerMilli - 1)) / nanosPerMilli

/-- From a whole millisecond on, to round a pause up is to round the moment at which it is over. -/
theorem ticks_of_deadline (now : Nat) (span : Duration) :
    (Duration.mk ((ofMillis now).nanos + span.nanos)).ticks = now + span.ticks := by
  show (now * nanosPerMilli + span.nanos + (nanosPerMilli - 1)) / nanosPerMilli = _
  unfold ticks nanosPerMilli
  omega

/-- Half of a span, rounded down to the nanosecond. -/
def half (span : Duration) : Duration := ⟨span.nanos / 2⟩

/-- Whether a span has no length. -/
def isZero (span : Duration) : Bool := span.nanos == 0

instance : LE Duration := ⟨fun first second => first.nanos ≤ second.nanos⟩
instance : LT Duration := ⟨fun first second => first.nanos < second.nanos⟩

instance (first second : Duration) : Decidable (first ≤ second) :=
  inferInstanceAs (Decidable (first.nanos ≤ second.nanos))

instance (first second : Duration) : Decidable (first < second) :=
  inferInstanceAs (Decidable (first.nanos < second.nanos))

end Duration

end PeerMesh
