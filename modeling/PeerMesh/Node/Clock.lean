/-
**Millisecond clock readings.**

A reading is a 64-bit count of milliseconds. Clocks may be set back, so differences of readings are
taken with a floor at zero (`Reading.since`) and sums with a ceiling at the largest reading
(`Reading.plus`). Moving a hand-set clock forward wraps around instead (`Reading.advance`).
-/

import PeerMesh.Duration

namespace PeerMesh

/-- What a clock shows, in milliseconds. -/
abbrev Reading := UInt64

namespace Reading

/-- The milliseconds from an earlier reading to this one; zero if the clock went back. -/
def since (now earlier : Reading) : UInt64 :=
  if earlier ≤ now then now - earlier else 0

/-- A reading moved ahead, but never past the largest one. -/
def plus (start : Reading) (span : UInt64) : Reading :=
  UInt64.ofNat (min (start.toNat + span.toNat) (UInt64.size - 1))

/-- A hand-set clock moved forward, around the end if need be. -/
def advance (now : Reading) (span : Duration) : Reading :=
  now + span.millisWord

theorem toNat_since (now earlier : Reading) :
    (since now earlier).toNat = now.toNat - earlier.toNat := by
  unfold since
  split
  · rename_i ordered
    exact UInt64.toNat_sub_of_le _ _ ordered
  · rename_i unordered
    have : now.toNat < earlier.toNat := by
      simpa [UInt64.le_iff_toNat_le] using unordered
    simp only [UInt64.toNat_zero]
    omega

theorem toNat_plus (start : Reading) (span : UInt64) :
    (plus start span).toNat = min (start.toNat + span.toNat) (UInt64.size - 1) := by
  unfold plus
  have bound : min (start.toNat + span.toNat) (UInt64.size - 1) < UInt64.size := by
    have : 0 < UInt64.size := by decide
    omega
  exact UInt64.toNat_ofNat_of_lt' bound

end Reading

end PeerMesh
