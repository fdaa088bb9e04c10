/-
**Binary numbers of 53 significant bits.**

`Binary64.ofRatio` rounds a quotient of naturals to the nearest number `m · 2 ^ e` with at most 53
bits in `m`, ties going to the even one; too large quotients become infinite and the smallest ones
lose bits. `Binary64.roundAway` rounds such a number to an integer, halves going away from zero.
All of it is exact arithmetic on naturals.
-/

import PeerMesh.Power

namespace PeerMesh

/-- A binary number of 53 significant bits, an infinity, or no number at all. -/
inductive Binary64 where
  /-- The number `mantissa · 2 ^ exponent`, or its negative. -/
  | finite (negative : Bool) (mantissa : Nat) (exponent : Int)
  | infinite (negative : Bool)
  | nan
  deriving DecidableEq, Repr, Inhabited

namespace Binary64

/-- The least exponent. -/
def minExponent : Int := -1074

/-- The largest exponent. -/
def maxExponent : Int := 971

/-- A quotient scaled by a power of two, as numerator and denominator. -/
def scale (num den : Nat) (exponent : Int) : Nat × Nat :=
  if 0 ≤ exponent then (num, den * 2 ^ exponent.toNat) else (num * 2 ^ (-exponent).toNat, den)

/-- The nearest natural to a quotient; a tie goes to the even one. -/
def nearestEven (num den : Nat) : Nat :=
  let quotient := num / den
  let twice := 2 * (num % den)
  if den < twice || (twice == den && quotient % 2 == 1) then quotient + 1 else quotient

/-- The exponent at which a quotient has 53 bits, but not less than the least one. -/
def exponentOf (num den : Nat) : Int :=
  let guess : Int := (Nat.log2 num : Int) - (Nat.log2 den : Int) - 52
  let (scaledNum, scaledDen) := scale num den guess
  let exponent := if scaledNum / scaledDen < 2 ^ 52 then guess - 1 else guess
  max exponent minExponent

/-- The number nearest to a quotient with the given sign. -/
def ofRatio (negative : Bool) (num den : Nat) : Binary64 :=
  if num = 0 then .finite negative 0 minExponent
  else
    let exponent := exponentOf num den
    let (scaledNum, scaledDen) := scale num den exponent
    let mantissa := nearestEven scaledNum scaledDen
    let (mantissa, exponent) :=
      if mantissa = 2 ^ 53 then (2 ^ 52, exponent + 1) else (mantissa, exponent)
    if maxExponent < exponent then .infinite negative else .finite negative mantissa exponent

/-- The number nearest to an integer. -/
def ofInt (value : Int) : Binary64 := ofRatio (value < 0) value.natAbs 1

/-- The number nearest to `digits · 10 ^ power`, given how many digits there are. Beyond the range of
the type the answer does not depend on the digits. -/
def ofDecimal (negative : Bool) (digits digitCount : Nat) (power : Int) : Binary64 :=
  if digits = 0 then .finite negative 0 minExponent
  else if 400 < power + digitCount then .infinite negative
  else if power + digitCount < -400 then .finite negative 0 minExponent
  else if 0 ≤ power then ofRatio negative (digits * 10 ^ power.toNat) 1
  else ofRatio negative digits (10 ^ (-power).toNat)

/-- Whether the number is zero, of either sign. -/
def isZero : Binary64 → Bool
  | .finite _ mantissa _ => mantissa == 0
  | _ => false

/-- The nearest integer, a half going away from zero. -/
def roundAway (negative : Bool) (mantissa : Nat) (exponent : Int) : Int :=
  let (num, den) := scale mantissa 1 (-exponent)
  let magnitude := (2 * num + den) / (2 * den)
  if negative then -(magnitude : Int) else magnitude

/-- The nearest integer between zero and `largest`; zero if there is no number. -/
def toBounded (largest : Nat) : Binary64 → Nat
  | .finite negative mantissa exponent => min (roundAway negative mantissa exponent).toNat largest
  | .infinite negative => if negative then 0 else largest
  | .nan => 0

end Binary64

end PeerMesh
