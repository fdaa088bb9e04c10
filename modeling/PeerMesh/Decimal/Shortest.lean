/-
**The fewest decimal digits that read back.**

`Shortest.digits` finds, for a number `m · 2 ^ e`, the shortest decimal number that is nearer to it
than to any other such number (an end of that interval counts if `m` is even), and among the
shortest ones the nearest. `Binary64.render` writes it without an exponent.
-/

import PeerMesh.Decimal.Binary64

namespace PeerMesh

namespace Shortest

/-- The numbers that round to one number, as fractions over a common denominator. -/
structure Interval where
  low : Nat
  value : Nat
  high : Nat
  den : Nat
  closed : Bool

/-- The numbers that round to `mantissa · 2 ^ exponent`. -/
def intervalOf (mantissa : Nat) (exponent : Int) : Interval :=
  let below := if mantissa = 2 ^ 52 ∧ Binary64.minExponent < exponent then 1 else 2
  let (quarter, den) := Binary64.scale 1 1 (2 - exponent)
  ⟨(4 * mantissa - below) * quarter, 4 * mantissa * quarter, (4 * mantissa + 2) * quarter, den,
    mantissa % 2 == 0⟩

/-- Whether `candidate · 10 ^ power` rounds to the number. -/
def Interval.admits (interval : Interval) (candidate : Nat) (power : Int) : Bool :=
  let up := 10 ^ power.toNat
  let down := 10 ^ (-power).toNat
  let point := candidate * up * interval.den
  if interval.closed then interval.low * down ≤ point && point ≤ interval.high * down
  else interval.low * down < point && point < interval.high * down

/-- The decimal places before the point: the least `places` such that the value is below
`10 ^ places`, searched downwards below one. -/
def placesBelowOne (num den : Nat) : (fuel places : Nat) → Int
  | 0, places => -(places : Int)
  | fuel + 1, places =>
    if den ≤ num * 10 ^ (places + 1) then -(places : Int) else placesBelowOne num den fuel (places + 1)

/-- The least number of places such that the value is below ten to that power. -/
def placesOf (num den : Nat) : Int :=
  if den ≤ num then (Nat.toDigits 10 (num / den)).length else placesBelowOne num den 330 0

/-- Try grids of `count`, `count + 1`, … digits, and give the first candidate that reads back. -/
def search (interval : Interval) (places : Int) : (fuel count : Nat) → Nat × Int
  | 0, _ => (0, 0)
  | fuel + 1, count =>
    let power := places - count
    let up := 10 ^ power.toNat
    let down := 10 ^ (-power).toNat
    let lower := interval.value * down / (up * interval.den)
    let remainder := interval.value * down % (up * interval.den)
    let upper := lower + 1
    match interval.admits lower power, interval.admits upper power with
    | true, true =>
      if 2 * remainder < up * interval.den || (2 * remainder == up * interval.den && lower % 2 == 0)
      then (lower, power) else (upper, power)
    | true, false => (lower, power)
    | false, true => (upper, power)
    | false, false => search interval places fuel (count + 1)

/-- The shortest digits of `mantissa · 2 ^ exponent` and the power of ten of the last one. -/
def digits (mantissa : Nat) (exponent : Int) : Nat × Int :=
  let interval := intervalOf mantissa exponent
  search interval (placesOf interval.value interval.den) 20 1

/-- Digits at a power of ten, written without an exponent. -/
def positional (digits : Nat) (power : Int) : String :=
  let text := (Nat.toDigits 10 digits)
  if 0 ≤ power then String.ofList (text ++ List.replicate power.toNat '0')
  else
    let places := (-power).toNat
    let padded := List.replicate (places + 1 - text.length) '0' ++ text
    let whole := padded.take (padded.length - places)
    let fraction := (padded.drop (padded.length - places)).reverse.dropWhile (· == '0')
    if fraction.isEmpty then String.ofList whole
    else String.ofList (whole ++ '.' :: fraction.reverse)

end Shortest

/-- A number with as few digits as read back, and without an exponent. -/
def Binary64.render : Binary64 → String
  | .nan => "NaN"
  | .infinite negative => if negative then "-inf" else "inf"
  | .finite negative mantissa exponent =>
    let sign := if negative then "-" else ""
    if mantissa = 0 then sign ++ "0"
    else
      let (digits, power) := Shortest.digits mantissa exponent
      sign ++ Shortest.positional digits power

end PeerMesh
