/-
**Binary numbers as people write them.**

`Binary64.parse?` reads a whole text as a number: an optional sign, then digits with at most one
point among or around them and an optional power of ten after the letter e, or the name of an
infinity or of no number, in any case of its letters.
-/

import PeerMesh.Decimal.Binary64
import PeerMesh.Text.Digits

namespace PeerMesh.Binary64

/-- The sign at the front of a text, and what follows it. -/
def readSign : List Char → Bool × List Char
  | '-' :: rest => (true, rest)
  | '+' :: rest => (false, rest)
  | text => (false, text)

/-- The power of ten at the end of a text. -/
def readPower? : List Char → Option Int
  | [] => some 0
  | char :: rest =>
    if char = 'e' ∨ char = 'E' then
      let (negative, rest) := readSign rest
      match Digits.spanDigits 10 rest with
      | ([], _) => none
      | (digits, []) =>
        let power : Int := Digits.ofDigits 10 digits
        some (if negative then -power else power)
      | (_, _ :: _) => none
    else none

/-- The digits after the point at the front of a text, if there is one, and what follows them. -/
def readFraction : List Char → List Nat × List Char
  | '.' :: rest => Digits.spanDigits 10 rest
  | text => ([], text)

/-- A number written with digits. -/
def parseDigits? (negative : Bool) (text : List Char) : Option Binary64 :=
  let (whole, rest) := Digits.spanDigits 10 text
  let (fraction, rest) := readFraction rest
  let digits := whole ++ fraction
  if digits.isEmpty then none
  else (readPower? rest).map fun power =>
    let significant := (digits.dropWhile (· == 0)).length
    ofDecimal negative (Digits.ofDigits 10 digits) significant (power - fraction.length)

/-- The number that a whole text spells. -/
def parse? (text : String) : Option Binary64 :=
  let (negative, rest) := readSign text.toList
  let name := rest.map Char.toLower
  if name = "inf".toList ∨ name = "infinity".toList then some (.infinite negative)
  else if name = "nan".toList then some .nan
  else parseDigits? negative rest

end PeerMesh.Binary64
