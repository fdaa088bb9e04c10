/-
**Digits and the numbers they spell.**

Digits are ASCII. `spanDigits` cuts the leading digits off a text, `ofDigits` gives their value,
`hexText` writes a number in lower-case hexadecimal without padding, and `parseUnsigned` reads a
whole text as an unsigned number with an upper bound, an optional plus sign being allowed.
`parseSigned` reads a whole text as a number with a sign.
-/

namespace PeerMesh.Digits

/-- The value of a digit in a base of at most sixteen. -/
def value? (base : Nat) (char : Char) : Option Nat :=
  let digit? : Option Nat :=
    if '0' ≤ char ∧ char ≤ '9' then some (char.toNat - '0'.toNat)
    else if 'a' ≤ char ∧ char ≤ 'f' then some (char.toNat - 'a'.toNat + 10)
    else if 'A' ≤ char ∧ char ≤ 'F' then some (char.toNat - 'A'.toNat + 10)
    else none
  digit?.filter (· < base)

/-- The values of the leading digits of a text, and what follows them. -/
def spanDigits (base : Nat) : List Char → List Nat × List Char
  | [] => ([], [])
  | char :: rest =>
    match value? base char with
    | some digit => let (digits, rest) := spanDigits base rest; (digit :: digits, rest)
    | none => ([], char :: rest)

/-- The number that digits spell, the first being the highest. -/
def ofDigits (base : Nat) (digits : List Nat) : Nat :=
  digits.foldl (fun number digit => number * base + digit) 0

/-- A number in lower-case hexadecimal, without padding. -/
def hexText (number : Nat) : String := String.ofList (Nat.toDigits 16 number)

/-- A whole text of decimal digits, after an optional plus sign, at most `largest`. -/
def parseUnsigned (largest : Nat) (text : List Char) : Option Nat :=
  let unsigned := match text with
    | '+' :: rest => rest
    | _ => text
  match spanDigits 10 unsigned with
  | ([], _) => none
  | (digits, []) => (some (ofDigits 10 digits)).filter (· ≤ largest)
  | (_, _ :: _) => none

/-- A whole text of decimal digits, after an optional sign, from `-bound` to below `bound`. -/
def parseSigned (bound : Nat) (text : List Char) : Option Int :=
  match text with
  | '-' :: rest =>
    match spanDigits 10 rest with
    | ([], _) => none
    | (digits, []) => ((some (ofDigits 10 digits)).filter (· ≤ bound)).map fun n => -(n : Int)
    | (_, _ :: _) => none
  | _ => (parseUnsigned (bound - 1) text).map Int.ofNat

end PeerMesh.Digits
