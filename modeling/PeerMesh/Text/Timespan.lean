/-
**Spans of time as people write them.**

A span is `0`, or one or more numbers that are each followed by a unit, such as `1h 30m` or `0.5s`.
Blanks may stand around numbers and among their digits. A number may have a fraction if it comes out
exact: in nanoseconds for units up to the minute, in whole seconds for longer ones. All intermediate
results must fit into 64 bits.

`Timespan.parse?` reads a whole text.
-/

import PeerMesh.Power
import PeerMesh.Duration
import PeerMesh.Text.Blank
import PeerMesh.Text.Digits

namespace PeerMesh.Timespan

/-- A unit of time. -/
structure TimeUnit where
  names : List String
  /-- The step in which whole numbers of the unit are counted, in nanoseconds. -/
  grain : Nat
  /-- The number of such steps in the unit. -/
  count : Nat
  /-- The step in which fractions of the unit are counted, and the number of them in the unit. -/
  fraction? : Option (Nat × Nat)

/-- A unit of less than a second. -/
def TimeUnit.short (names : List String) (nanos : Nat) : TimeUnit :=
  ⟨names, 1, nanos, if nanos = 1 then none else some (1, nanos)⟩

/-- A unit of whole seconds whose fractions are counted in nanoseconds. -/
def TimeUnit.middling (names : List String) (seconds : Nat) : TimeUnit :=
  ⟨names, Duration.nanosPerSecond, seconds, some (1, seconds * Duration.nanosPerSecond)⟩

/-- A unit of whole seconds whose fractions are counted in seconds. -/
def TimeUnit.long (names : List String) (seconds : Nat) : TimeUnit :=
  ⟨names, Duration.nanosPerSecond, seconds, some (Duration.nanosPerSecond, seconds)⟩

/-- All units. A year is 365.25 days, and a month is 30.44 days. -/
def units : List TimeUnit := [
  .short ["nanos", "nsec", "ns"] 1,
  .short ["usec", "us", "µs"] 1000,
  .short ["millis", "msec", "ms"] 1000000,
  .middling ["seconds", "second", "secs", "sec", "s"] 1,
  .middling ["minutes", "minute", "min", "mins", "m"] 60,
  .long ["hours", "hour", "hr", "hrs", "h"] 3600,
  .long ["days", "day", "d"] 86400,
  .long ["weeks", "week", "wk", "wks", "w"] 604800,
  .long ["months", "month", "M"] 2630016,
  .long ["years", "year", "yr", "yrs", "y"] 31557600]

/-- The unit of a name. -/
def unit? (name : String) : Option TimeUnit := units.find? (·.names.contains name)

/-- The largest number that fits into 64 bits. -/
def wordMax : Nat := 2 ^ 64 - 1

/-- A number, if it fits into 64 bits. -/
def fitting (number : Nat) : Option Nat := if number ≤ wordMax then some number else none

/-- A span together with `steps` more steps of a length. -/
def extend (span : Duration) (grain steps : Nat) : Option Duration := do
  let steps ← fitting steps
  let _ ← if grain = 1 then fitting (span.subsecondNanos + steps) else some 0
  let extended : Duration := ⟨span.nanos + grain * steps⟩
  let _ ← fitting extended.wholeSeconds
  some extended

/-- The digits at the front of a text, blanks among them being passed over, and what follows. -/
def spanDigits : List Char → List Nat × List Char
  | [] => ([], [])
  | char :: rest =>
    match Digits.value? 10 char with
    | some digit => let (digits, rest) := spanDigits rest; (digit :: digits, rest)
    | none => if Blank.isBlank char then spanDigits rest else ([], char :: rest)

/-- The letters of which the names of units are made. -/
def isUnitLetter (char : Char) : Bool := char.isAlpha || char == 'µ'

/-- A number with its fraction and its unit. -/
structure Quantity where
  whole : List Nat
  fraction : Option (List Nat)
  unit : String
  deriving Repr, Inhabited

/-- The digits after a point at the front of a text, at least one of which is needed. -/
def readFraction (text : List Char) : Option (Option (List Nat) × List Char) :=
  match text with
  | '.' :: rest =>
    match spanDigits rest with
    | ([], _) => none
    | (digits, rest) => some (some digits, rest)
  | _ => some (none, text)

/-- The quantity at the front of a text, which begins with a digit, and what follows it. -/
def readQuantity (text : List Char) : Option (Quantity × List Char) := do
  let (whole, rest) := spanDigits text
  let _ ← whole.head?
  let (fraction, rest) ← readFraction rest
  let unit := rest.takeWhile isUnitLetter
  some (⟨whole, fraction, String.ofList unit⟩, rest.drop unit.length)

/-- A span together with a quantity. -/
def Quantity.addTo (quantity : Quantity) (span : Duration) : Option Duration := do
  let unit ← unit? quantity.unit
  let whole ← fitting (Digits.ofDigits 10 quantity.whole)
  let span ← extend span unit.grain (whole * unit.count)
  match quantity.fraction with
  | none => some span
  | some digits =>
    let (grain, count) ← unit.fraction?
    let parts ← fitting (10 ^ digits.length)
    let scaled ← fitting (Digits.ofDigits 10 digits * count)
    if scaled % parts = 0 then extend span grain (scaled / parts) else none

/-- A span together with the quantities of a text, at most `fuel` of them. -/
def addQuantities : (fuel : Nat) → Duration → List Char → Option Duration
  | 0, _, _ => none
  | fuel + 1, span, text => do
    let (quantity, rest) ← readQuantity text
    let span ← quantity.addTo span
    match rest.dropWhile Blank.isBlank with
    | [] => some span
    | rest => addQuantities fuel span rest

/-- The span that a whole text spells. -/
def parse? (text : String) : Option Duration :=
  if text = "0" then some ⟨0⟩ else addQuantities text.length ⟨0⟩ text.toList

end PeerMesh.Timespan
