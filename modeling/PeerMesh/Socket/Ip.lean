/-
**Internet addresses as text.**

Version 4 addresses are four decimal numbers without leading zeros. Version 6 addresses are up to
eight hexadecimal groups; one `::` stands for the missing groups and the last two groups may be
written as a version 4 address. The readers (`Ipv4.read`, `Ipv6.read`) return what follows the
address. The printers give the canonical text: the longest run of at least two zero groups is
compressed, the first one on ties, and mapped version 4 addresses keep their dotted form.
-/

import PeerMesh.Text.Digits

namespace PeerMesh.Socket

/-- A reader of a leading part of a text. -/
abbrev Part (α : Type) := List Char → Option (α × List Char)

/-- Read one given character. -/
def expect (wanted : Char) : Part Unit
  | [] => none
  | char :: rest => if char = wanted then some ((), rest) else none

/-- Read digits in the base: at most `maxDigits` of them, and no needless leading zero unless
`leadingZeros` allows it. -/
def readDigits (base maxDigits : Nat) (leadingZeros : Bool) : Part Nat := fun text =>
  let (digits, rest) := Digits.spanDigits base text
  if digits.isEmpty || maxDigits < digits.length then none
  else if !leadingZeros && digits.head? == some 0 && 1 < digits.length then none
  else some (Digits.ofDigits base digits, rest)

/-- Read decimal digits, of a value of at most `largest`. -/
def readBounded (largest : Nat) : Part Nat := fun text =>
  let (digits, rest) := Digits.spanDigits 10 text
  if digits.isEmpty || largest < Digits.ofDigits 10 digits then none
  else some (Digits.ofDigits 10 digits, rest)

/-- A version 4 address. -/
structure Ipv4 where
  octets : UInt8 × UInt8 × UInt8 × UInt8
  deriving DecidableEq, Repr, Inhabited

namespace Ipv4

/-- The address without any bit set. -/
def any : Ipv4 := ⟨0, 0, 0, 0⟩

/-- The address by which a host reaches itself. -/
def loopback : Ipv4 := ⟨127, 0, 0, 1⟩

/-- Read one of the four numbers. -/
def readOctet : Part UInt8 := fun text => do
  let (value, rest) ← readDigits 10 3 false text
  if value < 256 then some (UInt8.ofNat value, rest) else none

/-- Read an address from the front of a text. -/
def read : Part Ipv4 := fun text => do
  let (first, text) ← readOctet text
  let ((), text) ← expect '.' text
  let (second, text) ← readOctet text
  let ((), text) ← expect '.' text
  let (third, text) ← readOctet text
  let ((), text) ← expect '.' text
  let (fourth, text) ← readOctet text
  some (⟨first, second, third, fourth⟩, text)

/-- Read an address that is a whole text. -/
def parse? (text : String) : Option Ipv4 :=
  match read text.toList with
  | some (address, []) => some address
  | _ => none

/-- The text of an address. -/
def render (address : Ipv4) : String :=
  let (first, second, third, fourth) := address.octets
  toString first.toNat ++ "." ++ toString second.toNat ++ "." ++ toString third.toNat ++ "." ++
    toString fourth.toNat

/-- Whether an address names a group of hosts. -/
def isMulticast (address : Ipv4) : Bool := 224 ≤ address.octets.1 && address.octets.1 ≤ 239

end Ipv4

/-- A version 6 address: eight groups of sixteen bits. -/
structure Ipv6 where
  groups : List Nat
  deriving DecidableEq, Repr, Inhabited

namespace Ipv6

/-- Read the separator before every group but the first. -/
def readSeparator {α : Type} (index : Nat) (part : Part α) : Part α := fun text =>
  if index = 0 then part text
  else do
    let ((), text) ← expect ':' text
    part text

/-- Read up to `room` groups, the first of them being number `index`. A version 4 address counts as
two groups and ends the list, which the second part of the result tells. -/
def readGroups : (room index : Nat) → List Char → (List Nat × Bool) × List Char
  | 0, _, text => (([], false), text)
  | room + 1, index, text =>
    let embedded := if 0 < room then readSeparator index Ipv4.read text else none
    match embedded with
    | some (⟨first, second, third, fourth⟩, rest) =>
      (([first.toNat * 256 + second.toNat, third.toNat * 256 + fourth.toNat], true), rest)
    | none =>
      match readSeparator index (readDigits 16 4 true) text with
      | some (group, rest) =>
        let ((groups, dotted), rest) := readGroups room (index + 1) rest
        ((group :: groups, dotted), rest)
      | none => (([], false), text)

/-- Read an address from the front of a text. -/
def read : Part Ipv6 := fun text => do
  let ((head, dotted), text) := readGroups 8 0 text
  if head.length = 8 then some (⟨head⟩, text)
  else if dotted then none
  else
    let ((), text) ← expect ':' text
    let ((), text) ← expect ':' text
    let ((tail, _), text) := readGroups (7 - head.length) 0 text
    some (⟨head ++ List.replicate (8 - head.length - tail.length) 0 ++ tail⟩, text)

/-- The start and length of the longest run of zeros, the first one on ties. -/
def longestZeros (groups : List Nat) : Nat × Nat :=
  let step (state : (Nat × Nat) × (Nat × Nat)) (entry : Nat × Nat) :=
    let ((start, length), longest) := state
    let (group, index) := entry
    if group = 0 then
      let current := if length = 0 then (index, 1) else (start, length + 1)
      (current, if longest.2 < current.2 then current else longest)
    else ((0, 0), longest)
  (groups.zipIdx.foldl step ((0, 0), (0, 0))).2

/-- Groups in hexadecimal, between colons. -/
def renderGroups (groups : List Nat) : String :=
  String.intercalate ":" (groups.map Digits.hexText)

/-- The text of an address. -/
def render (address : Ipv6) : String :=
  match address.groups with
  | [0, 0, 0, 0, 0, 0xffff, high, low] =>
    let dotted : Ipv4 := ⟨UInt8.ofNat (high / 256), UInt8.ofNat (high % 256),
      UInt8.ofNat (low / 256), UInt8.ofNat (low % 256)⟩
    "::ffff:" ++ dotted.render
  | groups =>
    let (start, length) := longestZeros groups
    if 1 < length then
      renderGroups (groups.take start) ++ "::" ++ renderGroups (groups.drop (start + length))
    else renderGroups groups

end Ipv6

end PeerMesh.Socket
