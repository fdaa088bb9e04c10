/-
**Where a byte string stops being UTF-8.**

`Utf8.fault?` gives the first place at which a byte string is not UTF-8: how many bytes before it are
good, and how long the offending run is. A text that ends in the middle of a so far correct sequence
has a fault without a length.
-/

import PeerMesh.Bytes

namespace PeerMesh.Utf8

/-- The first fault of a byte string that is not UTF-8. -/
structure Fault where
  /-- The number of good bytes before the fault. -/
  validUpTo : Nat
  /-- The length of the bad run, unless the text just ends too early. -/
  length : Option Nat
  deriving DecidableEq, Repr, Inhabited

/-- Whether a byte continues a sequence. -/
def isContinuation (byte : UInt8) : Bool := 0x80 ≤ byte && byte ≤ 0xBF

/-- Whether `second` may follow the lead byte of a three-byte sequence. -/
def allowsSecondOfThree (lead second : UInt8) : Bool :=
  if lead == 0xE0 then 0xA0 ≤ second && second ≤ 0xBF
  else if lead == 0xED then 0x80 ≤ second && second ≤ 0x9F
  else isContinuation second

/-- Whether `second` may follow the lead byte of a four-byte sequence. -/
def allowsSecondOfFour (lead second : UInt8) : Bool :=
  if lead == 0xF0 then 0x90 ≤ second && second ≤ 0xBF
  else if lead == 0xF4 then 0x80 ≤ second && second ≤ 0x8F
  else isContinuation second

/-- The first fault after `good` correct bytes. -/
def faultFrom (good : Nat) : Bytes → Option Fault
  | [] => none
  | lead :: rest =>
    if lead < 0x80 then faultFrom (good + 1) rest
    else if 0xC2 ≤ lead && lead ≤ 0xDF then
      match rest with
      | [] => some ⟨good, none⟩
      | second :: rest =>
        if isContinuation second then faultFrom (good + 2) rest else some ⟨good, some 1⟩
    else if 0xE0 ≤ lead && lead ≤ 0xEF then
      match rest with
      | [] => some ⟨good, none⟩
      | second :: rest =>
        if allowsSecondOfThree lead second then
          match rest with
          | [] => some ⟨good, none⟩
          | third :: rest =>
            if isContinuation third then faultFrom (good + 3) rest else some ⟨good, some 2⟩
        else some ⟨good, some 1⟩
    else if 0xF0 ≤ lead && lead ≤ 0xF4 then
      match rest with
      | [] => some ⟨good, none⟩
      | second :: rest =>
        if allowsSecondOfFour lead second then
          match rest with
          | [] => some ⟨good, none⟩
          | third :: rest =>
            if isContinuation third then
              match rest with
              | [] => some ⟨good, none⟩
              | fourth :: rest =>
                if isContinuation fourth then faultFrom (good + 4) rest else some ⟨good, some 3⟩
            else some ⟨good, some 2⟩
        else some ⟨good, some 1⟩
    else some ⟨good, some 1⟩
  termination_by bytes => bytes.length

/-- The first fault of a byte string, if it is not UTF-8. -/
def fault? (bytes : Bytes) : Option Fault := faultFrom 0 bytes

/-- The bytes of a text. -/
def encode (text : String) : Bytes := text.toByteArray.data.toList

/-- The text that a byte string encodes. -/
def decode? (bytes : Bytes) : Option String := String.fromUTF8? ⟨bytes.toArray⟩

/-- Every text reads back from its bytes. -/
theorem decode?_encode (text : String) : decode? (encode text) = some text := by
  simp only [decode?, encode, String.fromUTF8?, Array.toArray_toList]
  exact dif_pos text.isValidUTF8

end PeerMesh.Utf8
