/-
**Why a payload cannot be read.**

Each cause is a `DecodeError`; `DecodeError.name` is the word for its kind and
`DecodeError.message` the text shown for it.
-/

import PeerMesh.Text.Utf8

namespace PeerMesh.Wire

/-- The width that a number's marker byte announces. -/
inductive IntegerWidth where
  | bits32
  | bits64
  | bits128
  | reserved
  deriving DecidableEq, Repr, Inhabited

/-- The word for a width. -/
def IntegerWidth.word : IntegerWidth → String
  | .bits32 => "U32"
  | .bits64 => "U64"
  | .bits128 => "U128"
  | .reserved => "Reserved"

/-- Why a payload cannot be read. -/
inductive DecodeError where
  /-- The payload is too short by the given number of bytes. -/
  | unexpectedEnd (additional : Nat)
  /-- The payload claims more bytes than allowed. -/
  | limitExceeded
  /-- A number's marker announces a width that does not fit. -/
  | invalidWidth (expected found : IntegerWidth)
  /-- A choice among `count` alternatives is made by a tag that names none of them. -/
  | unexpectedVariant (typeName : String) (count found : Nat)
  /-- A truth value is neither zero nor one. -/
  | invalidFlag (found : UInt8)
  /-- A text is not UTF-8. -/
  | invalidText (fault : Utf8.Fault)
  deriving DecidableEq, Repr, Inhabited

namespace DecodeError

/-- The word for the kind of error. -/
def name : DecodeError → String
  | .unexpectedEnd _ => "UnexpectedEnd"
  | .limitExceeded => "LimitExceeded"
  | .invalidWidth _ _ => "InvalidIntegerType"
  | .unexpectedVariant _ _ _ => "UnexpectedVariant"
  | .invalidFlag _ => "InvalidBooleanValue"
  | .invalidText _ => "Utf8"

/-- The text of an optional length. -/
def lengthText : Option Nat → String
  | none => "None"
  | some length => "Some(" ++ toString length ++ ")"

/-- The text shown for an error. -/
def message : DecodeError → String
  | .unexpectedEnd additional =>
    "UnexpectedEnd \x7b additional: " ++ toString additional ++ " \x7d"
  | .limitExceeded => "LimitExceeded"
  | .invalidWidth expected found =>
    "InvalidIntegerType \x7b expected: " ++ expected.word ++ ", found: " ++ found.word ++ " \x7d"
  | .unexpectedVariant typeName count found =>
    "UnexpectedVariant \x7b type_name: \"" ++ typeName ++
      "\", allowed: Range \x7b min: 0, max: " ++ toString (count - 1) ++
      " \x7d, found: " ++ toString found ++ " \x7d"
  | .invalidFlag found => "InvalidBooleanValue(" ++ toString found.toNat ++ ")"
  | .invalidText fault =>
    "Utf8 \x7b inner: Utf8Error \x7b valid_up_to: " ++ toString fault.validUpTo ++
      ", error_len: " ++ lengthText fault.length ++ " \x7d \x7d"

end DecodeError

end PeerMesh.Wire
