/-
**Filter directives for log messages.**

A filter is a list of directives between commas, empty ones being left out. A directive is a level,
a target, a target with a level after an equals sign, or a target with a span in brackets, in which
fields may stand in braces, and an optional level after an equals sign. `LogFilter.fault?` says what
is wrong with a filter, if anything is.
-/

import PeerMesh.Power
import PeerMesh.Text.Alphanumeric
import PeerMesh.Text.Blank
import PeerMesh.Text.Digits

namespace PeerMesh.LogFilter

/-- What is wrong with a filter. -/
inductive Fault where
  /-- A directive does not have the right form. -/
  | malformed
  /-- There is no such level. -/
  | unknownLevel
  deriving DecidableEq, Repr, Inhabited

/-- The text shown for a fault. -/
def Fault.message : Fault → String
  | .malformed => "invalid filter directive"
  | .unknownLevel =>
    "error parsing level filter: expected one of \"off\", \"error\", \"warn\", \"info\", " ++
      "\"debug\", \"trace\", or a number 0-5"

/-- The names of the levels. -/
def levelNames : List String := ["off", "error", "warn", "info", "debug", "trace"]

/-- Whether a text names a level, or is empty. -/
def isLevel (text : List Char) : Bool :=
  text.isEmpty || levelNames.contains (String.ofList (text.map Char.toLower)) ||
    ((Digits.parseUnsigned (2 ^ 64 - 1) text).any (· ≤ 5))

/-- Where in a directive the next character stands. -/
inductive Place where
  | start
  /-- In a level or a target. -/
  | word
  | span
  /-- In a field, of which something was read already or not. -/
  | field (isEmpty : Bool)
  /-- After the fields of a span. -/
  | fields
  /-- After a span. -/
  | target
  /-- In a level, which begins at the given position. -/
  | level (first : Nat)
  deriving DecidableEq, Repr, Inhabited

/-- Whether a directive may begin with a character, an opening bracket aside. -/
def mayBegin (char : Char) : Bool :=
  char == '-' || char == ':' || char == '_' || Alphanumeric.isAlphanumeric char

/-- The place after the character at a position, if it is allowed there. -/
def Place.next? (place : Place) (position : Nat) (char : Char) : Option Place :=
  match place with
  | .start => if char = '[' then some .span else if mayBegin char then some .word else none
  | .word =>
    if char = '=' then some (.level (position + 1))
    else if char = '[' then some .span else some .word
  | .span =>
    if char = ']' then some .target else if char = '\x7b' then some (.field true) else some .span
  | .field isEmpty =>
    if char = '\x7d' then (if isEmpty then none else some .fields) else some (.field false)
  | .fields => if char = ']' then some .target else none
  | .target => if char = '=' then some (.level (position + 1)) else none
  | .level first => some (.level first)

/-- The place after a whole text, each character of which stands at its position. -/
def place? (text : List Char) : Option Place :=
  text.zipIdx.foldlM (fun place (char, position) => Place.next? place position char) Place.start

/-- What is wrong with a directive, if anything is. Blanks around it are passed over, but a level is
looked for at its position in the directive as it stands. -/
def directiveFault? (directive : List Char) : Option Fault :=
  match place? (Blank.trim directive) with
  | some .word | some .target => none
  | some (.level first) => if isLevel (directive.drop first) then none else some .unknownLevel
  | _ => some .malformed

/-- What is wrong with a filter, if anything is. -/
def fault? (filter : String) : Option Fault :=
  ((filter.toList.splitOn ',').filter (!·.isEmpty)).findSome? directiveFault?

end PeerMesh.LogFilter
