/-
**Paths to settings.**

A path begins with the name of a setting; names or numbers of parts of it may follow. Names are made
of ASCII letters, digits, underscores and hyphens.
-/

import PeerMesh.Power
import PeerMesh.Text.Digits

namespace PeerMesh.Settings

/-- A part of something. -/
inductive PathPart where
  | name (text : String)
  | position (index : Int)
  deriving DecidableEq, Repr, Inhabited

/-- The name of a setting, and a way into it. -/
structure Path where
  root : String
  parts : List PathPart
  deriving DecidableEq, Repr, Inhabited

namespace Path

/-- The characters of which names are made. -/
def isNameChar (char : Char) : Bool := char.isAlphanum || char == '_' || char == '-'

/-- The name at the front of a text, and what follows it. -/
def readName (text : List Char) : Option (String × List Char) :=
  match text.takeWhile isNameChar with
  | [] => none
  | name => some (String.ofList name, text.drop name.length)

/-- Whether a character may stand beside a position in its brackets. -/
def isGap (char : Char) : Bool := char == ' ' || char == '\t'

/-- The position that a whole text spells, with gaps at its ends. -/
def positionOf? (text : List Char) : Option Int :=
  let digits := ((text.dropWhile isGap).reverse.dropWhile isGap).reverse
  if digits.head? = some '+' then none else Digits.parseSigned (2 ^ 63) digits

/-- The position at the front of a text, up to its closing bracket, and what follows it. -/
def readPosition (text : List Char) : Option (Int × List Char) := do
  let inside := text.takeWhile (· ≠ ']')
  let index ← positionOf? inside
  match text.drop inside.length with
  | _ :: rest => some (index, rest)
  | [] => none

/-- The parts that a whole text spells, at most `fuel` of them. -/
def readParts : (fuel : Nat) → List Char → Option (List PathPart)
  | _, [] => some []
  | 0, _ => none
  | fuel + 1, '.' :: text => do
    let (name, rest) ← readName text
    return .name name :: (← readParts fuel rest)
  | fuel + 1, '[' :: text => do
    let (index, rest) ← readPosition text
    return .position index :: (← readParts fuel rest)
  | _ + 1, _ => none

/-- The path that a whole text spells. -/
def parse? (text : String) : Option Path := do
  let (root, rest) ← readName text.toList
  return ⟨root, ← readParts rest.length rest⟩

end Path

end PeerMesh.Settings
