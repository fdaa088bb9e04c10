/-
**Settings from the environment and from overrides.**

Settings come in layers: the standard ones, then environment variables whose names begin with
`Settings.variableStart`, then overrides, each layer having the last word over those before it.
`Settings.load` reads all layers and validates what comes out.

Overrides stay texts. The value of a variable is taken for a truth value or a number if it reads as
one, and each setting says what it makes of the value (`Settings.Kind.read?`).
-/

import PeerMesh.Decimal.Reader
import PeerMesh.Decimal.Shortest
import PeerMesh.Settings.Path
import PeerMesh.Settings.Validity
import PeerMesh.Table
import PeerMesh.Text.Timespan

namespace PeerMesh.Settings

/-- What is given for a setting. -/
inductive Value where
  | text (value : String)
  | flag (value : Bool)
  | whole (value : Int)
  | real (value : Binary64)
  /-- Something with parts, which no setting is. -/
  | collection
  deriving DecidableEq, Repr, Inhabited

namespace Value

/-- What the text of a variable stands for. -/
def ofVariable (text : String) : Value :=
  if text.toLower = "true" then .flag true
  else if text.toLower = "false" then .flag false
  else match Digits.parseSigned (2 ^ 63) text.toList, Binary64.parse? text with
    | some number, _ => .whole number
    | none, some number => .real number
    | none, none => .text text

/-- A value as text. -/
def asText? : Value → Option String
  | .text value => some value
  | .flag value => some (if value then "true" else "false")
  | .whole value => some (toString value)
  | .real value => some value.render
  | .collection => none

/-- The truth value that a word stands for. -/
def flagOfWord? (word : String) : Option Bool :=
  if ["true", "on", "yes"].contains word.toLower then some true
  else if ["false", "off", "no"].contains word.toLower then some false
  else none

/-- A value as a truth value. -/
def asFlag? : Value → Option Bool
  | .text value =>
    if value = "1" then some true else if value = "0" then some false else flagOfWord? value
  | .flag value => some value
  | .whole value => some (value ≠ 0)
  | .real value => some !value.isZero
  | .collection => none

/-- The largest number of 64 bits. -/
def wordMax : Nat := 2 ^ 64 - 1

/-- A value as a number of 64 bits. -/
def asWord? : Value → Option Nat
  | .text value =>
    match flagOfWord? value with
    | some truth => some truth.toNat
    | none => Digits.parseUnsigned wordMax value.toList
  | .flag value => some value.toNat
  | .whole value => if 0 ≤ value then some value.toNat else none
  | .real value => some (value.toBounded wordMax)
  | .collection => none

/-- A value as the name of a transport. -/
def asProvider? : Value → Option TransportKind
  | .text value => TransportKind.ofWord? value
  | _ => none

end Value

/-- What a setting of each kind makes of a value. -/
def Kind.read? : (kind : Kind) → Value → Option kind.Content
  | .text, value => value.asText?
  | .optionalText, value => value.asText?.map some
  | .span, value => value.asText?.bind Timespan.parse?
  | .flag, value => value.asFlag?
  | .count largest, value => value.asWord?.filter (· ≤ largest)
  | .provider, value => value.asProvider?
  | .endpoint, value => value.asText?.bind Socket.Endpoint.parse?
  | .optionalEndpoint, value => (value.asText?.bind Socket.Endpoint.parse?).map some
  | .ip, value => value.asText?.bind Socket.Ipv4.parse?

/-- Values by the name of their setting. -/
abbrev Values := Table String Value

/-- Put a value at the end of a path; a setting that is gone into becomes a collection. -/
def put (values : Values) (path : Path) (value : Value) : Values :=
  values.insert path.root (if path.parts.isEmpty then value else .collection)

/-- Set one field as the values say. -/
def setField (values : Values) (settings : Settings) (field : Field) : Option Settings :=
  match values.get? field.name with
  | none => some settings
  | some value => (field.kind.read? value).map (field.set settings)

/-- The settings that values say, the standard ones where they say nothing. Values of unknown names
are left out. -/
def ofValues? (values : Values) : Option Settings := fields.foldlM (setField values) standard

/-- The letter in lower case. All characters but one whose lower-case form is an ASCII letter are
ASCII letters themselves; the other one is the Kelvin sign. -/
def lowerVariableChar (char : Char) : Char := if char = '\u212a' then 'k' else char.toLower

/-- How the names of the variables begin, in lower case. -/
def variableStart : String := "vibemesh__"

/-- The key that the name of a variable stands for, if it is meant for settings. -/
def variableKey? (name : String) : Option String :=
  let lowered := name.toList.map lowerVariableChar
  if variableStart.toList.isPrefixOf lowered then
    some (String.ofList (lowered.drop variableStart.length))
  else none

/-- Put the value of a variable, whose key may be a path. -/
def putVariable (values : Values) (variableName text : String) : Values :=
  match variableKey? variableName with
  | none => values
  | some key => put values ((Path.parse? key).getD ⟨key, []⟩) (.ofVariable text)

/-- The values of variables. -/
def ofVariables (environment : List (String × String)) : Values :=
  environment.foldl (fun values entry => putVariable values entry.1 entry.2) .empty

/-- The paths of overrides, an override of the same path as an earlier one taking its place. The
case of ASCII letters in a key does not matter. -/
def overridesOf? (overrides : List (String × String)) : Option (Table Path Value) :=
  overrides.foldlM (fun table (key, text) =>
    (Path.parse? key.toLower).map fun path => table.insert path (Value.text text)) Table.empty

/-- The settings that the variables and the overrides say, before they are validated. -/
def read? (environment overrides : List (String × String)) : Option Settings := do
  let overrides ← overridesOf? overrides
  ofValues? (overrides.entries.foldl (fun values entry => put values entry.1 entry.2)
    (ofVariables environment))

/-- The settings that the variables and the overrides say. -/
def load (environment overrides : List (String × String)) : Except SettingsError Settings :=
  match read? environment overrides with
  | none => .error .unreadable
  | some settings => settings.validate.map fun _ => settings

end PeerMesh.Settings
