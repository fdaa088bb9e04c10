/-
**Settings as plain values.**

A `Plain` value is what a setting holds in a form that any notation for data has: a text, a number, a
flag, a span of time, or nothing. `Settings.plain` lists the plain values of all settings by name, and
`Settings.withPlain?` sets some of them. A number that is to be a span counts milliseconds.
-/

import PeerMesh.Settings.Basic

namespace PeerMesh

/-- A plain value. -/
inductive Plain where
  | nothing
  | text (value : String)
  | number (value : Nat)
  | flag (value : Bool)
  | span (value : Duration)
  deriving DecidableEq, Repr, Inhabited

namespace Settings

/-- The plain value of what a setting holds. -/
def Kind.plain : (kind : Kind) → kind.Content → Plain
  | .text, value => .text value
  | .optionalText, value => (value.map Plain.text).getD .nothing
  | .span, value => .span value
  | .flag, value => .flag value
  | .count _, value => .number value
  | .provider, value => .text value.word
  | .endpoint, value => .text value.render
  | .optionalEndpoint, value => (value.map fun endpoint => Plain.text endpoint.render).getD .nothing
  | .ip, value => .text value.render

/-- What a setting holds that is given by a plain value. -/
def Kind.ofPlain? : (kind : Kind) → Plain → Option kind.Content
  | .text, .text value => some value
  | .optionalText, .text value => some (some value)
  | .span, .span value => some value
  | .span, .number millis => some (.ofMillis millis)
  | .flag, .flag value => some value
  | .count _, .number value => some value
  | .provider, .text value => TransportKind.ofWord? value
  | .endpoint, .text value => Socket.Endpoint.parse? value
  | .optionalEndpoint, .text value => (Socket.Endpoint.parse? value).map some
  | .ip, .text value => Socket.Ipv4.parse? value
  | _, _ => none

/-- All settings by name, as plain values. -/
def plain (settings : Settings) : List (String × Plain) :=
  fields.map fun field => (field.name, field.kind.plain (field.get settings))

/-- The settings with the ones replaced for which a plain value is given, if all can be. -/
def withPlain? (settings : Settings) (given : String → Plain) : Option Settings :=
  fields.foldlM (fun settings field =>
    match given field.name with
    | .nothing => some settings
    | value => (field.kind.ofPlain? value).map (field.set settings)) settings

end Settings

end PeerMesh
