/-
**Socket addresses as text.**

An `Endpoint` is an internet address with a port. Version 6 addresses stand in brackets and may name
a zone after a percent sign. `Endpoint.parse?` reads a whole text; `Endpoint.render` gives the
canonical text, in which a zone of zero is left out.
-/

import PeerMesh.Socket.Ip
import PeerMesh.Node.Identity

namespace PeerMesh.Socket

/-- An internet address with a port. -/
inductive Endpoint where
  | v4 (ip : Ipv4) (port : Nat)
  | v6 (ip : Ipv6) (zone port : Nat)
  deriving DecidableEq, Repr, Inhabited

namespace Endpoint

/-- Read a port after its colon. -/
def readPort : Part Nat := fun text => do
  let ((), text) ← expect ':' text
  readBounded 65535 text

/-- Read a zone after its percent sign, if there is one. -/
def readZone (text : List Char) : Nat × List Char :=
  let zone? := do
    let ((), rest) ← expect '%' text
    readBounded 4294967295 rest
  zone?.getD (0, text)

/-- Read a version 4 address with a port. -/
def readV4 : Part Endpoint := fun text => do
  let (ip, text) ← Ipv4.read text
  let (port, text) ← readPort text
  some (.v4 ip port, text)

/-- Read a version 6 address with a port. -/
def readV6 : Part Endpoint := fun text => do
  let ((), text) ← expect '[' text
  let (ip, text) ← Ipv6.read text
  let (zone, text) := readZone text
  let ((), text) ← expect ']' text
  let (port, text) ← readPort text
  some (.v6 ip zone port, text)

/-- Read a socket address that is a whole text. -/
def parse? (text : String) : Option Endpoint :=
  match (readV4 text.toList).or (readV6 text.toList) with
  | some (endpoint, []) => some endpoint
  | _ => none

/-- The canonical text of a socket address. -/
def render : Endpoint → String
  | .v4 ip port => ip.render ++ ":" ++ toString port
  | .v6 ip zone port =>
    let zoneText := if zone = 0 then "" else "%" ++ toString zone
    "[" ++ ip.render ++ zoneText ++ "]:" ++ toString port

/-- The port. -/
def port : Endpoint → Nat
  | .v4 _ port => port
  | .v6 _ _ port => port

/-- Whether the address is of version 4. -/
def isV4 : Endpoint → Bool
  | .v4 _ _ => true
  | .v6 _ _ _ => false

/-- Whether the address has no bit set. -/
def isUnspecified : Endpoint → Bool
  | .v4 ip _ => ip = .any
  | .v6 ip _ _ => ip.groups.all (· == 0)

/-- The same port at another version 4 address. -/
def atIpv4 (endpoint : Endpoint) (ip : Ipv4) : Endpoint := .v4 ip endpoint.port

/-- The same address with another port. -/
def withPort (endpoint : Endpoint) (port : Nat) : Endpoint :=
  match endpoint with
  | .v4 ip _ => .v4 ip port
  | .v6 ip zone _ => .v6 ip zone port

/-- Whether whoever listens at the one address listens at the other one, too. -/
def covers : Endpoint → Endpoint → Bool
  | .v4 ip _, .v4 other _ => ip = .any || ip = other
  | .v6 ip zone _, .v6 other place _ => ip.groups.all (· == 0) || ip = other && zone = place
  | .v6 ip _ _, .v4 _ _ => ip.groups.all (· == 0)
  | .v4 _ _, .v6 _ _ _ => false

/-- Whether two sockets cannot both listen, one at each of the addresses. -/
def overlaps (one other : Endpoint) : Bool := one.port = other.port && (one.covers other || other.covers one)

/-- The address text of a socket address. -/
def address (endpoint : Endpoint) : Address := ⟨endpoint.render⟩

end Endpoint

end PeerMesh.Socket

namespace PeerMesh

/-- The socket address that an address text spells, if it spells one. -/
def Address.endpoint? (address : Address) : Option Socket.Endpoint :=
  Socket.Endpoint.parse? address.text

end PeerMesh
