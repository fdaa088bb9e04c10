/-
**Events and the domains they are meant for.**

An `Event` is what transports move between nodes. Its `Scope` says which domains should see it
(`Scope.admits`).
-/

import PeerMesh.Bytes
import PeerMesh.Node.Identity

namespace PeerMesh

/-- The domains an event is addressed to. -/
inductive Scope where
  /-- Addressed to one node, whatever its domain. -/
  | unscoped
  /-- Addressed to every domain. -/
  | all
  /-- Addressed to one domain. -/
  | named (domain : String)
  deriving DecidableEq, Repr, Inhabited

/-- Whether a node of the domain should see an event of this scope. -/
def Scope.admits : Scope → String → Bool
  | .unscoped, _ => true
  | .all, _ => true
  | .named addressed, domain => addressed == domain

/-- A typed payload together with the node it comes from. -/
structure Event where
  scope : Scope
  kind : String
  data : Bytes
  origin : NodeId
  originAddress : Address
  deriving DecidableEq, Repr, Inhabited

end PeerMesh
