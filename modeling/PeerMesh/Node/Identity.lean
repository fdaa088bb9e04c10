/-
**Who a node is and where it is reached.**

A node is known by a `NodeId` and reached at an `Address`; both are opaque texts, compared and
ordered code point by code point. `NodeId.describe` and `Address.describe` name them with their kind.
-/

import PeerMesh.Text.Quoted

namespace PeerMesh

/-- The name by which peers know a node. -/
structure NodeId where
  name : String
  deriving DecidableEq, Repr, Inhabited

/-- A text naming the place where a node is reached, such as `mem:3` or `10.0.0.1:7947`. -/
structure Address where
  text : String
  deriving DecidableEq, Repr, Inhabited

/-- The order of node ids is the order of their names. -/
def NodeId.compare (first second : NodeId) : Ordering :=
  Ord.compare first.name second.name

/-- The order of addresses is the order of their texts. -/
def Address.compare (first second : Address) : Ordering :=
  Ord.compare first.text second.text

/-- A node id named with its kind. -/
def NodeId.describe (id : NodeId) : String := "NodeId(" ++ Quoted.quote id.name ++ ")"

/-- An address named with its kind. -/
def Address.describe (address : Address) : String :=
  "NodeAddress(" ++ Quoted.quote address.text ++ ")"

end PeerMesh
