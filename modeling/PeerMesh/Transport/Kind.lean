/-
**The transports that a channel can be set up with.**

`TransportKind.parse` reads the name of a transport, whatever the case of its ASCII letters.
-/

import PeerMesh.Transport.Error

namespace PeerMesh

/-- A way of moving events between nodes. -/
inductive TransportKind where
  | udp
  | tcp
  | memory
  deriving DecidableEq, Repr, Inhabited

namespace TransportKind

/-- The name of a transport. -/
def word : TransportKind → String
  | .udp => "udp"
  | .tcp => "tcp"
  | .memory => "memory"

/-- The transport of a name that is written exactly so. -/
def ofWord? (name : String) : Option TransportKind :=
  if name = "udp" then some .udp
  else if name = "tcp" then some .tcp
  else if name = "memory" then some .memory
  else none

/-- The transport of a name, in any case of its letters and with a short form for memory. -/
def parse (name : String) : Except TransportError TransportKind :=
  let lowered := name.toLower
  if lowered = "mem" then .ok .memory
  else match ofWord? lowered with
    | some kind => .ok kind
    | none => .error (.invalidConfig ("unknown transport provider '" ++ lowered ++ "'"))

end TransportKind

end PeerMesh
