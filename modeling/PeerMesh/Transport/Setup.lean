/-
**Which transports the settings ask for.**

Not every transport can do both jobs: there is no broadcasting over connections and no unicasting by
datagrams to a group, and the memory transport needs a network inside the process.
-/

import PeerMesh.Settings.Basic

namespace PeerMesh.Settings

/-- The memory transport, if there is a network for it. -/
def memoryTransport (hasNetwork : Bool) : Except TransportError TransportKind :=
  if hasNetwork then .ok .memory
  else .error (.invalidConfig "memory provider requires a MemoryNetwork")

/-- The transport for broadcasts. -/
def broadcastTransport (settings : Settings) (hasNetwork : Bool) :
    Except TransportError TransportKind :=
  match settings.broadcastProvider with
  | .udp => .ok .udp
  | .memory => memoryTransport hasNetwork
  | .tcp => .error (.invalidConfig "tcp cannot be used as a broadcast provider")

/-- The transport for sending to one address. -/
def unicastTransport (settings : Settings) (hasNetwork : Bool) :
    Except TransportError TransportKind :=
  match settings.unicastProvider with
  | .tcp => .ok .tcp
  | .memory => memoryTransport hasNetwork
  | .udp => .error (.invalidConfig "udp cannot be used as a unicast provider")

end PeerMesh.Settings
