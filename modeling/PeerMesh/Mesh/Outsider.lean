/-
**The outsider on the network.**

The outsider receives events at an address of its own, in any manner, and may take part in broadcasts.
It sends events that it makes up itself.
-/

import PeerMesh.Mesh.Operations

namespace PeerMesh

namespace Mesh

/-- Set the outsider up anew; the answer is its address. -/
def setUp (mesh : Mesh) (manner : Memory.Manner) (joinsGroup : Bool) : Address × Mesh :=
  let outsider := mesh.outsider
  let party := Party.outsider ⟨"", outsider.makings, manner⟩
  let (address, own, network) := Memory.UnicastEnd.start mesh.network party
  let (group, network) :=
    if joinsGroup then outsider.group.start network party else (outsider.group, network)
  (address, { mesh with network := network, outsider := ⟨own, group, outsider.makings + 1⟩ })

/-- The outsider sends an event to an address; the answer is whether somebody takes it. -/
def forge (mesh : Mesh) (address : Address) (event : Event) : Bool × Mesh :=
  let (result, mesh) := mesh.carry mesh.outsider.own address event
  (result.isOk, mesh)

/-- The outsider broadcasts an event; the answer is whether it could. -/
def forgeBroadcast (mesh : Mesh) (event : Event) : Bool × Mesh :=
  let (result, mesh) := mesh.spread (.memory mesh.outsider.group) event
  (result.isOk, mesh)

/-- The outsider sends an event to an address and waits for the answer. -/
def forgeRequest (mesh : Mesh) (address : Address) (event : Event) (timeout : Duration) :
    Except TransportError (Option Bytes) × Mesh :=
  let (behaviour, mesh) := mesh.requestFrom ping mesh.outsider.own address event
  let (result, delay) := behaviour.ending timeout
  (result, mesh.runUntil (mesh.time + delay))

end Mesh

end PeerMesh
