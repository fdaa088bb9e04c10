/-
**A network inside one process.**

A `Network` knows who receives what is sent to an address and who has joined the broadcast group.
Receivers are named by values of a type `ρ`. An address can be marked unreachable: then nothing is
sent from it or to it, and its receiver hears no broadcast.

A `UnicastEnd` is one node's way to send to addresses and to be reached at one; a `GroupEnd` is its
way to take part in broadcasts. Addresses and groups are numbered by one counter.
-/

import PeerMesh.Event
import PeerMesh.Table
import PeerMesh.Transport.Error

namespace PeerMesh.Memory

/-- Who is reached at an address. -/
structure Endpoint (ρ : Type) where
  receiver : ρ
  isReachable : Bool
  deriving Repr, Inhabited

/-- The endpoints of one process. -/
structure Network (ρ : Type) where
  nextNumber : Nat
  unicast : Table Address (Endpoint ρ)
  groups : Table Nat ρ

namespace Network

variable {ρ : Type}

/-- A network without endpoints. -/
def empty : Network ρ := ⟨0, .empty, .empty⟩

instance : Inhabited (Network ρ) := ⟨empty⟩

/-- The next number of the counter. -/
def takeNumber (network : Network ρ) : Nat × Network ρ :=
  (network.nextNumber, { network with nextNumber := network.nextNumber + 1 })

/-- The number of addresses at which somebody is reached. -/
def endpointCount (network : Network ρ) : Nat := network.unicast.size

/-- Mark an address reachable or not; unknown addresses are left alone. -/
def setReachable (network : Network ρ) (address : Address) (value : Bool) : Network ρ :=
  { network with unicast := network.unicast.modify address fun endpoint =>
      { endpoint with isReachable := value } }

/-- Whether an address is not marked unreachable. -/
def isReachable (network : Network ρ) (address : Address) : Bool :=
  match network.unicast.get? address with
  | some endpoint => endpoint.isReachable
  | none => true

/-- Who is reached at an address. -/
def target (network : Network ρ) (address : Address) : Except TransportError ρ :=
  match network.unicast.get? address with
  | none => .error (.connectionRefused address.text)
  | some endpoint =>
    if endpoint.isReachable then .ok endpoint.receiver else .error (.unreachable address.text)

/-- The receivers at unreachable addresses. -/
def cutOff (network : Network ρ) : List ρ :=
  (network.unicast.values.filter fun endpoint => !endpoint.isReachable).map Endpoint.receiver

/-- The members of the group that hear a broadcast from an address. -/
def audience [DecidableEq ρ] (network : Network ρ) (origin : Address) : List ρ :=
  if network.isReachable origin then
    network.groups.values.filter fun receiver => receiver ∉ network.cutOff
  else []

end Network

/-- The address with a number. -/
def addressOf (number : Nat) : Address := ⟨"mem:" ++ toString number⟩

/-- The address text of a group member with a number. -/
def groupAddressOf (number : Nat) : Address := ⟨"mem-group:" ++ toString number⟩

/-- One node's way to send to addresses and to be reached at one. -/
structure UnicastEnd where
  address : Option Address
  deriving DecidableEq, Repr, Inhabited

namespace UnicastEnd

variable {ρ : Type}

/-- A node that is not reached anywhere. -/
def closed : UnicastEnd := ⟨none⟩

/-- Be reached at a new address. -/
def start (network : Network ρ) (receiver : ρ) : Address × UnicastEnd × Network ρ :=
  let (number, network) := network.takeNumber
  let address := addressOf number
  (address, ⟨some address⟩,
    { network with unicast := network.unicast.insert address ⟨receiver, true⟩ })

/-- Who hears what is sent to an address, or why it cannot be sent. -/
def route (unicast : UnicastEnd) (network : Network ρ) (address : Address) :
    Except TransportError ρ :=
  match unicast.address with
  | none => .error .notStarted
  | some own =>
    if network.isReachable own then network.target address else .error (.unreachable own.text)

/-- Be reached nowhere any more. -/
def close (unicast : UnicastEnd) (network : Network ρ) : UnicastEnd × Network ρ :=
  match unicast.address with
  | none => (unicast, network)
  | some own => (closed, { network with unicast := network.unicast.erase own })

end UnicastEnd

/-- One node's way to take part in broadcasts. -/
structure GroupEnd where
  number : Nat
  isStarted : Bool
  deriving DecidableEq, Repr, Inhabited

namespace GroupEnd

variable {ρ : Type}

/-- A new member, which has not joined yet. -/
def new (network : Network ρ) : GroupEnd × Network ρ :=
  let (number, network) := network.takeNumber
  (⟨number, false⟩, network)

/-- Join the group. -/
def start (group : GroupEnd) (network : Network ρ) (receiver : ρ) : GroupEnd × Network ρ :=
  ({ group with isStarted := true },
    { network with groups := network.groups.insert group.number receiver })

/-- Who hears a broadcast, or why it cannot be sent. -/
def audience [DecidableEq ρ] (group : GroupEnd) (network : Network ρ) (event : Event) :
    Except TransportError (List ρ) :=
  if group.isStarted then .ok (network.audience event.originAddress) else .error .notStarted

/-- The address text of the member, once it has joined. -/
def address? (group : GroupEnd) : Option Address :=
  if group.isStarted then some (groupAddressOf group.number) else none

/-- Leave the group, if it was joined. -/
def close (group : GroupEnd) (network : Network ρ) : GroupEnd × Network ρ :=
  if group.isStarted then
    ({ group with isStarted := false },
      { network with groups := network.groups.erase group.number })
  else (group, network)

end GroupEnd

end PeerMesh.Memory
