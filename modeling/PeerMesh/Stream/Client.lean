/-
**Exchanges over connections.**

A `Client` sends events to addresses, each over a connection of its own. `Client.exchange` makes one
exchange with whoever answers at the endpoint of an address. Exchanges are numbered. A client that
was closed makes no exchange any more with those it has had to do with, even after a new start.
-/

import PeerMesh.Stream.Frames
import PeerMesh.Text.Quoted
import PeerMesh.Transport.Response
import PeerMesh.Socket.Host

namespace PeerMesh

open Socket (Endpoint)

/-- What comes back over a connection before its end. -/
inductive FarSide where
  /-- These bytes. -/
  | sends (stream : Bytes)
  /-- Nothing, and no end either. -/
  | keepsSilent
  deriving DecidableEq, Repr, Inhabited

/-- One node's way to send over connections. -/
structure Client where
  /-- Where it is reached itself, while it is started. -/
  address : Option Address
  nextId : UInt64
  /-- Whom it has had to do with since it was last closed. -/
  partners : List Endpoint
  /-- Whom it makes no exchange with any more. -/
  lost : List Endpoint
  deriving DecidableEq, Repr, Inhabited

/-- How an exchange ended, and the message that reached the far side, if one did. -/
structure ExchangeEnd where
  result : Except TransportError (Option Bytes)
  sent : Option Bytes

namespace Client

/-- A client that was not started. -/
def new : Client := ⟨none, 1, [], []⟩

/-- Where a client can be reached that is bound to an endpoint: where it is told to say it is, or
else at the endpoint, where an endpoint of all interfaces stands for this machine. -/
def advertised (bound : Endpoint) (told : Option Endpoint) : Endpoint :=
  told.getD (if bound.isUnspecified then bound.atIpv4 .loopback else bound)

/-- Start a client that is reached at an address. -/
def start (client : Client) (address : Address) : Client :=
  { client with address := some address }

/-- Close a client. -/
def close (client : Client) : Client :=
  match client.address with
  | none => client
  | some _ =>
    { client with address := none, partners := [], lost := client.partners ++ client.lost }

/-- The answer to the request of a number in what comes back. -/
def answerIn (address : Address) (id : UInt64) : FarSide → Except TransportError (Option Bytes)
  | .keepsSilent => .error .timeout
  | .sends stream =>
    match Frame.read [stream] with
    | .finished => .error (.unreachable (address.text ++ " closed before replying"))
    | .broken error => .error error
    | .frame frame _ =>
      let unexpected := TransportError.decode ("unexpected frame in reply to " ++
        toString id.toNat ++ ": " ++ Quoted.quote frame.kindWord)
      match frame with
      | .reply replyId data => if replyId = id then .ok data else .error unexpected
      | .request _ _ _ => .error unexpected

/-- Make one exchange. `resolve` says at which endpoint an address is, and `connect` who is there. The permit of the
endpoint that is held meanwhile matters to exchanges that run side by side only (`Permits`). -/
def exchange (client : Client) (resolve : Address → Option Endpoint)
    (connect : Endpoint → Except IoFailure FarSide) (address : Address) (event : Event)
    (expectsReply : Bool) : ExchangeEnd × Client :=
  match client.address, resolve address with
  | none, _ => (⟨.error .notStarted, none⟩, client)
  | some _, none => (⟨.error (.invalidAddress address.text), none⟩, client)
  | some _, some endpoint =>
    if endpoint ∈ client.lost then (⟨.error .closed, none⟩, client)
    else
      let id := client.nextId
      let numbered := { client with nextId := id + 1, partners := endpoint :: client.partners }
      match connect endpoint with
      | .error failure => (⟨.error (.ofIo failure), none⟩, numbered)
      | .ok farSide =>
        let sent := (Frame.request id expectsReply event).message
        let result := if expectsReply then answerIn address id farSide else .ok none
        (⟨result, some sent⟩, numbered)

end Client

end PeerMesh
