/-
**Control messages that arrive.**

`Watched.receive` does at once what an arriving control message does to the view, and says what else
the message calls for: an answer, a question to somebody else, or an event for local listeners.
Messages that cannot be read change nothing and call for nothing.
-/

import PeerMesh.Detector.Gossip

namespace PeerMesh

/-- What a control message calls for beyond the view. -/
inductive FollowUp where
  | nothing
  /-- An answer is due, if the sender waits for one. -/
  | answer (reply : SyncReply)
  /-- The node at this address is to be pinged, and the answer is whether it is there. -/
  | inquire (address : Address)
  /-- An event is to be handed to the local listeners. -/
  | deliver (event : Event)
  deriving Repr, Inhabited

/-- A request arrives. A ping counts as a heartbeat of its sender; everybody can be reached by
itself. -/
def Watched.receiveRequest (watched : Watched) (time : Nat) (event : Event) :
    SyncRequest → FollowUp × Watched
  | .ping =>
    let heard := watched.run time fun view now =>
      view.heartbeat now event.originAddress event.origin
    (.answer .pong, heard.2)
  | .healthCheck target address =>
    if target = watched.view.selfId then (.answer (.reachable true), watched)
    else (.inquire address, watched)

/-- A control message arrives. -/
def Watched.receive (watched : Watched) (time : Nat) (event : Event) : FollowUp × Watched :=
  match ControlMessage.codec.decode maxFrameSize event.data with
  | .error _ => (.nothing, watched)
  | .ok (.notification digest) | .ok (.gossip digest) =>
    (.nothing, watched.merge time event.originAddress event.origin digest)
  | .ok (.request request) => watched.receiveRequest time event request
  | .ok (.event kind data) =>
    (.deliver ⟨.unscoped, kind, data, event.origin, event.originAddress⟩, watched)

/-- An answer as it is sent. -/
def SyncReply.bytes (reply : SyncReply) : Bytes := SyncReply.codec.write reply

end PeerMesh
