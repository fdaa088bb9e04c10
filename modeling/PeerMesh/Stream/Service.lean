/-
**Serving a connection.**

`serve` handles the frames that arrive on a connection one after another: the event of a request goes
to the receiver, whose answer is sent back in a reply of the same number if one is expected; replies
are passed over. A stream that is broken ends the service with an error.
-/

import PeerMesh.Socket.Host
import PeerMesh.Stream.Frames

namespace PeerMesh

/-- What happened on a served connection. -/
structure Transcript where
  /-- The events that were handed to the receiver, each with whether it had to answer, in order. -/
  handed : List (Bool × Event)
  /-- What was sent back. -/
  sentBack : Bytes
  /-- How the service ended. -/
  ending : Except TransportError Unit

namespace Transcript

/-- Nothing happened before the end. -/
def ended (ending : Except TransportError Unit) : Transcript := ⟨[], [], ending⟩

/-- An event was handed to the receiver and something was sent back before everything else. -/
def preceded (transcript : Transcript) (isSync : Bool) (event : Event) (reply : Bytes) :
    Transcript :=
  { transcript with
    handed := (isSync, event) :: transcript.handed
    sentBack := reply ++ transcript.sentBack }

end Transcript

/-- What a receiver answers to an event. It may depend on the events that it was handed earlier on the
connection. -/
abbrev Answering := (earlier : List (Bool × Event)) → Event → Option Bytes

/-- Serve a connection on which a stream arrives, at most `fuel` frames of it, after `earlier` events
were handed to the receiver. -/
def serveWithin (answer : Answering) :
    (fuel : Nat) → (earlier : List (Bool × Event)) → List Bytes → Transcript
  | 0, _, _ => .ended (.ok ())
  | fuel + 1, earlier, pieces =>
    match Frame.read pieces with
    | .finished => .ended (.ok ())
    | .broken error => .ended (.error error)
    | .frame (.reply _ _) rest => serveWithin answer fuel earlier rest
    | .frame (.request id expectsReply event) rest =>
      let reply := if expectsReply then (Frame.reply id (answer earlier event)).message else []
      (serveWithin answer fuel (earlier ++ [(expectsReply, event)]) rest).preceded expectsReply event
        reply

/-- Serve a connection on which a stream arrives piece by piece. -/
def serve (answer : Answering) (pieces : List Bytes) : Transcript :=
  serveWithin answer (pieces.flatten.length + 1) [] pieces

/-- Serve connections that are made from a machine one after another. -/
def serveAll (host : Socket.Host) (answer : Event → Option Bytes) (streams : List Bytes) :
    Except IoFailure (List Transcript) :=
  streams.mapM fun stream => do
    host.connect (some ())
    return serve (fun _ => answer) [stream]

end PeerMesh
