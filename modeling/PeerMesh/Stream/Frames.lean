/-
**Frames on a connection.**

What arrives on a connection before its end comes in pieces, which may be cut anywhere. `takeExactly`
takes a number of bytes off them, and `Frame.read` the first frame. A stream that ends before the
length of a frame is complete has ended cleanly; one that ends within a payload has not.
-/

import PeerMesh.Transport.Error
import PeerMesh.Wire.Payload

namespace PeerMesh

/-- What is at the front of a stream. -/
inductive StreamHead where
  /-- Nothing that could be a frame: the stream is over. -/
  | finished
  /-- A frame, and the pieces that follow it. -/
  | frame (frame : Frame) (rest : List Bytes)
  /-- Something that is not a frame. -/
  | broken (error : TransportError)
  deriving DecidableEq, Repr, Inhabited

/-- Take the given number of bytes off what arrives, piece after piece. What is left of the last piece
needed comes first afterwards. There is nothing to take if the pieces end too early. -/
def takeExactly : (count : Nat) → List Bytes → Option (Bytes × List Bytes)
  | 0, [] => some ([], [])
  | _ + 1, [] => none
  | count, piece :: pieces =>
    if count ≤ piece.length then some (piece.take count, piece.drop count :: pieces)
    else (takeExactly (count - piece.length) pieces).map fun (later, rest) => (piece ++ later, rest)

/-- The frame that a payload holds. Bytes after it are passed over. -/
def Frame.ofPayload (payload : Bytes) : Except TransportError Frame :=
  match Frame.codec.decode maxFrameSize payload with
  | .ok frame => .ok frame
  | .error error => .error (.ofDecode error)

/-- Take the first frame off a stream. -/
def Frame.read (pieces : List Bytes) : StreamHead :=
  match takeExactly 4 pieces with
  | none => .finished
  | some (header, body) =>
    let length := (Frame.announcedLength header).getD 0
    if maxFrameSize < length then
      .broken (.decode ("frame too large: " ++ toString length ++ " bytes"))
    else match takeExactly length body with
      | none => .broken (.ofIo ⟨.unexpectedEof, "early eof"⟩)
      | some (payload, rest) => match Frame.ofPayload payload with
        | .ok frame => .frame frame rest
        | .error error => .broken error

end PeerMesh
