/-
**Why a transport could not do what was asked.**

Three of the causes say something about whether the peer is alive
(`TransportError.isReachability`): no answer in time, a refused connection, and an address that
cannot be reached. Failures of the operating system are sorted into these causes by
`TransportError.ofIo`, and payloads that cannot be read by `TransportError.ofDecode`.
-/

import PeerMesh.Wire.Error

namespace PeerMesh

/-- Why a transport could not do what was asked. -/
inductive TransportError where
  /-- No reply in time. -/
  | timeout
  /-- The target refused the connection. -/
  | connectionRefused (detail : String)
  /-- The target could not be reached or dropped the connection. -/
  | unreachable (detail : String)
  /-- The payload cannot be sent. -/
  | encode (detail : String)
  /-- The answer cannot be read. -/
  | decode (detail : String)
  /-- Any other failure of the operating system. -/
  | io (detail : String)
  /-- The transport does not understand the address. -/
  | invalidAddress (detail : String)
  /-- The transport is not set up correctly. -/
  | invalidConfig (detail : String)
  /-- The transport has not been started. -/
  | notStarted
  /-- The transport is closed. -/
  | closed
  deriving DecidableEq, Repr, Inhabited

/-- The kinds of failure of the operating system that transports tell apart. -/
inductive IoKind where
  | connectionRefused
  | timedOut
  | connectionReset
  | connectionAborted
  | notConnected
  | addressNotAvailable
  | brokenPipe
  | unexpectedEof
  /-- Every other kind. -/
  | other
  deriving DecidableEq, Repr, Inhabited

/-- A failure of the operating system. -/
structure IoFailure where
  kind : IoKind
  text : String
  deriving DecidableEq, Repr, Inhabited

namespace TransportError

/-- The word for the kind of error. -/
def name : TransportError → String
  | .timeout => "Timeout"
  | .connectionRefused _ => "ConnectionRefused"
  | .unreachable _ => "Unreachable"
  | .encode _ => "Encode"
  | .decode _ => "Decode"
  | .io _ => "Io"
  | .invalidAddress _ => "InvalidAddress"
  | .invalidConfig _ => "InvalidConfig"
  | .notStarted => "NotStarted"
  | .closed => "Closed"

/-- The error of a kind, with a detail if errors of this kind have one. -/
def ofName? (name : String) (detail : String) : Option TransportError :=
  [.timeout, .connectionRefused detail, .unreachable detail, .encode detail, .decode detail,
    .io detail, .invalidAddress detail, .invalidConfig detail, .notStarted, .closed].find?
      fun error => error.name == name

/-- The text shown for an error. -/
def message : TransportError → String
  | .timeout => "Operation timed out"
  | .connectionRefused detail => "Connection refused: " ++ detail
  | .unreachable detail => "Unreachable: " ++ detail
  | .encode detail => "Encode error: " ++ detail
  | .decode detail => "Decode error: " ++ detail
  | .io detail => "IO error: " ++ detail
  | .invalidAddress detail => "Invalid address: " ++ detail
  | .invalidConfig detail => "Invalid config: " ++ detail
  | .notStarted => "Transport not started"
  | .closed => "Transport closed"

/-- Whether the failure says something about the peer being alive. -/
def isReachability : TransportError → Bool
  | .timeout | .connectionRefused _ | .unreachable _ => true
  | _ => false

/-- The cause behind a failure of the operating system. -/
def ofIo (failure : IoFailure) : TransportError :=
  match failure.kind with
  | .connectionRefused => .connectionRefused failure.text
  | .timedOut => .timeout
  | .connectionReset | .connectionAborted | .notConnected | .addressNotAvailable | .brokenPipe
  | .unexpectedEof => .unreachable failure.text
  | .other => .io failure.text

/-- An answer that cannot be read. -/
def ofDecode (error : Wire.DecodeError) : TransportError := .decode error.message

end TransportError

end PeerMesh
