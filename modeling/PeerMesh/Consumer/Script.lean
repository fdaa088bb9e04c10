/-
**Listeners of known behaviour.**

An `AsyncScript` and a `SyncScript` are listeners that record every call and then do what they were
made for: panic, wait at a gate, reply with fixed bytes or with the payload, at once or after a
while. A panic ends the call only: an asynchronous call is over, a synchronous one has no reply.
-/

import PeerMesh.Duration
import PeerMesh.Event

namespace PeerMesh

/-- The name under which a listener records its calls. -/
structure Tag where
  owner : String
  number : Nat
  deriving DecidableEq, Repr, Inhabited

/-- What an asynchronous listener does when it is called. -/
inductive AsyncManner where
  | nothing
  | panic
  | waitAtGate
  deriving DecidableEq, Repr, Inhabited

/-- An asynchronous listener. -/
structure AsyncScript where
  tag : Tag
  manner : AsyncManner
  deriving DecidableEq, Repr, Inhabited

/-- What a synchronous listener does when it is called. -/
inductive SyncManner where
  | panic
  /-- Reply with the payload of the event. -/
  | echo
  /-- Reply with fixed bytes, or without payload. -/
  | reply (data : Option Bytes)
  /-- Reply with fixed bytes, or without payload, after a while. -/
  | stall (span : Duration) (data : Option Bytes)
  deriving DecidableEq, Repr, Inhabited

/-- A synchronous listener. -/
structure SyncScript where
  tag : Tag
  manner : SyncManner
  deriving DecidableEq, Repr, Inhabited

/-- How long a synchronous listener takes. -/
def SyncScript.delay (script : SyncScript) : Duration :=
  match script.manner with
  | .stall span _ => span
  | _ => ⟨0⟩

/-- What a synchronous listener replies. -/
def SyncScript.replyTo (script : SyncScript) (event : Event) : Option Bytes :=
  match script.manner with
  | .panic => none
  | .echo => some event.data
  | .reply data => data
  | .stall _ data => data

/-- How a recorded call came about. -/
inductive Mode where
  | async
  | sync
  /-- An asynchronous call that had to wait at the gate has passed it. -/
  | released
  deriving DecidableEq, Repr, Inhabited

/-- The word for a mode. -/
def Mode.word : Mode → String
  | .async => "async"
  | .sync => "sync"
  | .released => "released"

/-- A recorded call. -/
structure Heard where
  tag : Tag
  mode : Mode
  event : Event
  deriving DecidableEq, Repr, Inhabited

end PeerMesh
