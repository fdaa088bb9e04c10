/-
**Answers to synchronous sends.**

Every target of a send gets a `Response`, also when it could not be reached. `Response.ofResult`
sorts a failure by whether it says something about the peer: a reachability failure makes the target
suspect, any other failure is reported with the answer.
-/

import PeerMesh.Bytes
import PeerMesh.Node.Identity
import PeerMesh.Transport.Error

namespace PeerMesh

/-- What a target answered, or why it did not. -/
structure Response where
  source : Address
  data : Option Bytes
  isSuspect : Bool
  error : Option TransportError
  deriving DecidableEq, Repr, Inhabited

namespace Response

/-- The target answered. -/
def ok (source : Address) (data : Option Bytes) : Response := ⟨source, data, false, none⟩

/-- The target may be dead. -/
def suspect (source : Address) (error : TransportError) : Response :=
  ⟨source, none, true, some error⟩

/-- The exchange failed, but not because the target is dead. -/
def failed (source : Address) (error : TransportError) : Response :=
  ⟨source, none, false, some error⟩

/-- The response for the outcome of a send. -/
def ofResult (source : Address) : Except TransportError (Option Bytes) → Response
  | .ok data => ok source data
  | .error error => if error.isReachability then suspect source error else failed source error

/-- Whether the target answered and nothing went wrong. -/
def isOk (response : Response) : Bool := !response.isSuspect && response.error.isNone

/-- The word for the status. -/
def statusWord (response : Response) : String := if response.isSuspect then "suspect" else "ok"

end Response

/-- Responses in the order of their targets. -/
abbrev Responses := List Response

namespace Responses

/-- The first response of a source. -/
def fromSource? (responses : Responses) (source : Address) : Option Response :=
  responses.find? (·.source = source)

/-- The responses of targets that answered. -/
def successes (responses : Responses) : Responses := responses.filter Response.isOk

/-- The responses of targets that may be dead. -/
def suspects (responses : Responses) : Responses := responses.filter Response.isSuspect

end Responses

end PeerMesh
