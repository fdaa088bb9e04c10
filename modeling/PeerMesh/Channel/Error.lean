/-
**Why a channel refuses or fails.**

Either the channel is in the wrong phase, or one of its parts has failed. The error of a part is
named after the part, and its text follows a text of the part's own.
-/

import PeerMesh.Consumer.Basic
import PeerMesh.Settings.Validity
import PeerMesh.Transport.Error
import PeerMesh.View.Basic

namespace PeerMesh

/-- Why a channel refuses or fails. -/
inductive ChannelError where
  /-- The channel was not started yet. -/
  | notStarted
  /-- The channel is closed. -/
  | closed
  | settings (error : SettingsError)
  | view (error : ViewError)
  | consumer (error : ConsumerError)
  | transport (error : TransportError)
  /-- The queue for events that go out has refused one. -/
  | pool (error : PoolError)
  deriving DecidableEq, Repr, Inhabited

namespace ChannelError

/-- The word for the kind of error. -/
def name : ChannelError → String
  | .notStarted => "NotStarted"
  | .closed => "Closed"
  | .settings error => "Config/" ++ error.name
  | .view error => "View/" ++ error.name
  | .consumer error => "Consumer/" ++ error.name
  | .transport error => "Transport/" ++ error.name
  | .pool error => "Pool/" ++ error.name

/-- The text shown for an error, if it is fixed. -/
def message? : ChannelError → Option String
  | .notStarted => some "channel is not started"
  | .closed => some "channel is closed"
  | .settings error => error.message?
  | .view error => some ("view error: " ++ error.message)
  | .consumer error => some ("consumer error: " ++ error.message)
  | .transport error => some ("transport error: " ++ error.message)
  | .pool error => some ("dispatch rejected: " ++ error.message)

end ChannelError

end PeerMesh
