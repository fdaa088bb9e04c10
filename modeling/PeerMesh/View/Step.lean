/-
**Steps on a view, as data.**

A `ViewStep` is an operation on a view, a question about it, or a change of the clock by which it is
kept; a `ViewAnswer` is what it answers. `ViewStep.words` names the steps. `Timepiece.reading` gives
the clock reading at a moment of the running time.
-/

import PeerMesh.View.Basic

namespace PeerMesh

/-- The clock by which a view is kept. -/
inductive Timepiece where
  /-- A clock set by hand. -/
  | manual (reading : Reading)
  /-- A clock that counts the milliseconds since its start. -/
  | running (start : Nat)
  deriving DecidableEq, Repr, Inhabited

namespace Timepiece

/-- What the clock shows at a moment of the running time. -/
def reading : Timepiece → (time : Nat) → Reading
  | .manual reading, _ => reading
  | .running start, time => UInt64.ofNat (time - start)

/-- Move a clock set by hand. -/
def advance (span : Duration) : Timepiece → Timepiece
  | .manual reading => .manual (reading.advance span)
  | .running start => .running start

/-- Set a clock set by hand. -/
def set (value : Reading) : Timepiece → Timepiece
  | .manual _ => .manual value
  | .running start => .running start

end Timepiece

/-- One step on a view. -/
inductive ViewStep where
  | addHost (address : Address) (id : NodeId)
  | heartbeat (address : Address) (id : NodeId)
  | observe (address : Address) (id : NodeId) (version : UInt64)
  | removeDead (id : NodeId)
  | removeLeaving (id : NodeId)
  | clear
  | cleanup (grace : Duration)
  | shutdown
  | suspect (id : NodeId)
  | touch (id : NodeId)
  | checkState (id : NodeId) (timeout : Duration)
  | observeVersion (id : NodeId) (version : UInt64)
  | get (id : NodeId)
  | addressOf (id : NodeId)
  | isLive (id : NodeId)
  | isDead (id : NodeId)
  | normal
  | staleness
  | advance (span : Duration)
  | set (reading : Reading)
  deriving DecidableEq, Repr, Inhabited

/-- What steps on a view are made of. -/
structure ViewStepParts where
  id : NodeId
  address : Address
  version : UInt64
  span : Duration
  reading : Reading
  deriving Inhabited

/-- The steps by their words, each made of some of the parts. -/
def ViewStep.words (parts : ViewStepParts) : List (String × ViewStep) := [
  ("add_host", .addHost parts.address parts.id), ("heartbeat", .heartbeat parts.address parts.id),
  ("observe", .observe parts.address parts.id parts.version), ("dead", .removeDead parts.id),
  ("leave", .removeLeaving parts.id), ("clear", .clear), ("cleanup", .cleanup parts.span),
  ("shutdown", .shutdown), ("suspect", .suspect parts.id), ("touch", .touch parts.id),
  ("check", .checkState parts.id parts.span),
  ("observe_version", .observeVersion parts.id parts.version), ("get", .get parts.id),
  ("address_of", .addressOf parts.id), ("is_live", .isLive parts.id), ("is_dead", .isDead parts.id),
  ("normal", .normal), ("staleness", .staleness), ("advance", .advance parts.span),
  ("set", .set parts.reading)]

/-- What a step on a view answers. -/
inductive ViewAnswer where
  | nothing
  | refused (error : ViewError)
  | flag (value : Bool)
  | count (value : Nat)
  | health (value : Option Health)
  | news (value : Option Bool)
  | record (value : Option Record)
  | address (value : Option Address)
  | ids (value : List NodeId)
  /-- Groups of peers last heard of at the same reading. -/
  | groups (value : List (Reading × List NodeId))
  deriving DecidableEq, Repr, Inhabited

/-- The answer of an operation that may be refused. -/
def ViewAnswer.ofExcept : Except ViewError Bool → ViewAnswer
  | .ok value => .flag value
  | .error error => .refused error

/-- Put a record into the latest group if it has the same reading, else into a new one. -/
def addToGroups (groups : List (Reading × List NodeId)) (record : Record) :
    List (Reading × List NodeId) :=
  match groups with
  | (reading, known) :: earlier =>
    if reading = record.lastTouch then (reading, known ++ [record.id]) :: earlier
    else (record.lastTouch, [record.id]) :: groups
  | [] => [(record.lastTouch, [record.id])]

/-- Records in order, grouped by when they were last heard of. -/
def groupsOf (records : List Record) : List (Reading × List NodeId) :=
  (records.foldl addToGroups []).reverse

/-- A view and the clock by which it is kept. -/
structure Kept where
  view : View
  clock : Timepiece

namespace Kept

/-- An answer without notices. -/
def quietly (kept : Kept) (answer : ViewAnswer) : ViewAnswer × Kept × List Notice :=
  (answer, kept, [])

/-- The outcome of an operation, its answer put in one form. -/
def after {α : Type} (kept : Kept) (outcome : Outcome α) (answer : α → ViewAnswer) :
    ViewAnswer × Kept × List Notice :=
  (answer outcome.answer, { kept with view := outcome.view }, outcome.notices)

/-- Perform one step at a moment of the running time. -/
def perform (kept : Kept) (time : Nat) : ViewStep → ViewAnswer × Kept × List Notice :=
  let now := kept.clock.reading time
  fun
  | .addHost address id => kept.after (kept.view.addHost now address id) .ofExcept
  | .heartbeat address id => kept.after (kept.view.heartbeat now address id) .ofExcept
  | .observe address id version =>
    kept.after (kept.view.observe now address id version) .ofExcept
  | .removeDead id => kept.after (kept.view.removeDead now id) .flag
  | .removeLeaving id => kept.after (kept.view.removeLeaving id) .flag
  | .clear => kept.after kept.view.clear .count
  | .cleanup grace => kept.after (kept.view.cleanup now grace) .count
  | .shutdown => kept.after kept.view.shutdown fun _ => .nothing
  | .suspect id => kept.after (kept.view.suspect id) .flag
  | .touch id => kept.after (kept.view.touch now id) .flag
  | .checkState id timeout => kept.after (kept.view.checkState now id timeout) .health
  | .observeVersion id version => kept.after (kept.view.observeVersion id version) .news
  | .get id => kept.quietly (.record (kept.view.get? id))
  | .addressOf id => kept.quietly (.address (kept.view.addressOf? id))
  | .isLive id => kept.quietly (.flag (kept.view.isLive id))
  | .isDead id => kept.quietly (.flag (kept.view.isDead id))
  | .normal => kept.quietly (.ids (kept.view.normalNodes.map Record.id))
  | .staleness => kept.quietly (.groups (groupsOf kept.view.byStaleness))
  | .advance span => (.nothing, { kept with clock := kept.clock.advance span }, [])
  | .set reading => (.nothing, { kept with clock := kept.clock.set reading }, [])

end Kept

end PeerMesh
