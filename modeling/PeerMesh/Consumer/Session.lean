/-
**A consumer at work with listeners of known behaviour.**

`Session.work` lets the consumer's workers call listeners until nothing is left that they can do.
Calls are recorded in the order in which they begin, and again when one has passed the gate.
-/

import PeerMesh.Consumer.Basic
import PeerMesh.Consumer.Script
import PeerMesh.Pool.Gate

namespace PeerMesh

/-- A delivery to a listener of known behaviour. -/
abbrev ScriptedJob := Job (Delivery AsyncScript)

/-- A consumer at work. -/
structure Session where
  consumer : Consumer AsyncScript SyncScript
  gate : Gate ScriptedJob
  /-- The ids of the listeners in the order in which they came, if they could be registered. -/
  listeners : List (Option ListenerId)
  /-- The recorded calls, latest first. -/
  heard : List Heard

namespace Session

/-- A new consumer. -/
def new (selfId : NodeId) (domain : String) : Session := ⟨.new selfId domain, .shut, [], []⟩

/-- Change the consumer. -/
def mapConsumer (session : Session)
    (change : Consumer AsyncScript SyncScript → Consumer AsyncScript SyncScript) : Session :=
  { session with consumer := change session.consumer }

/-- Open the consumer's worker pool. -/
def start (session : Session) (workers capacity : Nat) : Except ConsumerError Unit × Session :=
  match session.consumer.start workers capacity with
  | .ok consumer => (.ok (), { session with consumer := consumer })
  | .error error => (.error error, session)

/-- The tag under which the next listener records its calls. -/
def nextTag (session : Session) : Tag := ⟨"", session.listeners.length⟩

/-- Note how the registration of a listener has gone. -/
def registered (session : Session)
    (outcome : Except ConsumerError (ListenerId × Consumer AsyncScript SyncScript)) :
    Except ConsumerError ListenerId × Session :=
  match outcome with
  | .ok (id, consumer) =>
    (.ok id, { session with consumer := consumer, listeners := session.listeners ++ [some id] })
  | .error error => (.error error, { session with listeners := session.listeners ++ [none] })

/-- Register an asynchronous listener. -/
def registerAsync (kind : String) (script : AsyncScript) (session : Session) :
    Except ConsumerError ListenerId × Session :=
  session.registered (session.consumer.registerAsync kind script)

/-- Register a synchronous listener. -/
def registerSync (kind : String) (script : SyncScript) (session : Session) :
    Except ConsumerError ListenerId × Session :=
  session.registered (session.consumer.registerSync kind script)

/-- Remove a listener; there is an answer if it could be registered. -/
def unregister (listener : Nat) (session : Session) : Option Bool × Session :=
  match session.listeners[listener]? with
  | some (some id) =>
    let (found, consumer) := session.consumer.unregister id
    (some found, { session with consumer := consumer })
  | _ => (none, session)

/-- Record a call. -/
def hear (session : Session) (tag : Tag) (mode : Mode) (event : Event) : Session :=
  { session with heard := ⟨tag, mode, event⟩ :: session.heard }

/-- A call is over. -/
def finish (session : Session) (ticket : Nat) : Session :=
  { session with consumer := session.consumer.finishDelivery ticket }

/-- A call has passed the gate, and is over. -/
def pass (session : Session) (job : ScriptedJob) : Session :=
  (session.hear job.task.listener.tag .released job.task.event).finish job.ticket

/-- A call begins. -/
def call (session : Session) (job : ScriptedJob) : Session :=
  let script := job.task.listener
  let session := session.hear script.tag .async job.task.event
  match script.manner with
  | .nothing | .panic => session.finish job.ticket
  | .waitAtGate =>
    let (passes, gate) := session.gate.arrive job
    let session := { session with gate := gate }
    if passes then session.pass job else session

/-- Workers call listeners, at most `fuel` times. -/
def workFor : (fuel : Nat) → Session → Session
  | 0, session => session
  | fuel + 1, session =>
    match session.consumer.takeDelivery? with
    | some (job, consumer) => workFor fuel ({ session with consumer := consumer }.call job)
    | none => session

/-- Workers call listeners until nothing is left that they can do. -/
def work (session : Session) : Session := workFor session.consumer.queued session

/-- Add permits to the gate. -/
def release (session : Session) (count : Nat) : Session :=
  let (passing, gate) := session.gate.release count
  passing.foldl pass { session with gate := gate }

/-- A synchronous event arrives; the answer is the reply. -/
def ask (session : Session) (event : Event) : Option Bytes × Session :=
  match session.consumer.replier? event with
  | some script => (script.replyTo event, session.hear script.tag .sync event)
  | none => (none, session)

/-- Stop the consumer while its workers wait; calls that wait at the gate are dropped. -/
def stop (session : Session) : Session :=
  { session with
    consumer := session.consumer.stop .nobody
    gate := session.gate.forget fun _ => true }

/-- The recorded calls in order, and the record emptied. -/
def takeHeard (session : Session) : List Heard × Session :=
  (session.heard.reverse, { session with heard := [] })

end Session

end PeerMesh
