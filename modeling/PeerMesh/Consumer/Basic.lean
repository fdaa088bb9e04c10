/-
**Listeners for inbound events, and their delivery.**

A `Consumer` keeps, for each event type, any number of asynchronous listeners and at most one
synchronous listener. An event is for this node if it comes from another node and its scope admits
the node's domain (`Consumer.wants`). Such an event is handed to each asynchronous listener of its
type by a job of the consumer's worker pool (`Consumer.accept`); `Consumer.replier?` is the listener
that answers it synchronously.

Listeners are registered under an id of their own and looked up by it when they are removed. Ids are
numbered in 64 bits, and come again after all of these. The type `α` stands for asynchronous listeners and
`β` for synchronous ones.

A consumer that is stopped has no pool any more. Workers of the pool that are in the middle of a turn go on
with what is queued until they have to wait (`Consumer.remnant`).
-/

import PeerMesh.Event
import PeerMesh.Table
import PeerMesh.Pool.Basic

namespace PeerMesh

/-- Why a consumer refuses an operation. -/
inductive ConsumerError where
  /-- The event type has a synchronous listener already. -/
  | listenerAlreadyRegistered (kind : String)
  /-- The consumer is stopped. -/
  | stopped
  deriving DecidableEq, Repr, Inhabited

namespace ConsumerError

/-- The word for the kind of error. -/
def name : ConsumerError → String
  | .listenerAlreadyRegistered _ => "ListenerAlreadyRegistered"
  | .stopped => "Stopped"

/-- The text shown for an error. -/
def message : ConsumerError → String
  | .listenerAlreadyRegistered kind =>
    "a sync listener is already registered for '" ++ kind ++ "'"
  | .stopped => "consumer is stopped"

end ConsumerError

/-- The id under which a listener is registered. -/
abbrev ListenerId := UInt64

/-- A listener id named with its kind. -/
def ListenerId.describe (id : ListenerId) : String := "ListenerId(" ++ toString id ++ ")"

/-- Where a registered listener is kept. -/
inductive Registration where
  | async (kind : String)
  | sync (kind : String)
  deriving DecidableEq, Repr, Inhabited

/-- One delivery: a listener is to be called with an event. -/
structure Delivery (α : Type) where
  id : ListenerId
  listener : α
  event : Event

/-- The listeners of one node. -/
structure Consumer (α β : Type) where
  selfId : NodeId
  domain : String
  asyncListeners : Table String (List (ListenerId × α))
  syncListeners : Table String (ListenerId × β)
  index : Table ListenerId Registration
  /-- How many ids were handed out. -/
  handedOut : Nat
  pool : Option (Pool (Delivery α))
  /-- The pool that was shut down, if any worker was left of it then. -/
  remnant : Option (Pool (Delivery α))
  isStopped : Bool
  /-- Deliveries that were queued. -/
  delivered : Nat
  /-- Deliveries that the queue had no room for. -/
  dropped : Nat

namespace Consumer

variable {α β : Type}

/-- A consumer without listeners. -/
def new (selfId : NodeId) (domain : String) : Consumer α β where
  selfId := selfId
  domain := domain
  asyncListeners := .empty
  syncListeners := .empty
  index := .empty
  handedOut := 0
  pool := none
  remnant := none
  isStopped := false
  delivered := 0
  dropped := 0

instance : Inhabited (Consumer α β) := ⟨new default default⟩

/-- The id that is handed out next: the number of the registration, in 64 bits. -/
def nextId (consumer : Consumer α β) : ListenerId := UInt64.ofNat (consumer.handedOut + 1)

/-- The pool whose workers call listeners: the open one, or what is left of it. -/
def workforce? (consumer : Consumer α β) : Option (Pool (Delivery α)) := consumer.pool.or consumer.remnant

/-- Whether a pool of this capacity would have to be opened and cannot be. -/
def overflows (consumer : Consumer α β) (capacity : Nat) : Bool :=
  !consumer.isStopped && consumer.pool.isNone && Pool.maxCapacity < max capacity 1

/-- Open the worker pool, if it is not open. -/
def start (consumer : Consumer α β) (workers capacity : Nat) :
    Except ConsumerError (Consumer α β) :=
  if consumer.isStopped then .error .stopped
  else match consumer.pool with
    | some _ => .ok consumer
    | none => .ok { consumer with pool := Pool.open? workers capacity }

/-- What is left of the pool when it is shut down. -/
def remnantAfter (consumer : Consumer α β) (turns : Turns) : Option (Pool (Delivery α)) :=
  match consumer.pool with
  | some pool => pool.remnant? turns
  | none => consumer.remnant

/-- Stop for good: the pool is shut down and given up. -/
def stop (consumer : Consumer α β) (turns : Turns) : Consumer α β :=
  { consumer with isStopped := true, pool := none, remnant := consumer.remnantAfter turns }

/-- Move to another domain. -/
def changeDomain (consumer : Consumer α β) (domain : String) : Consumer α β :=
  { consumer with domain := domain }

/-- The asynchronous listeners of an event type. -/
def asyncOf (consumer : Consumer α β) (kind : String) : List (ListenerId × α) :=
  (consumer.asyncListeners.get? kind).getD []

/-- Register an asynchronous listener. -/
def registerAsync (consumer : Consumer α β) (kind : String) (listener : α) :
    Except ConsumerError (ListenerId × Consumer α β) :=
  if consumer.isStopped then .error .stopped
  else
    let id := consumer.nextId
    .ok (id, { consumer with
      asyncListeners :=
        consumer.asyncListeners.insert kind (consumer.asyncOf kind ++ [(id, listener)])
      index := consumer.index.insert id (.async kind)
      handedOut := consumer.handedOut + 1 })

/-- Register the synchronous listener of an event type. -/
def registerSync (consumer : Consumer α β) (kind : String) (listener : β) :
    Except ConsumerError (ListenerId × Consumer α β) :=
  if consumer.isStopped then .error .stopped
  else if consumer.syncListeners.contains kind then .error (.listenerAlreadyRegistered kind)
  else
    let id := consumer.nextId
    .ok (id, { consumer with
      syncListeners := consumer.syncListeners.insert kind (id, listener)
      index := consumer.index.insert id (.sync kind)
      handedOut := consumer.handedOut + 1 })

/-- The table of asynchronous listeners without one of them. -/
def withoutAsync (consumer : Consumer α β) (kind : String) (id : ListenerId) :
    Table String (List (ListenerId × α)) :=
  let kept := (consumer.asyncOf kind).filter (·.1 ≠ id)
  if kept.isEmpty then consumer.asyncListeners.erase kind
  else consumer.asyncListeners.insert kind kept

/-- Remove a listener; the answer is whether it was registered. -/
def unregister (consumer : Consumer α β) (id : ListenerId) : Bool × Consumer α β :=
  let without := { consumer with index := consumer.index.erase id }
  match consumer.index.get? id with
  | some (.async kind) => (true, { without with asyncListeners := consumer.withoutAsync kind id })
  | some (.sync kind) =>
    (true, { without with syncListeners := consumer.syncListeners.erase kind })
  | none => (false, consumer)

/-- The number of listeners of an event type. -/
def listenerCount (consumer : Consumer α β) (kind : String) : Nat :=
  (consumer.asyncOf kind).length + if consumer.syncListeners.contains kind then 1 else 0

/-- Whether an event is for this node. -/
def wants (consumer : Consumer α β) (event : Event) : Bool :=
  event.origin ≠ consumer.selfId && event.scope.admits consumer.domain

/-- Queue one delivery, or count it as dropped. -/
def deliver (event : Event) (consumer : Consumer α β) (entry : ListenerId × α) : Consumer α β :=
  match consumer.pool with
  | none => consumer
  | some pool =>
    match pool.submit ⟨entry.1, entry.2, event⟩ with
    | .ok pool => { consumer with pool := some pool, delivered := consumer.delivered + 1 }
    | .error _ => { consumer with dropped := consumer.dropped + 1 }

/-- An asynchronous event arrives. -/
def accept (consumer : Consumer α β) (event : Event) : Consumer α β :=
  if consumer.wants event then (consumer.asyncOf event.kind).foldl (deliver event) consumer
  else consumer

/-- The listener that answers a synchronous event, if there is one. -/
def replier? (consumer : Consumer α β) (event : Event) : Option β :=
  if consumer.wants event then (consumer.syncListeners.get? event.kind).map Prod.snd else none

/-- A worker takes the next delivery. -/
def takeDelivery? (consumer : Consumer α β) : Option (Job (Delivery α) × Consumer α β) :=
  match consumer.pool with
  | some pool => pool.take?.map fun (job, pool) => (job, { consumer with pool := some pool })
  | none => consumer.remnant.bind fun pool => pool.take?.map fun (job, pool) =>
      (job, { consumer with remnant := some pool })

/-- A delivery is over. -/
def finishDelivery (consumer : Consumer α β) (ticket : Nat) : Consumer α β :=
  { consumer with
    pool := consumer.pool.map (·.finish ticket)
    remnant := consumer.remnant.map (·.finish ticket) }

/-- The worker at the delivery of a ticket has to wait, or an idle one; if the consumer is stopped it is gone then. -/
def waitDelivery (consumer : Consumer α β) (ticket? : Option Nat) : Consumer α β :=
  { consumer with remnant := consumer.remnant.map (·.wait ticket?) }

/-- The number of queued deliveries. -/
def queued (consumer : Consumer α β) : Nat := (consumer.workforce?.map (·.queue.length)).getD 0

end Consumer

end PeerMesh
