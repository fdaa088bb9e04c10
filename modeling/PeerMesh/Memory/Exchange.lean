/-
**Named endpoints on one network.**

A `Bench` holds receivers, unicast ends and group ends under names of their own, together with the
network that joins them and the running time. Receivers record what reaches them and answer
synchronous events in a fixed manner. Setting up a name again makes a new receiver or end of it;
what the old one has registered with the network stays.
-/

import PeerMesh.Memory.Network
import PeerMesh.Transport.Fanout

namespace PeerMesh.Memory

/-- How a receiver answers synchronous events. -/
inductive Manner where
  /-- With the payload, but silent events without. -/
  | echo
  /-- Without payload. -/
  | noData
  /-- With fixed bytes, or without payload. -/
  | reply (data : Option Bytes)
  /-- With the payload, after a while. -/
  | stall (span : Duration)
  deriving DecidableEq, Repr, Inhabited

/-- The event type that an echo answers without payload. -/
def silentKind : String := "silent"

/-- What a receiver of this manner does with a synchronous event. -/
def Manner.behaviour (manner : Manner) (event : Event) : Behaviour :=
  match manner with
  | .echo => .answers ⟨0⟩ (if event.kind = silentKind then none else some event.data)
  | .noData => .answers ⟨0⟩ none
  | .reply data => .answers ⟨0⟩ data
  | .stall span => .answers span (some event.data)

/-- A receiver: one particular making of a name. -/
structure Receiver where
  name : String
  making : Nat
  manner : Manner
  deriving DecidableEq, Repr, Inhabited

/-- What was recorded. -/
inductive Record where
  /-- An event reached a receiver. -/
  | event (receiver : String) (isSync : Bool) (event : Event)
  /-- The watched group end of this name joined the group or left it. -/
  | joined (group : String) (isConnected : Bool)
  deriving Repr, Inhabited

/-- Named receivers and ends on one network. -/
structure Bench where
  network : Network Receiver
  receivers : Table String Receiver
  unicasts : Table String UnicastEnd
  groups : Table String GroupEnd
  /-- For each group end, how many watchers it has. -/
  watchers : Table String Nat
  makings : Nat
  time : Nat
  /-- What was recorded, latest first. -/
  records : List Record

namespace Bench

/-- An empty bench. -/
def empty : Bench := ⟨.empty, .empty, .empty, .empty, .empty, 0, 0, []⟩

/-- Record something. -/
def note (bench : Bench) (record : Record) : Bench :=
  { bench with records := record :: bench.records }

/-- Make a receiver; the answer is whether the name was taken before. -/
def makeReceiver (bench : Bench) (name : String) (manner : Manner) : Bool × Bench :=
  (bench.receivers.contains name, { bench with
    receivers := bench.receivers.insert name ⟨name, bench.makings, manner⟩
    makings := bench.makings + 1 })

/-- Make a unicast end; the answer is whether the name was taken before. -/
def makeUnicast (bench : Bench) (name : String) : Bool × Bench :=
  (bench.unicasts.contains name,
    { bench with unicasts := bench.unicasts.insert name .closed })

/-- Make a group end; the answer is whether the name was taken before. -/
def makeGroup (bench : Bench) (name : String) : Bool × Bench :=
  let (group, network) := GroupEnd.new bench.network
  (bench.groups.contains name, { bench with
    network := network
    groups := bench.groups.insert name group
    watchers := bench.watchers.insert name 0 })

/-- The unicast end of a name. -/
def unicastOf (bench : Bench) (name : String) : UnicastEnd :=
  (bench.unicasts.get? name).getD .closed

/-- The group end of a name. -/
def groupOf (bench : Bench) (name : String) : GroupEnd := (bench.groups.get? name).getD default

/-- Start a unicast end for a receiver; the answer is its address. -/
def startUnicast (bench : Bench) (name : String) (receiver : Receiver) : Address × Bench :=
  let (address, unicast, network) := UnicastEnd.start bench.network receiver
  (address, { bench with
    network := network
    unicasts := bench.unicasts.insert name unicast })

/-- Tell the watchers of a group end. -/
def tellWatchers (bench : Bench) (name : String) (isConnected : Bool) : Bench :=
  ((bench.watchers.get? name).getD 0).repeat (note · (.joined name isConnected)) bench

/-- Start a group end for a receiver. -/
def startGroup (bench : Bench) (name : String) (receiver : Receiver) : Bench :=
  let (group, network) := (bench.groupOf name).start bench.network receiver
  { bench with network := network, groups := bench.groups.insert name group }.tellWatchers name true

/-- Watch a group end. -/
def watch (bench : Bench) (name : String) : Bench :=
  { bench with watchers := bench.watchers.insert name (((bench.watchers.get? name).getD 0) + 1) }

/-- Close a unicast end. -/
def closeUnicast (bench : Bench) (name : String) : Bench :=
  let (unicast, network) := (bench.unicastOf name).close bench.network
  { bench with network := network, unicasts := bench.unicasts.insert name unicast }

/-- Close a group end. -/
def closeGroup (bench : Bench) (name : String) : Bench :=
  let group := bench.groupOf name
  let (closed, network) := group.close bench.network
  let after := { bench with network := network, groups := bench.groups.insert name closed }
  if group.isStarted then after.tellWatchers name false else after

/-- Send an event without waiting; the answer is whether somebody takes it. -/
def dispatch (bench : Bench) (name : String) (address : Address) (event : Event) : Bool × Bench :=
  match (bench.unicastOf name).route bench.network address with
  | .ok receiver => (true, bench.note (.event receiver.name false event))
  | .error _ => (false, bench)

/-- What happens to a request, which reaches its receiver at once if it reaches one. -/
def ask (name : String) (bench : Bench) (address : Address) (event : Event) : Behaviour × Bench :=
  match (bench.unicastOf name).route bench.network address with
  | .ok receiver => (receiver.manner.behaviour event, bench.note (.event receiver.name true event))
  | .error error => (.fails error, bench)

/-- Make one request and wait for its end. -/
def request (bench : Bench) (name : String) (address : Address) (event : Event)
    (timeout : Duration) : Except TransportError (Option Bytes) × Bench :=
  let (behaviour, bench) := bench.ask name address event
  let (result, after) := behaviour.ending timeout
  (result, { bench with time := bench.time + after })

/-- Send to many targets at once and wait for all. -/
def sendEach (bench : Bench) (name : String) (targets : List (Address × Event))
    (timeout : Duration) : Responses × Bench :=
  let step := fun (asked, (bench : Bench)) (target : Address × Event) =>
    let (behaviour, bench) := bench.ask name target.1 target.2
    ((target.1, behaviour) :: asked, bench)
  let (asked, bench) := targets.foldl step ([], bench)
  let (responses, time) := PeerMesh.sendMany timeout asked.reverse bench.time
  (responses, { bench with time := time })

/-- Broadcast an event. -/
def broadcast (bench : Bench) (name : String) (event : Event) :
    Except TransportError Unit × Bench :=
  match (bench.groupOf name).audience bench.network event with
  | .ok audience =>
    (.ok (), audience.foldl (fun bench receiver => bench.note (.event receiver.name false event)) bench)
  | .error error => (.error error, bench)

/-- What was recorded, in order, and the record emptied. -/
def takeRecords (bench : Bench) : List Record × Bench :=
  (bench.records.reverse, { bench with records := [] })

end Bench

end PeerMesh.Memory
