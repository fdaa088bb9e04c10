/-
**What can happen next, and how it happens.**

`Mesh.perform` makes one move. A move that is not ready changes nothing, so any order in which moves
are tried is a run of the mesh; `Mesh.runUntil` tries them in the order of the agenda and lets time
pass when nothing is left to do.
-/

import PeerMesh.Mesh.Requests

namespace PeerMesh

namespace Mesh

/-! ### Deliveries -/

/-- A delivery is over. -/
def finishDelivery (mesh : Mesh) (number ticket : Nat) : Mesh :=
  (mesh.modify number fun channel =>
    { channel with consumer := channel.consumer.finishDelivery ticket }).enqueue (.deliver number)

/-- A listener has passed the gate. -/
def pass (mesh : Mesh) (parked : Parked) : Mesh :=
  let told := match parked.job.task.listener with
    | .script script =>
      mesh.note (.called parked.channel ⟨script.tag, .released, parked.job.task.event⟩)
    | .protocol => mesh
  told.finishDelivery parked.channel parked.job.ticket

/-- Permits are added to the gate. -/
def release (mesh : Mesh) (count : Nat) : Mesh :=
  let (passing, gate) := mesh.gate.release count
  passing.foldl pass { mesh with gate := gate }

/-- A listener of known behaviour is called. The worker of a consumer that was stopped is gone when it has to wait at
the gate. -/
def callScript (mesh : Mesh) (parked : Parked) (script : AsyncScript) : Mesh :=
  let called := mesh.note (.called parked.channel ⟨script.tag, .async, parked.job.task.event⟩)
  match script.manner with
  | .nothing | .panic => called.finishDelivery parked.channel parked.job.ticket
  | .waitAtGate =>
    let (passes, gate) := called.gate.arrive parked
    let arrived := { called with gate := gate }
    if passes then arrived.pass parked
    else if (called.channel parked.channel).consumer.isStopped then
      called.modify parked.channel fun channel =>
        { channel with consumer := channel.consumer.waitDelivery (some parked.job.ticket) }
    else arrived

/-- The finders of a channel are told of a peer. -/
def tellFinders (mesh : Mesh) (number : Nat) (id : NodeId) (address : Address) : Mesh :=
  (List.range (mesh.channel number).finders.length).foldl (fun mesh finder =>
    mesh.note (.discovered number finder id address)) mesh

/-- Whoever asked for a ping waits until it is over. -/
def inquire (mesh : Mesh) (number ticket : Nat) (address : Address) : Mesh :=
  let ((_, delay), mesh) := mesh.ping number address
  if delay = 0 then mesh.finishDelivery number ticket
  else { mesh with errands := mesh.errands ++ [⟨number, ticket, mesh.time + delay⟩] }

/-- Do what an event calls for that a channel has handled. -/
def follow (mesh : Mesh) (number ticket : Nat) (consequence : Consequence) : Mesh :=
  let isResynced := (mesh.channel number).announcing ≠ consequence.channel.announcing
  let changed := mesh.modify number fun _ => consequence.channel
  let resynced := if isResynced then changed.enqueueLast (.announce number) else changed
  let replied := resynced.postAll number (consequence.replies.map fun (address, event) =>
    .send address event)
  let found := match consequence.found with
    | some (id, address) => replied.tellFinders number id address
    | none => replied
  let delivered := match consequence.delivered with
    | some event => found.hand number event
    | none => found
  match consequence.inquiry with
  | some address => delivered.inquire number ticket address
  | none => delivered.finishDelivery number ticket

/-- A delivery begins. -/
def call (mesh : Mesh) (number : Nat) (job : Job (Delivery Listener)) : Mesh :=
  match job.task.listener with
  | .script script => mesh.callScript ⟨number, job⟩ script
  | .protocol =>
    mesh.follow number job.ticket ((mesh.channel number).react mesh.time job.task.event)

/-- A worker sees to a delivery. A channel that is gone handles no event itself any more. -/
def attend (mesh : Mesh) (number : Nat) (job : Job (Delivery Listener)) : Mesh :=
  if job.task.listener = .protocol ∧ (mesh.channel number).isGone then
    mesh.finishDelivery number job.ticket
  else mesh.call number job

/-- A worker takes a job: with other idle workers the next job is theirs, otherwise it is the same
worker's as soon as it can be. -/
def takeTurns (mesh : Mesh) (move : Move) (othersIdle : Bool) (work : Mesh → Mesh) : Mesh :=
  if othersIdle then work (mesh.enqueue move) else (work mesh).enqueueFirst move

/-- A worker of a channel's consumer takes the next delivery. -/
def deliver (mesh : Mesh) (number : Nat) : Mesh :=
  match (mesh.channel number).consumer.takeDelivery? with
  | none => mesh
  | some (job, consumer) =>
    let taken := mesh.modify number fun channel => { channel with consumer := consumer }
    taken.takeTurns (.deliver number) (consumer.workforce?.any Pool.hasIdle) (·.attend number job)

/-! ### Events that go out -/

/-- Why an event has not gone out, as whoever queued it is told. -/
def failureOf (outgoing : Outgoing) (error : TransportError) : ChannelError :=
  match outgoing with
  | .broadcast _ => .transport error
  | .send address _ => .transport (.unreachable address.text)

/-- An event goes out. -/
def goOut (mesh : Mesh) (number : Nat) (job : Job Outgoing) : Mesh :=
  let (result, posted) := mesh.post number job.task
  let result := result.mapError (failureOf job.task)
  let finished := posted.modify number fun channel =>
    let channel := if result.isOk then channel else channel.countFailure
    { channel with publisher := channel.publisher.map (·.finish job.ticket) }
  finished.note (.dispatched number job.ticket result)

/-- A worker of a channel takes the next event that goes out. -/
def dispatchNext (mesh : Mesh) (number : Nat) : Mesh :=
  match (mesh.channel number).publisher.bind Pool.take? with
  | none => mesh
  | some (job, pool) =>
    let taken := mesh.modify number fun channel => { channel with publisher := some pool }
    taken.takeTurns (.dispatch number) pool.hasIdle (·.goOut number job)

/-! ### Announcements -/

/-- A channel announces itself, if it is time to. -/
def announce (mesh : Mesh) (number : Nat) : Mesh :=
  let channel := mesh.channel number
  match channel.announcing with
  | none => mesh
  | some announcing =>
    if mesh.time < announcing.wakeAt then mesh
    else
      let pause := Duration.between channel.settings.publishIntervalMin
        channel.settings.publishIntervalMax 0
      let later := if announcing.remaining ≤ 1 then none
        else some ⟨announcing.remaining - 1, mesh.time + pause.ticks⟩
      let counted := mesh.modify number fun channel => { channel with announcing := later }
      let posted := counted.postAll number (channel.announcement.toOption.map .broadcast).toList
      if later.any (·.wakeAt ≤ mesh.time) then posted.enqueueFirst (.announce number) else posted

/-- Whether something refers to a channel. -/
def isReferred (mesh : Mesh) (number : Nat) : Bool :=
  let channel := mesh.channel number
  channel.isHeld || channel.announcing.isSome || mesh.registry.contains number ||
    mesh.errands.any (·.channel = number)

/-- A worker goes on with the next delivery. If nothing refers to the channel any more, the channel goes away while
this worker is in the middle of its turn. -/
def goOn (mesh : Mesh) (number : Nat) : Mesh :=
  if mesh.isReferred number then mesh
  else (mesh.modify number ({ · with calling := ⟨[], 1⟩ })).enqueueFirst (.deliver number)

/-- A delivery for which somebody had to be pinged is over, if it is time. -/
def finish (mesh : Mesh) (number ticket : Nat) : Mesh :=
  let isOver (errand : Errand) :=
    errand.channel = number && errand.ticket = ticket && errand.due ≤ mesh.time
  if mesh.errands.any isOver then
    ({ mesh with errands := mesh.errands.filter (!isOver ·) }.finishDelivery number ticket).goOn number
  else mesh

/-- The socket at which a channel accepts connections heeds from now on when the channel is closed. -/
def heed (mesh : Mesh) (number : Nat) : Mesh :=
  { mesh with ports := mesh.ports.map fun port =>
      if port.channel = number then { port with isHeeding := true } else port }

/-- Make a move. -/
def perform (mesh : Mesh) : Move → Mesh
  | .deliver number => mesh.deliver number
  | .dispatch number => mesh.dispatchNext number
  | .announce number => mesh.announce number
  | .turn number => (station number).turn mesh
  | .hear number => (station number).hearScheduled mesh
  | .finish number ticket => mesh.finish number ticket
  | .heed number => mesh.heed number

/-! ### Channels to which nothing refers -/

/-- Stop what runs inside a channel, and what of it runs elsewhere. -/
def halt (mesh : Mesh) (number : Nat) : Mesh :=
  { mesh.modify number Channel.halt with
    gate := mesh.gate.forget (·.channel = number)
    errands := mesh.errands.filter (·.channel ≠ number) }

/-- A channel goes away if nothing refers to it. -/
def retire (mesh : Mesh) (number : Nat) : Mesh :=
  if mesh.isReferred number || (mesh.channel number).isGone then mesh
  else (mesh.halt number).modify number ({ · with isGone := true })

/-- The channels to which nothing refers go away. -/
def tidy (mesh : Mesh) : Mesh := (List.range mesh.channels.length).foldl retire mesh

/-! ### Time -/

/-- The moments at which a channel has something to do by itself. -/
def momentsOf (channel : Channel) : List Nat :=
  (channel.announcing.map Announcing.wakeAt).toList ++ channel.detector.nextMoment?.toList

/-- The next moment at which something happens by itself. -/
def nextMoment? (mesh : Mesh) : Option Nat :=
  (mesh.channels.flatMap momentsOf ++ mesh.errands.map Errand.due).min?

/-- The moves of a channel that its clocks call for. -/
def movesDue (mesh : Mesh) (number : Nat) : List Move :=
  let channel := mesh.channel number
  let isDue (moment? : Option Nat) := moment?.any (· ≤ mesh.time)
  [(isDue (channel.announcing.map Announcing.wakeAt), Move.announce number),
    (isDue channel.detector.scheduler.wakeAt?, .turn number),
    (isDue (channel.detector.round.bind Round.nextDue?), .hear number)].filterMap fun (due, move) =>
      if due then some move else none

/-- The moves that clocks call for become ready. -/
def wake (mesh : Mesh) : Mesh :=
  let errands := (mesh.errands.filter (·.due ≤ mesh.time)).map fun errand =>
    Move.finish errand.channel errand.ticket
  ((List.range mesh.channels.length).flatMap mesh.movesDue ++ errands).foldl enqueue mesh

/-- Make the next move on the agenda. -/
def next? (mesh : Mesh) : Option Mesh :=
  match mesh.agenda with
  | [] => none
  | move :: rest => some (({ mesh with agenda := rest }.perform move).tidy)

/-- Make moves until a moment, at most `fuel` of them. -/
def runWithin (moment : Nat) : (fuel : Nat) → Mesh → Mesh
  | 0, mesh => { mesh with time := max mesh.time moment }
  | fuel + 1, mesh =>
    match mesh.next? with
    | some mesh => runWithin moment fuel mesh
    | none =>
      match mesh.nextMoment? with
      | some due =>
        if due ≤ moment then
          runWithin moment fuel ({ mesh with time := max mesh.time due }.wake)
        else { mesh with time := max mesh.time moment }
      | none => { mesh with time := max mesh.time moment }

/-- At most how many moves are made in one go. -/
def patience : Nat := 10 ^ 12

/-- Let time pass until a moment, and everything happen that is due by then. -/
def runUntil (mesh : Mesh) (moment : Nat) : Mesh := runWithin moment patience mesh.tidy

/-- Let everything happen that is due now. -/
def settle (mesh : Mesh) : Mesh := mesh.runUntil mesh.time

/-- Let time pass. -/
def sleep (mesh : Mesh) (span : Duration) : Mesh := mesh.runUntil (mesh.time + span.ticks)

end Mesh

end PeerMesh
