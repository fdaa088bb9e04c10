/-
**A worker handles an event.**

* `Mesh.HasHeard` — an event has come to a channel. What is broadcast comes to everybody who is open to it,
  and so does what is sent to an address (`broadcast_hasHeard`, `send_hasHeard`).
* `Mesh.IsPeaceful` — every channel is at ease, and whoever has announced itself is started. A mesh stays
  peaceful as it goes on, and two channels that meet still meet (`GoesOn.isPeaceful`, `GoesOn.meets`).
* `Mesh.Handles` — a worker takes an event from a queue and handles it, and the replies go out. That is all
  that a delivery can be (`exists_handles`), and everything goes on meanwhile (`Handles.dequeued_goesOn`).
* `Handles.knows`, `Handles.answers` — whoever makes itself known by the event is a peer then, and whoever
  announces itself by it hears of the channel.
-/

import PeerMesh.Proofs.Mesh.Continuity
import PeerMesh.Proofs.Mesh.Departure
import PeerMesh.Proofs.Mesh.Meeting

namespace PeerMesh

/-- What the channel makes of an event that a worker takes from its queue. -/
def Channel.handling (channel : Channel) (time : Nat) (consumer : Consumer Listener Replier)
    (job : Job (Delivery Listener)) : Consequence :=
  ({ channel with consumer := consumer } : Channel).react time job.task.event

namespace Mesh

variable {mesh later : Mesh} {n m k : Nat} {channel other first second : Channel} {event : Event}
  {job : Job (Delivery Listener)} {consumer : Consumer Listener Replier}

/-! ### Events that come to a channel -/

/-- The event is queued with the channel of a number, unless events for it were dropped. -/
def HasHeard (mesh : Mesh) (k : Nat) (event : Event) : Prop :=
  ∃ channel, mesh.channels[k]? = some channel ∧ channel.HasHeard event

theorem GoesOn.hasHeard (goesOn : mesh.GoesOn later) (heard : mesh.HasHeard k event) :
    later.HasHeard k event := by
  obtain ⟨channel, found, heard⟩ := heard
  obtain ⟨after, isThere, begins⟩ := goesOn.channels k channel found
  exact ⟨after, isThere, begins.hasHeard heard⟩

theorem arrive_hasHeard (found : mesh.channels[k]? = some channel) (isOpenTo : channel.IsOpenTo event) :
    (mesh.arrive event (.channel k)).HasHeard k event := by
  have handed : (mesh.arrive event (.channel k)).channels[k]? = some _ :=
    hand_there (mesh.note (.reached (.channel k) false event)) k event found
  rw [if_pos rfl] at handed
  exact ⟨_, handed, isOpenTo.accept⟩

theorem arriveAll_hasHeard (friendly : event.IsFriendly) {parties : List Party}
    (among : .channel k ∈ parties) (found : mesh.channels[k]? = some channel)
    (isOpenTo : channel.IsOpenTo event) : (parties.foldl (arrive event) mesh).HasHeard k event := by
  obtain ⟨earlier, rest, rfl⟩ := List.append_of_mem among
  obtain ⟨between, isThere, begins⟩ := (mesh.arriveAll_goesOn friendly earlier).channels k channel found
  rw [List.foldl_append, List.foldl_cons]
  exact (arriveAll_goesOn _ friendly rest).hasHeard (arrive_hasHeard isThere (begins.isOpenTo isOpenTo))

theorem InOrder.isWhole (inOrder : mesh.InOrder) : mesh.network.IsWhole :=
  fun address endpoint found => (inOrder.wired.endpoints address endpoint found).1

/-- Only the same channel has the same id. -/
theorem InOrder.selfId_ne (inOrder : mesh.InOrder) (found : mesh.channels[n]? = some first)
    (place : mesh.channels[m]? = some second) (apart : n ≠ m) : first.selfId ≠ second.selfId :=
  fun same => apart (inOrder.wired.distinctIds n m _ _ (InOrder.there found) (InOrder.there place) same)

/-- The queue of a started channel is served. -/
theorem InOrder.isServing (inOrder : mesh.InOrder) (found : mesh.channels[n]? = some channel)
    (started : channel.phase = .started) : channel.atRest.IsServing := by
  have wired := inOrder.wired.at (InOrder.there found)
  exact wired.opened (wired.started started)

/-- A member of a domain is reached where the channel with its id is. -/
theorem InOrder.address_of_isMember (inOrder : mesh.InOrder) {domain : String} {id : NodeId}
    {address : Address} (place : mesh.channels[k]? = some other)
    (isMember : mesh.roster.IsMember domain id address) (named : id = other.selfId) :
    other.address = some address := by
  obtain ⟨member, listed, sameId, _, reached⟩ := isMember
  obtain ⟨j, isThere⟩ := List.mem_iff_getElem?.mp listed
  obtain rfl := inOrder.wired.distinctIds j k member _ isThere (InOrder.there place) (sameId.trans named)
  rw [InOrder.there place] at isThere
  obtain rfl := Option.some.inj isThere
  exact reached

/-- **What a channel broadcasts comes to everybody who is open to it.** -/
theorem broadcast_hasHeard (inOrder : mesh.InOrder) (found : mesh.channels[n]? = some channel)
    (isOpen : channel.IsOpen) (place : mesh.channels[k]? = some other) (otherIsOpen : other.IsOpen)
    (friendly : event.IsFriendly) (isOpenTo : other.IsOpenTo event) :
    (mesh.post n (.broadcast event)).2.HasHeard k event := by
  obtain ⟨number, group, _⟩ := inOrder.wired.joined n _ (InOrder.there found)
    (Channel.isOpen_atRest.mpr isOpen)
  obtain ⟨number', _, joined⟩ := inOrder.wired.joined k _ (InOrder.there place)
    (Channel.isOpen_atRest.mpr otherIsOpen)
  have takesPart : channel.group = .memory ⟨number, true⟩ := group
  have among := Memory.Network.mem_audience inOrder.isWhole joined event.originAddress
  unfold post
  dsimp only
  rw [channel_eq found, takesPart]
  exact arriveAll_hasHeard friendly among place isOpenTo

/-- **What a channel sends to an address comes to whoever is reached there**, if it is open to it. -/
theorem send_hasHeard (whole : mesh.network.IsWhole) {own address : Address}
    (line : (mesh.channel n).line = .memory ⟨some own⟩)
    (reached : mesh.network.unicast.get? address = some ⟨.channel k, true⟩)
    (found : mesh.channels[k]? = some channel) (isOpenTo : channel.IsOpenTo event) :
    (mesh.post n (.send address event)).2.HasHeard k event := by
  have routed : (Memory.UnicastEnd.mk (some own)).route mesh.network address = .ok (.channel k) :=
    Memory.UnicastEnd.route_of_endpoint whole reached
  unfold post
  dsimp only
  rw [line]
  unfold carry
  dsimp only
  rw [show (mesh.note (.posted n (.send address event))).network = mesh.network from rfl, routed]
  exact arrive_hasHeard found isOpenTo

/-! ### Peace -/

/-- No event was dropped, and nobody was declared dead. -/
def IsSpared (mesh : Mesh) : Prop := ∀ channel ∈ mesh.channels, channel.IsSpared

instance (mesh : Mesh) : Decidable mesh.IsSpared :=
  inferInstanceAs (Decidable (∀ channel ∈ mesh.channels, channel.IsSpared))

/-- Every channel is at ease, and whoever has announced itself is started. -/
structure IsPeaceful (mesh : Mesh) : Prop where
  atEase : ∀ (n : Nat) (channel : Channel), mesh.channels[n]? = some channel →
    channel.IsAtEase n mesh.network
  announced : ∀ n, mesh.hasAnnounced n = true →
    ∃ channel, mesh.channels[n]? = some channel ∧ channel.phase = .started

theorem GoesOn.exists_before (goesOn : mesh.GoesOn later) (isThere : later.channels[n]? = some channel) :
    ∃ before, mesh.channels[n]? = some before ∧ before.GoesOn channel := by
  obtain ⟨below, _⟩ := List.getElem?_eq_some_iff.mp isThere
  rw [goesOn.count] at below
  have found := List.getElem?_eq_getElem below
  obtain ⟨after, same, begins⟩ := goesOn.channels n _ found
  rw [isThere] at same
  rw [Option.some.inj same]
  exact ⟨_, found, begins⟩

theorem GoesOn.isSpared (goesOn : mesh.GoesOn later) (spared : later.IsSpared) : mesh.IsSpared := by
  intro channel isThere
  obtain ⟨n, found⟩ := List.mem_iff_getElem?.mp isThere
  obtain ⟨after, there, begins⟩ := goesOn.channels n channel found
  exact begins.isSpared (spared after (List.mem_of_getElem? there))

theorem GoesOn.isPeaceful (goesOn : mesh.GoesOn later) (peaceful : mesh.IsPeaceful)
    (spared : later.IsSpared) : later.IsPeaceful := by
  refine ⟨fun n channel isThere => ?_, fun n said => ?_⟩
  · obtain ⟨before, found, begins⟩ := goesOn.exists_before isThere
    rw [goesOn.network]
    exact begins.isAtEase (peaceful.atEase n before found) (spared channel (List.mem_of_getElem? isThere))
  · rw [goesOn.announced] at said
    obtain ⟨before, found, started⟩ := peaceful.announced n said
    obtain ⟨after, isThere, begins⟩ := goesOn.channels n before found
    exact ⟨after, isThere, begins.phase.trans started⟩

/-- Two channels that meet in a peaceful mesh meet later. -/
theorem GoesOn.meets (goesOn : mesh.GoesOn later) (peaceful : mesh.IsPeaceful) (spared : later.IsSpared)
    (found : mesh.channels[n]? = some first) (place : mesh.channels[m]? = some second)
    (meets : first.Meets second) {first' second' : Channel} (isThere : later.channels[n]? = some first')
    (isThere' : later.channels[m]? = some second') : first'.Meets second' := by
  have retains (k : Nat) (before after : Channel) (was : mesh.channels[k]? = some before)
      (isThere : later.channels[k]? = some after) : before.GoesOn after ∧ before.view.Retains after.view := by
    obtain ⟨same, there, begins⟩ := goesOn.channels k before was
    rw [isThere] at there
    obtain rfl := Option.some.inj there
    exact ⟨begins, (begins.retains_of_spared (peaceful.atEase k before was)
      (spared after (List.mem_of_getElem? isThere))).1⟩
  obtain ⟨begins, stays⟩ := retains n first first' found isThere
  obtain ⟨others, stay⟩ := retains m second second' place isThere'
  exact meets.goesOn begins others stays stay

/-! ### What a worker does -/

/-- A worker of a channel takes an event from the queue, by which the channel is changed, the replies go
out, and everything goes on. -/
structure Handles (mesh : Mesh) (n : Nat) (channel : Channel) (job : Job (Delivery Listener))
    (consumer : Consumer Listener Replier) (changed : Mesh) : Prop where
  found : mesh.channels[n]? = some channel
  takes : channel.consumer.takeDelivery? = some (job, consumer)
  channels : changed.channels =
    mesh.channels.modify n fun _ => (channel.handling mesh.time consumer job).channel
  network : changed.network = mesh.network
  log : changed.log = mesh.log
  goesOn : (changed.postAll n ((channel.handling mesh.time consumer job).replies.map fun reply =>
    .send reply.1 reply.2)).GoesOn (mesh.deliver n)

theorem exists_handles_of_attend (inOrder : mesh.InOrder) (found : mesh.channels[n]? = some channel)
    (takes : channel.consumer.takeDelivery? = some (job, consumer)) {start : Mesh}
    (channels : start.channels =
      mesh.channels.modify n fun channel => { channel with consumer := consumer })
    (network : start.network = mesh.network) (log : start.log = mesh.log) (time : start.time = mesh.time)
    (goesOn : (start.attend n job).GoesOn (mesh.deliver n)) :
    ∃ changed, mesh.Handles n channel job consumer changed := by
  have each := inOrder.orderly.each n channel found
  obtain ⟨_, listener, _⟩ := each.taken takes
  obtain ⟨honest, _⟩ := each.handle takes mesh.time
  have there : start.channel n = { channel with consumer := consumer } := by
    refine channel_eq ?_
    rw [channels, List.getElem?_modify_eq, found]
    rfl
  have present : (start.channel n).isGone = false := by
    rw [there]
    exact (inOrder.wired.at (inOrder.orderly.there found)).present
  rw [Orderly.attend_eq present] at goesOn
  unfold call at goesOn
  rw [listener] at goesOn
  dsimp only at goesOn
  rw [there, time] at goesOn
  obtain ⟨changed, isChanged, sameNetwork, sameLog, follows⟩ :=
    follow_goesOn start n job.ticket honest.deliversNothing honest.inquiresNothing
  refine ⟨changed, found, takes, ?_, sameNetwork.trans network, sameLog.trans log, follows.trans goesOn⟩
  rw [isChanged, channels, List.modify_modify_eq]
  rfl

/-- **Either nothing is to be delivered, or an event is handled.** -/
theorem exists_handles (inOrder : mesh.InOrder) (n : Nat) :
    mesh.deliver n = mesh ∨ ∃ channel job consumer changed, mesh.Handles n channel job consumer changed := by
  cases takes : (mesh.channel n).consumer.takeDelivery? with
  | none =>
    left
    unfold deliver
    rw [takes]
  | some front =>
    obtain ⟨job, consumer⟩ := front
    cases found : mesh.channels[n]? with
    | none =>
      rw [channel_default found] at takes
      cases takes
    | some channel =>
      right
      refine ⟨channel, job, consumer, ?_⟩
      let taken := mesh.modify n fun channel => { channel with consumer := consumer }
      have delivered : mesh.deliver n = taken.takeTurns (.deliver n) (consumer.workforce?.any Pool.hasIdle)
          (·.attend n job) := by
        unfold deliver
        rw [takes]
      rw [channel_eq found] at takes
      unfold takeTurns at delivered
      split at delivered
      · have queued : (taken.enqueue (.deliver n)).log = mesh.log ∧
            (taken.enqueue (.deliver n)).time = mesh.time := by
          unfold enqueue
          split <;> exact ⟨rfl, rfl⟩
        refine exists_handles_of_attend inOrder found takes (enqueue_channels taken _)
          (enqueue_network taken _) queued.1 queued.2 ?_
        rw [delivered]
        exact .refl _
      · have channels : taken.channels =
            mesh.channels.modify n fun channel => { channel with consumer := consumer } := rfl
        refine exists_handles_of_attend inOrder found takes channels rfl rfl rfl ?_
        rw [delivered]
        exact (GoesOn.refl _).of_same rfl rfl fun _ => rfl

namespace Handles

variable {changed : Mesh}

theorem friendly (handles : mesh.Handles n channel job consumer changed) (peaceful : mesh.IsPeaceful) :
    job.task.event.IsFriendly := by
  refine (peaceful.atEase n channel handles.found).friendly job ?_
  rw [(Consumer.takeDelivery?_pending handles.takes).1]
  exact List.mem_cons_self

theorem started (handles : mesh.Handles n channel job consumer changed) (inOrder : mesh.InOrder)
    (peaceful : mesh.IsPeaceful) : channel.phase = .started := by
  have each := inOrder.orderly.each n channel handles.found
  cases phase : channel.phase with
  | created => exact absurd (each.taken handles.takes).1 (each.blank phase).1
  | started => rfl
  | closed => exact absurd phase (peaceful.atEase n channel handles.found).notClosed

theorem there (handles : mesh.Handles n channel job consumer changed) :
    changed.channels[n]? = some (channel.handling mesh.time consumer job).channel := by
  rw [handles.channels, List.getElem?_modify_eq, handles.found]
  rfl

theorem there_other (handles : mesh.Handles n channel job consumer changed) (apart : n ≠ k)
    (place : mesh.channels[k]? = some other) : changed.channels[k]? = some other := by
  rw [handles.channels, List.getElem?_modify_ne _ _ apart]
  exact place

/-- The mesh in which the event is taken from the queue is as it was but for this event. -/
theorem exists_before (handles : mesh.Handles n channel job consumer changed)
    (isThere : (mesh.modify n fun _ => { channel with consumer := consumer }).channels[k]? = some first) :
    ∃ before, mesh.channels[k]? = some before ∧ first.domain = before.domain ∧ first.view = before.view ∧
      ∀ kind id, before.Awaits kind id → first.Awaits kind id ∨
        (k = n ∧ job.task.event.kind = kind.text ∧ job.task.event.origin = id) := by
  obtain ⟨rfl, _, _, rfl⟩ | ⟨_, was⟩ := cases_modify isThere
  · exact ⟨channel, handles.found, rfl, rfl, fun kind id awaits =>
      (awaits.dequeue handles.takes).imp_right fun taken => ⟨rfl, taken⟩⟩
  · exact ⟨first, was, rfl, rfl, fun _ _ => .inl⟩

theorem dequeued_isPeaceful (handles : mesh.Handles n channel job consumer changed)
    (peaceful : mesh.IsPeaceful) :
    (mesh.modify n fun _ => { channel with consumer := consumer }).IsPeaceful := by
  refine ⟨fun k first isThere => ?_, fun k said => ?_⟩
  · obtain ⟨rfl, _, _, rfl⟩ | ⟨_, was⟩ := cases_modify isThere
    · exact (peaceful.atEase k channel handles.found).dequeue handles.takes
    · exact peaceful.atEase k first was
  · obtain ⟨before, found, started⟩ := peaceful.announced k said
    by_cases same : n = k
    · subst same
      obtain rfl := Option.some.inj (handles.found.symm.trans found)
      refine ⟨{ channel with consumer := consumer }, ?_, started⟩
      show (mesh.channels.modify n _)[n]? = _
      rw [List.getElem?_modify_eq, found]
      rfl
    · refine ⟨before, ?_, started⟩
      show (mesh.channels.modify n _)[k]? = _
      rw [List.getElem?_modify_ne _ _ same]
      exact found

/-- **Everything goes on from there**, while the event is handled and while the replies go out. -/
theorem dequeued_goesOn (handles : mesh.Handles n channel job consumer changed) (inOrder : mesh.InOrder)
    (peaceful : mesh.IsPeaceful) :
    (mesh.modify n fun _ => { channel with consumer := consumer }).GoesOn changed ∧
      changed.GoesOn (mesh.deliver n) := by
  let dequeued := mesh.modify n fun _ => { channel with consumer := consumer }
  have each := inOrder.orderly.each n channel handles.found
  constructor
  · have reacts : dequeued.GoesOn
        (dequeued.modify n fun _ => (channel.handling mesh.time consumer job).channel) := by
      refine dequeued.modify_goesOn n fun earlier isThere => ?_
      obtain ⟨_, _, _, rfl⟩ | ⟨other, _⟩ := cases_modify isThere
      · exact Channel.react_goesOn _ mesh.time (handles.friendly peaceful)
      · exact absurd rfl other
    refine reacts.of_same ?_ handles.network fun k => ?_
    · rw [handles.channels]
      show _ = (mesh.channels.modify n _).modify n _
      rw [List.modify_modify_eq]
      rfl
    · unfold hasAnnounced
      rw [handles.log]
      rfl
  · refine GoesOn.trans (sendAll_goesOn changed n fun reply listed => ?_) handles.goesOn
    obtain ⟨honest, _⟩ := each.handle handles.takes mesh.time
    exact ((peaceful.atEase n channel handles.found).dequeue handles.takes).introduction
      (handles.started inOrder peaceful) (honest.replies reply.1 reply.2 listed).2

/-- **Whoever makes itself known is known when the event was handled.** -/
theorem knows (handles : mesh.Handles n channel job consumer changed) (inOrder : mesh.InOrder)
    (peaceful : mesh.IsPeaceful) (place : mesh.channels[k]? = some other) (apart : n ≠ k)
    {kind : ProtocolKind} (makesKnown : kind = .publish ∨ kind = .discover)
    (made : job.task.event.kind = kind.text) (origin : job.task.event.origin = other.selfId) :
    (channel.handling mesh.time consumer job).channel.view.isLive other.selfId = true := by
  have hospitable := ((peaceful.atEase n channel handles.found).dequeue handles.takes).hospitable
  rw [← origin]
  refine hospitable.react mesh.time (handles.friendly peaceful) ?_ ?_
  · rcases makesKnown with rfl | rfl
    · exact .inl made
    · exact .inr made
  · rw [origin]
    exact (inOrder.selfId_ne handles.found place apart).symm

/-- **Whoever announces itself hears of the channel that has handled its announcement.** -/
theorem answers (handles : mesh.Handles n channel job consumer changed) (inOrder : mesh.InOrder)
    (peaceful : mesh.IsPeaceful) (place : mesh.channels[k]? = some other) (apart : n ≠ k)
    (othersStarted : other.phase = .started) (made : job.task.event.kind = ProtocolKind.publish.text)
    (origin : job.task.event.origin = other.selfId) :
    ∃ reply : Event, reply.kind = ProtocolKind.discover.text ∧ reply.origin = channel.selfId ∧
      (mesh.deliver n).HasHeard k reply := by
  have each := inOrder.orderly.each n channel handles.found
  have atEase := (peaceful.atEase n channel handles.found).dequeue handles.takes
  have started := handles.started inOrder peaceful
  have differ := inOrder.selfId_ne handles.found place apart
  obtain ⟨announce, read⟩ := (handles.friendly peaceful).legible (.inl made)
  have isMember : mesh.roster.IsMember channel.domain job.task.event.origin announce.address := by
    have tells := (each.taken handles.takes).2.2
    unfold Event.TellsOnly at tells
    rw [made, ProtocolKind.ofText?_text] at tells
    exact tells announce read
  have reachedThere := inOrder.address_of_isMember place isMember origin
  have endpoint := ((peaceful.atEase k other place).present othersStarted).endpoint reachedThere
  obtain ⟨address, reached, _⟩ := (atEase.present started).reached
  let reply : Event := ⟨.unscoped, ProtocolKind.discover.text, Announce.codec.write ⟨address⟩,
    channel.selfId, address⟩
  have isReply : reply.kind = ProtocolKind.discover.text := rfl
  have posted : (changed.post n (.send announce.address reply)).2.GoesOn (mesh.deliver n) := by
    have notItself : job.task.event.origin ≠ channel.selfId := by
      rw [origin]
      exact differ.symm
    have replies : (channel.handling mesh.time consumer job).replies = [(announce.address, reply)] :=
      atEase.hospitable.answers mesh.time made read notItself (Channel.introduction_eq reached)
    have goesOn := handles.goesOn
    rw [replies] at goesOn
    exact goesOn
  have whole : changed.network.IsWhole := by
    rw [handles.network]
    exact inOrder.isWhole
  obtain ⟨own, _, line⟩ := (inOrder.isServing handles.found started).reached
  have sameLine : (changed.channel n).line = .memory ⟨some own⟩ := by
    have atRest := (each.handle handles.takes mesh.time).2.1
    rw [channel_eq handles.there]
    exact (congrArg Channel.line atRest).trans line
  have isThere := handles.there_other apart place
  have isOpenTo : other.IsOpenTo reply := (peaceful.atEase k other place).isOpenTo
    (inOrder.wired.at (InOrder.there place)) othersStarted isReply differ rfl
  rw [← handles.network] at endpoint
  exact ⟨reply, isReply, rfl, posted.hasHeard (send_hasHeard whole sameLine endpoint isThere isOpenTo)⟩

end Handles

end Mesh

end PeerMesh
