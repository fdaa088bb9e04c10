/-
**Questions that are answered keep a mesh orderly.**

* `SyncRequest.IsAbout` — a question asks whether the receiver is there, or can reach a given peer.
* `hearControl_asked` — a channel that is asked learns only of the sender, and asks in turn only given
  peers.
* `Orderly.ping`, `Orderly.ask` — a channel pings a member of its domain, or asks it about another
  member.
-/

import PeerMesh.Proofs.Mesh.Delivery

namespace PeerMesh

/-- The question is whether the receiver is there, or whether it can reach a given peer. -/
def SyncRequest.IsAbout (known : NodeId → Address → Prop) : SyncRequest → Prop
  | .ping => True
  | .healthCheck target address => known target address

/-- The event comes from a given peer and asks no more than a question about given peers. -/
structure Event.AsksOnly (known : NodeId → Address → Prop) (event : Event) : Prop where
  sender : known event.origin event.originAddress
  question : ∀ message, ControlMessage.codec.decode maxFrameSize event.data = .ok message →
    ∃ question, message = .request question ∧ question.IsAbout known

/-- What follows from a question is an answer, or a ping of a given peer. -/
def FollowUp.IsReply (known : NodeId → Address → Prop) : FollowUp → Prop
  | .nothing | .answer _ => True
  | .inquire address => ∃ id, known id address
  | .deliver _ => False

namespace Channel

variable {channel : Channel} {known : NodeId → Address → Prop}

/-- **A channel that is asked learns only of the sender**, and asks in turn only given peers. -/
theorem hearControl_asked (unwatched : channel.detector.watched.registered = []) (time : Nat)
    {event : Event} (asks : event.AsksOnly known) :
    channel.Learns known (channel.hearControl time event).2 ∧
      (channel.hearControl time event).1.IsReply known := by
  unfold hearControl Watched.receive
  cases read : ControlMessage.codec.decode maxFrameSize event.data with
  | error error => exact ⟨.nothing unwatched known, trivial⟩
  | ok message =>
    obtain ⟨question, rfl, about⟩ := asks.question message read
    cases question with
    | ping =>
      have heard : channel.Learns known (channel.run time fun view now =>
          view.heartbeat now event.originAddress event.origin).2 := by
        refine run_learns unwatched time (fun now =>
          channel.view.heartbeat_learns now event.originAddress event.origin) ?_
        intro peer member
        rw [List.mem_singleton.mp member]
        exact asks.sender
      exact ⟨heard, trivial⟩
    | healthCheck target address =>
      show channel.Learns known (channel.mapWatched fun _ => (channel.detector.watched.receiveRequest
        time event (.healthCheck target address)).2) ∧ FollowUp.IsReply known
          (channel.detector.watched.receiveRequest time event (.healthCheck target address)).1
      unfold Watched.receiveRequest
      dsimp only
      split
      · exact ⟨.nothing unwatched known, trivial⟩
      · exact ⟨.nothing unwatched known, target, about⟩

/-- The event of a channel that asks a question about members of its domain. -/
theorem controlEvent_asks {roster : Roster} (wired : roster.Wired) {n : Nat} {self : Channel}
    (there : roster.channels[n]? = some self) {question : SyncRequest}
    (about : question.IsAbout (roster.IsMember self.domain)) {event : Event}
    (asks : self.controlEvent .unscoped (.request question) = .ok event) :
    event.AsksOnly (roster.IsMember self.domain) := by
  unfold controlEvent protocolEvent Channel.event at asks
  split at asks
  · cases asks
  · rename_i address reached
    obtain rfl := Except.ok.inj asks
    refine ⟨Roster.isMember_self there reached, fun message read => ?_⟩
    have words : AreWords (ControlMessage.lengths (.request question)) := by
      cases question with
      | ping => exact fun _ member => absurd member List.not_mem_nil
      | healthCheck target place =>
        obtain ⟨other, listed, named, _, located⟩ := about
        have small := wired.each other listed
        intro length member
        rcases List.mem_cons.mp member with rfl | second
        · rw [← named]
          exact small.smallId
        · rw [List.mem_singleton.mp second]
          exact (small.numbered place located).1
    exact ⟨question, (ControlMessage.codec_accounts words).eq_of_decode_write read, about⟩

end Channel

namespace Mesh

variable {roster : Roster} {firm : Nat → Prop} {mesh : Mesh}

/-- A way to ping that keeps a mesh orderly if it pings members of the domain of who pings. -/
def KeepsOrder (roster : Roster) (firm : Nat → Prop) (ping : Pinger) : Prop :=
  ∀ (mesh : Mesh) (n : Nat) (self : Channel) (id : NodeId) (address : Address),
    mesh.Orderly roster firm → roster.channels[n]? = some self →
      roster.IsMember self.domain id address → (ping mesh n address).2.Orderly roster firm

namespace Orderly

/-- A channel that learns of members of its domain keeps the mesh orderly. -/
theorem learns (orderly : mesh.Orderly roster firm) (wired : roster.Wired) {n : Nat}
    {self channel later : Channel} (listed : roster.channels[n]? = some self) {address : Address}
    (reached : self.address = some address) (there : mesh.channels[n]? = some channel)
    (learns : channel.Learns (roster.IsMember self.domain) later) :
    (mesh.modify n fun _ => later).Orderly roster firm := by
  have same := orderly.there there
  rw [listed] at same
  obtain rfl := Option.some.inj same
  refine orderly.modify n fun other here => ?_
  rw [there] at here
  obtain rfl := Option.some.inj here
  refine ⟨learns.atRest, (orderly.each n channel there).learns learns fun new => ?_⟩
  have nowhere := ((wired.at listed).created new).1
  rw [reached] at nowhere
  cases nowhere

theorem answerControl (orderly : mesh.Orderly roster firm) (wired : roster.Wired) {ping : Pinger}
    (pings : KeepsOrder roster firm ping) {n : Nat} {self : Channel}
    (listed : roster.channels[n]? = some self) {address : Address}
    (reached : self.address = some address) {event : Event}
    (asks : event.AsksOnly (roster.IsMember self.domain)) :
    (mesh.answerControl ping n event).2.Orderly roster firm := by
  obtain ⟨channel, there, same⟩ := orderly.exists_channel listed
  have unwatched := (orderly.each n channel there).unwatched
  obtain ⟨learns, reply⟩ := Channel.hearControl_asked unwatched mesh.time asks
  have told := orderly.learns wired listed reached there learns
  unfold Mesh.answerControl
  rw [channel_eq there]
  split
  · exact orderly
  · unfold Mesh.modifyGet
    rw [channel_eq there]
    dsimp only
    cases followUp : (channel.hearControl mesh.time event).1 with
    | nothing => exact told
    | answer _ => exact told
    | inquire place =>
      rw [followUp] at reply
      obtain ⟨id, isMember⟩ := reply
      exact pings _ n self id place told listed isMember
    | deliver _ =>
      rw [followUp] at reply
      exact reply.elim

theorem requestFrom (orderly : mesh.Orderly roster firm) (wired : roster.Wired) {ping : Pinger}
    (pings : KeepsOrder roster firm ping) (own : Memory.UnicastEnd) {domain : String} {id : NodeId}
    {address : Address} (isMember : roster.IsMember domain id address) {event : Event}
    (asks : event.AsksOnly (roster.IsMember domain)) :
    (mesh.requestFrom ping own address event).2.Orderly roster firm := by
  unfold Mesh.requestFrom
  split
  · rename_i party routed
    obtain ⟨n, self, rfl, listed, reached⟩ := orderly.channel_of_route wired routed
    have noted := orderly.note (.reached (.channel n) true event)
    rw [← wired.domain_of_address listed reached isMember] at asks
    unfold Mesh.answer
    dsimp only
    split
    · exact noted
    · exact noted.answerControl wired pings listed reached asks
    · exact noted.note _
  · exact orderly

theorem requestWith (orderly : mesh.Orderly roster firm) (wired : roster.Wired) {ping : Pinger}
    (pings : KeepsOrder roster firm ping) {n : Nat} {self : Channel}
    (listed : roster.channels[n]? = some self) {id : NodeId} {address : Address}
    (isMember : roster.IsMember self.domain id address) {event : Event}
    (asks : event.AsksOnly (roster.IsMember self.domain)) :
    (mesh.requestWith ping n address event).2.Orderly roster firm := by
  obtain ⟨own, line⟩ := orderly.line_eq wired listed
  unfold Mesh.requestWith
  rw [line]
  exact (orderly.note (.asked n address event)).requestFrom wired pings own isMember asks

/-- The event of a channel is that of the same channel on the roster. -/
theorem controlEvent_eq (orderly : mesh.Orderly roster firm) {n : Nat} {self : Channel}
    (listed : roster.channels[n]? = some self) (scope : Scope) (message : ControlMessage) :
    (mesh.channel n).controlEvent scope message = self.controlEvent scope message := by
  obtain ⟨channel, there, same⟩ := orderly.exists_channel listed
  rw [channel_eq there, ← same]
  rfl

/-- **A channel pings a member of its domain in order**, however deep pings may be nested. -/
theorem pingWithin (wired : roster.Wired) (depth : Nat) :
    KeepsOrder roster firm (Mesh.pingWithin depth) := by
  induction depth with
  | zero => exact fun _ _ _ _ _ orderly _ _ => orderly
  | succ depth ih =>
    intro mesh n self id address orderly listed isMember
    unfold Mesh.pingWithin
    dsimp only
    rw [orderly.controlEvent_eq listed]
    split
    · exact orderly
    · rename_i event asks
      exact orderly.requestWith wired ih listed isMember
        (Channel.controlEvent_asks wired listed
          (show SyncRequest.IsAbout _ SyncRequest.ping from trivial) asks)

/-- **A channel asks a member of its domain about other members in order.** -/
theorem ask (orderly : mesh.Orderly roster firm) (wired : roster.Wired) {n : Nat} {self : Channel}
    (listed : roster.channels[n]? = some self) {question : Question} {id : NodeId}
    (isMember : roster.IsMember self.domain id question.address)
    (about : question.request.IsAbout (roster.IsMember self.domain)) (timeout : Duration) :
    (Mesh.ask n mesh question timeout).2.Orderly roster firm := by
  unfold Mesh.ask
  rw [orderly.controlEvent_eq listed]
  split
  · exact orderly
  · rename_i event asks
    exact orderly.requestWith wired (pingWithin wired 1) listed isMember
      (Channel.controlEvent_asks wired listed about asks)

end Orderly

end Mesh

end PeerMesh
