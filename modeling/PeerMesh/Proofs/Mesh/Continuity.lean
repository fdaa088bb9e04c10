/-
**Traffic goes on without losing anything.**

* `Mesh.hasAnnounced` — whether a channel has announced itself.
* `Mesh.GoesOn` — from one mesh to a later one every channel goes on (`Channel.GoesOn`), the same parties
  are reached, and nobody announces itself.
* `post_goesOn` — an event that goes out, unless it is an announcement; `posted_goesOn` is about what an
  announcement does when it has gone out.
* `ask_goesOn` — a question, whoever is asked, and whomever it pings.
* **`turn_goesOn`**, `hearScheduled_goesOn` — whatever the scheduler of a channel does.
* `follow_goesOn` — what a handled event calls for.
-/

import PeerMesh.Mesh.Operations
import PeerMesh.Proofs.Channel.Continuity
import PeerMesh.Proofs.Detector.Batches
import PeerMesh.Proofs.Mesh.Roster

namespace PeerMesh

/-- Whether a channel announces itself by what has happened. -/
def Occurrence.announces (n : Nat) : Occurrence → Bool
  | .posted m (.broadcast event) => m = n && event.kind = ProtocolKind.publish.text
  | _ => false

/-- The event that goes out. -/
def Outgoing.event : Outgoing → Event
  | .broadcast event | .send _ event => event

namespace Mesh

/-- Whether a channel has announced itself. -/
def hasAnnounced (mesh : Mesh) (n : Nat) : Bool := mesh.log.any fun entry => entry.2.announces n

/-- From one mesh to a later one every channel goes on, and nobody announces itself. -/
structure GoesOn (before after : Mesh) : Prop where
  network : after.network = before.network
  announced : ∀ n, after.hasAnnounced n = before.hasAnnounced n
  count : after.channels.length = before.channels.length
  channels : ∀ (m : Nat) (channel : Channel), before.channels[m]? = some channel →
    ∃ later, after.channels[m]? = some later ∧ channel.GoesOn later

variable {mesh later last : Mesh} {n : Nat} {event : Event}

theorem GoesOn.refl (mesh : Mesh) : mesh.GoesOn mesh :=
  ⟨rfl, fun _ => rfl, rfl, fun _ channel found => ⟨channel, found, .refl channel⟩⟩

theorem GoesOn.trans (first : mesh.GoesOn later) (second : later.GoesOn last) : mesh.GoesOn last := by
  refine ⟨second.network.trans first.network, fun n => (second.announced n).trans (first.announced n),
    second.count.trans first.count, fun m channel found => ?_⟩
  obtain ⟨between, isBetween, begins⟩ := first.channels m channel found
  obtain ⟨last, isLast, goesOn⟩ := second.channels m between isBetween
  exact ⟨last, isLast, begins.trans goesOn⟩

/-- Only the channels, the network and the announcements matter. -/
theorem GoesOn.of_same {after : Mesh} (goesOn : mesh.GoesOn later) (channels : after.channels = later.channels)
    (network : after.network = later.network) (announced : ∀ n, after.hasAnnounced n = later.hasAnnounced n) :
    mesh.GoesOn after := by
  obtain ⟨sameNetwork, sameAnnounced, count, each⟩ := goesOn
  rw [← channels] at count each
  exact ⟨network.trans sameNetwork, fun n => (announced n).trans (sameAnnounced n), count, each⟩

theorem note_goesOn (mesh : Mesh) (occurrence : Occurrence) (silent : ∀ n, occurrence.announces n = false) :
    mesh.GoesOn (mesh.note occurrence) := by
  refine (GoesOn.refl mesh).of_same rfl rfl fun n => ?_
  unfold hasAnnounced note
  rw [List.any_cons, silent n, Bool.false_or]

theorem enqueue_goesOn (mesh : Mesh) (move : Move) : mesh.GoesOn (mesh.enqueue move) := by
  unfold enqueue
  split
  · exact .refl mesh
  · exact (GoesOn.refl mesh).of_same rfl rfl fun _ => rfl

theorem modify_goesOn (mesh : Mesh) (n : Nat) {change : Channel → Channel}
    (changes : ∀ channel, mesh.channels[n]? = some channel → channel.GoesOn (change channel)) :
    mesh.GoesOn (mesh.modify n change) := by
  refine ⟨rfl, fun _ => rfl, List.length_modify _ _ _, fun m channel found => ?_⟩
  have changed : (mesh.channels.modify n change)[m]? =
      some (if n = m then change channel else channel) := by
    rw [List.getElem?_modify, found]
    rfl
  refine ⟨_, changed, ?_⟩
  by_cases same : n = m
  · subst same
    rw [if_pos rfl]
    exact changes channel found
  · rw [if_neg same]
    exact .refl channel

/-! ### Events that go out -/

theorem hand_goesOn (mesh : Mesh) (n : Nat) (friendly : event.IsFriendly) :
    mesh.GoesOn (mesh.hand n event) := by
  have handed : mesh.GoesOn (mesh.modify n fun channel =>
      { channel with consumer := (mesh.channel n).consumer.accept event }) := by
    refine mesh.modify_goesOn n fun channel found => ?_
    rw [channel_eq found]
    exact channel.accept_goesOn friendly
  unfold hand
  dsimp only
  split
  · exact handed.trans (enqueue_goesOn _ _)
  · exact handed

theorem arrive_goesOn (mesh : Mesh) (friendly : event.IsFriendly) (party : Party) :
    mesh.GoesOn (mesh.arrive event party) := by
  have noted := mesh.note_goesOn (.reached party false event) fun _ => rfl
  unfold arrive
  cases party with
  | outsider receiver => exact noted
  | channel n => exact noted.trans (hand_goesOn _ n friendly)

theorem arriveAll_goesOn (mesh : Mesh) (friendly : event.IsFriendly) (parties : List Party) :
    mesh.GoesOn (parties.foldl (arrive event) mesh) :=
  List.foldlRecOn (motive := mesh.GoesOn) parties _ (.refl mesh) fun between goesOn party _ =>
    goesOn.trans (between.arrive_goesOn friendly party)

theorem stream_goesOn (mesh : Mesh) (n : Nat) (client : Client) (address : Address) (event : Event)
    (expectsReply : Bool) : mesh.GoesOn (mesh.stream n client address event expectsReply).2 :=
  mesh.modify_goesOn n fun _ _ =>
    ⟨rfl, rfl, rfl, rfl, List.Subset.refl _, fun _ queued => .inl queued, Nat.le_refl _, .refl _⟩

/-- What happens when an event has gone out. -/
theorem posted_goesOn (mesh : Mesh) (n : Nat) {outgoing : Outgoing}
    (friendly : outgoing.event.IsFriendly) :
    (mesh.note (.posted n outgoing)).GoesOn (mesh.post n outgoing).2 := by
  unfold post
  cases outgoing with
  | broadcast event =>
    dsimp only
    unfold spread
    split
    · split
      · exact arriveAll_goesOn _ friendly _
      · exact .refl _
    · exact .refl _
  | send address event =>
    dsimp only
    split
    · unfold carry
      split
      · exact arrive_goesOn _ friendly _
      · exact .refl _
    · exact stream_goesOn _ n _ address event false

/-- An event is sent to an address. -/
theorem send_goesOn (mesh : Mesh) (n : Nat) (address : Address) (friendly : event.IsFriendly) :
    mesh.GoesOn (mesh.post n (.send address event)).2 :=
  (mesh.note_goesOn _ fun _ => rfl).trans (mesh.posted_goesOn n friendly)

/-- An event is broadcast that is no announcement. -/
theorem broadcast_goesOn (mesh : Mesh) (n : Nat) (friendly : event.IsFriendly)
    (silent : event.kind ≠ ProtocolKind.publish.text) : mesh.GoesOn (mesh.post n (.broadcast event)).2 := by
  refine (mesh.note_goesOn _ fun m => ?_).trans (mesh.posted_goesOn n friendly)
  show (decide (n = m) && decide (event.kind = ProtocolKind.publish.text)) = false
  rw [decide_eq_false silent, Bool.and_false]

/-! ### Questions -/

section

variable {pinger : Pinger} (pings : ∀ (mesh : Mesh) (k : Nat) (address : Address),
  mesh.GoesOn (pinger mesh k address).2)

include pings

/-- A channel answers a request. -/
theorem answerControl_goesOn (mesh : Mesh) (k : Nat) {question : SyncRequest}
    (carries : event.data = ControlMessage.codec.write (.request question)) :
    mesh.GoesOn (mesh.answerControl pinger k event).2 := by
  unfold answerControl
  split
  · exact .refl mesh
  · have heard : mesh.GoesOn (mesh.modifyGet k (·.hearControl mesh.time event)).2 := by
      refine mesh.modify_goesOn k fun channel found => ?_
      rw [channel_eq found]
      exact channel.hearControl_goesOn mesh.time event
    dsimp only
    split
    · exact heard
    · exact heard
    · -- nobody asks for an event to be delivered to listeners
      rename_i other delivers
      have followUp : ((mesh.channel k).hearControl mesh.time event).1 = .deliver other := delivers
      unfold Channel.hearControl Watched.receive at followUp
      cases read : ControlMessage.codec.decode maxFrameSize event.data with
      | error error =>
        rw [read] at followUp
        cases followUp
      | ok message =>
        rw [read] at followUp
        rw [carries] at read
        obtain ⟨request, rfl⟩ := ControlMessage.exists_request_of_decode read
        dsimp only at followUp
        unfold Watched.receiveRequest at followUp
        cases request with
        | ping => cases followUp
        | healthCheck target address =>
          dsimp only at followUp
          split at followUp <;> cases followUp
    · exact heard.trans (pings _ k _)

theorem answer_goesOn (mesh : Mesh) {question : SyncRequest}
    (carries : event.data = ControlMessage.codec.write (.request question)) (party : Party) :
    mesh.GoesOn (mesh.answer pinger event party).2 := by
  have noted := mesh.note_goesOn (.reached party true event) fun _ => rfl
  unfold answer
  cases party with
  | outsider receiver => exact noted
  | channel k =>
    dsimp only
    split
    · exact noted
    · exact noted.trans (answerControl_goesOn pings _ k carries)
    · exact noted.trans (note_goesOn _ _ fun _ => rfl)

theorem requestWith_goesOn (mesh : Mesh) (n : Nat) (address : Address) {question : SyncRequest}
    (carries : event.data = ControlMessage.codec.write (.request question)) :
    mesh.GoesOn (mesh.requestWith pinger n address event).2 := by
  have noted := mesh.note_goesOn (.asked n address event) fun _ => rfl
  refine noted.trans ?_
  unfold requestWith
  dsimp only
  split
  · unfold requestFrom
    split
    · exact answer_goesOn pings _ carries _
    · exact .refl _
  · rename_i client line
    have streamed := stream_goesOn (mesh.note (.asked n address event)) n client address event true
    split
    · rename_i sent
      rw [sent] at streamed
      exact streamed
    · rename_i sent
      rw [sent] at streamed
      exact streamed

end

theorem pingWithin_goesOn (depth : Nat) : ∀ (mesh : Mesh) (k : Nat) (address : Address),
    mesh.GoesOn (pingWithin depth mesh k address).2 := by
  induction depth with
  | zero => exact fun mesh _ _ => .refl mesh
  | succ depth ih =>
    intro mesh k address
    unfold pingWithin
    dsimp only
    split
    · exact .refl mesh
    · rename_i event asks
      obtain ⟨_, _, rfl⟩ := Channel.eq_of_protocolEvent asks
      exact requestWith_goesOn ih mesh k address rfl

/-- **A question goes out and is answered.** -/
theorem ask_goesOn (mesh : Mesh) (n : Nat) (question : Question) (timeout : Duration) :
    mesh.GoesOn (mesh.ask n question timeout).2 := by
  unfold Mesh.ask
  split
  · exact .refl mesh
  · rename_i event asks
    obtain ⟨_, _, rfl⟩ := Channel.eq_of_protocolEvent asks
    exact requestWith_goesOn (pingWithin_goesOn 1) mesh n question.address rfl

/-! ### The scheduler -/

theorem tell_goesOn (mesh : Mesh) (n : Nat) (address : Address) (message : ControlMessage) :
    mesh.GoesOn (Mesh.tell n mesh address message).2 := by
  unfold Mesh.tell
  split
  · exact .refl mesh
  · rename_i event tells
    obtain ⟨_, _, rfl⟩ := Channel.eq_of_protocolEvent tells
    exact mesh.send_goesOn n address (Event.isFriendly_of_kind rfl (.inr rfl))

theorem tellDomain_goesOn (mesh : Mesh) (n : Nat) (message : ControlMessage) :
    mesh.GoesOn (Mesh.tellDomain n mesh message).2 := by
  unfold Mesh.tellDomain
  dsimp only
  split
  · exact .refl mesh
  · rename_i event tells
    obtain ⟨_, _, rfl⟩ := Channel.eq_of_protocolEvent tells
    have silent : ProtocolKind.control.text ≠ ProtocolKind.publish.text := by decide
    exact mesh.broadcast_goesOn n (Event.isFriendly_of_kind rfl (.inr rfl)) silent

theorem update_goesOn (mesh : Mesh) (draw : Draw) (n : Nat) {change : Detector → Detector}
    (endures : ∀ detector : Detector, detector.Endures (change detector)) :
    mesh.GoesOn ((stationWith draw n).update change mesh) :=
  mesh.modify_goesOn n fun channel _ => Channel.goesOn_of_detector (endures channel.detector)

/-- The scheduler, its round and the heartbeat number have nothing to do with peers. -/
theorem reschedule_goesOn (mesh : Mesh) (draw : Draw) (n : Nat) (change : Detector → Detector)
    (counts : ∀ detector, (change detector).counts.declaredDead = detector.counts.declaredDead)
    (watched : ∀ detector, (change detector).watched = detector.watched) :
    mesh.GoesOn ((stationWith draw n).update change mesh) := by
  refine mesh.update_goesOn draw n fun detector => Detector.endures_of_counts (counts detector) ?_
  rw [watched]
  exact .refl _

theorem gossip_goesOn (mesh : Mesh) (draw : Draw) (n : Nat) :
    mesh.GoesOn ((stationWith draw n).gossip mesh) := by
  unfold Station.gossip
  dsimp only
  split
  · exact .refl mesh
  · rename_i heartbeat messages round
    have numbered := mesh.reschedule_goesOn draw n ({ · with heartbeat := heartbeat }) (fun _ => rfl)
      fun _ => rfl
    have told : mesh.GoesOn (PeerMesh.sendAll (stationWith draw n).send messages _).2 := sendAll_keeps messages
      (fun message _ between goesOn => goesOn.trans (between.tell_goesOn n message.1 message.2)) numbered
    exact told.trans (reschedule_goesOn _ draw n _ (fun _ => rfl) fun _ => rfl)

theorem autoBroadcast_goesOn (mesh : Mesh) (draw : Draw) (n : Nat) :
    mesh.GoesOn ((stationWith draw n).autoBroadcast mesh) := by
  unfold Station.autoBroadcast
  dsimp only
  split
  · exact .refl mesh
  · rename_i heartbeat messages round
    have numbered := mesh.reschedule_goesOn draw n ({ · with heartbeat := heartbeat }) (fun _ => rfl)
      fun _ => rfl
    exact broadcastAll_keeps messages
      (fun message _ between goesOn => goesOn.trans (between.tellDomain_goesOn n message)) numbered

theorem beginRound_goesOn (mesh : Mesh) (draw : Draw) (n : Nat) :
    mesh.GoesOn ((stationWith draw n).beginRound mesh).2 :=
  Station.beginRound_keeps
    (fun _ between routine goesOn => goesOn.trans (between.update_goesOn draw n routine.endures))
    (fun between question timeout goesOn => goesOn.trans (between.ask_goesOn n question timeout))
    (.refl mesh)

/-- **The scheduler takes its turn.** -/
theorem turn_goesOn (mesh : Mesh) (draw : Draw) (n : Nat) :
    mesh.GoesOn ((stationWith draw n).turn mesh) := by
  refine Station.turn_cases (.refl mesh)
    (fun _ _ => mesh.reschedule_goesOn draw n _ (fun _ => rfl) fun _ => rfl) fun table kind _ _ => ?_
  unfold Station.beginScheduled
  cases kind with
  | control =>
    exact (mesh.beginRound_goesOn draw n).trans (reschedule_goesOn _ draw n _ (fun _ => rfl) fun _ => rfl)
  | gossip =>
    exact (mesh.gossip_goesOn draw n).trans (reschedule_goesOn _ draw n _ (fun _ => rfl) fun _ => rfl)
  | broadcast =>
    exact (mesh.autoBroadcast_goesOn draw n).trans
      (reschedule_goesOn _ draw n _ (fun _ => rfl) fun _ => rfl)

/-- **A reply is heard that is due.** -/
theorem hearScheduled_goesOn (mesh : Mesh) (draw : Draw) (n : Nat) :
    mesh.GoesOn ((stationWith draw n).hearScheduled mesh) := by
  unfold Station.hearScheduled
  split
  · exact .refl mesh
  · rename_i round under
    split
    · exact .refl mesh
    · rename_i awaited arrived
      have heard : mesh.GoesOn ((stationWith draw n).hear round awaited mesh).2 :=
        Station.hear_keeps
          (fun _ between routine goesOn => goesOn.trans (between.update_goesOn draw n routine.endures))
          round awaited (.refl mesh)
      exact heard.trans (reschedule_goesOn _ draw n _ (fun _ => rfl) fun _ => rfl)

/-! ### Deliveries -/

theorem finishDelivery_goesOn (mesh : Mesh) (n ticket : Nat) : mesh.GoesOn (mesh.finishDelivery n ticket) := by
  refine (mesh.modify_goesOn n fun channel _ => ?_).trans (enqueue_goesOn _ _)
  obtain ⟨pending, same⟩ := channel.consumer.finishDelivery_pending ticket
  refine ⟨rfl, rfl, rfl, same, ?_, fun job queued => .inl ?_, Nat.le_refl _, .refl _⟩
  · rw [pending]
    exact List.Subset.refl _
  · rwa [pending] at queued

theorem tellFinders_goesOn (mesh : Mesh) (n : Nat) (id : NodeId) (address : Address) :
    mesh.GoesOn (mesh.tellFinders n id address) :=
  List.foldlRecOn _ _ (.refl mesh) fun between goesOn _ _ =>
    goesOn.trans (between.note_goesOn _ fun _ => rfl)

/-- **What a handled event calls for is done**, if it calls for nothing but replies: the channel has
changed, the replies go out, and everything goes on. -/
theorem follow_goesOn (mesh : Mesh) (n ticket : Nat) {consequence : Consequence}
    (deliversNothing : consequence.delivered = none) (inquiresNothing : consequence.inquiry = none) :
    ∃ changed : Mesh, changed.channels = mesh.channels.modify n (fun _ => consequence.channel) ∧
      changed.network = mesh.network ∧ changed.log = mesh.log ∧
      (changed.postAll n (consequence.replies.map fun reply => .send reply.1 reply.2)).GoesOn
        (mesh.follow n ticket consequence) := by
  let changed := mesh.modify n fun _ => consequence.channel
  refine ⟨if (mesh.channel n).announcing ≠ consequence.channel.announcing then
    changed.enqueueLast (.announce n) else changed, ?_, ?_, ?_, ?_⟩
  · split <;> rfl
  · split <;> rfl
  · split <;> rfl
  · unfold follow
    rw [deliversNothing, inquiresNothing]
    refine GoesOn.trans ?_ (finishDelivery_goesOn _ n ticket)
    cases consequence.found with
    | none => exact .refl _
    | some peer => exact tellFinders_goesOn _ n peer.1 peer.2

theorem sendAll_goesOn (mesh : Mesh) (n : Nat) {replies : List (Address × Event)}
    (friendly : ∀ reply ∈ replies, reply.2.IsFriendly) :
    mesh.GoesOn (mesh.postAll n (replies.map fun reply => .send reply.1 reply.2)) := by
  refine List.foldlRecOn _ _ (.refl mesh) fun between goesOn outgoing member => ?_
  obtain ⟨reply, listed, rfl⟩ := List.mem_map.mp member
  exact goesOn.trans (between.send_goesOn n reply.1 (friendly reply listed))

end Mesh

end PeerMesh
