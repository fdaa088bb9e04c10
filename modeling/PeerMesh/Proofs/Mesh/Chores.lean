/-
**What channels do that leaves the frame of every channel alone.**

* `Mesh.Queues` — whatever is queued to be broadcast is allowed. `Mesh.Voices` — what a channel broadcasts is
  for its own domain and announces nobody, or is allowed.
* `Mesh.Keeps` — from one mesh to a later one neither time has passed nor has the network, the registry, the
  outsider or the frame of a channel changed, and all that was broadcast and is queued is in order.
  `Mesh.Chore` — what does so if all that was queued before was allowed.
* `post_chore` — an event that a channel hands to a transport; `ask_chore` — a question, whoever is asked, and
  whomever it pings; **`turn_chore`**, `hearScheduled_chore` — whatever the scheduler of a channel does.
* **`deliver_chore`** — a delivery, unless the channel is called upon to announce itself; `dispatchNext_chore` —
  a queued event goes out.
* `submit_chore` — an allowed event is queued.
-/

import PeerMesh.Proofs.Channel.Footing
import PeerMesh.Proofs.Channel.Frame
import PeerMesh.Proofs.Mesh.Traffic

namespace PeerMesh

/-- An exchange over a connection leaves of a client all but its numbers and its partners. -/
theorem Client.exchange_bare (client : Client) (resolve : Address → Option Socket.Endpoint)
    (connect : Socket.Endpoint → Except IoFailure FarSide) (address : Address) (event : Event)
    (expectsReply : Bool) :
    (client.exchange resolve connect address event expectsReply).2.bare = client.bare := by
  unfold exchange
  split
  · rfl
  · rfl
  · split
    · rfl
    · dsimp only
      split <;> rfl

/-- What is known of an event that a channel has made. -/
theorem Channel.of_event {channel : Channel} {scope : Scope} {kind : String} {data : Bytes} {event : Event}
    (made : channel.event scope kind data = .ok event) : event.scope = scope ∧ event.kind = kind := by
  unfold Channel.event at made
  split at made
  · cases made
  · cases made
    exact ⟨rfl, rfl⟩

namespace Mesh

variable {allowed : Nat → Event → Prop} {mesh later last : Mesh} {n : Nat} {event : Event}

/-- Whatever is queued to be broadcast is allowed. -/
def Queues (allowed : Nat → Event → Prop) (mesh : Mesh) : Prop :=
  ∀ n event, .broadcast event ∈ (mesh.channel n).outbox → allowed n event

/-- What a channel broadcasts is for its own domain and announces nobody, or it is allowed. -/
def Voices (allowed : Nat → Event → Prop) (mesh : Mesh) : Occurrence → Prop
  | .posted n (.broadcast event) =>
    (event.scope = .named (mesh.channel n).domain ∧ event.kind ≠ ProtocolKind.publish.text) ∨ allowed n event
  | _ => True

/-- Neither has time passed nor has the network, the registry, the outsider or the frame of a channel changed,
and all that was broadcast and is queued is in order. -/
structure Keeps (allowed : Nat → Event → Prop) (before after : Mesh) : Prop where
  time : after.time = before.time
  host : after.host = before.host
  network : after.network = before.network
  registry : after.registry = before.registry
  outsider : after.outsider = before.outsider
  count : after.channels.length = before.channels.length
  frame : ∀ n, (after.channel n).frame = (before.channel n).frame
  queues : after.Queues allowed
  log : ∃ since, after.log = since ++ before.log ∧
    ∀ entry ∈ since, entry.1 = before.time ∧ before.Voices allowed entry.2

/-- What keeps everything if all that was queued before was allowed. -/
def Chore (allowed : Nat → Event → Prop) (before after : Mesh) : Prop :=
  before.Queues allowed → before.Keeps allowed after

theorem Chore.refl (allowed : Nat → Event → Prop) (mesh : Mesh) : mesh.Chore allowed mesh :=
  fun queues => ⟨rfl, rfl, rfl, rfl, rfl, rfl, fun _ => rfl, queues, [], rfl, fun _ none => nomatch none⟩

theorem Keeps.domain (keeps : mesh.Keeps allowed later) (n : Nat) :
    (later.channel n).domain = (mesh.channel n).domain := by
  show (later.channel n).frame.domain = (mesh.channel n).frame.domain
  rw [keeps.frame]

theorem Keeps.voices_before (keeps : mesh.Keeps allowed later) {occurrence : Occurrence}
    (voices : later.Voices allowed occurrence) : mesh.Voices allowed occurrence := by
  cases occurrence with
  | posted n outgoing =>
    cases outgoing with
    | broadcast event =>
      rcases voices with ⟨scope, kind⟩ | may
      · exact .inl ⟨scope.trans (congrArg Scope.named (keeps.domain n)), kind⟩
      · exact .inr may
    | send address event => trivial
  | asked | reached | called | discovered | dispatched => trivial

theorem Keeps.trans (first : mesh.Keeps allowed later) (second : later.Keeps allowed last) :
    mesh.Keeps allowed last := by
  obtain ⟨earlier, begins, voiced⟩ := first.log
  obtain ⟨since, goesOn, stillVoiced⟩ := second.log
  refine ⟨second.time.trans first.time, second.host.trans first.host, second.network.trans first.network,
    second.registry.trans first.registry, second.outsider.trans first.outsider, second.count.trans first.count,
    fun n => (second.frame n).trans (first.frame n), second.queues,
    since ++ earlier, by rw [goesOn, begins, List.append_assoc], fun entry among => ?_⟩
  rcases List.mem_append.mp among with new | old
  · obtain ⟨now, voices⟩ := stillVoiced entry new
    exact ⟨now.trans first.time, first.voices_before voices⟩
  · exact voiced entry old

theorem Chore.trans (first : mesh.Chore allowed later) (second : later.Chore allowed last) :
    mesh.Chore allowed last :=
  fun queues => (first queues).trans (second (first queues).queues)

/-- To tell what is a chore, what is queued may be taken to be allowed. -/
theorem Chore.of_queues (chore : mesh.Queues allowed → mesh.Chore allowed later) : mesh.Chore allowed later :=
  fun queues => chore queues queues

/-- If everything is allowed, a chore keeps the frames. -/
theorem Chore.keeps (chore : mesh.Chore (fun _ _ => True) later) : mesh.Keeps (fun _ _ => True) later :=
  chore fun _ _ _ => trivial

/-! ### Small changes -/

/-- Only moves become ready, and others wait. -/
theorem chore_of_waiting (mesh : Mesh) (agenda : List Move) (gate : Gate Parked) (errands : List Errand) :
    mesh.Chore allowed { mesh with agenda := agenda, gate := gate, errands := errands } :=
  fun queues => ⟨rfl, rfl, rfl, rfl, rfl, rfl, fun _ => rfl, queues, [], rfl, fun _ none => nomatch none⟩

theorem enqueue_chore (mesh : Mesh) (move : Move) : mesh.Chore allowed (mesh.enqueue move) := by
  unfold enqueue
  split
  · exact .refl allowed mesh
  · exact mesh.chore_of_waiting _ mesh.gate mesh.errands

theorem enqueueLast_chore (mesh : Mesh) (move : Move) : mesh.Chore allowed (mesh.enqueueLast move) :=
  mesh.chore_of_waiting _ mesh.gate mesh.errands

theorem enqueueFirst_chore (mesh : Mesh) (move : Move) : mesh.Chore allowed (mesh.enqueueFirst move) :=
  mesh.chore_of_waiting _ mesh.gate mesh.errands

theorem note_chore (mesh : Mesh) {occurrence : Occurrence} (voices : mesh.Voices allowed occurrence) :
    mesh.Chore allowed (mesh.note occurrence) := by
  refine fun queues => ⟨rfl, rfl, rfl, rfl, rfl, rfl, fun _ => rfl, queues, [(mesh.time, occurrence)], rfl,
    fun entry among => ?_⟩
  rw [List.mem_singleton] at among
  subst among
  exact ⟨rfl, voices⟩

/-- A channel changes whose frame stays, and queues nothing that is not allowed. -/
theorem modify_chore (mesh : Mesh) (n : Nat) {change : Channel → Channel}
    (frame : (change (mesh.channel n)).frame = (mesh.channel n).frame)
    (outbox : ∀ event, .broadcast event ∈ (change (mesh.channel n)).outbox →
      .broadcast event ∈ (mesh.channel n).outbox ∨ allowed n event) :
    mesh.Chore allowed (mesh.modify n change) := by
  refine fun queues => ⟨rfl, rfl, rfl, rfl, rfl, List.length_modify _ _ _, fun m => ?_, fun m event => ?_, [],
    rfl, fun _ none => nomatch none⟩
  · rcases mesh.channel_modify_cases n change m with same | ⟨rfl, changed⟩
    · rw [same]
    · rw [changed, frame]
  · rcases mesh.channel_modify_cases n change m with same | ⟨rfl, changed⟩
    · rw [same]
      exact queues m event
    · rw [changed]
      exact fun queued => (outbox event queued).elim (queues m event) id

/-- A channel changes whose frame stays, and queues nothing. -/
theorem change_chore (mesh : Mesh) (n : Nat) {change : Channel → Channel}
    (frame : (change (mesh.channel n)).frame = (mesh.channel n).frame)
    (publisher : (change (mesh.channel n)).publisher = (mesh.channel n).publisher) :
    mesh.Chore allowed (mesh.modify n change) :=
  mesh.modify_chore n frame fun _ queued => .inl (Channel.outbox_of_publisher publisher ▸ queued)

/-- Only deliveries change about the consumer of a channel. -/
theorem consumer_chore (mesh : Mesh) (n : Nat) (change : Consumer Listener Replier → Consumer Listener Replier)
    (atRest : (change (mesh.channel n).consumer).atRest = (mesh.channel n).consumer.atRest) :
    mesh.Chore allowed (mesh.modify n fun channel => { channel with consumer := change channel.consumer }) :=
  mesh.change_chore n (Channel.frame_of_consumer atRest) rfl

/-! ### Events that go out -/

theorem hand_chore (mesh : Mesh) (n : Nat) (event : Event) : mesh.Chore allowed (mesh.hand n event) := by
  have handed : mesh.Chore allowed (mesh.modify n fun channel =>
      { channel with consumer := (mesh.channel n).consumer.accept event }) :=
    mesh.change_chore n (Channel.frame_of_consumer (Consumer.accept_atRest _ event)) rfl
  unfold hand
  dsimp only
  split
  · exact handed.trans (enqueue_chore _ _)
  · exact handed

theorem arrive_chore (mesh : Mesh) (event : Event) (party : Party) :
    mesh.Chore allowed (mesh.arrive event party) := by
  have noted : mesh.Chore allowed (mesh.note (.reached party false event)) := mesh.note_chore trivial
  unfold arrive
  cases party with
  | outsider receiver => exact noted
  | channel n => exact noted.trans (hand_chore _ n event)

theorem spread_chore (mesh : Mesh) (group : GroupLink) (event : Event) :
    mesh.Chore allowed (mesh.spread group event).2 := by
  unfold spread
  split
  · split
    · exact List.foldlRecOn _ _ (Chore.refl allowed mesh) fun between chore party _ =>
        chore.trans (between.arrive_chore event party)
    · exact .refl allowed mesh
  · exact .refl allowed mesh

theorem carry_chore (mesh : Mesh) (own : Memory.UnicastEnd) (address : Address) (event : Event) :
    mesh.Chore allowed (mesh.carry own address event).2 := by
  unfold carry
  split
  · exact mesh.arrive_chore event _
  · exact .refl allowed mesh

theorem stream_chore (mesh : Mesh) {client : Client} (line : (mesh.channel n).line = .stream client)
    (address : Address) (event : Event) (expectsReply : Bool) :
    mesh.Chore allowed (mesh.stream n client address event expectsReply).2 := by
  refine mesh.change_chore n (Channel.frame_of_line ?_) rfl
  rw [line]
  exact congrArg UnicastLink.stream (client.exchange_bare _ _ address event expectsReply)

/-- **A channel hands an event to a transport.** -/
theorem post_chore (mesh : Mesh) {outgoing : Outgoing} (voices : mesh.Voices allowed (.posted n outgoing)) :
    mesh.Chore allowed (mesh.post n outgoing).2 := by
  have noted : mesh.Chore allowed (mesh.note (.posted n outgoing)) := mesh.note_chore voices
  refine noted.trans ?_
  unfold post
  cases outgoing with
  | broadcast event => exact spread_chore _ _ event
  | send address event =>
    dsimp only
    split
    · exact carry_chore _ _ address event
    · rename_i client line
      exact stream_chore (mesh.note (.posted n (.send address event))) line address event false

theorem postAll_chore (mesh : Mesh) {outgoing : List Outgoing}
    (voices : ∀ one ∈ outgoing, mesh.Voices allowed (.posted n one)) :
    mesh.Chore allowed (mesh.postAll n outgoing) := by
  intro queues
  refine List.foldlRecOn (motive := mesh.Keeps allowed) outgoing _ (Chore.refl allowed mesh queues)
    fun between keeps one among => keeps.trans (between.post_chore ?_ keeps.queues)
  have sameDomain := keeps.domain n
  cases one with
  | broadcast event =>
    unfold Voices
    dsimp only
    rw [sameDomain]
    exact voices _ among
  | send address event => trivial

/-! ### Questions -/

section

variable {pinger : Pinger} (pings : ∀ (mesh : Mesh) (k : Nat) (address : Address),
  mesh.Chore allowed (pinger mesh k address).2)

include pings

theorem answerControl_chore (mesh : Mesh) (n : Nat) (event : Event) :
    mesh.Chore allowed (mesh.answerControl pinger n event).2 := by
  have heard : mesh.Chore allowed (mesh.modifyGet n (·.hearControl mesh.time event)).2 :=
    mesh.change_chore n ((mesh.channel n).hearControl_frame mesh.time event) rfl
  unfold answerControl
  split
  · exact .refl allowed mesh
  · dsimp only
    split
    · exact heard
    · exact heard
    · exact heard.trans (hand_chore _ n _)
    · exact heard.trans (pings _ n _)

theorem answer_chore (mesh : Mesh) (event : Event) (party : Party) :
    mesh.Chore allowed (mesh.answer pinger event party).2 := by
  have noted : mesh.Chore allowed (mesh.note (.reached party true event)) := mesh.note_chore trivial
  unfold answer
  cases party with
  | outsider receiver => exact noted
  | channel n =>
    dsimp only
    split
    · exact noted
    · exact noted.trans (answerControl_chore pings _ n event)
    · exact noted.trans (note_chore _ trivial)

theorem requestFrom_chore (mesh : Mesh) (own : Memory.UnicastEnd) (address : Address) (event : Event) :
    mesh.Chore allowed (mesh.requestFrom pinger own address event).2 := by
  unfold requestFrom
  split
  · exact answer_chore pings mesh event _
  · exact .refl allowed mesh

theorem requestWith_chore (mesh : Mesh) (n : Nat) (address : Address) (event : Event) :
    mesh.Chore allowed (mesh.requestWith pinger n address event).2 := by
  have noted : mesh.Chore allowed (mesh.note (.asked n address event)) := mesh.note_chore trivial
  refine noted.trans ?_
  unfold requestWith
  dsimp only
  split
  · exact requestFrom_chore pings _ _ address event
  · rename_i client line
    have streamed : (mesh.note (.asked n address event)).Chore allowed
        ((mesh.note (.asked n address event)).stream n client address event true).2 :=
      stream_chore (mesh.note (.asked n address event)) line address event true
    split
    · rename_i sent
      rw [sent] at streamed
      exact streamed
    · rename_i sent
      rw [sent] at streamed
      exact streamed

end

theorem pingWithin_chore (depth : Nat) : ∀ (mesh : Mesh) (k : Nat) (address : Address),
    mesh.Chore allowed (pingWithin depth mesh k address).2 := by
  induction depth with
  | zero => exact fun mesh _ _ => .refl allowed mesh
  | succ depth ih =>
    intro mesh k address
    unfold pingWithin
    dsimp only
    split
    · exact .refl allowed mesh
    · exact requestWith_chore ih mesh k address _

theorem request_chore (mesh : Mesh) (n : Nat) (address : Address) (event : Event) :
    mesh.Chore allowed (mesh.request n address event).2 :=
  requestWith_chore (pingWithin_chore 1) mesh n address event

/-- **The detector of a channel asks a question.** -/
theorem ask_chore (mesh : Mesh) (n : Nat) (question : Question) (timeout : Duration) :
    mesh.Chore allowed (Mesh.ask n mesh question timeout).2 := by
  unfold Mesh.ask
  split
  · exact .refl allowed mesh
  · exact mesh.request_chore n question.address _

/-- All targets are asked at once. -/
theorem askAll_chore (mesh : Mesh) (n : Nat) (targets : List (Address × Event)) :
    mesh.Chore allowed (mesh.askAll n targets).2 := by
  unfold askAll
  exact List.foldlRecOn (motive := fun asked : List (Address × Behaviour) × Mesh =>
    mesh.Chore allowed asked.2) targets _ (Chore.refl allowed mesh) fun between chore target _ =>
      chore.trans (request_chore _ n target.1 target.2)

/-! ### The scheduler -/

theorem tell_chore (mesh : Mesh) (n : Nat) (address : Address) (message : ControlMessage) :
    mesh.Chore allowed (Mesh.tell n mesh address message).2 := by
  unfold Mesh.tell
  split
  · exact .refl allowed mesh
  · exact mesh.post_chore trivial

/-- What a channel tells its domain is for its domain. -/
theorem tellDomain_chore (mesh : Mesh) (n : Nat) (message : ControlMessage) :
    mesh.Chore allowed (Mesh.tellDomain n mesh message).2 := by
  unfold Mesh.tellDomain
  dsimp only
  split
  · exact .refl allowed mesh
  · rename_i event made
    obtain ⟨scope, kind⟩ := Channel.of_event made
    exact mesh.post_chore (.inl ⟨scope, kind ▸ by decide⟩)

/-- A detector changes whose frame stays. -/
theorem update_chore (mesh : Mesh) (draw : Draw) (n : Nat) {change : Detector → Detector}
    (frame : ∀ detector, (change detector).frame = detector.frame) :
    mesh.Chore allowed ((stationWith draw n).update change mesh) :=
  mesh.change_chore n (Channel.frame_of_detector (frame _)) rfl

theorem gossip_chore (mesh : Mesh) (draw : Draw) (n : Nat) :
    mesh.Chore allowed ((stationWith draw n).gossip mesh) := by
  unfold Station.gossip
  dsimp only
  split
  · exact .refl allowed mesh
  · rename_i heartbeat messages round
    have beaten : mesh.Chore allowed ((stationWith draw n).update ({ · with heartbeat := heartbeat }) mesh) :=
      mesh.update_chore draw n fun _ => rfl
    have told : mesh.Chore allowed (PeerMesh.sendAll (stationWith draw n).send messages _).2 :=
      sendAll_keeps messages
        (fun message _ between chore => chore.trans (between.tell_chore n message.1 message.2)) beaten
    exact told.trans (update_chore _ draw n fun _ => rfl)

theorem autoBroadcast_chore (mesh : Mesh) (draw : Draw) (n : Nat) :
    mesh.Chore allowed ((stationWith draw n).autoBroadcast mesh) := by
  unfold Station.autoBroadcast
  dsimp only
  split
  · exact .refl allowed mesh
  · rename_i heartbeat messages round
    have beaten : mesh.Chore allowed ((stationWith draw n).update ({ · with heartbeat := heartbeat }) mesh) :=
      mesh.update_chore draw n fun _ => rfl
    exact broadcastAll_keeps messages
      (fun message _ between chore => chore.trans (between.tellDomain_chore n message)) beaten

theorem beginRound_chore (mesh : Mesh) (draw : Draw) (n : Nat) :
    mesh.Chore allowed ((stationWith draw n).beginRound mesh).2 :=
  Station.beginRound_keeps
    (fun _ between routine chore => chore.trans (between.update_chore draw n routine.frame))
    (fun between question timeout chore => chore.trans (between.ask_chore n question timeout))
    (.refl allowed mesh)

/-- **The scheduler of a channel takes its turn.** -/
theorem turn_chore (mesh : Mesh) (draw : Draw) (n : Nat) :
    mesh.Chore allowed ((stationWith draw n).turn mesh) := by
  refine Station.turn_cases (.refl allowed mesh) (fun _ _ => mesh.update_chore draw n fun _ => rfl)
    fun table kind _ _ => ?_
  unfold Station.beginScheduled
  cases kind with
  | control => exact (mesh.beginRound_chore draw n).trans (update_chore _ draw n fun _ => rfl)
  | gossip => exact (mesh.gossip_chore draw n).trans (update_chore _ draw n fun _ => rfl)
  | broadcast => exact (mesh.autoBroadcast_chore draw n).trans (update_chore _ draw n fun _ => rfl)

/-- **A reply is heard that is due.** -/
theorem hearScheduled_chore (mesh : Mesh) (draw : Draw) (n : Nat) :
    mesh.Chore allowed ((stationWith draw n).hearScheduled mesh) := by
  unfold Station.hearScheduled
  split
  · exact .refl allowed mesh
  · rename_i round under
    split
    · exact .refl allowed mesh
    · rename_i awaited arrived
      have heard : mesh.Chore allowed ((stationWith draw n).hear round awaited mesh).2 :=
        Station.hear_keeps
          (fun _ between routine chore => chore.trans (between.update_chore draw n routine.frame))
          round awaited (.refl allowed mesh)
      exact heard.trans (update_chore _ draw n fun _ => rfl)

end Mesh

end PeerMesh
