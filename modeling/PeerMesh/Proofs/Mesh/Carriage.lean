/-
**Where events come from that somebody is handed.**

* `Terms` — which events may be forged, and which may wait for the listeners of each channel.
* `Mesh.Hands` — the network hands an event to a party: a channel has broadcast or sent it under its own
  address, or the outsider has forged it.
* `Mesh.Accounts` — what has happened is accounted for: what was handed to somebody, and what a channel
  has handed to a transport carries its address.
* `Mesh.Abides` — a mesh abides by the terms: what is queued to go out carries the address of its channel,
  and what waits for listeners, or may be handed to them, is as the terms allow.
* `Mesh.Carries` — from one mesh to a later one the network is the same, every channel keeps its footing,
  whatever has happened is accounted for, and the terms are still kept. `Mesh.Carriage` — what does so if
  the terms were kept before.
* `post_carriage` — an event that a channel hands to a transport; `ask_carriage` — a question, whoever is
  asked, and whomever it pings; **`turn_carriage`**, `hearScheduled_carriage` — whatever the scheduler of a
  channel does.
-/

import PeerMesh.Proofs.Channel.Footing
import PeerMesh.Proofs.Memory.Reach
import PeerMesh.Proofs.Mesh.Traffic

namespace PeerMesh

/-- Which events may be forged, and which may wait for the listeners of each channel. -/
structure Terms where
  forged : Event → Prop
  owns : Nat → Event → Prop
  /-- What a channel may hold, it may unpack. -/
  unwraps : ∀ {n event inner}, owns n event → event.Wraps inner → owns n inner

namespace Mesh

variable {terms : Terms} {mesh later last : Mesh} {n : Nat} {event : Event}

/-- The network hands an event to a party. -/
inductive Hands (terms : Terms) (mesh : Mesh) (event : Event) (party : Party) : Prop where
  /-- A channel has broadcast it. -/
  | broadcast {n number : Nat} (joined : (mesh.channel n).group = .memory ⟨number, true⟩)
      (stamps : (mesh.channel n).Stamps event)
      (hears : party ∈ mesh.network.audience event.originAddress)
  /-- A channel has sent it. -/
  | send {n : Nat} {own : Memory.UnicastEnd} {address : Address}
      (line : (mesh.channel n).line.own? = some own) (stamps : (mesh.channel n).Stamps event)
      (route : own.route mesh.network address = .ok party)
  /-- The outsider has broadcast it. -/
  | forgedBroadcast (forges : terms.forged event)
      (hears : party ∈ mesh.network.audience event.originAddress)
  /-- The outsider has sent it. -/
  | forgedSend {address : Address} (forges : terms.forged event)
      (route : mesh.outsider.own.route mesh.network address = .ok party)

/-- What has happened is accounted for. -/
def Accounts (terms : Terms) (mesh : Mesh) : Occurrence → Prop
  | .posted n outgoing => (mesh.channel n).Stamps outgoing.event
  | .asked n _ event => (mesh.channel n).Stamps event
  | .reached party _ event => mesh.Hands terms event party
  | .called .. | .discovered .. | .dispatched .. => True

/-- What waits for listeners is as the terms allow. -/
def HoldsOwn (terms : Terms) (mesh : Mesh) : Prop :=
  ∀ n event, (mesh.channel n).consumer.Holds event → terms.owns n event

/-- **A mesh abides by the terms.** -/
structure Abides (terms : Terms) (mesh : Mesh) : Prop where
  stamped : ∀ n, (mesh.channel n).IsStamped
  held : mesh.HoldsOwn terms
  handed : ∀ n event, mesh.Hands terms event (.channel n) → terms.owns n event

/-- The network is the same, every channel keeps its footing, whatever has happened is accounted for, and
what waits for listeners is still as the terms allow. -/
structure Carries (terms : Terms) (before after : Mesh) : Prop where
  network : after.network = before.network
  outsider : after.outsider = before.outsider
  count : after.channels.length = before.channels.length
  keeps : ∀ n, (before.channel n).Keeps (after.channel n)
  held : after.HoldsOwn terms
  log : ∃ since, after.log = since ++ before.log ∧ ∀ entry ∈ since, before.Accounts terms entry.2

/-- What carries on in a mesh that abides by the terms. -/
def Carriage (terms : Terms) (before after : Mesh) : Prop :=
  before.Abides terms → before.Carries terms after

theorem Carriage.refl (terms : Terms) (mesh : Mesh) : mesh.Carriage terms mesh :=
  fun abides => ⟨rfl, rfl, rfl, fun _ => .refl _, abides.held, [], rfl, fun _ none => nomatch none⟩

/-- What the network hands to whom stays the same. -/
theorem Carries.hands (carries : mesh.Carries terms later) {party : Party}
    (hands : mesh.Hands terms event party) : later.Hands terms event party := by
  have group (m : Nat) : (later.channel m).group = (mesh.channel m).group :=
    congrArg Channel.Standing.group (carries.keeps m).standing
  have line (m : Nat) : (later.channel m).line.own? = (mesh.channel m).line.own? :=
    congrArg Channel.Standing.own? (carries.keeps m).standing
  cases hands with
  | broadcast joined stamps hears =>
    exact .broadcast ((group _).trans joined) ((carries.keeps _).stamps stamps) (carries.network ▸ hears)
  | send own stamps route =>
    exact .send ((line _).trans own) ((carries.keeps _).stamps stamps) (carries.network ▸ route)
  | forgedBroadcast forges hears => exact .forgedBroadcast forges (carries.network ▸ hears)
  | forgedSend forges route =>
    exact .forgedSend forges (carries.outsider ▸ carries.network ▸ route)

theorem Carries.hands_before (carries : mesh.Carries terms later) {party : Party}
    (hands : later.Hands terms event party) : mesh.Hands terms event party := by
  have group (m : Nat) : (later.channel m).group = (mesh.channel m).group :=
    congrArg Channel.Standing.group (carries.keeps m).standing
  have line (m : Nat) : (later.channel m).line.own? = (mesh.channel m).line.own? :=
    congrArg Channel.Standing.own? (carries.keeps m).standing
  have stampsBefore {m : Nat} (stamps : (later.channel m).Stamps event) : (mesh.channel m).Stamps event :=
    (carries.keeps m).address.symm.trans stamps
  cases hands with
  | broadcast joined stamps hears =>
    exact .broadcast ((group _).symm.trans joined) (stampsBefore stamps) (carries.network ▸ hears)
  | send own stamps route =>
    exact .send ((line _).symm.trans own) (stampsBefore stamps) (carries.network ▸ route)
  | forgedBroadcast forges hears => exact .forgedBroadcast forges (carries.network ▸ hears)
  | forgedSend forges route =>
    exact .forgedSend forges (carries.outsider ▸ carries.network ▸ route)

theorem Carries.accounts_before (carries : mesh.Carries terms later) {occurrence : Occurrence}
    (accounts : later.Accounts terms occurrence) : mesh.Accounts terms occurrence := by
  cases occurrence with
  | posted m outgoing => exact (carries.keeps m).address.symm.trans accounts
  | asked m address event => exact (carries.keeps m).address.symm.trans accounts
  | reached party isSync event => exact carries.hands_before accounts
  | called | discovered | dispatched => trivial

theorem Carries.trans (first : mesh.Carries terms later) (second : later.Carries terms last) :
    mesh.Carries terms last := by
  obtain ⟨earlier, begins, accounted⟩ := first.log
  obtain ⟨since, goesOn, stillAccounted⟩ := second.log
  refine ⟨second.network.trans first.network, second.outsider.trans first.outsider,
    second.count.trans first.count, fun n => (first.keeps n).trans (second.keeps n), second.held,
    since ++ earlier, by rw [goesOn, begins, List.append_assoc], fun entry among => ?_⟩
  rcases List.mem_append.mp among with new | old
  · exact first.accounts_before (stillAccounted entry new)
  · exact accounted entry old

/-- The terms are still kept. -/
theorem Carries.abides (carries : mesh.Carries terms later) (abides : mesh.Abides terms) :
    later.Abides terms :=
  ⟨fun n => (carries.keeps n).stamped (abides.stamped n), carries.held,
    fun n event hands => abides.handed n event (carries.hands_before hands)⟩

theorem Carriage.trans (first : mesh.Carriage terms later) (second : later.Carriage terms last) :
    mesh.Carriage terms last :=
  fun abides => (first abides).trans (second ((first abides).abides abides))

/-- To tell what carries on, the mesh may be taken to abide by the terms. -/
theorem Carriage.of_abides (carriage : mesh.Abides terms → mesh.Carriage terms later) :
    mesh.Carriage terms later := fun abides => carriage abides abides

/-! ### Small changes -/

/-- Neither a channel changes nor the network, and nothing happens. -/
theorem carriage_of_same (network : later.network = mesh.network) (outsider : later.outsider = mesh.outsider)
    (channels : later.channels = mesh.channels) (log : later.log = mesh.log) :
    mesh.Carriage terms later := by
  have same (n : Nat) : later.channel n = mesh.channel n := by
    unfold channel
    rw [channels]
  refine fun abides => ⟨network, outsider, congrArg List.length channels, fun n => ?_, fun n event => ?_, [],
    log, fun _ none => nomatch none⟩
  · rw [same]
    exact .refl _
  · rw [same]
    exact abides.held n event

theorem enqueue_carriage (mesh : Mesh) (move : Move) : mesh.Carriage terms (mesh.enqueue move) := by
  unfold enqueue
  split
  · exact .refl terms mesh
  · exact carriage_of_same rfl rfl rfl rfl

/-- Something happens that is accounted for. -/
theorem note_carriage (mesh : Mesh) {occurrence : Occurrence} (accounts : mesh.Accounts terms occurrence) :
    mesh.Carriage terms (mesh.note occurrence) := by
  refine fun abides => ⟨rfl, rfl, rfl, fun _ => .refl _, abides.held, [(mesh.time, occurrence)], rfl,
    fun entry among => ?_⟩
  rw [List.mem_singleton] at among
  subst among
  exact accounts

/-- A channel changes that keeps its footing, and holds nothing new or what it may. -/
theorem modify_carriage (mesh : Mesh) (n : Nat) {change : Channel → Channel}
    (keeps : (mesh.channel n).Keeps (change (mesh.channel n)))
    (holds : ∀ event, (change (mesh.channel n)).consumer.Holds event →
      (mesh.channel n).consumer.Holds event ∨ terms.owns n event) :
    mesh.Carriage terms (mesh.modify n change) := by
  refine fun abides => ⟨rfl, rfl, List.length_modify _ _ _, fun m => ?_, fun m event => ?_, [], rfl,
    fun _ none => nomatch none⟩
  · rcases mesh.channel_modify_cases n change m with same | ⟨rfl, changed⟩
    · rw [same]
      exact .refl _
    · rw [changed]
      exact keeps
  · rcases mesh.channel_modify_cases n change m with same | ⟨rfl, changed⟩
    · rw [same]
      exact abides.held m event
    · rw [changed]
      intro held
      rcases holds event held with before | owned
      · exact abides.held m event before
      · exact owned

/-- A channel changes whose footing stays, and so do its queues. -/
theorem change_carriage (mesh : Mesh) (n : Nat) {change : Channel → Channel}
    (learns : (mesh.channel n).OnlyLearns (change (mesh.channel n))) :
    mesh.Carriage terms (mesh.modify n change) :=
  mesh.modify_carriage n learns.keeps fun _ held => .inl (learns.consumer ▸ held)

/-- A consumer changes whose listeners stay. -/
theorem consumer_carriage (mesh : Mesh) (n : Nat)
    (change : Consumer Listener Replier → Consumer Listener Replier)
    (atRest : (change (mesh.channel n).consumer).atRest = (mesh.channel n).consumer.atRest)
    (holds : ∀ event, (change (mesh.channel n).consumer).Holds event →
      (mesh.channel n).consumer.Holds event ∨ terms.owns n event) :
    mesh.Carriage terms (mesh.modify n fun channel =>
      { channel with consumer := change channel.consumer }) := by
  refine mesh.modify_carriage n (Channel.keeps_of_publisher ?_ (.refl _) (.inl rfl)) holds
  unfold Channel.footing
  dsimp only
  rw [Consumer.tables_of_atRest atRest]
  rfl

/-! ### Events that go out -/

/-- **A channel is handed an event** that it may hold. -/
theorem hand_carriage (mesh : Mesh) (owns : terms.owns n event) :
    mesh.Carriage terms (mesh.hand n event) := by
  have handed : mesh.Carriage terms (mesh.modify n fun channel =>
      { channel with consumer := (mesh.channel n).consumer.accept event }) := by
    refine mesh.consumer_carriage n (fun _ => (mesh.channel n).consumer.accept event)
      (Consumer.accept_atRest _ event) fun other held => ?_
    rcases Consumer.holds_accept held with before | rfl
    · exact .inl before
    · exact .inr owns
  unfold hand
  dsimp only
  split
  · exact handed.trans (enqueue_carriage _ _)
  · exact handed

theorem arrive_carriage (mesh : Mesh) {party : Party} (hands : mesh.Hands terms event party) :
    mesh.Carriage terms (mesh.arrive event party) := by
  refine .of_abides fun abides => ?_
  have noted : mesh.Carriage terms (mesh.note (.reached party false event)) := mesh.note_carriage hands
  unfold arrive
  cases party with
  | outsider receiver => exact noted
  | channel n => exact noted.trans (hand_carriage _ (abides.handed n event hands))

/-- An event arrives with everybody to whom the network hands it. -/
theorem arriveAll_carriage (mesh : Mesh) {parties : List Party}
    (hands : ∀ party ∈ parties, mesh.Hands terms event party) :
    mesh.Carriage terms (parties.foldl (arrive event) mesh) :=
  List.foldlRecOn parties _ (Carriage.refl terms mesh) fun between carriage party hears =>
    fun abides => carriage.trans
      (between.arrive_carriage ((carriage abides).hands (hands party hears))) abides

theorem spread_carriage (mesh : Mesh) (group : GroupLink) (event : Event)
    (hands : ∀ number, group = .memory ⟨number, true⟩ →
      ∀ party ∈ mesh.network.audience event.originAddress, mesh.Hands terms event party) :
    mesh.Carriage terms (mesh.spread group event).2 := by
  unfold spread
  split
  · rename_i member
    obtain ⟨number, isStarted⟩ := member
    unfold Memory.GroupEnd.audience
    cases isStarted with
    | true => exact mesh.arriveAll_carriage (hands number rfl)
    | false => exact .refl terms mesh
  · exact .refl terms mesh

theorem carry_carriage (mesh : Mesh) (own : Memory.UnicastEnd) (address : Address) (event : Event)
    (hands : ∀ party, own.route mesh.network address = .ok party → mesh.Hands terms event party) :
    mesh.Carriage terms (mesh.carry own address event).2 := by
  unfold carry
  split
  · rename_i party route
    exact mesh.arrive_carriage (hands party route)
  · exact .refl terms mesh

theorem stream_carriage (mesh : Mesh) {client : Client} (line : (mesh.channel n).line = .stream client)
    (address : Address) (event : Event) (expectsReply : Bool) :
    mesh.Carriage terms (mesh.stream n client address event expectsReply).2 := by
  refine mesh.change_carriage n ⟨?_, .refl _, rfl, rfl⟩
  unfold Channel.footing Channel.standing
  rw [line]
  rfl

/-- **A channel hands an event to a transport**, which carries its address. -/
theorem post_carriage (mesh : Mesh) (outgoing : Outgoing)
    (stamps : (mesh.channel n).Stamps outgoing.event) :
    mesh.Carriage terms (mesh.post n outgoing).2 := by
  have noted : mesh.Carriage terms (mesh.note (.posted n outgoing)) := mesh.note_carriage stamps
  refine noted.trans ?_
  unfold post
  cases outgoing with
  | broadcast event =>
    exact spread_carriage _ _ event fun number joined party hears => .broadcast joined stamps hears
  | send address event =>
    dsimp only
    split
    · rename_i own line
      refine carry_carriage _ own address event fun party route => .send ?_ stamps route
      show (mesh.channel n).line.own? = some own
      rw [line]
      rfl
    · rename_i client line
      exact stream_carriage (mesh.note (.posted n (.send address event))) line address event false

theorem postAll_carriage (mesh : Mesh) {outgoing : List Outgoing}
    (stamps : ∀ one ∈ outgoing, (mesh.channel n).Stamps one.event) :
    mesh.Carriage terms (mesh.postAll n outgoing) :=
  List.foldlRecOn outgoing _ (Carriage.refl terms mesh) fun between carriage one among =>
    fun abides => carriage.trans
      (between.post_carriage one (((carriage abides).keeps n).stamps (stamps one among))) abides

/-! ### Questions -/

section

variable {pinger : Pinger} (pings : ∀ (mesh : Mesh) (k : Nat) (address : Address),
  mesh.Carriage terms (pinger mesh k address).2)

include pings

/-- A control message may carry an event, which is handed to the listeners. -/
theorem answerControl_carriage (mesh : Mesh) (owns : terms.owns n event) :
    mesh.Carriage terms (mesh.answerControl pinger n event).2 := by
  have heard : mesh.Carriage terms (mesh.modifyGet n (·.hearControl mesh.time event)).2 :=
    mesh.change_carriage n ((mesh.channel n).hearControl_onlyLearns mesh.time event)
  unfold answerControl
  split
  · exact .refl terms mesh
  · dsimp only
    split
    · exact heard
    · exact heard
    · rename_i inner hears
      have wraps : event.Wraps inner := Channel.hearControl_wraps hears
      exact heard.trans (hand_carriage _ (terms.unwraps owns wraps))
    · exact heard.trans (pings _ n _)

theorem answer_carriage (mesh : Mesh) {party : Party} (hands : mesh.Hands terms event party) :
    mesh.Carriage terms (mesh.answer pinger event party).2 := by
  refine .of_abides fun abides => ?_
  have noted : mesh.Carriage terms (mesh.note (.reached party true event)) := mesh.note_carriage hands
  unfold answer
  cases party with
  | outsider receiver => exact noted
  | channel n =>
    dsimp only
    split
    · exact noted
    · exact noted.trans (answerControl_carriage pings _ (abides.handed n event hands))
    · exact noted.trans (note_carriage _ trivial)

theorem requestFrom_carriage (mesh : Mesh) (own : Memory.UnicastEnd) (address : Address)
    (event : Event)
    (hands : ∀ party, own.route mesh.network address = .ok party → mesh.Hands terms event party) :
    mesh.Carriage terms (mesh.requestFrom pinger own address event).2 := by
  unfold requestFrom
  split
  · rename_i party route
    exact answer_carriage pings mesh (hands party route)
  · exact .refl terms mesh

theorem requestWith_carriage (mesh : Mesh) (stamps : (mesh.channel n).Stamps event) (address : Address) :
    mesh.Carriage terms (mesh.requestWith pinger n address event).2 := by
  have noted : mesh.Carriage terms (mesh.note (.asked n address event)) := mesh.note_carriage stamps
  refine noted.trans ?_
  unfold requestWith
  dsimp only
  split
  · rename_i own line
    refine requestFrom_carriage pings _ own address event fun party route => .send ?_ stamps route
    show (mesh.channel n).line.own? = some own
    rw [line]
    rfl
  · rename_i client line
    have streamed : (mesh.note (.asked n address event)).Carriage terms
        ((mesh.note (.asked n address event)).stream n client address event true).2 :=
      stream_carriage (mesh.note (.asked n address event)) line address event true
    split
    · rename_i sent
      rw [sent] at streamed
      exact streamed
    · rename_i sent
      rw [sent] at streamed
      exact streamed

end

theorem pingWithin_carriage (depth : Nat) : ∀ (mesh : Mesh) (k : Nat) (address : Address),
    mesh.Carriage terms (pingWithin depth mesh k address).2 := by
  induction depth with
  | zero => exact fun mesh _ _ => .refl terms mesh
  | succ depth ih =>
    intro mesh k address
    unfold pingWithin
    dsimp only
    split
    · exact .refl terms mesh
    · rename_i event made
      exact requestWith_carriage ih mesh (Channel.stamps_of_event made) address

theorem request_carriage (mesh : Mesh) (stamps : (mesh.channel n).Stamps event) (address : Address) :
    mesh.Carriage terms (mesh.request n address event).2 :=
  requestWith_carriage (pingWithin_carriage 1) mesh stamps address

/-- **The detector of a channel asks a question.** -/
theorem ask_carriage (mesh : Mesh) (n : Nat) (question : Question) (timeout : Duration) :
    mesh.Carriage terms (Mesh.ask n mesh question timeout).2 := by
  unfold Mesh.ask
  split
  · exact .refl terms mesh
  · rename_i event made
    exact mesh.request_carriage (Channel.stamps_of_event made) question.address

/-! ### The scheduler -/

theorem tell_carriage (mesh : Mesh) (n : Nat) (address : Address) (message : ControlMessage) :
    mesh.Carriage terms (Mesh.tell n mesh address message).2 := by
  unfold Mesh.tell
  split
  · exact .refl terms mesh
  · rename_i event made
    exact mesh.post_carriage (.send address event) (Channel.stamps_of_event made)

theorem tellDomain_carriage (mesh : Mesh) (n : Nat) (message : ControlMessage) :
    mesh.Carriage terms (Mesh.tellDomain n mesh message).2 := by
  unfold Mesh.tellDomain
  dsimp only
  split
  · exact .refl terms mesh
  · rename_i event made
    exact mesh.post_carriage (.broadcast event) (Channel.stamps_of_event made)

/-- The detector changes, and whatever becomes of its view happens to it. -/
theorem update_carriage (mesh : Mesh) (draw : Draw) (n : Nat) (change : Detector → Detector)
    (becomes : ∀ detector : Detector, detector.view.Becomes (change detector).view) :
    mesh.Carriage terms ((stationWith draw n).update change mesh) :=
  mesh.change_carriage n ⟨rfl, becomes _, rfl, rfl⟩

theorem gossip_carriage (mesh : Mesh) (draw : Draw) (n : Nat) :
    mesh.Carriage terms ((stationWith draw n).gossip mesh) := by
  unfold Station.gossip
  dsimp only
  split
  · exact .refl terms mesh
  · rename_i heartbeat messages round
    have told : mesh.Carriage terms (PeerMesh.sendAll (stationWith draw n).send messages _).2 :=
      sendAll_keeps messages
        (fun message _ between carriage => carriage.trans (between.tell_carriage n message.1 message.2))
        (mesh.update_carriage draw n ({ · with heartbeat := heartbeat }) fun _ => .refl _)
    exact told.trans (update_carriage _ draw n _ fun _ => .refl _)

theorem autoBroadcast_carriage (mesh : Mesh) (draw : Draw) (n : Nat) :
    mesh.Carriage terms ((stationWith draw n).autoBroadcast mesh) := by
  unfold Station.autoBroadcast
  dsimp only
  split
  · exact .refl terms mesh
  · rename_i heartbeat messages round
    exact broadcastAll_keeps messages
      (fun message _ between carriage => carriage.trans (between.tellDomain_carriage n message))
      (mesh.update_carriage draw n ({ · with heartbeat := heartbeat }) fun _ => .refl _)

theorem beginRound_carriage (mesh : Mesh) (draw : Draw) (n : Nat) :
    mesh.Carriage terms ((stationWith draw n).beginRound mesh).2 :=
  Station.beginRound_keeps
    (fun _ between routine carriage => carriage.trans (between.update_carriage draw n _ routine.becomes))
    (fun between question timeout carriage => carriage.trans (between.ask_carriage n question timeout))
    (.refl terms mesh)

/-- **The scheduler of a channel takes its turn.** -/
theorem turn_carriage (mesh : Mesh) (draw : Draw) (n : Nat) :
    mesh.Carriage terms ((stationWith draw n).turn mesh) := by
  refine Station.turn_cases (.refl terms mesh) (fun _ _ => mesh.update_carriage draw n _ fun _ => .refl _)
    fun table kind _ _ => ?_
  unfold Station.beginScheduled
  cases kind with
  | control => exact (mesh.beginRound_carriage draw n).trans (update_carriage _ draw n _ fun _ => .refl _)
  | gossip => exact (mesh.gossip_carriage draw n).trans (update_carriage _ draw n _ fun _ => .refl _)
  | broadcast => exact (mesh.autoBroadcast_carriage draw n).trans (update_carriage _ draw n _ fun _ => .refl _)

/-- **A reply is heard that is due.** -/
theorem hearScheduled_carriage (mesh : Mesh) (draw : Draw) (n : Nat) :
    mesh.Carriage terms ((stationWith draw n).hearScheduled mesh) := by
  unfold Station.hearScheduled
  split
  · exact .refl terms mesh
  · rename_i round under
    split
    · exact .refl terms mesh
    · rename_i awaited arrived
      have heard : mesh.Carriage terms ((stationWith draw n).hear round awaited mesh).2 :=
        Station.hear_keeps
          (fun _ between routine carriage => carriage.trans (between.update_carriage draw n _ routine.becomes))
          round awaited (.refl terms mesh)
      exact heard.trans (update_carriage _ draw n _ fun _ => .refl _)

end Mesh

end PeerMesh
