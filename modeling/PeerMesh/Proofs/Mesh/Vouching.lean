/-
**Whose answer keeps a peer alive.**

A ping names nobody, and neither does its answer. So what keeps a peer alive is whoever is reached at the
peer's address, by the channel itself or by a delegate, or the peer itself if it happens to be asked as a
delegate.

* `Mesh.Reaches` — who is reached by a channel at an address.
* `Mesh.Vouches` — the three ways in which a question about a peer is answered well.
* `Mesh.IsTruthful` — only nodes that have tried say that they can reach a peer.
* `vouches_of_affirmed` — among truthful parties there is no fourth way.
* **`vouches_of_reset`** — the end of a probe makes a new record only if, during the round, somebody has
  vouched for the peer in one of these ways.
* `not_only_itself` — this somebody need not be the peer.
-/

import PeerMesh.Mesh.Operations
import PeerMesh.Proofs.Consumer.Deliveries
import PeerMesh.Proofs.Detector.Grounds
import PeerMesh.Proofs.Memory.Network
import PeerMesh.Proofs.Mesh.Roster

namespace PeerMesh

/-- Somebody answers that a peer can be reached. -/
def Behaviour.Assures (behaviour : Behaviour) : Prop :=
  ∃ span data, behaviour = .answers span (some data) ∧
    SyncReply.codec.decode maxFrameSize data = .ok (.reachable true)

/-- The id and the address are texts that fit into a memory. -/
def Record.FitsMemory (record : Record) : Prop :=
  textLength record.id.name < 2 ^ 64 ∧ textLength record.address.text < 2 ^ 64

instance (record : Record) : Decidable record.FitsMemory :=
  inferInstanceAs (Decidable (_ ∧ _))

theorem Record.FitsMemory.words {record : Record} (fits : record.FitsMemory) :
    AreWords (SyncRequest.healthCheck record.id record.address).lengths := by
  intro length among
  rcases List.mem_cons.mp among with rfl | second
  · exact fits.1
  · rw [List.mem_singleton.mp second]
    exact fits.2

namespace Mesh

/-- Who is reached by a channel at an address. -/
def Reaches (mesh : Mesh) (n : Nat) (address : Address) (party : Party) : Prop :=
  ∃ own, (mesh.channel n).line = .memory own ∧ own.route mesh.network address = .ok party

/-- A party does not say that a peer can be reached, unless it is a node that answers questions itself. -/
def IsTruthfulParty (mesh : Mesh) (event : Event) : Party → Prop
  | .outsider receiver => ¬ (receiver.manner.behaviour event).Assures
  | .channel k => ∀ script, (mesh.channel k).consumer.replier? event = some (.script script) →
    ¬ (Behaviour.answers script.delay (script.replyTo event)).Assures

/-- Whoever is reached and asked about a peer, and is not a node that answers questions itself, does not
say that the peer can be reached. -/
def IsTruthful (mesh : Mesh) : Prop :=
  ∀ address endpoint, mesh.network.unicast.get? address = some endpoint → ∀ event target place,
    event.data = ControlMessage.codec.write (.request (.healthCheck target place)) →
      mesh.IsTruthfulParty event endpoint.receiver

/-- Everybody who is reached is a node that answers all questions itself. -/
def isOfNodes (mesh : Mesh) : Bool :=
  mesh.network.unicast.values.all fun endpoint =>
    match endpoint.receiver with
    | .channel k => (mesh.channel k).consumer.syncListeners.values.all (·.2 = .protocol)
    | .outsider _ => false

/-- An event has reached a channel that is to answer it, and the channel has heard it. -/
def handed (mesh : Mesh) (n k : Nat) (address : Address) (event : Event) : Mesh :=
  let reached := (mesh.note (.asked n address event)).note (.reached (.channel k) true event)
  (reached.modifyGet k (·.hearControl mesh.time event)).2

/-- In a mesh, a question of channel `n` about the node `id` at the address `place` is answered well. -/
inductive Vouches (mesh : Mesh) (n : Nat) (timeout : Duration) (id : NodeId) (place : Address) :
    Question → Prop
  /-- Whoever is reached at the address has answered the channel's ping. -/
  | ponged {party : Party} (reached : mesh.Reaches n place party)
      (answered : SyncRequest.ping.isAffirmedBy (mesh.ask n ⟨place, .ping⟩ timeout).1.1 = true) :
      Vouches mesh n timeout id place ⟨place, .ping⟩
  /-- Whoever is reached at the address has answered the ping of a node that was asked about it. -/
  | relayed {address : Address} {k : Nat} {event : Event} {party : Party}
      (asked : mesh.Reaches n address (.channel k))
      (asks : (mesh.channel n).controlEvent .unscoped (.request (.healthCheck id place)) = .ok event)
      (reached : (mesh.handed n k address event).Reaches k place party)
      (answered :
        SyncRequest.ping.isAffirmedBy ((mesh.handed n k address event).ping k place).1.1 = true) :
      Vouches mesh n timeout id place ⟨address, .healthCheck id place⟩
  /-- The node that was asked is the one that the question is about. -/
  | itself {address : Address} {k : Nat} (asked : mesh.Reaches n address (.channel k))
      (own : (mesh.channel k).selfId = id) :
      Vouches mesh n timeout id place ⟨address, .healthCheck id place⟩

/-! ### Where an answer comes from -/

theorem exists_answers_of_ending {behaviour : Behaviour} {timeout : Duration} {data : Option Bytes}
    (ended : (behaviour.ending timeout).1 = .ok data) : ∃ span, behaviour = .answers span data := by
  cases behaviour with
  | fails error => cases ended
  | keepsSilent => cases ended
  | answers span answer =>
    unfold Behaviour.ending at ended
    dsimp only at ended
    split at ended
    · exact ⟨span, by rw [Except.ok.inj ended]⟩
    · cases ended

/-- Nobody answers over connections. -/
theorem stream_fails (mesh : Mesh) (n : Nat) (client : Client) (address : Address) (event : Event) :
    ∃ error, (mesh.stream n client address event true).1 = .error error := by
  have refused : ∃ failure, mesh.host.connect (none : Option FarSide) = .error failure := by
    unfold Socket.Host.connect
    cases mesh.host.connectFailure with
    | some failure => exact ⟨failure, rfl⟩
    | none => exact ⟨Socket.refusal, rfl⟩
  obtain ⟨failure, refused⟩ := refused
  unfold Mesh.stream Client.exchange
  dsimp only
  rw [refused]
  split
  · exact ⟨_, rfl⟩
  · exact ⟨_, rfl⟩
  · split <;> exact ⟨_, rfl⟩

variable {mesh later : Mesh} {pinger : Pinger} {n : Nat} {address : Address} {event : Event}
  {timeout : Duration} {bytes : Bytes}

/-- Whoever answers a request is reached, and has made the answer. -/
theorem exists_reached (replied :
    ((mesh.requestWith pinger n address event).1.ending timeout).1 = .ok (some bytes)) :
    ∃ party span, mesh.Reaches n address party ∧
      ((mesh.note (.asked n address event)).answer pinger event party).1 =
        .answers span (some bytes) := by
  obtain ⟨span, answers⟩ := exists_answers_of_ending replied
  unfold requestWith at answers
  dsimp only at answers
  cases line : (mesh.channel n).line with
  | memory own =>
    rw [line] at answers
    dsimp only at answers
    unfold requestFrom at answers
    split at answers
    · rename_i party routed
      exact ⟨party, span, ⟨own, line, routed⟩, answers⟩
    · cases answers
  | stream client =>
    rw [line] at answers
    obtain ⟨error, fails⟩ := stream_fails (mesh.note (.asked n address event)) n client address event
    dsimp only at answers
    split at answers
    · rename_i silent
      rw [silent] at fails
      cases fails
    · cases answers

/-- Whoever answers a question is reached, and has made the answer. -/
theorem exists_reached_of_ask {question : Question}
    (replied : (mesh.ask n question timeout).1.1 = .ok (some bytes)) :
    ∃ event party span,
      (mesh.channel n).controlEvent .unscoped (.request question.request) = .ok event ∧
      mesh.Reaches n question.address party ∧
      ((mesh.note (.asked n question.address event)).answer ping event party).1 =
        .answers span (some bytes) := by
  unfold Mesh.ask at replied
  cases asks : (mesh.channel n).controlEvent .unscoped (.request question.request) with
  | error error =>
    rw [asks] at replied
    cases replied
  | ok event =>
    rw [asks] at replied
    obtain ⟨party, span, reached, answers⟩ := exists_reached replied
    exact ⟨event, party, span, rfl, reached, answers⟩

/-- Whoever answers a ping is reached. -/
theorem exists_reached_of_ping (answered :
    SyncRequest.ping.isAffirmedBy (mesh.ping n address).1.1 = true) :
    ∃ party, mesh.Reaches n address party := by
  obtain ⟨bytes, replied, _⟩ :=
    SyncReply.ofReply?_eq_some_iff.mp (SyncRequest.ping_isAffirmedBy_iff.mp answered)
  unfold Mesh.ping pingWithin at replied
  dsimp only at replied
  cases asks : (mesh.channel n).controlEvent .unscoped (.request .ping) with
  | error error =>
    rw [asks] at replied
    cases replied
  | ok event =>
    rw [asks] at replied
    obtain ⟨party, _, reached, _⟩ := exists_reached replied
    exact ⟨party, reached⟩

theorem data_of_controlEvent {channel : Channel} {scope : Scope} {message : ControlMessage}
    (made : channel.controlEvent scope message = .ok event) :
    event.data = ControlMessage.codec.write message := by
  unfold Channel.controlEvent Channel.protocolEvent Channel.event at made
  split at made
  · cases made
  · rw [← Except.ok.inj made]

variable {k : Nat} {target : NodeId} {place : Address} {span : Duration}

/-- A node that is asked about another one has to ping it. -/
theorem hearControl_of_check {channel : Channel} {time : Nat} (read :
    ControlMessage.codec.decode maxFrameSize event.data = .ok (.request (.healthCheck target place))) :
    (channel.hearControl time event).1 =
      if target = channel.selfId then .answer (.reachable true) else .inquire place := by
  unfold Channel.hearControl Watched.receive
  rw [read]
  dsimp only
  unfold Watched.receiveRequest
  by_cases own : target = channel.selfId
  · rw [if_pos own]
    exact congrArg Prod.fst (if_pos own)
  · rw [if_neg own]
    exact congrArg Prod.fst (if_neg own)

/-- **A node that says that it can reach a peer is the peer, or its ping was answered.** -/
theorem itself_or_ponged (words : AreWords (SyncRequest.healthCheck target place).lengths)
    (carries : event.data = ControlMessage.codec.write (.request (.healthCheck target place)))
    (answers : (mesh.answerControl pinger k event).1 = .answers span (some bytes))
    (assures : SyncReply.codec.decode maxFrameSize bytes = .ok (.reachable true)) :
    (mesh.channel k).selfId = target ∨ SyncRequest.ping.isAffirmedBy
      (pinger (mesh.modifyGet k (·.hearControl mesh.time event)).2 k place).1.1 = true := by
  unfold Mesh.answerControl at answers
  split at answers
  · cases answers
  · have heard : (mesh.modifyGet k (·.hearControl mesh.time event)).1 =
        ((mesh.channel k).hearControl mesh.time event).1 := rfl
    dsimp only at answers
    rw [heard] at answers
    cases read : ControlMessage.codec.decode maxFrameSize event.data with
    | error error =>
      unfold Channel.hearControl Watched.receive at answers
      rw [read] at answers
      cases answers
    | ok message =>
      have same : message = .request (.healthCheck target place) := by
        have small : AreWords (ControlMessage.request (.healthCheck target place)).lengths := words
        rw [carries] at read
        exact (ControlMessage.codec_accounts small).eq_of_decode_write read
      rw [same] at read
      rw [hearControl_of_check read] at answers
      by_cases own : target = (mesh.channel k).selfId
      · exact .inl own.symm
      · right
        rw [if_neg own] at answers
        obtain ⟨_, reply⟩ := Behaviour.answers.inj answers
        rw [← Option.some.inj reply] at assures
        have answer := (SyncReply.codec_accounts _).eq_of_decode_write assures
        exact (SyncReply.reachable.inj answer).symm

/-- **A question about a peer is answered well only in one of three ways**, if nobody lies. -/
theorem vouches_of_affirmed (truthful : mesh.IsTruthful) {record : Record} (fits : record.FitsMemory)
    {question : Question} (form : question = ⟨record.address, .ping⟩ ∨
      ∃ address, question = ⟨address, .healthCheck record.id record.address⟩)
    (affirmed : question.request.isAffirmedBy (mesh.ask n question timeout).1.1 = true) :
    mesh.Vouches n timeout record.id record.address question := by
  obtain rfl | ⟨address, rfl⟩ := form
  · obtain ⟨bytes, replied, _⟩ :=
      SyncReply.ofReply?_eq_some_iff.mp (SyncRequest.ping_isAffirmedBy_iff.mp affirmed)
    obtain ⟨_, party, _, _, reached, _⟩ := exists_reached_of_ask replied
    exact .ponged reached affirmed
  · obtain ⟨bytes, replied, assures⟩ :=
      SyncReply.ofReply?_eq_some_iff.mp (SyncRequest.healthCheck_isAffirmedBy_iff.mp affirmed)
    obtain ⟨event, party, span, asks, reached, answers⟩ := exists_reached_of_ask replied
    have carries := data_of_controlEvent asks
    have honest : mesh.IsTruthfulParty event party := by
      obtain ⟨own, _, routed⟩ := reached
      obtain ⟨endpoint, found, rfl⟩ := Memory.UnicastEnd.exists_endpoint_of_route routed
      exact truthful address endpoint found event _ _ carries
    unfold Mesh.answer at answers
    cases party with
    | outsider receiver => exact absurd ⟨span, bytes, answers, assures⟩ honest
    | channel k =>
      dsimp only at answers
      split at answers
      · cases answers
      · rcases itself_or_ponged fits.words carries answers assures with own | answered
        · exact .itself reached own
        · obtain ⟨other, reachedThere⟩ := exists_reached_of_ping answered
          exact .relayed reached asks reachedThere answered
      · rename_i script replies
        exact absurd ⟨span, bytes, answers, assures⟩ (honest script replies)

/-- Nodes that answer all questions themselves are truthful. -/
theorem isTruthful_of_isOfNodes (nodes : mesh.isOfNodes = true) : mesh.IsTruthful := by
  intro address endpoint found event target place _
  have own := List.all_eq_true.mp nodes endpoint
    ((mesh.network.unicast.mem_values_iff endpoint).mpr ⟨address, found⟩)
  cases party : endpoint.receiver with
  | outsider receiver =>
    rw [party] at own
    cases own
  | channel k =>
    rw [party] at own
    intro script replies
    unfold Consumer.replier? at replies
    split at replies
    · obtain ⟨listener, listed, same⟩ := Option.map_eq_some_iff.mp replies
      have protocol := List.all_eq_true.mp own listener
        ((Table.mem_values_iff _ listener).mpr ⟨event.kind, listed⟩)
      rw [of_decide_eq_true protocol] at same
      cases same
    · cases replies

/-! ### Asking changes nobody's answers -/

/-- The same parties are reached, and the same listeners answer. -/
structure IsServedAs (mesh later : Mesh) : Prop where
  network : later.network = mesh.network
  repliers : ∀ k event,
    (later.channel k).consumer.replier? event = (mesh.channel k).consumer.replier? event

theorem isServedAs_refl (mesh : Mesh) : mesh.IsServedAs mesh := ⟨rfl, fun _ _ => rfl⟩

theorem IsServedAs.trans {last : Mesh} (first : mesh.IsServedAs later) (second : later.IsServedAs last) :
    mesh.IsServedAs last :=
  ⟨second.network.trans first.network, fun k event =>
    (second.repliers k event).trans (first.repliers k event)⟩

theorem IsTruthful.of_isServedAs (truthful : mesh.IsTruthful) (served : mesh.IsServedAs later) :
    later.IsTruthful := by
  intro address endpoint found event target place carries
  rw [served.network] at found
  have honest := truthful address endpoint found event target place carries
  cases party : endpoint.receiver with
  | outsider receiver =>
    rw [party] at honest
    exact honest
  | channel k =>
    rw [party] at honest
    intro script replies
    rw [served.repliers] at replies
    exact honest script replies

theorem isServedAs_modify (mesh : Mesh) (n : Nat) (change : Channel → Channel)
    (keeps : ∀ event, (change (mesh.channel n)).consumer.replier? event =
      (mesh.channel n).consumer.replier? event) : mesh.IsServedAs (mesh.modify n change) := by
  refine ⟨rfl, fun k event => ?_⟩
  unfold Mesh.modify
  by_cases same : n = k
  · subst same
    cases found : mesh.channels[n]? with
    | none =>
      have absent : (mesh.channels.modify n change)[n]? = none := by
        rw [List.getElem?_modify_eq, found]
        rfl
      rw [channel_default found]
      exact congrArg (fun channel : Channel => channel.consumer.replier? event) (channel_default absent)
    | some channel =>
      have there : (mesh.channels.modify n change)[n]? = some (change channel) := by
        rw [List.getElem?_modify_eq, found]
        rfl
      have kept := keeps event
      rw [channel_eq found] at kept ⊢
      exact (congrArg (fun channel : Channel => channel.consumer.replier? event)
        (channel_eq there)).trans kept
  · unfold Mesh.channel
    rw [List.getElem?_modify_ne _ _ same]

/-- A detector that changes answers nobody differently. -/
theorem isServedAs_update (draw : Draw) (n : Nat) (change : Detector → Detector) (mesh : Mesh) :
    mesh.IsServedAs ((stationWith draw n).update change mesh) :=
  isServedAs_modify mesh n _ fun _ => rfl

theorem isServedAs_hand (mesh : Mesh) (k : Nat) (event : Event) :
    mesh.IsServedAs (mesh.hand k event) := by
  have handed : mesh.IsServedAs (mesh.modify k fun channel =>
      { channel with consumer := (mesh.channel k).consumer.accept event }) :=
    isServedAs_modify mesh k _ fun other =>
      Consumer.replier?_of_atRest ((mesh.channel k).consumer.accept_atRest event) other
  unfold Mesh.hand
  dsimp only
  split
  · refine handed.trans ⟨enqueue_network _ _, fun m other => ?_⟩
    unfold Mesh.channel
    rw [enqueue_channels]
  · exact handed

section

variable (pings : ∀ (mesh : Mesh) (k : Nat) (address : Address),
  mesh.IsServedAs (pinger mesh k address).2)

include pings

theorem isServedAs_answer (mesh : Mesh) (event : Event) (party : Party) :
    mesh.IsServedAs (mesh.answer pinger event party).2 := by
  unfold Mesh.answer
  cases party with
  | outsider receiver => exact ⟨rfl, fun _ _ => rfl⟩
  | channel k =>
    dsimp only
    split
    · exact ⟨rfl, fun _ _ => rfl⟩
    · have noted : mesh.IsServedAs (mesh.note (.reached (.channel k) true event)) :=
        ⟨rfl, fun _ _ => rfl⟩
      refine noted.trans ?_
      unfold Mesh.answerControl
      split
      · exact isServedAs_refl _
      · have heard := isServedAs_modify (mesh.note (.reached (.channel k) true event)) k
          (fun _ => ((mesh.channel k).hearControl mesh.time event).2) fun _ => rfl
        dsimp only
        split
        · exact heard
        · exact heard
        · exact heard.trans (isServedAs_hand _ k _)
        · exact heard.trans (pings _ k _)
    · exact ⟨rfl, fun _ _ => rfl⟩

theorem isServedAs_requestWith (mesh : Mesh) (n : Nat) (address : Address) (event : Event) :
    mesh.IsServedAs (mesh.requestWith pinger n address event).2 := by
  have noted : mesh.IsServedAs (mesh.note (.asked n address event)) := ⟨rfl, fun _ _ => rfl⟩
  refine noted.trans ?_
  unfold Mesh.requestWith
  dsimp only
  split
  · unfold Mesh.requestFrom
    split
    · exact isServedAs_answer pings _ _ _
    · exact isServedAs_refl _
  · rename_i client line
    have streamed : (mesh.note (.asked n address event)).IsServedAs
        ((mesh.note (.asked n address event)).stream n client address event true).2 :=
      isServedAs_modify _ n _ fun _ => rfl
    split
    · rename_i sent
      rw [sent] at streamed
      exact streamed
    · rename_i sent
      rw [sent] at streamed
      exact streamed

end

theorem isServedAs_pingWithin (depth : Nat) : ∀ (mesh : Mesh) (k : Nat) (address : Address),
    mesh.IsServedAs (pingWithin depth mesh k address).2 := by
  induction depth with
  | zero => exact fun mesh _ _ => isServedAs_refl mesh
  | succ depth ih =>
    intro mesh k address
    unfold pingWithin
    dsimp only
    split
    · exact isServedAs_refl mesh
    · exact isServedAs_requestWith ih mesh k address _

/-- **A question changes nobody's answers.** -/
theorem isServedAs_ask (mesh : Mesh) (n : Nat) (question : Question) (timeout : Duration) :
    mesh.IsServedAs (mesh.ask n question timeout).2 := by
  unfold Mesh.ask
  split
  · exact isServedAs_refl mesh
  · exact isServedAs_requestWith (isServedAs_pingWithin 1) mesh n question.address _

/-! ### Whoever keeps a peer alive has vouched for it -/

/-- **The end of a probe makes a new record of a peer only if somebody has vouched for the peer**, when the
round asked about it: whoever is reached at the address that the round found recorded has answered a
ping, of the channel or of a node that was asked about the peer, or the peer itself was asked. -/
theorem vouches_of_reset {begun state : Mesh} {n : Nat} {draw : Draw} (truthful : begun.IsTruthful)
    (fits : ∀ suspect ∈ (stationWith draw n).suspects begun, suspect.record.FitsMemory)
    {probing : Probing} (concludes : (stationWith draw n).Concludes begun probing state)
    {id : NodeId} {member : Member}
    (holds : ((state.channel n).view.conclude ((stationWith draw n).reading state) probing.probe
      probing.affirmed).view.Holds id member)
    (new : ¬ (state.channel n).view.Holds id member) :
    ∃ suspect question moment, (stationWith draw n).Asks begun suspect question moment ∧
      suspect.record.id = id ∧
      moment.Vouches n (moment.channel n).settings.delegateTimeout id suspect.record.address question := by
  obtain ⟨affirmed, rfl⟩ := View.affirmed_of_conclude holds new
  obtain ⟨suspect, question, moment, asks, named, answered⟩ :=
    Station.hasGrounds_of_concludes concludes affirmed
  have served : begun.IsServedAs moment :=
    asks.keeps (fun change state _ kept => kept.trans (isServedAs_update draw n change state))
      (fun state question timeout kept => kept.trans (isServedAs_ask state n question timeout))
      (isServedAs_refl begun)
  refine ⟨suspect, question, moment, asks, named, ?_⟩
  rw [← named]
  exact vouches_of_affirmed (truthful.of_isServedAs served) (fits suspect asks.suspect_mem) asks.form
    answered

/-! ### A node at the address of another one -/

/-- The settings of a node on the network. -/
def tenant (name : String) : Settings :=
  { Settings.standard with
    nodeId := some name
    broadcastProvider := .memory
    unicastProvider := .memory }

/-- A peer that is gone, as it was discovered. -/
def gone : Member := ⟨0, ⟨⟨"gone"⟩, Memory.addressOf 4, .normal, 0, 1, 0⟩⟩

/-- A node knows the peer that is gone, and at the address of this peer another node is reached. -/
def takenOver : Mesh :=
  let created := (((empty default).create "" (tenant "left") true).2.create "" (tenant "right") true).2
  let started := ((created.start 0).2.start 1).2
  let known := started.modify 0 fun channel =>
    (channel.run 0 fun view now => view.addHost now gone.record.address gone.record.id).2
  { known with time := 60000 }

/-- The probe of the peer that is gone, and the mesh at its end. -/
def lastProbe : Probing × List Awaited × Mesh :=
  (stationWith Draw.first 0).inquire ((stationWith Draw.first 0).probeAll takenOver []).2
    { gone with record := gone.record.suspect }

theorem takenOver_suspects : (stationWith Draw.first 0).suspects takenOver =
    [] ++ { gone with record := gone.record.suspect } :: [] := by
  decide +kernel

theorem takenOver_isTruthful : takenOver.IsTruthful :=
  isTruthful_of_isOfNodes (by decide +kernel)

theorem takenOver_fits : ∀ suspect ∈ (stationWith Draw.first 0).suspects takenOver,
    suspect.record.FitsMemory := by
  rw [takenOver_suspects]
  decide +kernel

theorem takenOver_concludes :
    (stationWith Draw.first 0).Concludes takenOver lastProbe.1 lastProbe.2.2 :=
  .at_once takenOver_suspects (by decide +kernel)

theorem takenOver_holds : ((lastProbe.2.2.channel 0).view.conclude
    ((stationWith Draw.first 0).reading lastProbe.2.2) lastProbe.1.probe lastProbe.1.affirmed).view.Holds
      gone.record.id { gone with record := gone.record.reset 60000 } :=
  .inl (by decide +kernel)

theorem takenOver_new : ¬ (lastProbe.2.2.channel 0).view.Holds gone.record.id
    { gone with record := gone.record.reset 60000 } := by
  rintro (live | ⟨tombstone, dead, _⟩)
  · exact absurd live (by decide +kernel)
  · have nowhere : (lastProbe.2.2.channel 0).view.dead.get? gone.record.id = none := by decide +kernel
    rw [nowhere] at dead
    cases dead

/-- Somebody vouches for the peer that is gone. -/
theorem vouches_for_gone : ∃ suspect question moment,
    (stationWith Draw.first 0).Asks takenOver suspect question moment ∧
      suspect.record.id = gone.record.id ∧
      moment.Vouches 0 (moment.channel 0).settings.delegateTimeout gone.record.id
        suspect.record.address question :=
  vouches_of_reset takenOver_isTruthful takenOver_fits takenOver_concludes takenOver_holds takenOver_new

/-- **It need not be the peer itself who vouches for it**: a peer can be kept alive while no node has its
id. -/
theorem not_only_itself : ¬ ∀ (begun state : Mesh) (n : Nat) (draw : Draw) (probing : Probing) (id : NodeId)
    (member : Member), begun.IsTruthful →
    (∀ suspect ∈ (stationWith draw n).suspects begun, suspect.record.FitsMemory) →
    (stationWith draw n).Concludes begun probing state →
    ((state.channel n).view.conclude ((stationWith draw n).reading state) probing.probe
      probing.affirmed).view.Holds id member →
    ¬ (state.channel n).view.Holds id member →
    ∃ channel ∈ begun.channels, channel.selfId = id := by
  intro only
  obtain ⟨channel, among, own⟩ := only takenOver lastProbe.2.2 0 Draw.first lastProbe.1 gone.record.id _
    takenOver_isTruthful takenOver_fits takenOver_concludes takenOver_holds takenOver_new
  have others : ∀ channel ∈ takenOver.channels, channel.selfId ≠ gone.record.id := by decide +kernel
  exact others channel among own

end Mesh

end PeerMesh
