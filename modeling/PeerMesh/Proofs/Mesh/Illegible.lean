/-
**What a channel cannot read changes nothing.**

* `Event.Garbles` — the payload of a protocol event is not what its kind calls for, or it is a digest of another
  protocol version. `Channel.react_of_garbled`, `Channel.hearControl_of_garbled` — a channel makes nothing of it.
* `Mesh.IsUnharmed` — from one mesh to a later one nobody's view, heartbeat number, watchers and announcements
  have changed, nothing has gone out, and no finder was told of anybody.
* `call_of_garbled`, `deliver_of_garbled`, `answer_of_garbled` — what becomes of such an event when it is handled,
  with somebody waiting for an answer and without.
* **`garbled_is_disregarded`** — such an event is disregarded by every channel.
* **`unharmed_of_nuisances`** — and so are any number of them.
-/

import PeerMesh.Proofs.Mesh.Repliers
import PeerMesh.Proofs.Mesh.Welcome

namespace PeerMesh

/-- The payload of a protocol event of a kind means nothing to a channel. -/
inductive Event.Garbles (event : Event) : ProtocolKind → Prop where
  | publish {problem : Wire.DecodeError}
    (unread : Announce.codec.decode maxFrameSize event.data = .error problem) : event.Garbles .publish
  | discover {problem : Wire.DecodeError}
    (unread : Announce.codec.decode maxFrameSize event.data = .error problem) : event.Garbles .discover
  | resync {problem : Wire.DecodeError}
    (unread : ForceResync.codec.decode maxFrameSize event.data = .error problem) : event.Garbles .resync
  | control {problem : Wire.DecodeError}
    (unread : ControlMessage.codec.decode maxFrameSize event.data = .error problem) : event.Garbles .control
  /-- It is a digest of another protocol version. -/
  | foreign {digest : Digest}
    (reads : ControlMessage.codec.decode maxFrameSize event.data = .ok (.notification digest) ∨
      ControlMessage.codec.decode maxFrameSize event.data = .ok (.gossip digest))
    (differs : digest.version ≠ protocolVersion) : event.Garbles .control

/-- A control message that means nothing is not heard, not even from its sender. -/
theorem Watched.receive_of_garbled {event : Event} (garbles : event.Garbles .control) (watched : Watched)
    (time : Nat) : watched.receive time event = (.nothing, watched) := by
  unfold receive
  cases garbles with
  | control unread => rw [unread]
  | foreign reads differs =>
    have passedOver (address : Address) (sender : NodeId) : watched.merge time address sender _ = watched :=
      if_neg differs
    rcases reads with reads | reads
    · rw [reads]
      dsimp only
      rw [passedOver]
    · rw [reads]
      dsimp only
      rw [passedOver]

namespace Channel

variable {event : Event} {kind : ProtocolKind}

theorem hearControl_of_garbled (garbles : event.Garbles .control) (channel : Channel) (time : Nat) :
    channel.hearControl time event = (.nothing, channel) := by
  unfold hearControl
  rw [Watched.receive_of_garbled garbles]
  rfl

theorem onControl_of_garbled (garbles : event.Garbles .control) (channel : Channel) (time : Nat) :
    channel.onControl time event = channel.quiet := by
  unfold onControl
  rw [hearControl_of_garbled garbles]

/-- **A channel makes nothing of an event that means nothing.** -/
theorem react_of_garbled (made : event.kind = kind.text) (garbles : event.Garbles kind) (channel : Channel)
    (time : Nat) : channel.react time event = channel.quiet := by
  have controls (same : event.kind = ProtocolKind.control.text) (garbles : event.Garbles .control) :
      channel.react time event = channel.quiet := by
    unfold react
    rw [same, ProtocolKind.ofText?_text]
    exact channel.onControl_of_garbled garbles time
  cases garbles with
  | publish unread => exact react_of_illegible (.inl made) unread time
  | discover unread => exact react_of_illegible (.inr made) unread time
  | resync unread =>
    unfold react
    rw [made, ProtocolKind.ofText?_text]
    dsimp only
    unfold onResync
    rw [unread]
  | control unread => exact controls made (.control unread)
  | foreign reads differs => exact controls made (.foreign reads differs)

end Channel

/-- An event has arrived somewhere, or a listener of known behaviour was called. -/
def Occurrence.IsInbound : Occurrence → Prop
  | .reached .. | .called .. => True
  | _ => False

namespace Mesh

variable {mesh later last : Mesh} {n : Nat} {channel : Channel} {event : Event} {kind : ProtocolKind}
  {job : Job (Delivery Listener)} {consumer : Consumer Listener Replier}

/-! ### What stays unharmed -/

/-- **Nobody's membership is affected**, and nothing has gone out. -/
structure IsUnharmed (before after : Mesh) : Prop where
  time : after.time = before.time
  network : after.network = before.network
  /-- The views with their tombstones, touch counts and versions, what watchers have been told, the heartbeat
  numbers and the rounds under way are the same. -/
  detectors : ∀ m, (after.channel m).detector = (before.channel m).detector
  announcing : ∀ m, (after.channel m).announcing = (before.channel m).announcing
  finders : ∀ m, (after.channel m).finders = (before.channel m).finders
  /-- What is queued to go out is the same. -/
  publishers : ∀ m, (after.channel m).publisher = (before.channel m).publisher
  /-- Nothing was sent or asked since, and no finder was told of a node. -/
  log : ∃ since, after.log = since ++ before.log ∧ ∀ entry ∈ since, entry.2.IsInbound

theorem IsUnharmed.refl (mesh : Mesh) : mesh.IsUnharmed mesh :=
  ⟨rfl, rfl, fun _ => rfl, fun _ => rfl, fun _ => rfl, fun _ => rfl, [], rfl, fun _ none => nomatch none⟩

theorem IsUnharmed.trans (first : mesh.IsUnharmed later) (second : later.IsUnharmed last) :
    mesh.IsUnharmed last := by
  obtain ⟨earlier, begins, inbound⟩ := first.log
  obtain ⟨since, goesOn, stillInbound⟩ := second.log
  refine ⟨second.time.trans first.time, second.network.trans first.network,
    fun m => (second.detectors m).trans (first.detectors m),
    fun m => (second.announcing m).trans (first.announcing m),
    fun m => (second.finders m).trans (first.finders m),
    fun m => (second.publishers m).trans (first.publishers m),
    since ++ earlier, by rw [goesOn, begins, List.append_assoc], fun entry among => ?_⟩
  rcases List.mem_append.mp among with new | old
  · exact stillInbound entry new
  · exact inbound entry old

theorem note_unharmed (mesh : Mesh) {occurrence : Occurrence} (inbound : occurrence.IsInbound) :
    mesh.IsUnharmed (mesh.note occurrence) := by
  refine ⟨rfl, rfl, fun _ => rfl, fun _ => rfl, fun _ => rfl, fun _ => rfl, [(mesh.time, occurrence)], rfl,
    fun entry among => ?_⟩
  rw [List.mem_singleton.mp among]
  exact inbound

theorem agenda_unharmed (mesh : Mesh) (agenda : List Move) : mesh.IsUnharmed { mesh with agenda := agenda } :=
  ⟨rfl, rfl, fun _ => rfl, fun _ => rfl, fun _ => rfl, fun _ => rfl, [], rfl, fun _ none => nomatch none⟩

theorem enqueue_unharmed (mesh : Mesh) (move : Move) : mesh.IsUnharmed (mesh.enqueue move) := by
  unfold enqueue
  split
  · exact .refl mesh
  · exact mesh.agenda_unharmed _

/-- Only the consumer of a channel changes. -/
theorem consumer_unharmed (mesh : Mesh) (n : Nat) (change : Channel → Consumer Listener Replier) :
    mesh.IsUnharmed (mesh.modify n fun channel => { channel with consumer := change channel }) :=
  ⟨rfl, rfl, fun m => field_modify Channel.detector mesh n m fun _ => rfl,
    fun m => field_modify Channel.announcing mesh n m fun _ => rfl,
    fun m => field_modify Channel.finders mesh n m fun _ => rfl,
    fun m => field_modify Channel.publisher mesh n m fun _ => rfl, [], rfl, fun _ none => nomatch none⟩

theorem finishDelivery_unharmed (mesh : Mesh) (n ticket : Nat) : mesh.IsUnharmed (mesh.finishDelivery n ticket) :=
  (mesh.consumer_unharmed n fun channel => channel.consumer.finishDelivery ticket).trans (enqueue_unharmed _ _)

/-- An event that arrives waits for listeners, and that is all. -/
theorem arrive_unharmed (mesh : Mesh) (event : Event) (party : Party) :
    mesh.IsUnharmed (mesh.arrive event party) := by
  have noted : mesh.IsUnharmed (mesh.note (.reached party false event)) := mesh.note_unharmed trivial
  unfold arrive
  cases party with
  | outsider receiver => exact noted
  | channel n =>
    have handed := noted.trans (consumer_unharmed _ n fun _ => (mesh.channel n).consumer.accept event)
    unfold hand
    dsimp only
    split
    · exact handed.trans (enqueue_unharmed _ _)
    · exact handed

/-! ### Deliveries -/

/-- **The channel itself is done at once** with an event that means nothing. -/
theorem call_of_garbled (found : mesh.channels[n]? = some channel) (listens : job.task.listener = .protocol)
    (made : job.task.event.kind = kind.text) (garbles : job.task.event.Garbles kind) :
    mesh.call n job = mesh.finishDelivery n job.ticket :=
  call_of_quiet found listens (channel.react_of_garbled made garbles mesh.time)

theorem attend_of_garbled (found : mesh.channels[n]? = some channel) (listens : job.task.listener = .protocol)
    (made : job.task.event.kind = kind.text) (garbles : job.task.event.Garbles kind) :
    mesh.attend n job = mesh.finishDelivery n job.ticket := by
  unfold attend
  split
  · rfl
  · exact call_of_garbled found listens made garbles

/-- The delivery that a worker takes is over. -/
theorem deliver_of_garbled (takes : (mesh.channel n).consumer.takeDelivery? = some (job, consumer))
    (found : mesh.channels[n]? = some channel) (listens : job.task.listener = .protocol)
    (made : job.task.event.kind = kind.text) (garbles : job.task.event.Garbles kind) :
    let taken := mesh.modify n fun channel => { channel with consumer := consumer }
    mesh.deliver n = (taken.enqueue (.deliver n)).finishDelivery n job.ticket ∨
      mesh.deliver n = (taken.finishDelivery n job.ticket).enqueueFirst (.deliver n) := by
  intro taken
  have there : taken.channels[n]? = some { channel with consumer := consumer } := by
    show (mesh.channels.modify n _)[n]? = _
    rw [List.getElem?_modify_eq, found]
    rfl
  have stillThere : (taken.enqueue (.deliver n)).channels[n]? = some { channel with consumer := consumer } := by
    rw [enqueue_channels]
    exact there
  have delivers : mesh.deliver n =
      taken.takeTurns (.deliver n) (consumer.workforce?.any Pool.hasIdle) (·.attend n job) := by
    unfold deliver
    rw [takes]
  rw [delivers]
  unfold takeTurns
  split
  · exact .inl (attend_of_garbled stillThere listens made garbles)
  · dsimp only
    rw [attend_of_garbled there listens made garbles]
    exact .inr rfl

/-- A delivery is over, and nothing new waits for listeners. -/
theorem pending_finishDelivery (mesh : Mesh) (n ticket m : Nat) :
    ((mesh.finishDelivery n ticket).channel m).consumer.pending = (mesh.channel m).consumer.pending := by
  unfold finishDelivery
  rw [channel_enqueue]
  exact field_modify (fun channel => channel.consumer.pending) mesh n m fun channel =>
    (channel.consumer.finishDelivery_pending ticket).1

/-- **A worker that takes such an event** does no harm, and nothing new waits for listeners. -/
theorem deliver_unharmed (takes : (mesh.channel n).consumer.takeDelivery? = some (job, consumer))
    (found : mesh.channels[n]? = some channel) (listens : job.task.listener = .protocol)
    (made : job.task.event.kind = kind.text) (garbles : job.task.event.Garbles kind) :
    mesh.IsUnharmed (mesh.deliver n) ∧ (mesh.deliver n).log = mesh.log ∧
      ∀ m, ((mesh.deliver n).channel m).consumer.pending ⊆ (mesh.channel m).consumer.pending := by
  let taken := mesh.modify n fun channel => { channel with consumer := consumer }
  have takesIt : mesh.IsUnharmed taken := mesh.consumer_unharmed n fun _ => consumer
  have fewer (m : Nat) : (taken.channel m).consumer.pending ⊆ (mesh.channel m).consumer.pending := by
    rcases mesh.channel_modify_cases n (fun channel => { channel with consumer := consumer }) m with
      same | ⟨rfl, changed⟩
    · rw [same]
      exact List.Subset.refl _
    · rw [changed, (Consumer.takeDelivery?_pending takes).1]
      exact List.subset_cons_self _ _
  rcases deliver_of_garbled takes found listens made garbles with same | same
  · rw [same]
    have enqueued := takesIt.trans (enqueue_unharmed taken (.deliver n))
    refine ⟨enqueued.trans (finishDelivery_unharmed _ n job.ticket), ?_, fun m => ?_⟩
    · rw [log_finishDelivery]
      unfold enqueue
      split <;> rfl
    · rw [pending_finishDelivery, channel_enqueue]
      exact fewer m
  · rw [same]
    have finished := takesIt.trans (finishDelivery_unharmed taken n job.ticket)
    refine ⟨finished.trans (agenda_unharmed _ _), ?_, fun m => ?_⟩
    · exact log_finishDelivery taken n job.ticket
    · show ((taken.finishDelivery n job.ticket).channel m).consumer.pending ⊆ _
      rw [pending_finishDelivery]
      exact fewer m

/-! ### Answers -/

/-- A channel itself has nothing to say to a control message that means nothing. -/
theorem answerControl_of_garbled (ping : Pinger) (found : mesh.channels[n]? = some channel)
    (garbles : event.Garbles .control) : mesh.answerControl ping n event = (.atOnce none, mesh) := by
  have heard : mesh.modifyGet n (·.hearControl mesh.time event) = (.nothing, mesh) := by
    unfold modifyGet
    dsimp only
    rw [channel_eq found, Channel.hearControl_of_garbled garbles]
    exact congrArg (Prod.mk FollowUp.nothing) (modify_same found)
  unfold answerControl
  split
  · rfl
  · rw [heard]

/-- Whoever is asked to answer an event other than a control message is no channel itself. -/
theorem AnswersControlOnly.kind_eq (answers : mesh.AnswersControlOnly) (made : event.kind = kind.text)
    (own : (mesh.channel n).consumer.replier? event = some .protocol) : kind = .control := by
  unfold Consumer.replier? at own
  split at own
  · obtain ⟨⟨id, listener⟩, listed, rfl⟩ := Option.map_eq_some_iff.mp own
    have text := answers n event.kind id listed
    have same := congrArg ProtocolKind.ofText? (made.symm.trans text)
    rw [ProtocolKind.ofText?_text, ProtocolKind.ofText?_text] at same
    exact Option.some.inj same
  · cases own

/-- **An answer to an event that means nothing**: there is none, unless a listener of a caller's gives one, and
nothing else has happened. -/
theorem answer_of_garbled (ping : Pinger) (found : mesh.channels[n]? = some channel)
    (made : event.kind = kind.text) (garbles : event.Garbles kind) (known : kind = .control ∨ mesh.IsReached) :
    let arrived := mesh.note (.reached (.channel n) true event)
    mesh.answer ping event (.channel n) = (.atOnce none, arrived) ∨
      ∃ script, (mesh.channel n).consumer.replier? event = some (.script script) ∧
        (mesh.answer ping event (.channel n)).2 = arrived.note (.called n ⟨script.tag, .sync, event⟩) := by
  intro arrived
  unfold answer
  dsimp only
  split
  · exact .inl rfl
  · rename_i own
    have control : kind = .control := known.elim id fun reached => reached.answersControlOnly.kind_eq made own
    have there : arrived.channels[n]? = some channel := found
    exact .inl (answerControl_of_garbled ping there (control ▸ garbles))
  · rename_i script replies
    exact .inr ⟨script, replies, rfl⟩

/-- Whoever answers, there is no harm done. -/
theorem answer_unharmed (ping : Pinger) (found : mesh.channels[n]? = some channel) (made : event.kind = kind.text)
    (garbles : event.Garbles kind) (known : kind = .control ∨ mesh.IsReached) :
    mesh.IsUnharmed (mesh.answer ping event (.channel n)).2 := by
  have arrived : mesh.IsUnharmed (mesh.note (.reached (.channel n) true event)) := mesh.note_unharmed trivial
  rcases answer_of_garbled ping found made garbles known with same | ⟨script, -, same⟩
  · rw [same]
    exact arrived
  · rw [same]
    exact arrived.trans (note_unharmed _ trivial)

/-! ### Events that mean nothing -/

/-- **A channel disregards an event.** -/
structure Disregards (mesh : Mesh) (n : Nat) (kind : ProtocolKind) (event : Event) : Prop where
  /-- When nobody waits for an answer, the event waits for listeners. -/
  arrives : mesh.IsUnharmed (mesh.arrive event (.channel n))
  /-- The channel itself is done with it at once. -/
  handled : ∀ job : Job (Delivery Listener), job.task.listener = .protocol → job.task.event = event →
    mesh.call n job = mesh.finishDelivery n job.ticket
  /-- So when a worker takes it, nothing comes of it, and nothing new waits for listeners. -/
  delivered : ∀ job consumer, (mesh.channel n).consumer.takeDelivery? = some (job, consumer) →
    job.task.listener = .protocol → job.task.event = event →
      mesh.IsUnharmed (mesh.deliver n) ∧ (mesh.deliver n).log = mesh.log ∧
        ∀ m, ((mesh.deliver n).channel m).consumer.pending ⊆ (mesh.channel m).consumer.pending
  /-- If it is a control message whose sender waits, the channel itself gives an answer without payload. -/
  own : ∀ ping : Pinger, kind = .control → mesh.answerControl ping n event = (.atOnce none, mesh)
  /-- So whoever waits for an answer is told nothing, but for what a listener of a caller's says. -/
  answered : ∀ ping : Pinger, kind = .control ∨ mesh.IsReached →
    (∀ script, (mesh.channel n).consumer.replier? event ≠ some (.script script)) →
      mesh.answer ping event (.channel n) = (.atOnce none, mesh.note (.reached (.channel n) true event))
  /-- Nor does anything else come of it, whoever answers. -/
  unharmed : ∀ ping : Pinger, kind = .control ∨ mesh.IsReached →
    mesh.IsUnharmed (mesh.answer ping event (.channel n)).2

/-- **What a channel cannot read changes nothing**, whatever state the channel is in. -/
theorem garbled_is_disregarded (found : mesh.channels[n]? = some channel) (made : event.kind = kind.text)
    (garbles : event.Garbles kind) : mesh.Disregards n kind event where
  arrives := mesh.arrive_unharmed event (.channel n)
  handled job listens same := by
    subst same
    exact call_of_garbled found listens made garbles
  delivered job consumer takes listens same := by
    subst same
    exact deliver_unharmed takes found listens made garbles
  own ping control := answerControl_of_garbled ping found (control ▸ garbles)
  answered ping known unscripted := by
    rcases answer_of_garbled ping found made garbles known with same | ⟨script, replies, -⟩
    · exact same
    · exact absurd replies (unscripted script)
  unharmed ping known := answer_unharmed ping found made garbles known

/-- A gossip digest of some protocol version, by which its sender makes another node known. -/
def rumour (version : UInt8) : Event :=
  ⟨.unscoped, ProtocolKind.control.text,
    ControlMessage.codec.write (.gossip ⟨version, 5, [⟨⟨"q"⟩, ⟨"mem:8"⟩, 3⟩]⟩), ⟨"p"⟩, ⟨"mem:7"⟩⟩

/-- An announcement that says nothing. -/
def mumble : Event := ⟨.named "first", ProtocolKind.publish.text, [], ⟨"p"⟩, ⟨"mem:7"⟩⟩

/-- A started channel disregards an announcement that says nothing, and a digest of the next protocol version,
which is not answered; of this version it makes the channel know two nodes. -/
theorem rumour_is_disregarded :
    let mesh := hosting []
    mesh.channels[0]? = some (mesh.channel 0) ∧ (mesh.channel 0).phase = .started ∧
      mesh.Disregards 0 .publish mumble ∧ mesh.Disregards 0 .control (rumour (protocolVersion + 1)) ∧
      (mesh.channel 0).consumer.replier? (rumour (protocolVersion + 1)) = some .protocol ∧
      mesh.answer ping (rumour (protocolVersion + 1)) (.channel 0) =
        (.atOnce none, mesh.note (.reached (.channel 0) true (rumour (protocolVersion + 1)))) ∧
      (((mesh.answer ping (rumour protocolVersion) (.channel 0)).2.channel 0).view.nodes.map Record.id) =
        [⟨"p"⟩, ⟨"q"⟩] := by
  intro mesh
  have nothing : mumble.Garbles .publish := by
    cases unread : Announce.codec.decode maxFrameSize mumble.data with
    | error problem => exact .publish unread
    | ok announce =>
      have fails : (Announce.codec.decode maxFrameSize mumble.data).isOk = false := by decide +kernel
      rw [unread] at fails
      cases fails
  have reads : ControlMessage.codec.decode maxFrameSize (rumour (protocolVersion + 1)).data =
      .ok (.gossip ⟨protocolVersion + 1, 5, [⟨⟨"q"⟩, ⟨"mem:8"⟩, 3⟩]⟩) := by decide +kernel
  have found : mesh.channels[0]? = some (mesh.channel 0) := rfl
  have replies : (mesh.channel 0).consumer.replier? (rumour (protocolVersion + 1)) = some .protocol := by
    decide +kernel
  have disregards : mesh.Disregards 0 .control (rumour (protocolVersion + 1)) :=
    garbled_is_disregarded found rfl (.foreign (.inr reads) (by decide))
  refine ⟨found, by decide +kernel, garbled_is_disregarded found rfl nothing, disregards, replies,
    disregards.answered ping (.inl rfl) fun script => ?_, by decide +kernel⟩
  rw [replies]
  exact fun same => nomatch same

/-! ### Any number of them -/

/-- Something that an event brings about which means nothing to a channel. -/
inductive Nuisance (mesh : Mesh) : Mesh → Prop where
  | arrives (event : Event) (n : Nat) : mesh.Nuisance (mesh.arrive event (.channel n))
  | delivered {n : Nat} {channel : Channel} {kind : ProtocolKind} {job : Job (Delivery Listener)}
    {consumer : Consumer Listener Replier} (found : mesh.channels[n]? = some channel)
    (takes : (mesh.channel n).consumer.takeDelivery? = some (job, consumer))
    (listens : job.task.listener = .protocol) (made : job.task.event.kind = kind.text)
    (garbles : job.task.event.Garbles kind) : mesh.Nuisance (mesh.deliver n)
  | answered {n : Nat} {channel : Channel} {kind : ProtocolKind} {event : Event} (ping : Pinger)
    (found : mesh.channels[n]? = some channel) (made : event.kind = kind.text) (garbles : event.Garbles kind)
    (known : kind = .control ∨ mesh.IsReached) : mesh.Nuisance (mesh.answer ping event (.channel n)).2

theorem Nuisance.unharmed (nuisance : mesh.Nuisance later) : mesh.IsUnharmed later := by
  cases nuisance with
  | arrives event n => exact mesh.arrive_unharmed event (.channel n)
  | delivered found takes listens made garbles => exact (deliver_unharmed takes found listens made garbles).1
  | answered ping found made garbles known => exact answer_unharmed ping found made garbles known

/-- **However many events mean nothing**, to whichever channels, they do no harm. -/
theorem unharmed_of_nuisances (flood : Relation.ReflTransGen Nuisance mesh later) : mesh.IsUnharmed later := by
  induction flood with
  | refl => exact .refl mesh
  | tail _ nuisance unharmed => exact unharmed.trans nuisance.unharmed

end Mesh

end PeerMesh
