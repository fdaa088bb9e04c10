/-
**What passes between channels, and passes by those at rest.**

* `Occurrence.channel?` — the channel that something happens to or is done by. `Occurrence.IsLate` — what may still
  happen to a closed channel: workers that were in the middle of a turn go on, and the closed links refuse what they
  hand to them.
* `Channel.LeavesOff` — only that has happened to a channel, and listeners were called with what was queued.
* `Mesh.IsApart` — some channels are inert, and neither is anything under way for them nor can the network
  hand them anything.
* `Mesh.PassesBy` — from one mesh to a later one the registry, the network and the standing of every channel
  are the same, and the channels at rest have only left off.
* `Mesh.Traffic` — what passes by the channels at rest, as long as they are apart.
* `post_traffic` — an event that a channel hands to a transport; `ask_traffic` — a question, whoever is asked,
  and whomever it pings; **`turn_traffic`**, `hearScheduled_traffic` — whatever the scheduler of a channel does.
-/

import PeerMesh.Mesh.Operations
import PeerMesh.Proofs.Channel.Rest
import PeerMesh.Proofs.Detector.Batches
import PeerMesh.Proofs.Detector.Grounds
import PeerMesh.Proofs.Mesh.Roster

namespace PeerMesh

/-- The channel that something happens to or is done by. -/
def Occurrence.channel? : Occurrence → Option Nat
  | .posted n _ | .asked n _ _ | .called n _ | .discovered n _ _ _ | .dispatched n _ _ => some n
  | .reached (.channel n) _ _ => some n
  | .reached (.outsider _) _ _ => none

/-- What workers that were in the middle of a turn still do for a channel that is closed: listeners are called with
what was queued, and events are handed to its links, which refuse them. -/
def Occurrence.IsLate : Occurrence → Prop
  | .called _ heard => heard.mode ≠ .sync
  | .posted .. | .asked .. => True
  | .dispatched _ _ result => result.isOk = false
  | .reached .. | .discovered .. => False

/-- The call of a queued listener of a channel. -/
def Occurrence.callOf? (n : Nat) : Occurrence → Option (Tag × Event)
  | .called m ⟨tag, .async, event⟩ => if m = n then some (tag, event) else none
  | _ => none

/-- The calls of queued listeners of a channel in a log, first one first. -/
def callsOf (n : Nat) (log : List (Nat × Occurrence)) : List (Tag × Event) :=
  log.reverse.filterMap fun entry => entry.2.callOf? n

theorem callsOf_append (n : Nat) (since earlier : List (Nat × Occurrence)) :
    callsOf n (since ++ earlier) = callsOf n earlier ++ callsOf n since := by
  simp [callsOf]

theorem Occurrence.callOf?_eq_none {n : Nat} {occurrence : Occurrence} (other : occurrence.channel? ≠ some n) :
    occurrence.callOf? n = none := by
  unfold callOf?
  split
  · rename_i m tag event
    exact if_neg fun same => other (congrArg some same)
  · rfl

/-- There are no calls where nothing is about the channel. -/
theorem callsOf_eq_nil {n : Nat} {log : List (Nat × Occurrence)}
    (others : ∀ entry ∈ log, entry.2.channel? ≠ some n) : callsOf n log = [] :=
  List.filterMap_eq_nil_iff.mpr fun entry among =>
    Occurrence.callOf?_eq_none (others entry (List.mem_reverse.mp among))

/-- From one state of a closed channel to a later one only workers that were left have done anything. They have
called listeners that were queued to be called; and if nothing was queued, they have done nothing. -/
structure Channel.LeavesOff (n : Nat) (since : List (Nat × Occurrence)) (before after : Channel) : Prop where
  late : ∀ entry ∈ since, entry.2.channel? = some n → entry.2.IsLate
  calls : (callsOf n since ++ after.ahead).Subperm before.ahead
  deserted : before.IsDeserted → after.IsDeserted ∧ ∀ entry ∈ since, entry.2.channel? ≠ some n

namespace Channel

variable {n : Nat} {since earlier : List (Nat × Occurrence)} {channel later last : Channel}

/-- Nothing has happened to it. -/
theorem Rests.leavesOff (rests : channel.Rests later) (inert : channel.IsInert)
    (others : ∀ entry ∈ since, entry.2.channel? ≠ some n) : channel.LeavesOff n since later where
  late entry among about := absurd about (others entry among)
  calls := by
    rw [callsOf_eq_nil others]
    exact rests.ahead inert
  deserted deserted := ⟨rests.isDeserted inert deserted, others⟩

/-- Others have done something. -/
theorem leavesOff_of_others (channel : Channel) (others : ∀ entry ∈ since, entry.2.channel? ≠ some n) :
    channel.LeavesOff n since channel where
  late entry among about := absurd about (others entry among)
  calls := by
    rw [callsOf_eq_nil others]
    exact .refl _
  deserted deserted := ⟨deserted, others⟩

theorem LeavesOff.refl (n : Nat) (channel : Channel) : channel.LeavesOff n [] channel :=
  channel.leavesOff_of_others fun _ none => nomatch none

theorem LeavesOff.trans (first : channel.LeavesOff n earlier later) (second : later.LeavesOff n since last) :
    channel.LeavesOff n (since ++ earlier) last := by
  refine ⟨fun entry among about => ?_, ?_, fun deserted => ?_⟩
  · rcases List.mem_append.mp among with new | old
    · exact second.late entry new about
    · exact first.late entry old about
  · rw [callsOf_append, List.append_assoc]
    exact ((List.subperm_append_left _).mpr second.calls).trans first.calls
  · obtain ⟨still, silent⟩ := first.deserted deserted
    obtain ⟨ever, stillSilent⟩ := second.deserted still
    refine ⟨ever, fun entry among => ?_⟩
    rcases List.mem_append.mp among with new | old
    · exact stillSilent entry new
    · exact silent entry old

end Channel

/-- The party is no channel at rest. -/
def Party.IsAwake (rests : Nat → Prop) : Party → Prop
  | .channel n => ¬ rests n
  | .outsider _ => True

namespace Mesh

/-- The channels at rest are inert, nothing is under way for them, and the network can hand them nothing. -/
structure IsApart (rests : Nat → Prop) (mesh : Mesh) : Prop where
  inert : ∀ n, rests n → (mesh.channel n).IsInert
  unaddressed : ∀ address endpoint, mesh.network.unicast.get? address = some endpoint →
    endpoint.receiver.IsAwake rests
  unjoined : ∀ party ∈ mesh.network.groups.values, party.IsAwake rests
  waiting : ∀ parked ∈ mesh.gate.waiting, ¬ rests parked.channel
  errands : ∀ errand ∈ mesh.errands, ¬ rests errand.channel

/-- Where connections to a channel are accepted. -/
def portsOf (mesh : Mesh) (n : Nat) : List Socket.Endpoint :=
  (mesh.ports.filter (·.channel = n)).map Port.endpoint

/-- From one mesh to a later one the registry, the network, the sockets and the standing of every channel are the
same, and the channels at rest have only left off. -/
structure PassesBy (rests : Nat → Prop) (before after : Mesh) : Prop where
  registry : after.registry = before.registry
  network : after.network = before.network
  ports : after.portsOf = before.portsOf
  count : after.channels.length = before.channels.length
  standing : ∀ n, (after.channel n).standing = (before.channel n).standing
  rest : ∀ n, rests n → (before.channel n).StaysInert (after.channel n)
  log : ∃ since, after.log = since ++ before.log ∧
    ∀ n, rests n → (before.channel n).LeavesOff n since (after.channel n)
  waiting : ∀ parked ∈ after.gate.waiting, rests parked.channel → parked ∈ before.gate.waiting
  errands : ∀ errand ∈ after.errands, rests errand.channel → errand ∈ before.errands

/-- What passes by the channels at rest, as long as they are apart. -/
def Traffic (rests : Nat → Prop) (before after : Mesh) : Prop :=
  before.IsApart rests → before.PassesBy rests after

variable {rests : Nat → Prop} {mesh later last : Mesh} {n : Nat} {event : Event}

theorem PassesBy.refl (rests : Nat → Prop) (mesh : Mesh) : mesh.PassesBy rests mesh where
  registry := rfl
  network := rfl
  ports := rfl
  count := rfl
  standing _ := rfl
  rest _ _ := .refl _
  log := ⟨[], rfl, fun n _ => .refl n _⟩
  waiting _ waits _ := waits
  errands _ runs _ := runs

theorem PassesBy.trans (first : mesh.PassesBy rests later) (second : later.PassesBy rests last) :
    mesh.PassesBy rests last := by
  obtain ⟨earlier, begins, leaves⟩ := first.log
  obtain ⟨since, goesOn, stillLeaves⟩ := second.log
  refine ⟨second.registry.trans first.registry, second.network.trans first.network,
    second.ports.trans first.ports, second.count.trans first.count,
    fun n => (second.standing n).trans (first.standing n), fun n isRest => (first.rest n isRest).trans (second.rest n isRest),
    ⟨since ++ earlier, by rw [goesOn, begins, List.append_assoc], fun n isRest =>
      (leaves n isRest).trans (stillLeaves n isRest)⟩,
    fun parked waits isRest => first.waiting parked (second.waiting parked waits isRest) isRest,
    fun errand runs isRest => first.errands errand (second.errands errand runs isRest) isRest⟩

/-- Channels at rest stay apart. -/
theorem PassesBy.isApart (passes : mesh.PassesBy rests later) (apart : mesh.IsApart rests) :
    later.IsApart rests where
  inert n isRest := (passes.rest n isRest (apart.inert n isRest)).1
  unaddressed := by
    rw [passes.network]
    exact apart.unaddressed
  unjoined := by
    rw [passes.network]
    exact apart.unjoined
  waiting parked waits isRest := apart.waiting parked (passes.waiting parked waits isRest) isRest
  errands errand runs isRest := apart.errands errand (passes.errands errand runs isRest) isRest

theorem Traffic.refl (rests : Nat → Prop) (mesh : Mesh) : mesh.Traffic rests mesh := fun _ => .refl rests mesh

theorem Traffic.trans (first : mesh.Traffic rests later) (second : later.Traffic rests last) :
    mesh.Traffic rests last :=
  fun apart => (first apart).trans (second ((first apart).isApart apart))

/-- To tell what is traffic, the channels may be taken to be apart. -/
theorem Traffic.of_isApart (traffic : mesh.IsApart rests → mesh.Traffic rests later) :
    mesh.Traffic rests later := fun apart => traffic apart apart

/-! ### Small changes -/

theorem channel_modify_cases (mesh : Mesh) (n : Nat) (change : Channel → Channel) (m : Nat) :
    (mesh.modify n change).channel m = mesh.channel m ∨
      m = n ∧ (mesh.modify n change).channel m = change (mesh.channel m) := by
  by_cases same : m = n
  · subst same
    unfold channel modify
    dsimp only
    rw [List.getElem?_modify_eq]
    cases mesh.channels[m]? with
    | none => exact .inl rfl
    | some found => exact .inr ⟨rfl, rfl⟩
  · unfold channel modify
    dsimp only
    rw [List.getElem?_modify_ne _ _ (Ne.symm same)]
    exact .inl rfl

theorem channel_modify_ne {m : Nat} (differs : m ≠ n) (mesh : Mesh) (change : Channel → Channel) :
    (mesh.modify n change).channel m = mesh.channel m :=
  (mesh.channel_modify_cases n change m).resolve_right fun same => differs same.1

theorem channel_modify (there : n < mesh.channels.length) (change : Channel → Channel) :
    (mesh.modify n change).channel n = change (mesh.channel n) := by
  unfold channel modify
  dsimp only
  rw [List.getElem?_modify_eq, List.getElem?_eq_getElem there]
  rfl

/-- Only the agenda and the running time change, or those who wait are fewer. -/
theorem traffic_of_same (registry : later.registry = mesh.registry) (network : later.network = mesh.network)
    (ports : later.portsOf = mesh.portsOf) (channels : later.channels = mesh.channels) (log : later.log = mesh.log)
    (waiting : ∀ parked ∈ later.gate.waiting, rests parked.channel → parked ∈ mesh.gate.waiting)
    (errands : ∀ errand ∈ later.errands, rests errand.channel → errand ∈ mesh.errands) :
    mesh.Traffic rests later := by
  intro _
  have same (n : Nat) : later.channel n = mesh.channel n := by
    unfold channel
    rw [channels]
  refine ⟨registry, network, ports, congrArg List.length channels, fun n => by rw [same], fun n _ => ?_,
    ⟨[], log, fun n _ => ?_⟩, waiting, errands⟩
  · rw [same]
    exact .refl _
  · rw [same]
    exact .refl n _

/-- Time passes, or moves become ready. -/
theorem traffic_of_agenda (mesh : Mesh) (time : Nat) (agenda : List Move) :
    mesh.Traffic rests { mesh with time := time, agenda := agenda } :=
  traffic_of_same rfl rfl rfl rfl rfl (fun _ waits _ => waits) fun _ runs _ => runs

theorem enqueue_traffic (mesh : Mesh) (move : Move) : mesh.Traffic rests (mesh.enqueue move) := by
  unfold enqueue
  split
  · exact .refl rests mesh
  · exact mesh.traffic_of_agenda _ _

/-- Something happens, but not to a channel at rest. -/
theorem note_traffic (mesh : Mesh) {occurrence : Occurrence}
    (awake : ∀ n, occurrence.channel? = some n → ¬ rests n) : mesh.Traffic rests (mesh.note occurrence) := by
  refine fun _ => ⟨rfl, rfl, rfl, rfl, fun _ => rfl, fun _ _ => .refl _, ⟨[(mesh.time, occurrence)], rfl, ?_⟩,
    fun _ waits _ => waits, fun _ runs _ => runs⟩
  intro n isRest
  refine Channel.leavesOff_of_others _ fun entry among about => ?_
  rw [List.mem_singleton] at among
  subst among
  exact awake n about isRest

/-- What is done by a channel that is not at rest. -/
theorem noteBy_traffic (mesh : Mesh) {occurrence : Occurrence} (by' : occurrence.channel? = some n)
    (awake : ¬ rests n) : mesh.Traffic rests (mesh.note occurrence) := by
  refine mesh.note_traffic fun m about => ?_
  rw [by'] at about
  cases about
  exact awake

/-- A channel changes whose standing stays the same. -/
theorem modify_traffic (mesh : Mesh) (n : Nat) {change : Channel → Channel}
    (standing : (change (mesh.channel n)).standing = (mesh.channel n).standing)
    (rest : rests n → (mesh.channel n).Rests (change (mesh.channel n))) :
    mesh.Traffic rests (mesh.modify n change) := by
  have each (m : Nat) (isRest : rests m) : (mesh.channel m).Rests ((mesh.modify n change).channel m) := by
    rcases mesh.channel_modify_cases n change m with same | ⟨rfl, changed⟩
    · rw [same]
      exact .refl _
    · rw [changed]
      exact rest isRest
  refine fun apart => ⟨rfl, rfl, rfl, List.length_modify _ _ _, fun m => ?_, fun m isRest => (each m isRest).stays,
    ⟨[], rfl, fun m isRest => (each m isRest).leavesOff (apart.inert m isRest) fun _ none => nomatch none⟩,
    fun _ waits _ => waits, fun _ runs _ => runs⟩
  rcases mesh.channel_modify_cases n change m with same | ⟨rfl, changed⟩
  · rw [same]
  · rw [changed, standing]

/-- A channel changes that is not at rest. -/
theorem change_traffic (mesh : Mesh) (awake : ¬ rests n) {change : Channel → Channel}
    (standing : (change (mesh.channel n)).standing = (mesh.channel n).standing) :
    mesh.Traffic rests (mesh.modify n change) :=
  mesh.modify_traffic n standing fun isRest => absurd isRest awake

/-! ### Events that go out -/

theorem hand_traffic (mesh : Mesh) (awake : ¬ rests n) (event : Event) :
    mesh.Traffic rests (mesh.hand n event) := by
  have handed : mesh.Traffic rests (mesh.modify n fun channel =>
      { channel with consumer := (mesh.channel n).consumer.accept event }) :=
    mesh.change_traffic awake rfl
  unfold hand
  dsimp only
  split
  · exact handed.trans (enqueue_traffic _ _)
  · exact handed

theorem noteReached_traffic (mesh : Mesh) {party : Party} (awake : party.IsAwake rests) (isSync : Bool)
    (event : Event) : mesh.Traffic rests (mesh.note (.reached party isSync event)) := by
  cases party with
  | outsider receiver => exact mesh.note_traffic fun _ about => nomatch about
  | channel n => exact mesh.noteBy_traffic rfl awake

theorem arrive_traffic (mesh : Mesh) {party : Party} (awake : party.IsAwake rests) :
    mesh.Traffic rests (mesh.arrive event party) := by
  have noted := mesh.noteReached_traffic awake false event
  unfold arrive
  cases party with
  | outsider receiver => exact noted
  | channel n => exact noted.trans (hand_traffic _ awake event)

theorem spread_traffic (mesh : Mesh) (group : GroupLink) (event : Event) :
    mesh.Traffic rests (mesh.spread group event).2 := by
  refine .of_isApart fun apart => ?_
  unfold spread
  split
  · rename_i member
    split
    · rename_i parties audience
      have awake : ∀ party ∈ parties, party.IsAwake rests := by
        unfold Memory.GroupEnd.audience at audience
        split at audience
        · cases audience
          intro party hears
          unfold Memory.Network.audience at hears
          split at hears
          · exact apart.unjoined party (List.mem_filter.mp hears).1
          · cases hears
        · cases audience
      exact List.foldlRecOn parties _ (Traffic.refl rests mesh) fun between traffic party hears =>
        traffic.trans (between.arrive_traffic (awake party hears))
    · exact .refl rests mesh
  · exact .refl rests mesh

/-- Whoever the network hands something to is not at rest. -/
theorem IsApart.awake_of_route (apart : mesh.IsApart rests) {own : Memory.UnicastEnd} {address : Address}
    {party : Party} (route : own.route mesh.network address = .ok party) : party.IsAwake rests := by
  unfold Memory.UnicastEnd.route at route
  split at route
  · cases route
  · split at route
    · unfold Memory.Network.target at route
      split at route
      · cases route
      · rename_i endpoint found
        split at route
        · cases route
          exact apart.unaddressed address endpoint found
        · cases route
    · cases route

theorem carry_traffic (mesh : Mesh) (own : Memory.UnicastEnd) (address : Address) (event : Event) :
    mesh.Traffic rests (mesh.carry own address event).2 := by
  refine .of_isApart fun apart => ?_
  unfold carry
  split
  · rename_i party route
    exact mesh.arrive_traffic (apart.awake_of_route route)
  · exact .refl rests mesh

theorem stream_traffic (mesh : Mesh) (awake : ¬ rests n) {client : Client}
    (line : (mesh.channel n).line = .stream client) (address : Address) (event : Event)
    (expectsReply : Bool) : mesh.Traffic rests (mesh.stream n client address event expectsReply).2 := by
  refine mesh.change_traffic awake ?_
  unfold Channel.standing
  rw [line]
  rfl

/-- **A channel hands an event to a transport.** -/
theorem post_traffic (mesh : Mesh) (awake : ¬ rests n) (outgoing : Outgoing) :
    mesh.Traffic rests (mesh.post n outgoing).2 := by
  have noted : mesh.Traffic rests (mesh.note (.posted n outgoing)) := mesh.noteBy_traffic rfl awake
  refine noted.trans ?_
  unfold post
  cases outgoing with
  | broadcast event => exact spread_traffic _ _ event
  | send address event =>
    dsimp only
    split
    · exact carry_traffic _ _ address event
    · rename_i client line
      exact stream_traffic (mesh.note (.posted n (.send address event))) awake line address event false

theorem postAll_traffic (mesh : Mesh) (awake : ¬ rests n) (outgoing : List Outgoing) :
    mesh.Traffic rests (mesh.postAll n outgoing) :=
  List.foldlRecOn outgoing _ (Traffic.refl rests mesh) fun between traffic outgoing _ =>
    traffic.trans (between.post_traffic awake outgoing)

/-! ### Questions -/

section

variable {pinger : Pinger} (pings : ∀ (mesh : Mesh) (k : Nat), ¬ rests k → ∀ address : Address,
  mesh.Traffic rests (pinger mesh k address).2)

include pings

theorem answerControl_traffic (mesh : Mesh) (awake : ¬ rests n) (event : Event) :
    mesh.Traffic rests (mesh.answerControl pinger n event).2 := by
  have heard : mesh.Traffic rests (mesh.modifyGet n (·.hearControl mesh.time event)).2 :=
    mesh.change_traffic awake rfl
  unfold answerControl
  split
  · exact .refl rests mesh
  · dsimp only
    split
    · exact heard
    · exact heard
    · exact heard.trans (hand_traffic _ awake _)
    · exact heard.trans (pings _ n awake _)

theorem answer_traffic (mesh : Mesh) (event : Event) {party : Party} (awake : party.IsAwake rests) :
    mesh.Traffic rests (mesh.answer pinger event party).2 := by
  have noted := mesh.noteReached_traffic awake true event
  unfold answer
  cases party with
  | outsider receiver => exact noted
  | channel n =>
    dsimp only
    split
    · exact noted
    · exact noted.trans (answerControl_traffic pings _ awake event)
    · exact noted.trans (noteBy_traffic _ rfl awake)

theorem requestFrom_traffic (mesh : Mesh) (own : Memory.UnicastEnd) (address : Address) (event : Event) :
    mesh.Traffic rests (mesh.requestFrom pinger own address event).2 := by
  refine .of_isApart fun apart => ?_
  unfold requestFrom
  split
  · rename_i party route
    exact answer_traffic pings mesh event (apart.awake_of_route route)
  · exact .refl rests mesh

theorem requestWith_traffic (mesh : Mesh) (awake : ¬ rests n) (address : Address) (event : Event) :
    mesh.Traffic rests (mesh.requestWith pinger n address event).2 := by
  have noted : mesh.Traffic rests (mesh.note (.asked n address event)) := mesh.noteBy_traffic rfl awake
  refine noted.trans ?_
  unfold requestWith
  dsimp only
  split
  · exact requestFrom_traffic pings _ _ address event
  · rename_i client line
    have streamed : (mesh.note (.asked n address event)).Traffic rests
        ((mesh.note (.asked n address event)).stream n client address event true).2 :=
      stream_traffic (mesh.note (.asked n address event)) awake line address event true
    split
    · rename_i sent
      rw [sent] at streamed
      exact streamed
    · rename_i sent
      rw [sent] at streamed
      exact streamed

end

theorem pingWithin_traffic (depth : Nat) : ∀ (mesh : Mesh) (k : Nat), ¬ rests k → ∀ address : Address,
    mesh.Traffic rests (pingWithin depth mesh k address).2 := by
  induction depth with
  | zero => exact fun mesh _ _ _ => .refl rests mesh
  | succ depth ih =>
    intro mesh k awake address
    unfold pingWithin
    dsimp only
    split
    · exact .refl rests mesh
    · exact requestWith_traffic ih mesh awake address _

theorem request_traffic (mesh : Mesh) (awake : ¬ rests n) (address : Address) (event : Event) :
    mesh.Traffic rests (mesh.request n address event).2 :=
  requestWith_traffic (pingWithin_traffic 1) mesh awake address event

/-- **The detector of a channel asks a question.** -/
theorem ask_traffic (mesh : Mesh) (awake : ¬ rests n) (question : Question) (timeout : Duration) :
    mesh.Traffic rests (Mesh.ask n mesh question timeout).2 := by
  unfold Mesh.ask
  split
  · exact .refl rests mesh
  · exact mesh.request_traffic awake question.address _

/-! ### The scheduler -/

theorem tell_traffic (mesh : Mesh) (awake : ¬ rests n) (address : Address) (message : ControlMessage) :
    mesh.Traffic rests (Mesh.tell n mesh address message).2 := by
  unfold Mesh.tell
  split
  · exact .refl rests mesh
  · exact mesh.post_traffic awake _

theorem tellDomain_traffic (mesh : Mesh) (awake : ¬ rests n) (message : ControlMessage) :
    mesh.Traffic rests (Mesh.tellDomain n mesh message).2 := by
  unfold Mesh.tellDomain
  dsimp only
  split
  · exact .refl rests mesh
  · exact mesh.post_traffic awake _

theorem update_traffic (mesh : Mesh) (draw : Draw) (awake : ¬ rests n) (change : Detector → Detector) :
    mesh.Traffic rests ((stationWith draw n).update change mesh) :=
  mesh.change_traffic awake rfl

theorem gossip_traffic (mesh : Mesh) (draw : Draw) (awake : ¬ rests n) :
    mesh.Traffic rests ((stationWith draw n).gossip mesh) := by
  unfold Station.gossip
  dsimp only
  split
  · exact .refl rests mesh
  · rename_i heartbeat messages round
    have told : mesh.Traffic rests (PeerMesh.sendAll (stationWith draw n).send messages _).2 :=
      sendAll_keeps messages
        (fun message _ between traffic => traffic.trans (between.tell_traffic awake message.1 message.2))
        (mesh.update_traffic draw awake ({ · with heartbeat := heartbeat }))
    exact told.trans (update_traffic _ draw awake _)

theorem autoBroadcast_traffic (mesh : Mesh) (draw : Draw) (awake : ¬ rests n) :
    mesh.Traffic rests ((stationWith draw n).autoBroadcast mesh) := by
  unfold Station.autoBroadcast
  dsimp only
  split
  · exact .refl rests mesh
  · rename_i heartbeat messages round
    exact broadcastAll_keeps messages
      (fun message _ between traffic => traffic.trans (between.tellDomain_traffic awake message))
      (mesh.update_traffic draw awake ({ · with heartbeat := heartbeat }))

theorem beginRound_traffic (mesh : Mesh) (draw : Draw) (awake : ¬ rests n) :
    mesh.Traffic rests ((stationWith draw n).beginRound mesh).2 :=
  Station.beginRound_keeps
    (fun _ between _ traffic => traffic.trans (between.update_traffic draw awake _))
    (fun between question timeout traffic => traffic.trans (between.ask_traffic awake question timeout))
    (.refl rests mesh)

/-- **The scheduler of a channel takes its turn**; that of a channel at rest is off. -/
theorem turn_traffic (mesh : Mesh) (draw : Draw) (n : Nat) :
    mesh.Traffic rests ((stationWith draw n).turn mesh) := by
  refine .of_isApart fun apart => ?_
  by_cases isRest : rests n
  · have off : ((stationWith draw n).detector mesh).scheduler = .off := (apart.inert n isRest).noTurns
    unfold Station.turn
    rw [off]
    exact .refl rests mesh
  · refine Station.turn_cases (.refl rests mesh) (fun _ _ => mesh.update_traffic draw isRest _)
      fun table kind _ _ => ?_
    unfold Station.beginScheduled
    cases kind with
    | control => exact (mesh.beginRound_traffic draw isRest).trans (update_traffic _ draw isRest _)
    | gossip => exact (mesh.gossip_traffic draw isRest).trans (update_traffic _ draw isRest _)
    | broadcast => exact (mesh.autoBroadcast_traffic draw isRest).trans (update_traffic _ draw isRest _)

/-- **A reply is heard that is due**; a channel at rest awaits none. -/
theorem hearScheduled_traffic (mesh : Mesh) (draw : Draw) (n : Nat) :
    mesh.Traffic rests ((stationWith draw n).hearScheduled mesh) := by
  refine .of_isApart fun apart => ?_
  unfold Station.hearScheduled
  split
  · exact .refl rests mesh
  · rename_i round under
    have awake : ¬ rests n := by
      intro isRest
      have none : (mesh.channel n).detector.round = none := (apart.inert n isRest).noRound
      exact nomatch none.symm.trans under
    split
    · exact .refl rests mesh
    · rename_i awaited arrived
      have heard : mesh.Traffic rests ((stationWith draw n).hear round awaited mesh).2 :=
        Station.hear_keeps
          (fun _ between _ traffic => traffic.trans (between.update_traffic draw awake _))
          round awaited (.refl rests mesh)
      exact heard.trans (update_traffic _ draw awake _)

end Mesh

end PeerMesh
