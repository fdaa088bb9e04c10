/-
**What a closed channel's workers still do.**

Workers that were in the middle of a turn when their channel was closed go on with what is queued. Listeners are
called; what the channel itself is called with it answers to nobody, and its links take nothing any more.

* `Mesh.Drifts` — from one mesh to a later one only such a worker has done anything, and has made these calls.
  `Drifts.passesBy` — what it was given before was queued.
* `post_refused`, `ping_refused` — the links of an inert channel take nothing.
* **`deliver_leftover`**, **`dispatchNext_leftover`** — whatever is left in the queues of an inert channel, it passes
  by the channels at rest that it is taken and done.
-/

import PeerMesh.Proofs.Mesh.Traffic

namespace PeerMesh

namespace Mesh

variable {rests : Nat → Prop} {mesh later last : Mesh} {n : Nat} {calls more : List (Tag × Event)}

/-- From one mesh to a later one only a channel that is inert has done anything: its listeners were called so, and
neither does anything new wait for it nor is more queued with it. -/
structure Drifts (n : Nat) (calls : List (Tag × Event)) (before after : Mesh) : Prop where
  registry : after.registry = before.registry
  network : after.network = before.network
  ports : after.portsOf = before.portsOf
  count : after.channels.length = before.channels.length
  others : ∀ m, m ≠ n → after.channel m = before.channel m
  standing : (after.channel n).standing = (before.channel n).standing
  stays : (before.channel n).StaysInert (after.channel n)
  ahead : (before.channel n).IsInert → (after.channel n).ahead.Subperm (before.channel n).ahead
  log : ∃ since, after.log = since ++ before.log ∧
    (∀ entry ∈ since, entry.2.channel? = some n ∧ entry.2.IsLate) ∧ callsOf n since = calls
  waiting : after.gate.waiting ⊆ before.gate.waiting
  errands : after.errands ⊆ before.errands

theorem Drifts.trans (first : mesh.Drifts n calls later) (second : later.Drifts n more last) :
    mesh.Drifts n (calls ++ more) last := by
  obtain ⟨earlier, begins, early, called⟩ := first.log
  obtain ⟨since, goesOn, late, calledOn⟩ := second.log
  refine ⟨second.registry.trans first.registry, second.network.trans first.network,
    second.ports.trans first.ports, second.count.trans first.count,
    fun m other => (second.others m other).trans (first.others m other), second.standing.trans first.standing,
    first.stays.trans second.stays, fun inert => ?_, ⟨since ++ earlier, ?_, fun entry among => ?_, ?_⟩,
    List.Subset.trans second.waiting first.waiting, List.Subset.trans second.errands first.errands⟩
  · exact (second.ahead (first.stays inert).1).trans (first.ahead inert)
  · rw [goesOn, begins, List.append_assoc]
  · rcases List.mem_append.mp among with new | old
    · exact late entry new
    · exact early entry old
  · rw [callsOf_append, called, calledOn]

/-- Only what runs beside the channels changes, and nothing more waits. -/
theorem drifts_of_same (registry : later.registry = mesh.registry) (network : later.network = mesh.network)
    (ports : later.ports = mesh.ports) (channels : later.channels = mesh.channels) (log : later.log = mesh.log)
    (waiting : later.gate.waiting ⊆ mesh.gate.waiting) (errands : later.errands ⊆ mesh.errands) :
    mesh.Drifts n [] later := by
  have same (m : Nat) : later.channel m = mesh.channel m := by
    unfold channel
    rw [channels]
  refine ⟨registry, network, congrArg (fun ports n => (ports.filter (·.channel = n)).map Port.endpoint) ports,
    congrArg List.length channels, fun m _ => same m, by rw [same], ?_, fun _ => ?_,
    ⟨[], log, fun _ none => (nomatch none), rfl⟩, waiting, errands⟩
  · rw [same]
    exact .refl _
  · rw [same]

theorem Drifts.refl (n : Nat) (mesh : Mesh) : mesh.Drifts n [] mesh :=
  drifts_of_same rfl rfl rfl rfl rfl (List.Subset.refl _) (List.Subset.refl _)

theorem enqueue_drifts (mesh : Mesh) (n : Nat) (move : Move) : mesh.Drifts n [] (mesh.enqueue move) := by
  unfold enqueue
  split
  · exact .refl n mesh
  · exact drifts_of_same rfl rfl rfl rfl rfl (List.Subset.refl _) (List.Subset.refl _)

theorem enqueueFirst_drifts (mesh : Mesh) (n : Nat) (move : Move) : mesh.Drifts n [] (mesh.enqueueFirst move) :=
  drifts_of_same rfl rfl rfl rfl rfl (List.Subset.refl _) (List.Subset.refl _)

/-- The channel does something that it may still do. -/
theorem note_drifts (mesh : Mesh) (occurrence : Occurrence) (about : occurrence.channel? = some n)
    (late : occurrence.IsLate) : mesh.Drifts n (occurrence.callOf? n).toList (mesh.note occurrence) := by
  refine ⟨rfl, rfl, rfl, rfl, fun _ _ => rfl, rfl, .refl _, fun _ => .refl _,
    ⟨[(mesh.time, occurrence)], rfl, fun entry among => ?_, ?_⟩, List.Subset.refl _, List.Subset.refl _⟩
  · rw [List.mem_singleton.mp among]
    exact ⟨about, late⟩
  · unfold callsOf
    rw [List.reverse_singleton, List.filterMap_cons]
    cases occurrence.callOf? n <;> rfl

/-- What it does is no call of what was queued. -/
theorem note_drifts_of_none (mesh : Mesh) {occurrence : Occurrence} (about : occurrence.channel? = some n)
    (late : occurrence.IsLate) (silent : occurrence.callOf? n = none) : mesh.Drifts n [] (mesh.note occurrence) := by
  have noted := mesh.note_drifts occurrence about late
  rwa [silent] at noted

theorem modify_drifts (mesh : Mesh) {change : Channel → Channel}
    (standing : (change (mesh.channel n)).standing = (mesh.channel n).standing)
    (rests : (mesh.channel n).Rests (change (mesh.channel n))) : mesh.Drifts n [] (mesh.modify n change) := by
  refine ⟨rfl, rfl, rfl, List.length_modify _ _ _, fun m other => channel_modify_ne other mesh change, ?_, ?_,
    fun inert => ?_, ⟨[], rfl, fun _ none => (nomatch none), rfl⟩, List.Subset.refl _, List.Subset.refl _⟩
  · rcases mesh.channel_modify_cases n change n with same | ⟨_, changed⟩
    · rw [same]
    · rw [changed, standing]
  · rcases mesh.channel_modify_cases n change n with same | ⟨_, changed⟩
    · rw [same]
      exact .refl _
    · rw [changed]
      exact rests.stays
  · rcases mesh.channel_modify_cases n change n with same | ⟨_, changed⟩
    · rw [same]
    · rw [changed]
      exact rests.ahead inert

/-- **What was taken from the queue of an inert channel is done** while it passes by the channels at rest. -/
theorem Drifts.passesBy (calls : List (Tag × Event)) {change : Channel → Channel}
    (inert : (mesh.channel n).IsInert)
    (standing : (change (mesh.channel n)).standing = (mesh.channel n).standing)
    (stays : (mesh.channel n).StaysInert (change (mesh.channel n)))
    (owes : (mesh.channel n).ahead = calls ++ (change (mesh.channel n)).ahead)
    (busy : ¬ (mesh.channel n).IsDeserted)
    (drifts : ((mesh.modify n change).channel n).IsInert → (mesh.modify n change).Drifts n calls later) :
    mesh.PassesBy rests later := by
  have taken := channel_modify (there_of_phase inert.closed (by decide)) change
  have first : (mesh.channel n).StaysInert ((mesh.modify n change).channel n) := taken ▸ stays
  have drifts := drifts (first inert).1
  have same (m : Nat) (other : m ≠ n) : later.channel m = mesh.channel m :=
    (drifts.others m other).trans (channel_modify_ne other mesh change)
  obtain ⟨since, grows, late, called⟩ := drifts.log
  refine ⟨drifts.registry, drifts.network, drifts.ports, drifts.count.trans (List.length_modify _ _ _),
    fun m => ?_, fun m _ => ?_,
    ⟨since, grows, fun m isRest => ?_⟩, fun parked waits _ => drifts.waiting waits,
    fun errand runs _ => drifts.errands runs⟩
  · by_cases here : m = n
    · subst here
      rw [drifts.standing, taken, standing]
    · rw [same m here]
  · by_cases here : m = n
    · subst here
      exact first.trans drifts.stays
    · rw [same m here]
      exact .refl _
  · by_cases here : m = n
    · subst here
      refine ⟨fun entry among _ => (late entry among).2, ?_, fun deserted => absurd deserted busy⟩
      rw [called, owes]
      have left := drifts.ahead (first inert).1
      rw [taken] at left
      exact (List.subperm_append_left _).mpr left
    · rw [same m here]
      refine Channel.leavesOff_of_others _ fun entry among about => here ?_
      exact Option.some.inj (about.symm.trans (late entry among).1)

/-! ### Links that take nothing any more -/

/-- A client that was closed makes no exchange. -/
theorem stream_refused (mesh : Mesh) {client : Client} (line : (mesh.channel n).line = .stream client)
    (nowhere : client.address = none) (address : Address) (event : Event) (expectsReply : Bool) :
    (mesh.stream n client address event expectsReply).1 = .error .notStarted ∧
      mesh.Drifts n [] (mesh.stream n client address event expectsReply).2 := by
  have ended (connect : Socket.Endpoint → Except IoFailure FarSide) :
      client.exchange Address.endpoint? connect address event expectsReply =
        (⟨.error .notStarted, none⟩, client) := by
    unfold Client.exchange
    rw [nowhere]
  unfold stream
  dsimp only
  rw [ended]
  refine ⟨rfl, mesh.modify_drifts ?_ (Channel.rests_of_same rfl rfl rfl rfl rfl rfl rfl line.symm rfl)⟩
  unfold Channel.standing
  rw [line]

theorem spread_refused (mesh : Mesh) {group : GroupLink} (idle : group.isIdle = true) (event : Event) :
    mesh.spread group event = (.error .notStarted, mesh) := by
  cases group with
  | memory member =>
    have left : member.isStarted = false := by simpa [GroupLink.isIdle] using idle
    unfold spread Memory.GroupEnd.audience
    dsimp only
    rw [left]
    rfl
  | datagram member =>
    have left : member.isJoined = false := by simpa [GroupLink.isIdle] using idle
    unfold spread GroupMember.dispatch
    dsimp only
    rw [left]
    rfl

theorem route_refused {own : Memory.UnicastEnd} (idle : (UnicastLink.memory own).isIdle = true)
    (network : Memory.Network Party) (address : Address) : own.route network address = .error .notStarted := by
  have nowhere : own.address = none := by simpa [UnicastLink.isIdle] using idle
  unfold Memory.UnicastEnd.route
  rw [nowhere]

/-- **What an inert channel hands to its links** goes to nobody. -/
theorem post_refused (mesh : Mesh) (inert : (mesh.channel n).IsInert) (outgoing : Outgoing) :
    (mesh.post n outgoing).1 = .error .notStarted ∧
      (mesh.post n outgoing).2.log = (mesh.time, .posted n outgoing) :: mesh.log ∧
        mesh.Drifts n [] (mesh.post n outgoing).2 := by
  have posted : mesh.Drifts n [] (mesh.note (.posted n outgoing)) :=
    mesh.note_drifts_of_none rfl trivial rfl
  unfold post
  cases outgoing with
  | broadcast event =>
    dsimp only
    rw [spread_refused _ inert.noGroup]
    exact ⟨rfl, rfl, posted⟩
  | send address event =>
    have idle := inert.noLine
    dsimp only
    split
    · rename_i own line
      rw [line] at idle
      unfold carry
      rw [route_refused idle]
      exact ⟨rfl, rfl, posted⟩
    · rename_i client line
      rw [line] at idle
      obtain ⟨refused, drifts⟩ := stream_refused (mesh.note (.posted n (.send address event))) line
        (Option.isNone_iff_eq_none.mp idle) address event false
      dsimp only
      rw [refused]
      exact ⟨rfl, rfl, posted.trans drifts⟩

/-- **Whom an inert channel asks**, it learns at once that it cannot. -/
theorem requestWith_refused (mesh : Mesh) (inert : (mesh.channel n).IsInert) (pinger : Pinger) (address : Address)
    (event : Event) :
    (mesh.requestWith pinger n address event).1 = .fails .notStarted ∧
      (mesh.requestWith pinger n address event).2.log = (mesh.time, .asked n address event) :: mesh.log ∧
        mesh.Drifts n [] (mesh.requestWith pinger n address event).2 := by
  have asked : mesh.Drifts n [] (mesh.note (.asked n address event)) :=
    mesh.note_drifts_of_none rfl trivial rfl
  have idle := inert.noLine
  unfold requestWith
  dsimp only
  split
  · rename_i own line
    rw [line] at idle
    unfold requestFrom
    rw [route_refused idle]
    exact ⟨rfl, rfl, asked⟩
  · rename_i client line
    rw [line] at idle
    obtain ⟨refused, drifts⟩ := stream_refused (mesh.note (.asked n address event)) line
      (Option.isNone_iff_eq_none.mp idle) address event true
    have log : ((mesh.note (.asked n address event)).stream n client address event true).2.log =
        (mesh.time, .asked n address event) :: mesh.log := rfl
    split
    · rename_i sent
      rw [sent] at refused
      cases refused
    · rename_i sent
      rw [sent] at refused drifts log
      cases refused
      exact ⟨rfl, log, asked.trans drifts⟩

theorem ping_refused (mesh : Mesh) (inert : (mesh.channel n).IsInert) (address : Address) :
    (mesh.ping n address).1.2 = 0 ∧ mesh.Drifts n [] (mesh.ping n address).2 := by
  unfold ping pingWithin
  dsimp only
  split
  · exact ⟨rfl, .refl n mesh⟩
  · rename_i event _
    obtain ⟨refused, -, drifts⟩ := requestWith_refused mesh inert (pingWithin 0) address event
    rw [refused]
    exact ⟨rfl, drifts⟩

/-! ### Deliveries -/

theorem finishDelivery_drifts (mesh : Mesh) (n ticket : Nat) : mesh.Drifts n [] (mesh.finishDelivery n ticket) := by
  have finished : mesh.Drifts n [] (mesh.modify n fun channel =>
      { channel with consumer := channel.consumer.finishDelivery ticket }) := by
    refine mesh.modify_drifts rfl (Channel.rests_of_consumer rfl (fun none => ?_) fun _ => ?_)
    · show (mesh.channel n).consumer.pool.map _ = _
      rw [none]
      rfl
    · exact ((mesh.channel n).consumer.finishDelivery_pending ticket).1 ▸ .refl _
  exact finished.trans (enqueue_drifts _ n _)

theorem pass_drifts (mesh : Mesh) (parked : Parked) : mesh.Drifts parked.channel [] (mesh.pass parked) := by
  unfold pass
  dsimp only
  split
  · rename_i script _
    have late : (Occurrence.called parked.channel ⟨script.tag, .released, parked.job.task.event⟩).IsLate :=
      fun same => nomatch same
    exact (mesh.note_drifts_of_none rfl late rfl).trans (finishDelivery_drifts _ _ _)
  · exact mesh.finishDelivery_drifts _ _

/-- A listener of known behaviour is called by a worker that is left. -/
theorem callScript_drifts (mesh : Mesh) (parked : Parked) (script : AsyncScript)
    (inert : (mesh.channel parked.channel).IsInert) :
    mesh.Drifts parked.channel [(script.tag, parked.job.task.event)] (mesh.callScript parked script) := by
  have called : mesh.Drifts parked.channel [(script.tag, parked.job.task.event)]
      (mesh.note (.called parked.channel ⟨script.tag, .async, parked.job.task.event⟩)) := by
    have call : (Occurrence.called parked.channel ⟨script.tag, .async, parked.job.task.event⟩).callOf?
        parked.channel = some (script.tag, parked.job.task.event) := if_pos rfl
    have noted := mesh.note_drifts (.called parked.channel ⟨script.tag, .async, parked.job.task.event⟩) rfl
      fun same => nomatch same
    rwa [call] at noted
  unfold callScript
  dsimp only
  split
  · exact called.trans (finishDelivery_drifts _ _ _)
  · exact called.trans (finishDelivery_drifts _ _ _)
  · split
    · rename_i passes
      have arrived : ((mesh.note (.called parked.channel ⟨script.tag, .async, parked.job.task.event⟩)).gate.arrive
          parked).2.waiting = mesh.gate.waiting := by
        unfold Gate.arrive at passes ⊢
        split
        · rfl
        · rename_i shut
          rw [if_neg shut] at passes
          cases passes
      have through : (mesh.note (.called parked.channel ⟨script.tag, .async, parked.job.task.event⟩)).Drifts
          parked.channel [] { mesh.note (.called parked.channel ⟨script.tag, .async, parked.job.task.event⟩) with
            gate := (mesh.gate.arrive parked).2 } :=
        drifts_of_same rfl rfl rfl rfl rfl (arrived ▸ List.Subset.refl _) (List.Subset.refl _)
      exact (called.trans through).trans (pass_drifts _ parked)
    · split
      · refine called.trans (modify_drifts _ rfl (Channel.rests_of_consumer rfl id fun _ => ?_))
        rcases Consumer.waitDelivery_pending (mesh.channel parked.channel).consumer (some parked.job.ticket) with
          same | none
        · exact same ▸ .refl _
        · exact none ▸ List.nil_subperm
      · rename_i goesOn
        exact absurd inert.stopped goesOn

/-- A consumer without a pool queues nothing. -/
theorem hand_drifts (mesh : Mesh) (inert : (mesh.channel n).IsInert) (event : Event) :
    mesh.Drifts n [] (mesh.hand n event) := by
  have same : (mesh.channel n).consumer.accept event = (mesh.channel n).consumer := by
    unfold Consumer.accept
    split
    · refine List.foldlRecOn (motive := (· = (mesh.channel n).consumer)) _ _ rfl fun between same entry _ => ?_
      rw [same]
      unfold Consumer.deliver
      rw [inert.noDeliveries]
    · rfl
  unfold hand
  dsimp only
  rw [same]
  rw [if_neg (Nat.lt_irrefl _)]
  exact mesh.modify_drifts rfl (Channel.rests_of_same rfl rfl rfl rfl rfl rfl rfl rfl rfl)

/-- **What an inert channel is called with itself** it answers to nobody. -/
theorem follow_drifts (mesh : Mesh) (inert : (mesh.channel n).IsInert) (ticket : Nat) {consequence : Consequence}
    (standing : consequence.channel.standing = (mesh.channel n).standing)
    (idle : (mesh.channel n).IsIdle consequence) : mesh.Drifts n [] (mesh.follow n ticket consequence) := by
  have changed : mesh.Drifts n [] (mesh.modify n fun _ => consequence.channel) :=
    mesh.modify_drifts standing idle.rests
  unfold follow
  extract_lets isResynced changedMesh resynced replied found delivered
  have resyncs : resynced = changedMesh := if_neg fun differs => differs idle.announcing.symm
  have replies : replied = changedMesh := by
    unfold replied
    rw [idle.replies, resyncs]
    rfl
  have finds : found = changedMesh := by
    unfold found
    rw [idle.found, replies]
  have delivers : mesh.Drifts n [] delivered := by
    unfold delivered
    rw [finds]
    split
    · exact changed.trans (hand_drifts _ (changed.stays inert).1 _)
    · exact changed
  split
  · rename_i address _
    obtain ⟨atOnce, pinged⟩ := ping_refused delivered (delivers.stays inert).1 address
    unfold inquire
    dsimp only
    rw [if_pos atOnce]
    exact (delivers.trans pinged).trans (finishDelivery_drifts _ _ _)
  · exact delivers.trans (finishDelivery_drifts _ _ _)

theorem attend_drifts (mesh : Mesh) (inert : (mesh.channel n).IsInert) (job : Job (Delivery Listener)) :
    mesh.Drifts n (Channel.toCall? job.task).toList (mesh.attend n job) := by
  unfold attend
  split
  · rename_i gone
    unfold Channel.toCall?
    rw [gone.1]
    exact mesh.finishDelivery_drifts n job.ticket
  · unfold call Channel.toCall?
    cases job.task.listener with
    | script script => exact mesh.callScript_drifts ⟨n, job⟩ script inert
    | protocol => exact mesh.follow_drifts inert job.ticket (Channel.react_standing _ _ _) (inert.react _ _)

theorem takeTurns_drifts (mesh : Mesh) (move : Move) (othersIdle : Bool) {work : Mesh → Mesh}
    (inert : (mesh.channel n).IsInert)
    (works : ∀ between : Mesh, (between.channel n).IsInert → between.Drifts n calls (work between)) :
    mesh.Drifts n calls (mesh.takeTurns move othersIdle work) := by
  unfold takeTurns
  split
  · have first := mesh.enqueue_drifts n move
    exact first.trans (works _ (first.stays inert).1)
  · have last := (works mesh inert).trans (enqueueFirst_drifts _ n move)
    rwa [List.append_nil] at last

/-- **A worker that is left takes a delivery.** -/
theorem deliver_leftover (mesh : Mesh) (inert : (mesh.channel n).IsInert) : mesh.PassesBy rests (mesh.deliver n) := by
  unfold deliver
  split
  · exact .refl rests mesh
  · rename_i job consumer takes
    obtain ⟨queue, same⟩ := Consumer.takeDelivery?_pending takes
    have stopped : consumer.isStopped = (mesh.channel n).consumer.isStopped :=
      congrArg (·.isStopped) same
    have pool : consumer.pool = none := by
      have none : consumer.pool.map Pool.atRest = (mesh.channel n).consumer.pool.map Pool.atRest :=
        congrArg (·.pool) same
      rw [inert.noDeliveries] at none
      exact Option.map_eq_none_iff.mp none
    have stays : (mesh.channel n).StaysInert { mesh.channel n with consumer := consumer } :=
      fun _ => ⟨{ inert with stopped := stopped.trans inert.stopped, noDeliveries := pool }, fun _ live => live, rfl⟩
    refine Drifts.passesBy (Channel.toCall? job.task).toList inert rfl stays ?_ (fun deserted => ?_)
      fun inert => takeTurns_drifts _ _ _ inert fun between stillInert => between.attend_drifts stillInert job
    · unfold Channel.ahead
      rw [queue, List.filterMap_cons]
      cases Channel.toCall? job.task <;> rfl
    · rw [deserted.1] at queue
      cases queue

/-! ### Events that go out -/

/-- An event goes out that nobody takes. -/
theorem goOut_drifts (mesh : Mesh) (inert : (mesh.channel n).IsInert) (job : Job Outgoing) :
    mesh.Drifts n [] (mesh.goOut n job) := by
  obtain ⟨refused, -, posted⟩ := mesh.post_refused inert job.task
  have fails : ((mesh.post n job.task).1.mapError (failureOf job.task)).isOk = false := by
    rw [refused]
    rfl
  have finished (channel : Channel) : channel.Rests
      { channel.countFailure with publisher := channel.publisher.map (·.finish job.ticket) } := by
    have counted : channel.Rests channel.countFailure :=
      ⟨fun inert => ⟨{ inert with }, fun _ live => live, rfl⟩, fun _ => .refl _,
        fun _ pool held => ⟨pool, held, List.Subset.refl _⟩⟩
    exact counted.trans (Channel.rests_of_publisher (fun _ => rfl) fun _ => List.Subset.refl _)
  unfold goOut
  dsimp only
  rw [fails]
  exact (posted.trans (modify_drifts _ rfl (finished _))).trans (note_drifts_of_none _ rfl fails rfl)

/-- **A worker that is left takes an event that was to go out.** -/
theorem dispatchNext_leftover (mesh : Mesh) (inert : (mesh.channel n).IsInert) :
    mesh.PassesBy rests (mesh.dispatchNext n) := by
  unfold dispatchNext
  split
  · exact .refl rests mesh
  · rename_i job pool takes
    obtain ⟨earlier, left, takes⟩ := Option.bind_eq_some_iff.mp takes
    obtain ⟨queue, same⟩ := Pool.take?_front takes
    have stays : (mesh.channel n).StaysInert { mesh.channel n with publisher := some pool } := by
      refine Channel.staysInert_of_same rfl rfl rfl (fun last held => ⟨earlier, left, ?_⟩) rfl rfl rfl rfl
      cases held
      exact congrArg (·.isShutDown) same
    refine Drifts.passesBy [] inert rfl stays rfl (fun deserted => ?_)
      fun inert => takeTurns_drifts _ _ _ inert fun between stillInert => between.goOut_drifts stillInert job
    rw [deserted.2 earlier left] at queue
    cases queue

end Mesh

end PeerMesh
