/-
**Whatever goes on in a mesh by itself passes by the channels at rest, and most orders do.**

* `Phase.refusal?` — why a channel that is not started refuses to reach out; `outboundEvent_of_refusal` — it makes
  no event for anybody.
* **`perform_traffic`** — every move, whichever channel it is a move of.
* `runUntil_traffic` — everything that happens until a moment.
* `Order.isTraffic` — the orders by which no channel is started, closed, moved or registered, and the network
  stays as it is. **`carryOut_traffic`** — such an order, also when it is given to a channel at rest.
-/

import PeerMesh.Mesh.Order
import PeerMesh.Proofs.Mesh.Leftovers

namespace PeerMesh

/-- Why a channel refuses to reach out, if it does. -/
def Phase.refusal? : Phase → Option ChannelError
  | .created => some .notStarted
  | .started => none
  | .closed => some .closed

namespace Channel

variable {channel : Channel} {error : ChannelError}

theorem gate_of_refusal (refused : channel.phase.refusal? = some error) : channel.gate = .error error := by
  unfold gate
  cases phase : channel.phase with
  | started =>
    rw [phase] at refused
    cases refused
  | created | closed =>
    rw [phase] at refused
    exact congrArg Except.error (Option.some.inj refused)

/-- A channel that refuses makes no event for anybody. -/
theorem outboundEvent_of_refusal (refused : channel.phase.refusal? = some error) (scope : Scope)
    (kind : String) (data : Bytes) : channel.outboundEvent scope kind data = .error error := by
  unfold outboundEvent
  rw [gate_of_refusal refused]
  rfl

theorem gate_of_closed (closed : channel.phase = .closed) : channel.gate = .error .closed :=
  gate_of_refusal (closed ▸ rfl)

/-- A closed channel has no events for anybody. -/
theorem outboundEvent_of_closed (closed : channel.phase = .closed) (scope : Scope) (kind : String)
    (data : Bytes) : channel.outboundEvent scope kind data = .error .closed :=
  outboundEvent_of_refusal (closed ▸ rfl) scope kind data

end Channel

namespace Mesh

variable {rests : Nat → Prop} {mesh : Mesh} {n : Nat}

/-- A channel at rest has no events for anybody. -/
theorem IsApart.awake_of_outboundEvent (apart : mesh.IsApart rests) {scope : Scope} {kind : String}
    {data : Bytes} {event : Event} (made : (mesh.channel n).outboundEvent scope kind data = .ok event) :
    ¬ rests n := by
  intro isRest
  rw [Channel.outboundEvent_of_closed (apart.inert n isRest).closed] at made
  cases made

/-! ### The agenda and the gate -/

theorem enqueueLast_traffic (mesh : Mesh) (move : Move) : mesh.Traffic rests (mesh.enqueueLast move) :=
  mesh.traffic_of_agenda mesh.time _

theorem enqueueFirst_traffic (mesh : Mesh) (move : Move) : mesh.Traffic rests (mesh.enqueueFirst move) :=
  mesh.traffic_of_agenda mesh.time _

/-- Fewer wait at the gate or for a reply, or others who do are not at rest. -/
theorem traffic_of_waiting (mesh : Mesh) {gate : Gate Parked} {errands : List Errand}
    (waiting : ∀ parked ∈ gate.waiting, rests parked.channel → parked ∈ mesh.gate.waiting)
    (running : ∀ errand ∈ errands, rests errand.channel → errand ∈ mesh.errands) :
    mesh.Traffic rests { mesh with gate := gate, errands := errands } :=
  traffic_of_same rfl rfl rfl rfl rfl waiting running

/-! ### Deliveries -/

theorem finishDelivery_traffic (mesh : Mesh) (awake : ¬ rests n) (ticket : Nat) :
    mesh.Traffic rests (mesh.finishDelivery n ticket) :=
  (mesh.change_traffic awake rfl).trans (enqueue_traffic _ _)

theorem pass_traffic (mesh : Mesh) {parked : Parked} (awake : ¬ rests parked.channel) :
    mesh.Traffic rests (mesh.pass parked) := by
  unfold pass
  dsimp only
  split
  · exact (mesh.noteBy_traffic rfl awake).trans (finishDelivery_traffic _ awake _)
  · exact mesh.finishDelivery_traffic awake _

/-- Nobody who waits at the gate is at rest. -/
theorem release_traffic (mesh : Mesh) (count : Nat) : mesh.Traffic rests (mesh.release count) := by
  refine .of_isApart fun apart => ?_
  have opened : mesh.Traffic rests { mesh with gate := (mesh.gate.release count).2 } :=
    mesh.traffic_of_waiting (fun _ waits _ => List.mem_of_mem_drop waits) fun _ runs _ => runs
  unfold release
  exact List.foldlRecOn _ _ opened fun between traffic parked passes =>
    traffic.trans (between.pass_traffic (apart.waiting parked (List.mem_of_mem_take passes)))

theorem callScript_traffic (mesh : Mesh) {parked : Parked} (awake : ¬ rests parked.channel)
    (script : AsyncScript) : mesh.Traffic rests (mesh.callScript parked script) := by
  have called : mesh.Traffic rests
      (mesh.note (.called parked.channel ⟨script.tag, .async, parked.job.task.event⟩)) :=
    mesh.noteBy_traffic rfl awake
  unfold callScript
  refine called.trans ?_
  dsimp only
  split
  · exact finishDelivery_traffic _ awake _
  · exact finishDelivery_traffic _ awake _
  · have arrived (called : Mesh) :
        called.Traffic rests { called with gate := (called.gate.arrive parked).2 } := by
      refine called.traffic_of_waiting (fun other waits isRest => ?_) fun _ runs _ => runs
      unfold Gate.arrive at waits
      split at waits
      · exact waits
      · rcases List.mem_append.mp waits with before | new
        · exact before
        · rw [List.mem_singleton.mp new] at isRest
          exact absurd isRest awake
    split
    · exact (arrived _).trans (pass_traffic _ awake)
    · split
      · exact change_traffic _ awake rfl
      · exact arrived _

theorem tellFinders_traffic (mesh : Mesh) (awake : ¬ rests n) (id : NodeId) (address : Address) :
    mesh.Traffic rests (mesh.tellFinders n id address) :=
  List.foldlRecOn _ _ (Traffic.refl rests mesh) fun between traffic _ _ =>
    traffic.trans (between.noteBy_traffic rfl awake)

theorem inquire_traffic (mesh : Mesh) (awake : ¬ rests n) (ticket : Nat) (address : Address) :
    mesh.Traffic rests (mesh.inquire n ticket address) := by
  have pinged : mesh.Traffic rests (mesh.ping n address).2 := pingWithin_traffic 1 mesh n awake address
  unfold inquire
  dsimp only
  split
  · exact pinged.trans (finishDelivery_traffic _ awake ticket)
  · refine pinged.trans (traffic_of_waiting _ (fun _ waits _ => waits) fun errand runs isRest => ?_)
    rcases List.mem_append.mp runs with before | new
    · exact before
    · rw [List.mem_singleton.mp new] at isRest
      exact absurd isRest awake

/-- What a handled event calls for is done. -/
theorem follow_traffic (mesh : Mesh) (awake : ¬ rests n) (ticket : Nat) {consequence : Consequence}
    (standing : consequence.channel.standing = (mesh.channel n).standing) :
    mesh.Traffic rests (mesh.follow n ticket consequence) := by
  unfold follow
  extract_lets isResynced changed resynced replied found delivered
  have changes : mesh.Traffic rests changed := mesh.change_traffic awake standing
  have resyncs : mesh.Traffic rests resynced := by
    unfold resynced
    split
    · exact changes.trans (enqueueLast_traffic _ _)
    · exact changes
  have replies : resynced.Traffic rests replied := postAll_traffic _ awake _
  have finds : replied.Traffic rests found := by
    unfold found
    split
    · exact replied.tellFinders_traffic awake _ _
    · exact .refl rests replied
  have delivers : found.Traffic rests delivered := by
    unfold delivered
    split
    · exact found.hand_traffic awake _
    · exact .refl rests found
  refine (((resyncs.trans replies).trans finds).trans delivers).trans ?_
  split
  · exact delivered.inquire_traffic awake ticket _
  · exact delivered.finishDelivery_traffic awake ticket

theorem call_traffic (mesh : Mesh) (awake : ¬ rests n) (job : Job (Delivery Listener)) :
    mesh.Traffic rests (mesh.call n job) := by
  unfold call
  split
  · exact mesh.callScript_traffic awake _
  · exact mesh.follow_traffic awake job.ticket (Channel.react_standing _ _ _)

theorem attend_traffic (mesh : Mesh) (awake : ¬ rests n) (job : Job (Delivery Listener)) :
    mesh.Traffic rests (mesh.attend n job) := by
  unfold attend
  split
  · exact mesh.finishDelivery_traffic awake job.ticket
  · exact mesh.call_traffic awake job

theorem takeTurns_traffic (mesh : Mesh) (move : Move) (othersIdle : Bool) {work : Mesh → Mesh}
    (works : ∀ between : Mesh, between.Traffic rests (work between)) :
    mesh.Traffic rests (mesh.takeTurns move othersIdle work) := by
  unfold takeTurns
  split
  · exact (mesh.enqueue_traffic move).trans (works _)
  · exact (works mesh).trans (enqueueFirst_traffic _ move)

/-- A worker takes a delivery; at rest it is one that was left. -/
theorem deliver_traffic (mesh : Mesh) (n : Nat) : mesh.Traffic rests (mesh.deliver n) := by
  intro apart
  by_cases isRest : rests n
  · exact mesh.deliver_leftover (apart.inert n isRest)
  · refine (?_ : mesh.Traffic rests _) apart
    unfold deliver
    split
    · exact .refl rests mesh
    · rename_i job consumer _
      exact (mesh.change_traffic isRest rfl).trans
        (takeTurns_traffic _ _ _ fun between => between.attend_traffic isRest job)

/-! ### Events that go out -/

theorem goOut_traffic (mesh : Mesh) (awake : ¬ rests n) (job : Job Outgoing) :
    mesh.Traffic rests (mesh.goOut n job) := by
  have finished (isOk : Bool) (channel : Channel) :
      let told := if isOk then channel else channel.countFailure
      ({ told with publisher := told.publisher.map (·.finish job.ticket) } : Channel).standing =
        channel.standing := by
    cases isOk <;> rfl
  unfold goOut
  exact ((mesh.post_traffic awake job.task).trans (change_traffic _ awake (finished _ _))).trans
    (noteBy_traffic _ rfl awake)

/-- A worker takes an event that goes out; at rest it is one that was left. -/
theorem dispatchNext_traffic (mesh : Mesh) (n : Nat) : mesh.Traffic rests (mesh.dispatchNext n) := by
  intro apart
  by_cases isRest : rests n
  · exact mesh.dispatchNext_leftover (apart.inert n isRest)
  · refine (?_ : mesh.Traffic rests _) apart
    unfold dispatchNext
    split
    · exact .refl rests mesh
    · rename_i job pool _
      exact (mesh.change_traffic isRest rfl).trans
        (takeTurns_traffic _ _ _ fun between => between.goOut_traffic isRest job)

/-! ### Announcements -/

theorem announce_traffic (mesh : Mesh) (n : Nat) : mesh.Traffic rests (mesh.announce n) := by
  refine .of_isApart fun apart => ?_
  unfold announce
  dsimp only
  split
  · exact .refl rests mesh
  · rename_i announcing announces
    have awake : ¬ rests n := by
      intro isRest
      rw [(apart.inert n isRest).noAnnouncements] at announces
      cases announces
    have announced (later : Option Announcing) (outgoing : List Outgoing) (again : Bool) :
        let posted := (mesh.modify n fun channel => { channel with announcing := later }).postAll n outgoing
        mesh.Traffic rests (if again then posted.enqueueFirst (.announce n) else posted) := by
      have counted : mesh.Traffic rests (mesh.modify n fun channel => { channel with announcing := later }) :=
        mesh.change_traffic awake rfl
      have posted := counted.trans (postAll_traffic _ awake outgoing)
      cases again with
      | true => exact posted.trans (enqueueFirst_traffic _ _)
      | false => exact posted
    split
    · exact .refl rests mesh
    · exact announced _ _ _

theorem goOn_traffic (mesh : Mesh) (awake : ¬ rests n) : mesh.Traffic rests (mesh.goOn n) := by
  unfold goOn
  split
  · exact .refl rests mesh
  · exact (mesh.change_traffic awake rfl).trans (enqueueFirst_traffic _ _)

theorem finish_traffic (mesh : Mesh) (n ticket : Nat) : mesh.Traffic rests (mesh.finish n ticket) := by
  refine .of_isApart fun apart => ?_
  unfold finish
  dsimp only
  split
  · rename_i isOver
    obtain ⟨errand, runs, ends⟩ := List.any_eq_true.mp isOver
    have awake : ¬ rests n := by
      have ours : errand.channel = n := by
        simp only [Bool.and_eq_true, decide_eq_true_eq] at ends
        exact ends.1.1
      rw [← ours]
      exact apart.errands errand runs
    exact ((mesh.traffic_of_waiting (fun _ waits _ => waits) fun _ runs _ => List.mem_of_mem_filter runs).trans
      (finishDelivery_traffic _ awake ticket)).trans (goOn_traffic _ awake)
  · exact .refl rests mesh

/-- A socket is where it was, whatever it heeds. -/
theorem heed_traffic (mesh : Mesh) (n : Nat) : mesh.Traffic rests (mesh.heed n) := by
  refine traffic_of_same rfl rfl (funext fun m => ?_) rfl rfl (fun _ waits _ => waits) fun _ runs _ => runs
  unfold portsOf heed
  induction mesh.ports with
  | nil => rfl
  | cons port rest ih =>
    by_cases about : port.channel = n <;> by_cases asked : port.channel = m <;> simp_all

/-- **Whatever move is made**, it passes by the channels at rest. -/
theorem perform_traffic (mesh : Mesh) (move : Move) : mesh.Traffic rests (mesh.perform move) := by
  cases move with
  | deliver n => exact mesh.deliver_traffic n
  | dispatch n => exact mesh.dispatchNext_traffic n
  | announce n => exact mesh.announce_traffic n
  | turn n => exact mesh.turn_traffic Draw.first n
  | hear n => exact mesh.hearScheduled_traffic Draw.first n
  | finish n ticket => exact mesh.finish_traffic n ticket
  | heed n => exact mesh.heed_traffic n

/-! ### Channels to which nothing refers -/

theorem halt_traffic (mesh : Mesh) (n : Nat) : mesh.Traffic rests (mesh.halt n) := by
  have halted : mesh.Traffic rests (mesh.modify n Channel.halt) :=
    mesh.modify_traffic n rfl fun _ => Channel.halt_rests _
  refine halted.trans (traffic_of_waiting _ (fun _ waits _ => ?_) fun _ runs _ => ?_)
  · exact List.mem_of_mem_filter waits
  · exact List.mem_of_mem_filter runs

theorem tidy_traffic (mesh : Mesh) : mesh.Traffic rests mesh.tidy := by
  refine List.foldlRecOn _ _ (Traffic.refl rests mesh) fun between traffic n _ => traffic.trans ?_
  unfold retire
  split
  · exact .refl rests between
  · exact (between.halt_traffic n).trans
      (modify_traffic _ n rfl fun _ => Channel.rests_of_same rfl rfl rfl rfl rfl rfl rfl rfl rfl)

/-! ### Time -/

theorem wake_traffic (mesh : Mesh) : mesh.Traffic rests mesh.wake :=
  List.foldlRecOn _ _ (Traffic.refl rests mesh) fun between traffic move _ =>
    traffic.trans (between.enqueue_traffic move)

theorem next_traffic {later : Mesh} (next : mesh.next? = some later) : mesh.Traffic rests later := by
  unfold next? at next
  split at next
  · cases next
  · cases next
    exact ((mesh.traffic_of_agenda mesh.time _).trans (perform_traffic _ _)).trans (tidy_traffic _)

theorem pass_time (mesh : Mesh) (time : Nat) : mesh.Traffic rests { mesh with time := time } :=
  mesh.traffic_of_agenda time mesh.agenda

/-- **Everything that happens until a moment.** -/
theorem runUntil_traffic (mesh : Mesh) (moment : Nat) : mesh.Traffic rests (mesh.runUntil moment) := by
  have within (fuel : Nat) : ∀ mesh : Mesh, mesh.Traffic rests (runWithin moment fuel mesh) := by
    induction fuel with
    | zero => exact fun mesh => mesh.pass_time _
    | succ fuel ih =>
      intro mesh
      unfold runWithin
      split
      · rename_i later next
        exact (next_traffic next).trans (ih later)
      · split
        · split
          · exact ((mesh.pass_time _).trans (wake_traffic _)).trans (ih _)
          · exact mesh.pass_time _
        · exact mesh.pass_time _
  exact mesh.tidy_traffic.trans (within _ _)

theorem settle_traffic (mesh : Mesh) : mesh.Traffic rests mesh.settle := mesh.runUntil_traffic _

/-! ### What callers ask of channels -/

theorem resync_traffic (mesh : Mesh) (n : Nat) : mesh.Traffic rests (mesh.resync n) := by
  refine .of_isApart fun apart => ?_
  unfold Mesh.resync
  split
  · rename_i started
    have awake : ¬ rests n := by
      intro isRest
      rw [(apart.inert n isRest).closed] at started
      cases started
    have announced : mesh.Traffic rests (mesh.modify n (·.resync mesh.time)) :=
      mesh.change_traffic awake (Channel.resync_standing _ _)
    exact announced.trans (enqueueLast_traffic _ _)
  · exact .refl rests mesh

theorem forceResync_traffic (mesh : Mesh) (n : Nat) (targets : Option (List NodeId)) :
    mesh.Traffic rests (mesh.forceResync n targets).2 := by
  refine .of_isApart fun apart => ?_
  unfold forceResync
  dsimp only
  split
  · exact .refl rests mesh
  · rename_i event made
    exact mesh.post_traffic (apart.awake_of_outboundEvent made) _

theorem submit_traffic (mesh : Mesh) (awake : ¬ rests n) (outgoing : Outgoing) :
    mesh.Traffic rests (mesh.submit n outgoing).2 := by
  unfold submit
  split
  · exact .refl rests mesh
  · split
    · exact mesh.change_traffic awake rfl
    · exact (mesh.change_traffic awake rfl).trans (enqueue_traffic _ _)

theorem dispatch_traffic (mesh : Mesh) (n : Nat) (scope : Scope) (kind : String) (data : Bytes) :
    mesh.Traffic rests (mesh.dispatch n scope kind data).2 := by
  refine .of_isApart fun apart => ?_
  unfold dispatch
  split
  · exact .refl rests mesh
  · rename_i event made
    exact mesh.submit_traffic (apart.awake_of_outboundEvent made) _

theorem dispatchFor_traffic (mesh : Mesh) (n : Nat) (goal : Goal) (kind : String) (data : Bytes) :
    mesh.Traffic rests (mesh.dispatchFor n goal kind data).2 := by
  cases goal with
  | ownDomain => exact mesh.dispatch_traffic n _ kind data
  | domain name => exact mesh.dispatch_traffic n _ kind data
  | allDomains => exact mesh.dispatch_traffic n _ kind data
  | address address =>
    refine .of_isApart fun apart => ?_
    unfold dispatchFor dispatchTo
    dsimp only
    split
    · exact .refl rests mesh
    · rename_i event made
      exact mesh.submit_traffic (apart.awake_of_outboundEvent made) _

theorem dispatchTimes_traffic (mesh : Mesh) (n times : Nat) (goal : Goal) (kind : String) (data : Bytes) :
    mesh.Traffic rests (mesh.dispatchTimes n times goal kind data).2 := by
  unfold dispatchTimes
  induction times with
  | zero => exact .refl rests mesh
  | succ times ih => exact ih.trans (dispatchFor_traffic _ n goal kind data)

/-- Whoever has somebody to ask is not at rest. -/
theorem sendAll_traffic (mesh : Mesh) {targets : List (Address × Event)} (awake : targets ≠ [] → ¬ rests n)
    (timeout : Duration) : mesh.Traffic rests (mesh.sendAll n targets timeout).2 := by
  have asked : mesh.Traffic rests (mesh.askAll n targets).2 := by
    unfold askAll
    exact List.foldlRecOn (motive := fun asked : List (Address × Behaviour) × Mesh =>
      mesh.Traffic rests asked.2) targets _ (Traffic.refl rests mesh) fun between traffic target among =>
        traffic.trans (request_traffic _ (awake (List.ne_nil_of_mem among)) target.1 target.2)
  exact asked.trans (runUntil_traffic _ _)

theorem send_traffic (mesh : Mesh) (n : Nat) (address : Address) (kind : String) (data : Bytes)
    (timeout : Duration) : mesh.Traffic rests (mesh.send n address kind data timeout).2 := by
  refine .of_isApart fun apart => ?_
  unfold send
  split
  · exact .refl rests mesh
  · rename_i event made
    exact (mesh.request_traffic (apart.awake_of_outboundEvent made) address event).trans
      (runUntil_traffic _ _)

/-- A channel at rest sends to nobody, and only to nobody it is not told so. -/
theorem sendEach_traffic (mesh : Mesh) (n : Nat) (targets : List (Address × Bytes)) (kind : String)
    (timeout : Duration) : mesh.Traffic rests (mesh.sendEach n targets kind timeout).2 := by
  refine .of_isApart fun apart => ?_
  unfold sendEach
  dsimp only
  split
  · exact .refl rests mesh
  · rename_i events made
    refine mesh.sendAll_traffic (fun some isRest => some ?_) timeout
    cases targets with
    | nil =>
      cases made
      rfl
    | cons target rest =>
      rw [List.mapM_cons, Channel.outboundEvent_of_closed (apart.inert n isRest).closed] at made
      cases made

theorem sendMany_traffic (mesh : Mesh) (n : Nat) (addresses : List Address) (kind : String) (data : Bytes)
    (timeout : Duration) : mesh.Traffic rests (mesh.sendMany n addresses kind data timeout).2 := by
  refine .of_isApart fun apart => ?_
  unfold sendMany
  split
  · exact .refl rests mesh
  · rename_i event made
    exact mesh.sendAll_traffic (fun _ => apart.awake_of_outboundEvent made) timeout

theorem sendControl_traffic (mesh : Mesh) (n : Nat) (ids : List NodeId) (kind : String) (data : Bytes) :
    mesh.Traffic rests (mesh.sendControl n ids kind data).2 := by
  refine .of_isApart fun apart => ?_
  unfold sendControl
  split
  · exact .refl rests mesh
  · rename_i open'
    have awake : ¬ rests n := by
      intro isRest
      rw [Channel.gate_of_closed (apart.inert n isRest).closed] at open'
      cases open'
    unfold Station.sendControl PeerMesh.sendControl
    exact List.foldlRecOn (motive := fun sent : Nat × Mesh => mesh.Traffic rests sent.2) _ _
      (Traffic.refl rests mesh) fun between traffic batch _ => sendAll_keeps _
        (fun message _ between traffic => traffic.trans (between.tell_traffic awake message.1 message.2)) traffic

theorem awaitPeers_traffic (mesh : Mesh) (n : Nat) (timeout : Duration) (minimum : Nat) :
    mesh.Traffic rests (mesh.awaitPeers n timeout minimum).2 := by
  have within (deadline fuel : Nat) : ∀ mesh : Mesh,
      mesh.Traffic rests (awaitWithin n minimum deadline fuel mesh).2 := by
    induction fuel with
    | zero => exact fun mesh => .refl rests mesh
    | succ fuel ih =>
      intro mesh
      unfold awaitWithin
      split
      · rename_i later next
        exact (next_traffic next).trans (ih later)
      · split
        · exact .refl rests mesh
        · dsimp only
          refine Traffic.trans ?_ (ih _)
          split
          · exact (mesh.pass_time _).trans (wake_traffic _)
          · exact mesh.pass_time _
  unfold awaitPeers
  exact mesh.tidy_traffic.trans (within _ _ _)

/-- A step is made on the view of a channel. -/
theorem view_traffic (mesh : Mesh) (n : Nat) (step : ViewStep) :
    mesh.Traffic rests (mesh.modify n fun _ =>
      (mesh.channel n).mapWatched fun watched => (watched.perform mesh.time step).2) :=
  mesh.modify_traffic n rfl fun _ => Channel.rests_of_watched (Watched.perform_fades _ _ step)

end Mesh

/-- Whether an order leaves the network as it is, and starts, closes, moves and registers no channel. -/
def Order.isTraffic : Order → Bool
  | .start _ | .close _ | .changeDomain .. | .dispatchThenClose .. | .register _ | .unregister _
  | .closeAll | .setReachable .. | .setUp .. => false
  | _ => true

namespace Mesh

variable {rests : Nat → Prop}

/-- **Most orders pass by the channels at rest**, and also the ones that are given to them. -/
theorem carryOut_traffic (mesh : Mesh) {order : Order} (isTraffic : order.isTraffic = true) :
    mesh.Traffic rests (mesh.carryOut order).2 := by
  cases order with
  | start | close | changeDomain | dispatchThenClose | register | unregister | closeAll | setReachable
  | setUp => cases isTraffic
  | isNodeDead | describe | settings | metrics | metricsText | findByDomain | registrySize
  | endpointCount => exact .refl rests mesh
  | resync n => exact mesh.resync_traffic n
  | forceResync n targets => exact mesh.forceResync_traffic n targets
  | dispatch n goal kind data => exact (mesh.dispatchFor_traffic n goal kind data).trans (settle_traffic _)
  | burst n times kind data =>
    exact (mesh.dispatchTimes_traffic n times .ownDomain kind data).trans (settle_traffic _)
  | send n address kind data timeout => exact mesh.send_traffic n address kind data timeout
  | sendMany n addresses kind data timeout => exact mesh.sendMany_traffic n addresses kind data timeout
  | sendEach n targets kind timeout => exact mesh.sendEach_traffic n targets kind timeout
  | sendToNodes n ids kind data timeout => exact mesh.sendMany_traffic n _ kind data timeout
  | sendControl n ids kind data => exact mesh.sendControl_traffic n ids kind data
  | addFinder n finder =>
    exact mesh.modify_traffic n rfl fun _ => Channel.rests_of_same rfl rfl rfl rfl rfl rfl rfl rfl rfl
  | awaitPeers n timeout minimum => exact mesh.awaitPeers_traffic n timeout minimum
  | view n step => exact mesh.view_traffic n step
  | sleep span => exact mesh.runUntil_traffic _
  | release count => exact mesh.release_traffic count
  | forge address event => exact mesh.carry_traffic _ address event
  | forgeBroadcast event => exact mesh.spread_traffic (.memory mesh.outsider.group) event
  | forgeRequest address event timeout =>
    exact (requestFrom_traffic (pingWithin_traffic 1) mesh _ address event).trans (runUntil_traffic _ _)

end Mesh

end PeerMesh
