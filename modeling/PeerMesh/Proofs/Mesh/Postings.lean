/-
**Whatever goes on in a mesh by itself is carriage, and most orders are.**

* `deliver_carriage` — a delivery: what a channel answers carries its address, and what it hands to its
  own listeners it has unpacked. `dispatchNext_carriage` — a queued event goes out, and carries the address
  that it was queued with.
* **`perform_carriage`** — every move. `runUntil_carriage` — everything that happens until a moment.
* **`carryOut_carriage`** — every order by which no channel is started, closed, moved or registered and the
  network stays as it is, if what the outsider makes up may be forged.
-/

import PeerMesh.Proofs.Mesh.Carriage
import PeerMesh.Proofs.Mesh.Workings
import PeerMesh.Proofs.Pool.Runs

namespace PeerMesh

namespace Mesh

variable {terms : Terms} {mesh : Mesh} {n : Nat} {event : Event}

/-! ### Events for several -/

/-- What is posted if a channel has something to say carries its address. -/
theorem stamps_of_posted {channel : Channel} {made : Except TransportError Event} {one : Outgoing}
    (stamps : ∀ event, made = .ok event → channel.Stamps event)
    (among : one ∈ (made.toOption.map Outgoing.broadcast).toList) : channel.Stamps one.event := by
  cases made with
  | error error => cases among
  | ok event =>
    rw [List.mem_singleton.mp among]
    exact stamps event rfl

/-- What is made one for each is made for one of them. -/
theorem exists_of_mapM_eq_ok {α β ε : Type} {make : α → Except ε β} (targets : List α) :
    ∀ {results : List β}, targets.mapM make = .ok results →
      ∀ result ∈ results, ∃ target ∈ targets, make target = .ok result := by
  induction targets with
  | nil =>
    intro results made result among
    cases made
    cases among
  | cons target rest ih =>
    intro results made result among
    rw [List.mapM_cons] at made
    cases first : make target with
    | error error =>
      rw [first] at made
      cases made
    | ok front =>
      rw [first] at made
      cases others : rest.mapM make with
      | error error =>
        rw [others] at made
        cases made
      | ok more =>
        rw [others] at made
        obtain rfl := Except.ok.inj made
        rcases List.mem_cons.mp among with rfl | later
        · exact ⟨target, List.mem_cons_self, first⟩
        · obtain ⟨other, listed, makes⟩ := ih others result later
          exact ⟨other, List.mem_cons_of_mem _ listed, makes⟩

/-! ### The agenda and the gate -/

theorem enqueueLast_carriage (mesh : Mesh) (move : Move) :
    mesh.Carriage terms (mesh.enqueueLast move) := carriage_of_same rfl rfl rfl rfl

theorem enqueueFirst_carriage (mesh : Mesh) (move : Move) :
    mesh.Carriage terms (mesh.enqueueFirst move) := carriage_of_same rfl rfl rfl rfl

/-! ### Deliveries -/

theorem finishDelivery_carriage (mesh : Mesh) (n ticket : Nat) :
    mesh.Carriage terms (mesh.finishDelivery n ticket) := by
  have same := (mesh.channel n).consumer.finishDelivery_pending ticket
  have finished : mesh.Carriage terms (mesh.modify n fun channel =>
      { channel with consumer := channel.consumer.finishDelivery ticket }) := by
    refine mesh.consumer_carriage n (·.finishDelivery ticket) same.2 fun event held => .inl ?_
    exact Consumer.holds_of_pending (same.1 ▸ List.Subset.refl _) held
  exact finished.trans (enqueue_carriage _ _)

theorem pass_carriage (mesh : Mesh) (parked : Parked) : mesh.Carriage terms (mesh.pass parked) := by
  unfold pass
  dsimp only
  split
  · refine Carriage.trans (note_carriage mesh ?_) (finishDelivery_carriage _ _ _)
    trivial
  · exact mesh.finishDelivery_carriage _ _

theorem release_carriage (mesh : Mesh) (count : Nat) : mesh.Carriage terms (mesh.release count) := by
  have opened : mesh.Carriage terms { mesh with gate := (mesh.gate.release count).2 } :=
    carriage_of_same rfl rfl rfl rfl
  unfold release
  exact List.foldlRecOn _ _ opened fun between carriage parked _ => carriage.trans (between.pass_carriage parked)

/-- A worker has to wait. -/
theorem waitDelivery_carriage (mesh : Mesh) (n : Nat) (ticket? : Option Nat) :
    mesh.Carriage terms (mesh.modify n fun channel =>
      { channel with consumer := channel.consumer.waitDelivery ticket? }) := by
  refine mesh.modify_carriage n (Channel.keeps_of_publisher rfl (.refl _) (.inl rfl)) fun event held => .inl ?_
  refine Consumer.holds_of_pending ?_ held
  rcases (mesh.channel n).consumer.waitDelivery_pending ticket? with same | none
  · exact same ▸ List.Subset.refl _
  · exact none ▸ List.nil_subset _

theorem callScript_carriage (mesh : Mesh) (parked : Parked) (script : AsyncScript) :
    mesh.Carriage terms (mesh.callScript parked script) := by
  have called : mesh.Carriage terms
      (mesh.note (.called parked.channel ⟨script.tag, .async, parked.job.task.event⟩)) :=
    mesh.note_carriage trivial
  unfold callScript
  refine called.trans ?_
  dsimp only
  split
  · exact finishDelivery_carriage _ _ _
  · exact finishDelivery_carriage _ _ _
  · have arrived (called : Mesh) :
        called.Carriage terms { called with gate := (called.gate.arrive parked).2 } :=
      carriage_of_same rfl rfl rfl rfl
    split
    · exact (arrived _).trans (pass_carriage _ parked)
    · split
      · exact waitDelivery_carriage _ _ _
      · exact arrived _

theorem tellFinders_carriage (mesh : Mesh) (n : Nat) (id : NodeId) (address : Address) :
    mesh.Carriage terms (mesh.tellFinders n id address) :=
  List.foldlRecOn _ _ (Carriage.refl terms mesh) fun between carriage _ _ =>
    carriage.trans (between.note_carriage trivial)

theorem inquire_carriage (mesh : Mesh) (n ticket : Nat) (address : Address) :
    mesh.Carriage terms (mesh.inquire n ticket address) := by
  have pinged : mesh.Carriage terms (mesh.ping n address).2 := pingWithin_carriage 1 mesh n address
  unfold inquire
  dsimp only
  split
  · exact pinged.trans (finishDelivery_carriage _ n ticket)
  · exact pinged.trans (carriage_of_same rfl rfl rfl rfl)

/-- What a handled event calls for is done: answers carry the address of the channel, and its listeners are
handed what it may hold. -/
theorem follow_carriage (mesh : Mesh) (ticket : Nat) {consequence : Consequence}
    (learns : (mesh.channel n).OnlyLearns consequence.channel)
    (stamps : ∀ reply ∈ consequence.replies, (mesh.channel n).Stamps reply.2)
    (owns : ∀ inner, consequence.delivered = some inner → terms.owns n inner) :
    mesh.Carriage terms (mesh.follow n ticket consequence) := by
  refine .of_abides fun abides => ?_
  unfold follow
  extract_lets isResynced changed resynced replied found delivered
  have changes : mesh.Carriage terms changed := mesh.change_carriage n learns
  have resyncs : mesh.Carriage terms resynced := by
    unfold resynced
    split
    · exact changes.trans (enqueueLast_carriage _ _)
    · exact changes
  have replies : resynced.Carriage terms replied := by
    refine resynced.postAll_carriage fun one among => ?_
    obtain ⟨reply, answers, rfl⟩ := List.mem_map.mp among
    exact ((resyncs abides).keeps n).stamps (stamps reply answers)
  have finds : replied.Carriage terms found := by
    unfold found
    split
    · exact replied.tellFinders_carriage n _ _
    · exact .refl terms replied
  have delivers : found.Carriage terms delivered := by
    unfold delivered
    split
    · rename_i inner unpacked
      exact found.hand_carriage (owns inner unpacked)
    · exact .refl terms found
  refine (((resyncs.trans replies).trans finds).trans delivers).trans ?_
  split
  · exact delivered.inquire_carriage n ticket _
  · exact delivered.finishDelivery_carriage n ticket

theorem call_carriage (mesh : Mesh) {job : Job (Delivery Listener)} (owns : terms.owns n job.task.event) :
    mesh.Carriage terms (mesh.call n job) := by
  unfold call
  split
  · exact mesh.callScript_carriage _ _
  · exact mesh.follow_carriage job.ticket (Channel.react_onlyLearns _ _ _)
      (fun _ replied => Channel.react_stamps replied)
      fun _ delivered => terms.unwraps owns (Channel.react_wraps delivered)

theorem attend_carriage (mesh : Mesh) {job : Job (Delivery Listener)} (owns : terms.owns n job.task.event) :
    mesh.Carriage terms (mesh.attend n job) := by
  unfold attend
  split
  · exact mesh.finishDelivery_carriage n job.ticket
  · exact mesh.call_carriage owns

theorem takeTurns_carriage (mesh : Mesh) (move : Move) (othersIdle : Bool) {work : Mesh → Mesh}
    (works : mesh.Carriage terms (work mesh))
    (worksAfter : (mesh.enqueue move).Carriage terms (work (mesh.enqueue move))) :
    mesh.Carriage terms (mesh.takeTurns move othersIdle work) := by
  unfold takeTurns
  split
  · exact (mesh.enqueue_carriage move).trans worksAfter
  · exact works.trans (enqueueFirst_carriage _ move)

/-- **A worker takes a delivery.** -/
theorem deliver_carriage (mesh : Mesh) (n : Nat) : mesh.Carriage terms (mesh.deliver n) := by
  refine .of_abides fun abides => ?_
  unfold deliver
  split
  · exact .refl terms mesh
  · rename_i job consumer takes
    obtain ⟨pending, atRest⟩ := Consumer.takeDelivery?_pending takes
    have owns : terms.owns n job.task.event :=
      abides.held n _ ⟨job, pending ▸ List.mem_cons_self, rfl⟩
    have taken : mesh.Carriage terms (mesh.modify n fun channel => { channel with consumer := consumer }) := by
      refine mesh.consumer_carriage n (fun _ => consumer) atRest fun event held => .inl ?_
      exact Consumer.holds_of_pending (pending ▸ List.subset_cons_self _ _) held
    exact taken.trans (takeTurns_carriage _ _ _ (attend_carriage _ owns) (attend_carriage _ owns))

/-! ### Events that go out -/

theorem goOut_carriage (mesh : Mesh) {job : Job Outgoing} (stamps : (mesh.channel n).Stamps job.task.event) :
    mesh.Carriage terms (mesh.goOut n job) := by
  have finished (isOk : Bool) (channel : Channel) :
      let told := if isOk then channel else channel.countFailure
      channel.Keeps { told with publisher := told.publisher.map (·.finish job.ticket) } := by
    have same : (if isOk then channel else channel.countFailure).view = channel.view := by
      cases isOk <;> rfl
    have becomes : channel.view.Becomes (if isOk then channel else channel.countFailure).view := same ▸ .refl _
    refine Channel.keeps_of_queue (by cases isOk <;> rfl) becomes fun pool opened other queued => .inl ?_
    obtain ⟨earlier, was, rfl⟩ := Option.map_eq_some_iff.mp opened
    refine ⟨earlier, ?_, queued⟩
    cases isOk <;> exact was
  have consumer (isOk : Bool) (channel : Channel) :
      (if isOk then channel else channel.countFailure).consumer = channel.consumer := by
    cases isOk <;> rfl
  unfold goOut
  refine (mesh.post_carriage job.task stamps).trans (Carriage.trans ?_ (note_carriage _ trivial))
  exact modify_carriage _ n (finished _ _) fun event held => .inl (consumer _ _ ▸ held)

/-- **A queued event goes out**, with the address that it was queued with. -/
theorem dispatchNext_carriage (mesh : Mesh) (n : Nat) : mesh.Carriage terms (mesh.dispatchNext n) := by
  refine .of_abides fun abides => ?_
  unfold dispatchNext
  split
  · exact .refl terms mesh
  · rename_i job pool takes
    obtain ⟨before, opened, taken⟩ := Option.bind_eq_some_iff.mp takes
    obtain ⟨queue, -⟩ := Pool.take?_front taken
    have stamps : (mesh.channel n).Stamps job.task.event :=
      abides.stamped n before opened job (queue ▸ List.mem_cons_self)
    have takesOff : mesh.Carriage terms (mesh.modify n fun channel => { channel with publisher := some pool }) := by
      refine mesh.modify_carriage n (Channel.keeps_of_queue rfl (.refl _) fun pool same other queued => .inl ?_)
        fun event held => .inl held
      obtain rfl := Option.some.inj same
      exact ⟨before, opened, queue ▸ List.mem_cons_of_mem _ queued⟩
    have still := ((takesOff abides).keeps n).stamps stamps
    refine takesOff.trans (takeTurns_carriage _ _ _ (goOut_carriage _ still) (goOut_carriage _ ?_))
    unfold enqueue
    split <;> exact still

/-! ### Announcements -/

theorem announce_carriage (mesh : Mesh) (n : Nat) : mesh.Carriage terms (mesh.announce n) := by
  have announced (later : Option Announcing) (again : Bool) :
      let posted := (mesh.modify n fun channel => { channel with announcing := later }).postAll n
        ((mesh.channel n).announcement.toOption.map .broadcast).toList
      mesh.Carriage terms (if again then posted.enqueueFirst (.announce n) else posted) := by
    refine .of_abides fun abides => ?_
    have counted : mesh.Carriage terms (mesh.modify n fun channel => { channel with announcing := later }) :=
      mesh.change_carriage n ⟨rfl, .refl _, rfl, rfl⟩
    have posted := counted.trans (postAll_carriage _ fun one among =>
      ((counted abides).keeps n).stamps (stamps_of_posted (fun _ => Channel.stamps_of_announcement) among))
    cases again with
    | true => exact posted.trans (enqueueFirst_carriage _ _)
    | false => exact posted
  unfold announce
  dsimp only
  split
  · exact .refl terms mesh
  · split
    · exact .refl terms mesh
    · exact announced _ _

theorem goOn_carriage (mesh : Mesh) (n : Nat) : mesh.Carriage terms (mesh.goOn n) := by
  unfold goOn
  split
  · exact .refl terms mesh
  · exact (mesh.change_carriage n ⟨rfl, .refl _, rfl, rfl⟩).trans (enqueueFirst_carriage _ _)

theorem finish_carriage (mesh : Mesh) (n ticket : Nat) : mesh.Carriage terms (mesh.finish n ticket) := by
  have fewer (errands : List Errand) : mesh.Carriage terms { mesh with errands := errands } :=
    carriage_of_same rfl rfl rfl rfl
  unfold finish
  dsimp only
  split
  · exact ((fewer _).trans (finishDelivery_carriage _ n ticket)).trans (goOn_carriage _ n)
  · exact .refl terms mesh

/-- **Whatever move is made.** -/
theorem perform_carriage (mesh : Mesh) (move : Move) : mesh.Carriage terms (mesh.perform move) := by
  cases move with
  | deliver n => exact mesh.deliver_carriage n
  | dispatch n => exact mesh.dispatchNext_carriage n
  | announce n => exact mesh.announce_carriage n
  | turn n => exact mesh.turn_carriage Draw.first n
  | hear n => exact mesh.hearScheduled_carriage Draw.first n
  | finish n ticket => exact mesh.finish_carriage n ticket
  | heed n => exact carriage_of_same rfl rfl rfl rfl

/-! ### Channels to which nothing refers -/

/-- What runs inside a channel stops, and what was queued is left for workers in the middle of a turn, or gone. -/
theorem halt_carriage (mesh : Mesh) (n : Nat) : mesh.Carriage terms (mesh.halt n) := by
  have halted : mesh.Carriage terms (mesh.modify n Channel.halt) := by
    refine mesh.modify_carriage n (Channel.halt_keeps _) fun event held => .inl ?_
    refine Consumer.holds_of_pending ?_ held
    rcases (mesh.channel n).consumer.stop_pending (mesh.channel n).calling with same | none
    · exact same ▸ List.Subset.refl _
    · exact none ▸ List.nil_subset _
  exact halted.trans (carriage_of_same rfl rfl rfl rfl)

theorem tidy_carriage (mesh : Mesh) : mesh.Carriage terms mesh.tidy := by
  refine List.foldlRecOn _ _ (Carriage.refl terms mesh) fun between carriage n _ => carriage.trans ?_
  unfold retire
  split
  · exact .refl terms between
  · exact (between.halt_carriage n).trans (change_carriage _ n ⟨rfl, .refl _, rfl, rfl⟩)

/-! ### Time -/

theorem wake_carriage (mesh : Mesh) : mesh.Carriage terms mesh.wake :=
  List.foldlRecOn _ _ (Carriage.refl terms mesh) fun between carriage move _ =>
    carriage.trans (between.enqueue_carriage move)

theorem next_carriage {later : Mesh} (next : mesh.next? = some later) : mesh.Carriage terms later := by
  unfold next? at next
  split at next
  · cases next
  · cases next
    have begun (agenda : List Move) : mesh.Carriage terms { mesh with agenda := agenda } :=
      carriage_of_same rfl rfl rfl rfl
    exact ((begun _).trans (perform_carriage _ _)).trans (tidy_carriage _)

theorem pass_time_carriage (mesh : Mesh) (time : Nat) : mesh.Carriage terms { mesh with time := time } :=
  carriage_of_same rfl rfl rfl rfl

/-- **Everything that happens until a moment.** -/
theorem runUntil_carriage (mesh : Mesh) (moment : Nat) : mesh.Carriage terms (mesh.runUntil moment) := by
  have within (fuel : Nat) : ∀ mesh : Mesh, mesh.Carriage terms (runWithin moment fuel mesh) := by
    induction fuel with
    | zero => exact fun mesh => mesh.pass_time_carriage _
    | succ fuel ih =>
      intro mesh
      unfold runWithin
      split
      · rename_i later next
        exact (next_carriage next).trans (ih later)
      · split
        · split
          · exact ((mesh.pass_time_carriage _).trans (wake_carriage _)).trans (ih _)
          · exact mesh.pass_time_carriage _
        · exact mesh.pass_time_carriage _
  exact mesh.tidy_carriage.trans (within _ _)

theorem settle_carriage (mesh : Mesh) : mesh.Carriage terms mesh.settle := mesh.runUntil_carriage _

/-! ### What callers ask of channels -/

theorem resync_carriage (mesh : Mesh) (n : Nat) : mesh.Carriage terms (mesh.resync n) := by
  unfold Mesh.resync
  split
  · have announced : mesh.Carriage terms (mesh.modify n (·.resync mesh.time)) :=
      mesh.change_carriage n (Channel.resync_onlyLearns _ _)
    exact announced.trans (enqueueLast_carriage _ _)
  · exact .refl terms mesh

theorem forceResync_carriage (mesh : Mesh) (n : Nat) (targets : Option (List NodeId)) :
    mesh.Carriage terms (mesh.forceResync n targets).2 := by
  unfold forceResync
  dsimp only
  split
  · exact .refl terms mesh
  · rename_i event made
    exact mesh.post_carriage (.broadcast event) (Channel.stamps_of_outboundEvent made)

/-- An event is queued to go out that carries the address of the channel. -/
theorem submit_carriage (mesh : Mesh) (outgoing : Outgoing) (stamps : (mesh.channel n).Stamps outgoing.event) :
    mesh.Carriage terms (mesh.submit n outgoing).2 := by
  unfold submit
  split
  · exact .refl terms mesh
  · rename_i pool opened
    split
    · exact mesh.change_carriage n ⟨rfl, .refl _, rfl, rfl⟩
    · rename_i later accepted
      have queued : mesh.Carriage terms (mesh.modify n ({ · with publisher := some later })) := by
        refine mesh.modify_carriage n (Channel.keeps_of_queue rfl (.refl _) fun pool' same job queued => ?_)
          fun event held => .inl held
        obtain rfl := Option.some.inj same
        rw [(Pool.submit_ok accepted).2] at queued
        rcases List.mem_append.mp queued with before | last
        · exact .inl ⟨pool, opened, before⟩
        · rw [List.mem_singleton.mp last]
          exact .inr stamps
      exact queued.trans (enqueue_carriage _ _)

theorem dispatch_carriage (mesh : Mesh) (n : Nat) (scope : Scope) (kind : String) (data : Bytes) :
    mesh.Carriage terms (mesh.dispatch n scope kind data).2 := by
  unfold dispatch
  split
  · exact .refl terms mesh
  · rename_i event made
    exact mesh.submit_carriage (.broadcast event) (Channel.stamps_of_outboundEvent made)

theorem dispatchFor_carriage (mesh : Mesh) (n : Nat) (goal : Goal) (kind : String) (data : Bytes) :
    mesh.Carriage terms (mesh.dispatchFor n goal kind data).2 := by
  cases goal with
  | ownDomain => exact mesh.dispatch_carriage n _ kind data
  | domain name => exact mesh.dispatch_carriage n _ kind data
  | allDomains => exact mesh.dispatch_carriage n _ kind data
  | address address =>
    unfold dispatchFor dispatchTo
    dsimp only
    split
    · exact .refl terms mesh
    · rename_i event made
      exact mesh.submit_carriage (.send address event) (Channel.stamps_of_outboundEvent made)

theorem dispatchTimes_carriage (mesh : Mesh) (n times : Nat) (goal : Goal) (kind : String) (data : Bytes) :
    mesh.Carriage terms (mesh.dispatchTimes n times goal kind data).2 := by
  unfold dispatchTimes
  induction times with
  | zero => exact .refl terms mesh
  | succ times ih => exact ih.trans (dispatchFor_carriage _ n goal kind data)

theorem sendAll_carriage (mesh : Mesh) {targets : List (Address × Event)}
    (stamps : ∀ target ∈ targets, (mesh.channel n).Stamps target.2) (timeout : Duration) :
    mesh.Carriage terms (mesh.sendAll n targets timeout).2 := by
  have asked : mesh.Carriage terms (mesh.askAll n targets).2 := by
    unfold askAll
    exact List.foldlRecOn (motive := fun asked : List (Address × Behaviour) × Mesh =>
      mesh.Carriage terms asked.2) targets _ (Carriage.refl terms mesh) fun between carriage target among =>
        fun abides => carriage.trans (between.2.request_carriage
          (((carriage abides).keeps n).stamps (stamps target among)) target.1) abides
  exact asked.trans (runUntil_carriage _ _)

theorem send_carriage (mesh : Mesh) (n : Nat) (address : Address) (kind : String) (data : Bytes)
    (timeout : Duration) : mesh.Carriage terms (mesh.send n address kind data timeout).2 := by
  unfold send
  split
  · exact .refl terms mesh
  · rename_i event made
    exact (mesh.request_carriage (Channel.stamps_of_outboundEvent made) address).trans
      (runUntil_carriage _ _)

theorem sendEach_carriage (mesh : Mesh) (n : Nat) (targets : List (Address × Bytes)) (kind : String)
    (timeout : Duration) : mesh.Carriage terms (mesh.sendEach n targets kind timeout).2 := by
  unfold sendEach
  dsimp only
  split
  · exact .refl terms mesh
  · rename_i events made
    refine mesh.sendAll_carriage (fun target among => ?_) timeout
    obtain ⟨⟨address, data⟩, -, makes⟩ := exists_of_mapM_eq_ok targets made target among
    cases makes' : (mesh.channel n).outboundEvent .unscoped kind data with
    | error error =>
      simp only [makes'] at makes
      cases makes
    | ok event =>
      simp only [makes'] at makes
      obtain rfl := Except.ok.inj makes
      exact Channel.stamps_of_outboundEvent makes'

theorem sendMany_carriage (mesh : Mesh) (n : Nat) (addresses : List Address) (kind : String) (data : Bytes)
    (timeout : Duration) : mesh.Carriage terms (mesh.sendMany n addresses kind data timeout).2 := by
  unfold sendMany
  split
  · exact .refl terms mesh
  · rename_i event made
    refine mesh.sendAll_carriage (fun target among => ?_) timeout
    obtain ⟨address, -, rfl⟩ := List.mem_map.mp among
    exact Channel.stamps_of_outboundEvent made

theorem sendControl_carriage (mesh : Mesh) (n : Nat) (ids : List NodeId) (kind : String) (data : Bytes) :
    mesh.Carriage terms (mesh.sendControl n ids kind data).2 := by
  unfold sendControl
  split
  · exact .refl terms mesh
  · unfold Station.sendControl PeerMesh.sendControl
    exact List.foldlRecOn (motive := fun sent : Nat × Mesh => mesh.Carriage terms sent.2) _ _
      (Carriage.refl terms mesh) fun between carriage batch _ => sendAll_keeps _
        (fun message _ between carriage => carriage.trans (between.tell_carriage n message.1 message.2)) carriage

theorem awaitPeers_carriage (mesh : Mesh) (n : Nat) (timeout : Duration) (minimum : Nat) :
    mesh.Carriage terms (mesh.awaitPeers n timeout minimum).2 := by
  have within (deadline fuel : Nat) : ∀ mesh : Mesh,
      mesh.Carriage terms (awaitWithin n minimum deadline fuel mesh).2 := by
    induction fuel with
    | zero => exact fun mesh => .refl terms mesh
    | succ fuel ih =>
      intro mesh
      unfold awaitWithin
      split
      · rename_i later next
        exact (next_carriage next).trans (ih later)
      · split
        · exact .refl terms mesh
        · dsimp only
          refine Carriage.trans ?_ (ih _)
          split
          · exact (mesh.pass_time_carriage _).trans (wake_carriage _)
          · exact mesh.pass_time_carriage _
  unfold awaitPeers
  exact mesh.tidy_carriage.trans (within _ _ _)

end Mesh

/-- The event that the outsider makes up. -/
def Order.forged? : Order → Option Event
  | .forge _ event | .forgeBroadcast event | .forgeRequest _ event _ => some event
  | _ => none

namespace Mesh

variable {terms : Terms}

/-- **Most orders are carriage.** -/
theorem carryOut_carriage (mesh : Mesh) {order : Order} (isTraffic : order.isTraffic = true)
    (forges : ∀ event, order.forged? = some event → terms.forged event) :
    mesh.Carriage terms (mesh.carryOut order).2 := by
  cases order with
  | start | close | changeDomain | dispatchThenClose | register | unregister | closeAll | setReachable
  | setUp => cases isTraffic
  | isNodeDead | describe | settings | metrics | metricsText | findByDomain | registrySize
  | endpointCount => exact .refl terms mesh
  | resync n => exact mesh.resync_carriage n
  | forceResync n targets => exact mesh.forceResync_carriage n targets
  | dispatch n goal kind data => exact (mesh.dispatchFor_carriage n goal kind data).trans (settle_carriage _)
  | burst n times kind data =>
    exact (mesh.dispatchTimes_carriage n times .ownDomain kind data).trans (settle_carriage _)
  | send n address kind data timeout => exact mesh.send_carriage n address kind data timeout
  | sendMany n addresses kind data timeout => exact mesh.sendMany_carriage n addresses kind data timeout
  | sendEach n targets kind timeout => exact mesh.sendEach_carriage n targets kind timeout
  | sendToNodes n ids kind data timeout => exact mesh.sendMany_carriage n _ kind data timeout
  | sendControl n ids kind data => exact mesh.sendControl_carriage n ids kind data
  | addFinder n finder => exact mesh.change_carriage n ⟨rfl, .refl _, rfl, rfl⟩
  | awaitPeers n timeout minimum => exact mesh.awaitPeers_carriage n timeout minimum
  | view n step =>
    exact mesh.change_carriage n ⟨rfl, (mesh.channel n).detector.watched.perform_becomes mesh.time step, rfl, rfl⟩
  | sleep span => exact mesh.runUntil_carriage _
  | release count => exact mesh.release_carriage count
  | forge address event =>
    exact mesh.carry_carriage _ address event fun party route => .forgedSend (forges event rfl) route
  | forgeBroadcast event =>
    exact mesh.spread_carriage (.memory mesh.outsider.group) event fun _ _ party hears =>
      .forgedBroadcast (forges event rfl) hears
  | forgeRequest address event timeout =>
    exact (requestFrom_carriage (pingWithin_carriage 1) mesh _ address event fun party route =>
      .forgedSend (forges event rfl) route).trans (runUntil_carriage _ _)

end Mesh

end PeerMesh
