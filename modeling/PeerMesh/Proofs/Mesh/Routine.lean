/-
**Moves and calls that leave the frame of every channel alone, and a call upon a channel to announce itself.**

* `follow_rest` — what a handled event calls for, when the channel has changed.
* `Mesh.isCalledUpon` — the next delivery of a started channel calls upon it to announce itself. `Mesh.Heeds` —
  a channel begins to announce itself between chores. **`deliver_chore`**, **`deliver_heeds`** — a delivery, by
  whether it is such a call.
* `dispatchNext_chore` — a queued event goes out; `submit_chore` — an allowed event is queued.
* **`runUntil_time`** — what happens until a moment takes until then.
-/

import PeerMesh.Proofs.Mesh.Chores
import PeerMesh.Proofs.Mesh.Deeds
import PeerMesh.Proofs.Pool.Runs
import PeerMesh.Mesh.Order

namespace PeerMesh

/-- What is left of a series of announcements after one of them. -/
def Announcing.next (announcing : Announcing) (time pause : Nat) : Option Announcing :=
  if announcing.remaining ≤ 1 then none else some ⟨announcing.remaining - 1, time + pause⟩

namespace Mesh

variable {allowed : Nat → Event → Prop} {mesh later last : Mesh} {n : Nat} {event : Event}

/-! ### Deliveries -/

theorem finishDelivery_chore (mesh : Mesh) (n ticket : Nat) :
    mesh.Chore allowed (mesh.finishDelivery n ticket) :=
  (mesh.consumer_chore n (·.finishDelivery ticket) ((mesh.channel n).consumer.finishDelivery_pending ticket).2).trans
    (enqueue_chore _ _)

theorem pass_chore (mesh : Mesh) (parked : Parked) : mesh.Chore allowed (mesh.pass parked) := by
  unfold pass
  dsimp only
  split
  · refine (mesh.note_chore ?_).trans (finishDelivery_chore _ _ _)
    trivial
  · exact mesh.finishDelivery_chore _ _

theorem release_chore (mesh : Mesh) (count : Nat) : mesh.Chore allowed (mesh.release count) := by
  have opened : mesh.Chore allowed { mesh with gate := (mesh.gate.release count).2 } :=
    mesh.chore_of_waiting mesh.agenda _ mesh.errands
  unfold release
  exact List.foldlRecOn _ _ opened fun between chore parked _ => chore.trans (between.pass_chore parked)

theorem callScript_chore (mesh : Mesh) (parked : Parked) (script : AsyncScript) :
    mesh.Chore allowed (mesh.callScript parked script) := by
  have called : mesh.Chore allowed
      (mesh.note (.called parked.channel ⟨script.tag, .async, parked.job.task.event⟩)) :=
    mesh.note_chore trivial
  have arrived (called : Mesh) : called.Chore allowed { called with gate := (called.gate.arrive parked).2 } :=
    called.chore_of_waiting called.agenda _ called.errands
  unfold callScript
  refine called.trans ?_
  dsimp only
  split
  · exact finishDelivery_chore _ _ _
  · exact finishDelivery_chore _ _ _
  · split
    · exact (arrived _).trans (pass_chore _ parked)
    · split
      · exact change_chore _ _ rfl rfl
      · exact arrived _

theorem tellFinders_chore (mesh : Mesh) (n : Nat) (id : NodeId) (address : Address) :
    mesh.Chore allowed (mesh.tellFinders n id address) :=
  List.foldlRecOn _ _ (Chore.refl allowed mesh) fun between chore _ _ => chore.trans (between.note_chore trivial)

theorem inquire_chore (mesh : Mesh) (n ticket : Nat) (address : Address) :
    mesh.Chore allowed (mesh.inquire n ticket address) := by
  have pinged : mesh.Chore allowed (mesh.ping n address).2 := pingWithin_chore 1 mesh n address
  unfold inquire
  dsimp only
  split
  · exact pinged.trans (finishDelivery_chore _ n ticket)
  · exact pinged.trans (chore_of_waiting _ (mesh.ping n address).2.agenda (mesh.ping n address).2.gate _)

/-- **What a handled event calls for**, when the channel has changed. -/
theorem follow_rest (mesh : Mesh) (n ticket : Nat) (consequence : Consequence) :
    (mesh.modify n fun _ => consequence.channel).Chore allowed (mesh.follow n ticket consequence) := by
  unfold follow
  extract_lets isResynced changed resynced replied found delivered
  have resyncs : changed.Chore allowed resynced := by
    unfold resynced
    split
    · exact changed.enqueueLast_chore _
    · exact .refl allowed changed
  have replies : resynced.Chore allowed replied := by
    refine resynced.postAll_chore fun one among => ?_
    obtain ⟨reply, -, rfl⟩ := List.mem_map.mp among
    trivial
  have finds : replied.Chore allowed found := by
    unfold found
    split
    · exact replied.tellFinders_chore n _ _
    · exact .refl allowed replied
  have delivers : found.Chore allowed delivered := by
    unfold delivered
    split
    · exact found.hand_chore n _
    · exact .refl allowed found
  refine ((resyncs.trans replies).trans finds).trans (delivers.trans ?_)
  split
  · exact delivered.inquire_chore n ticket _
  · exact delivered.finishDelivery_chore n ticket

/-- A delivery begins that does not call upon the channel to announce itself. -/
theorem call_chore (mesh : Mesh) {job : Job (Delivery Listener)}
    (spared : job.task.listener = .protocol → (mesh.channel n).phase = .started →
      (mesh.channel n).heedsResync job.task.event = false) : mesh.Chore allowed (mesh.call n job) := by
  unfold call
  split
  · exact mesh.callScript_chore _ _
  · rename_i ours
    have learns := (mesh.channel n).react_onlyLearns mesh.time job.task.event
    have frame : ((mesh.channel n).react mesh.time job.task.event).channel.frame = (mesh.channel n).frame := by
      rw [Channel.react_frame]
      split
      · rename_i heeds
        unfold Channel.resync
        rw [if_neg]
        rintro ⟨started, -⟩
        exact nomatch heeds.symm.trans (spared ours started)
      · rfl
    exact (mesh.change_chore n frame learns.publisher).trans (mesh.follow_rest n job.ticket _)

theorem attend_chore (mesh : Mesh) {job : Job (Delivery Listener)}
    (spared : job.task.listener = .protocol → (mesh.channel n).isGone = false → (mesh.channel n).phase = .started →
      (mesh.channel n).heedsResync job.task.event = false) : mesh.Chore allowed (mesh.attend n job) := by
  unfold attend
  split
  · exact mesh.finishDelivery_chore n job.ticket
  · rename_i sees
    exact mesh.call_chore fun ours => spared ours (Bool.eq_false_iff.mpr fun gone => sees ⟨ours, gone⟩)

/-- The next delivery of a started channel that is not gone calls upon it to announce itself. -/
def isCalledUpon (mesh : Mesh) (n : Nat) : Bool :=
  (mesh.channel n).phase = .started && !(mesh.channel n).isGone && match (mesh.channel n).consumer.takeDelivery? with
    | none => false
    | some (job, _) => job.task.listener = .protocol && (mesh.channel n).heedsResync job.task.event

/-- A channel begins to announce itself, between chores. -/
def Heeds (allowed : Nat → Event → Prop) (n : Nat) (before after : Mesh) : Prop :=
  ∃ between, before.Chore allowed between ∧ (between.modify n (·.resync before.time)).Chore allowed after

/-- A channel changes that keeps its frame. -/
theorem frame_modify {change : Channel → Channel} (kept : (change (mesh.channel n)).frame = (mesh.channel n).frame) :
    ((mesh.modify n change).channel n).frame = (mesh.channel n).frame := by
  rcases mesh.channel_modify_cases n change n with before | ⟨-, changed⟩
  · rw [before]
  · rw [changed, kept]

theorem takeTurns_chore (mesh : Mesh) (move : Move) (othersIdle : Bool) {work : Mesh → Mesh}
    (works : mesh.Chore allowed (work mesh))
    (worksAfter : (mesh.enqueue move).Chore allowed (work (mesh.enqueue move))) :
    mesh.Chore allowed (mesh.takeTurns move othersIdle work) := by
  unfold takeTurns
  split
  · exact (mesh.enqueue_chore move).trans worksAfter
  · exact works.trans (enqueueFirst_chore _ move)

theorem channel_enqueue (mesh : Mesh) (move : Move) (n : Nat) : (mesh.enqueue move).channel n = mesh.channel n := by
  unfold enqueue
  split <;> rfl

theorem time_enqueue (mesh : Mesh) (move : Move) : (mesh.enqueue move).time = mesh.time := by
  unfold enqueue
  split <;> rfl

/-- **A worker takes a delivery**, which does not call upon the channel to announce itself. -/
theorem deliver_chore (mesh : Mesh) (spared : mesh.isCalledUpon n = false) :
    mesh.Chore allowed (mesh.deliver n) := by
  unfold deliver
  split
  · exact .refl allowed mesh
  · rename_i job consumer takes
    have atRest := (Consumer.takeDelivery?_pending takes).2
    have taken : mesh.Chore allowed (mesh.modify n fun channel => { channel with consumer := consumer }) :=
      mesh.change_chore n (Channel.frame_of_consumer atRest) rfl
    have unheeded (between : Mesh)
        (same : between.channel n = (mesh.modify n fun channel => { channel with consumer := consumer }).channel n) :
        between.Chore allowed (between.attend n job) := by
      refine between.attend_chore fun ours present started => ?_
      have frame : (between.channel n).frame = (mesh.channel n).frame :=
        same ▸ frame_modify (Channel.frame_of_consumer atRest)
      have startedBefore : (mesh.channel n).phase = .started := by
        show (mesh.channel n).frame.phase = .started
        rw [← frame]
        exact started
      have presentBefore : (mesh.channel n).isGone = false := by
        show (mesh.channel n).frame.isGone = false
        rw [← frame]
        exact present
      rw [Channel.heedsResync_of_frame frame]
      unfold isCalledUpon at spared
      rw [startedBefore, presentBefore, takes] at spared
      simpa [ours] using spared
    exact taken.trans (takeTurns_chore _ _ _ (unheeded _ rfl) (unheeded _ (channel_enqueue _ _ n)))

/-- Whether a channel is replaced by what becomes of it, or changes, is the same. -/
theorem modify_channel (mesh : Mesh) (n : Nat) (change : Channel → Channel) :
    (mesh.modify n fun _ => change (mesh.channel n)) = mesh.modify n change := by
  have same : (mesh.channels.modify n fun _ => change (mesh.channel n)) = mesh.channels.modify n change := by
    refine List.ext_getElem? fun m => ?_
    by_cases own : n = m
    · subst own
      rw [List.getElem?_modify_eq, List.getElem?_modify_eq]
      unfold channel
      cases mesh.channels[n]? <;> rfl
    · rw [List.getElem?_modify_ne _ _ own, List.getElem?_modify_ne _ _ own]
  unfold modify
  rw [same]

/-- A worker of a channel is at a delivery that calls upon the channel to announce itself. -/
theorem attend_heeds (mesh : Mesh) {job : Job (Delivery Listener)} (present : (mesh.channel n).isGone = false)
    (ours : job.task.listener = .protocol) (heeds : (mesh.channel n).heedsResync job.task.event = true) :
    (mesh.modify n (·.resync mesh.time)).Chore allowed (mesh.attend n job) := by
  have reacts : (mesh.channel n).react mesh.time job.task.event = ((mesh.channel n).resync mesh.time).quiet :=
    Channel.react_of_heeds heeds
  have follows : (mesh.modify n fun _ => ((mesh.channel n).resync mesh.time).quiet.channel).Chore allowed
      (mesh.follow n job.ticket ((mesh.channel n).resync mesh.time).quiet) :=
    mesh.follow_rest n job.ticket _
  have sees : mesh.attend n job = mesh.call n job :=
    if_neg fun gone => Bool.false_ne_true (present.symm.trans gone.2)
  rw [sees]
  unfold call
  rw [ours]
  dsimp only
  rw [reacts, ← mesh.modify_channel]
  exact follows

/-- **A worker takes a delivery** that calls upon the channel to announce itself. -/
theorem deliver_heeds (mesh : Mesh) (called : mesh.isCalledUpon n = true) :
    mesh.Heeds allowed n (mesh.deliver n) := by
  unfold isCalledUpon at called
  obtain ⟨open', called⟩ := Bool.and_eq_true_iff.mp called
  have present : (mesh.channel n).isGone = false := by simpa using (Bool.and_eq_true_iff.mp open').2
  unfold deliver
  split
  · rename_i none
    rw [none] at called
    cases called
  · rename_i job consumer takes
    rw [takes] at called
    obtain ⟨ours, heeds⟩ := Bool.and_eq_true_iff.mp called
    have atRest := (Consumer.takeDelivery?_pending takes).2
    have taken : mesh.Chore allowed (mesh.modify n fun channel => { channel with consumer := consumer }) :=
      mesh.change_chore n (Channel.frame_of_consumer atRest) rfl
    have heeded (between : Mesh) (time : between.time = mesh.time)
        (same : between.channel n = (mesh.modify n fun channel => { channel with consumer := consumer }).channel n) :
        (between.modify n (·.resync mesh.time)).Chore allowed (between.attend n job) := by
      have kept : (between.channel n).frame = (mesh.channel n).frame :=
        same ▸ frame_modify (Channel.frame_of_consumer atRest)
      have there : (between.channel n).isGone = false := (congrArg Channel.isGone kept).trans present
      rw [← time]
      exact between.attend_heeds there (of_decide_eq_true ours)
        ((Channel.heedsResync_of_frame kept _).trans heeds)
    unfold takeTurns
    split
    · exact ⟨_, taken.trans (enqueue_chore _ _), heeded _ (time_enqueue _ _) (channel_enqueue _ _ n)⟩
    · refine ⟨_, taken, Chore.trans ?_ (enqueueFirst_chore _ _)⟩
      exact heeded _ rfl rfl

/-! ### Events that go out -/

theorem goOut_chore (mesh : Mesh) {job : Job Outgoing}
    (may : ∀ event, job.task = .broadcast event → allowed n event) :
    mesh.Chore allowed (mesh.goOut n job) := by
  have finished (isOk : Bool) (channel : Channel) :
      let told := if isOk then channel else channel.countFailure
      let after : Channel := { told with publisher := told.publisher.map (·.finish job.ticket) }
      after.frame = channel.frame ∧ after.outbox = channel.outbox := by
    have queue : (channel.publisher.map (·.finish job.ticket)).map Pool.queue =
        channel.publisher.map Pool.queue := by
      rw [Option.map_map]
      rfl
    cases isOk with
    | true => exact ⟨rfl, Channel.outbox_of_queue queue⟩
    | false => exact ⟨rfl, Channel.outbox_of_queue queue⟩
  have voices : mesh.Voices allowed (.posted n job.task) := by
    cases task : job.task with
    | broadcast event => exact .inr (may event task)
    | send address event => trivial
  unfold goOut
  refine (mesh.post_chore voices).trans (Chore.trans ?_ (note_chore _ trivial))
  exact modify_chore _ n (finished _ _).1 fun event queued => .inl ((finished _ _).2 ▸ queued)

/-- **A queued event goes out.** -/
theorem dispatchNext_chore (mesh : Mesh) (n : Nat) : mesh.Chore allowed (mesh.dispatchNext n) := by
  refine .of_queues fun queues => ?_
  unfold dispatchNext
  split
  · exact .refl allowed mesh
  · rename_i job pool takes
    obtain ⟨before, opened, taken⟩ := Option.bind_eq_some_iff.mp takes
    obtain ⟨queue, -⟩ := Pool.take?_front taken
    have outbox : (mesh.channel n).outbox = job.task :: pool.queue.map Job.task := by
      unfold Channel.outbox
      rw [opened, Option.map_some, queue]
      rfl
    have may (event : Event) (same : job.task = .broadcast event) : allowed n event := by
      refine queues n event ?_
      rw [outbox, ← same]
      exact List.mem_cons_self
    have takesOff : mesh.Chore allowed (mesh.modify n fun channel => { channel with publisher := some pool }) := by
      refine mesh.modify_chore n rfl fun event queued => .inl ?_
      rw [outbox]
      exact List.mem_cons_of_mem _ queued
    exact takesOff.trans (takeTurns_chore _ _ _ (goOut_chore _ may) (goOut_chore _ may))

/-- An allowed event is queued to go out. -/
theorem submit_chore (mesh : Mesh) {outgoing : Outgoing}
    (may : ∀ event, outgoing = .broadcast event → allowed n event) :
    mesh.Chore allowed (mesh.submit n outgoing).2 := by
  unfold submit
  split
  · exact .refl allowed mesh
  · rename_i pool opened
    split
    · exact mesh.change_chore n rfl rfl
    · rename_i queued accepted
      have grows : mesh.Chore allowed (mesh.modify n ({ · with publisher := some queued })) := by
        refine mesh.modify_chore n rfl fun event among => ?_
        unfold Channel.outbox at among ⊢
        rw [opened]
        rw [Option.map_some, Option.getD_some, (Pool.submit_ok accepted).2, List.map_append] at among
        rcases List.mem_append.mp among with before | last
        · exact .inl before
        · exact .inr (may event (List.mem_singleton.mp last).symm)
      exact grows.trans (enqueue_chore _ _)

theorem dispatch_chore (mesh : Mesh) (n : Nat) {scope : Scope} {kind : String} {data : Bytes}
    (may : ∀ event, event.scope = scope → event.kind = kind → allowed n event) :
    mesh.Chore allowed (mesh.dispatch n scope kind data).2 := by
  unfold dispatch
  split
  · exact .refl allowed mesh
  · rename_i event made
    refine mesh.submit_chore fun other same => ?_
    cases same
    obtain ⟨address, rfl⟩ := Channel.eq_of_outboundEvent made
    exact may _ rfl rfl

/-- For which scope an event is queued, if it is queued to be broadcast. -/
def scopeOf? (mesh : Mesh) (n : Nat) : Goal → Option Scope
  | .ownDomain => some (.named (mesh.channel n).domain)
  | .domain name => some (.named name)
  | .allDomains => some .all
  | .address _ => none

theorem dispatchFor_chore (mesh : Mesh) (n : Nat) {goal : Goal} {kind : String} {data : Bytes}
    (may : ∀ event, mesh.scopeOf? n goal = some event.scope → event.kind = kind → allowed n event) :
    mesh.Chore allowed (mesh.dispatchFor n goal kind data).2 := by
  cases goal with
  | ownDomain => exact mesh.dispatch_chore n fun event scope => may event (congrArg some scope.symm)
  | domain name => exact mesh.dispatch_chore n fun event scope => may event (congrArg some scope.symm)
  | allDomains => exact mesh.dispatch_chore n fun event scope => may event (congrArg some scope.symm)
  | address address =>
    unfold dispatchFor dispatchTo
    dsimp only
    split
    · exact .refl allowed mesh
    · exact mesh.submit_chore fun _ same => nomatch same

theorem forceResync_chore (mesh : Mesh) (n : Nat) (targets : Option (List NodeId)) :
    mesh.Chore allowed (mesh.forceResync n targets).2 := by
  unfold forceResync
  dsimp only
  split
  · exact .refl allowed mesh
  · rename_i event made
    obtain ⟨address, rfl⟩ := Channel.eq_of_outboundEvent made
    exact mesh.post_chore (.inl ⟨rfl, show ProtocolKind.resync.text ≠ ProtocolKind.publish.text by decide⟩)

theorem sendControl_chore (mesh : Mesh) (n : Nat) (ids : List NodeId) (kind : String) (data : Bytes) :
    mesh.Chore allowed (mesh.sendControl n ids kind data).2 := by
  unfold sendControl
  split
  · exact .refl allowed mesh
  · unfold Station.sendControl PeerMesh.sendControl
    exact List.foldlRecOn (motive := fun sent : Nat × Mesh => mesh.Chore allowed sent.2) _ _
      (Chore.refl allowed mesh) fun between chore batch _ => sendAll_keeps _
        (fun message _ between chore => chore.trans (between.tell_chore n message.1 message.2)) chore

/-! ### Time -/

theorem goOn_chore (mesh : Mesh) (n : Nat) : mesh.Chore allowed (mesh.goOn n) := by
  unfold goOn
  split
  · exact .refl allowed mesh
  · exact (mesh.change_chore n rfl rfl).trans (enqueueFirst_chore _ _)

theorem finish_chore (mesh : Mesh) (n ticket : Nat) : mesh.Chore allowed (mesh.finish n ticket) := by
  unfold finish
  dsimp only
  split
  · exact ((mesh.chore_of_waiting mesh.agenda mesh.gate _).trans (finishDelivery_chore _ n ticket)).trans
      (goOn_chore _ n)
  · exact .refl allowed mesh

theorem wake_chore (mesh : Mesh) : mesh.Chore allowed mesh.wake :=
  List.foldlRecOn _ _ (Chore.refl allowed mesh) fun between chore move _ =>
    chore.trans (between.enqueue_chore move)

/-- It is time for a channel to announce itself. -/
def isDue (mesh : Mesh) (n : Nat) : Bool := (mesh.channel n).announcing.any (·.wakeAt ≤ mesh.time)

/-- Before its time a channel does not announce itself. -/
theorem announce_of_idle (idle : mesh.isDue n = false) : mesh.announce n = mesh := by
  unfold announce
  dsimp only
  unfold isDue at idle
  split
  · rfl
  · rename_i announcing announces
    rw [announces] at idle
    exact if_pos (Nat.lt_of_not_le (of_decide_eq_false idle))

/-- For how long a channel pauses between its announcements. -/
def pauseOf (mesh : Mesh) (n : Nat) : Nat :=
  (Duration.between (mesh.channel n).settings.publishIntervalMin
    (mesh.channel n).settings.publishIntervalMax 0).ticks

/-- When its time has come a channel counts the announcement and makes it. -/
theorem announce_of_due {announcing : Announcing} (announces : (mesh.channel n).announcing = some announcing)
    (due : announcing.wakeAt ≤ mesh.time) :
    let counted := mesh.modify n fun channel =>
      { channel with announcing := announcing.next mesh.time (mesh.pauseOf n) }
    let posted := counted.postAll n ((mesh.channel n).announcement.toOption.map .broadcast).toList
    mesh.announce n = posted ∨ mesh.announce n = posted.enqueueFirst (.announce n) := by
  unfold announce
  dsimp only
  rw [announces]
  dsimp only
  rw [if_neg (Nat.not_lt_of_le due)]
  by_cases again : (announcing.next mesh.time (mesh.pauseOf n)).any (·.wakeAt ≤ mesh.time) = true
  · exact .inr (if_pos again)
  · exact .inl (if_neg again)

theorem due_of_isDue (due : mesh.isDue n = true) :
    ∃ announcing, (mesh.channel n).announcing = some announcing ∧ announcing.wakeAt ≤ mesh.time := by
  obtain ⟨announcing, announces, isDue⟩ := (Option.any_eq_true _ _).mp due
  exact ⟨announcing, announces, of_decide_eq_true isDue⟩

/-- No move takes time. -/
theorem announce_time (mesh : Mesh) (n : Nat) : (mesh.announce n).time = mesh.time := by
  cases isDue : mesh.isDue n with
  | false => rw [announce_of_idle isDue]
  | true =>
    obtain ⟨announcing, announces, due⟩ := due_of_isDue isDue
    have posts (counted : Mesh) (outgoing : List Outgoing) : (counted.postAll n outgoing).time = counted.time := by
      have posted : counted.Chore (fun _ _ => True) (counted.postAll n outgoing) := by
        refine counted.postAll_chore fun one _ => ?_
        cases one with
        | broadcast event => exact .inr trivial
        | send address event => trivial
      exact posted.keeps.time
    rcases announce_of_due announces due with same | same
    · exact (congrArg Mesh.time same).trans (posts _ _)
    · exact (congrArg Mesh.time same).trans (posts _ _)

theorem perform_time (mesh : Mesh) (move : Move) : (mesh.perform move).time = mesh.time := by
  cases move with
  | deliver n =>
    cases called : mesh.isCalledUpon n with
    | false => exact (mesh.deliver_chore called).keeps.time
    | true =>
      have heeds : mesh.Heeds (fun _ _ => True) n (mesh.deliver n) := mesh.deliver_heeds called
      obtain ⟨between, before, after⟩ := heeds
      exact after.keeps.time.trans before.keeps.time
  | dispatch n => exact (mesh.dispatchNext_chore n).keeps.time
  | announce n => exact mesh.announce_time n
  | turn n => exact (mesh.turn_chore Draw.first n).keeps.time
  | hear n => exact (mesh.hearScheduled_chore Draw.first n).keeps.time
  | finish n ticket => exact (mesh.finish_chore n ticket).keeps.time
  | heed n => rfl

theorem tidy_time (mesh : Mesh) : mesh.tidy.time = mesh.time := by
  refine List.foldlRecOn (motive := fun later : Mesh => later.time = mesh.time) _ _ rfl
    fun between same n _ => Eq.trans ?_ same
  unfold retire
  split <;> rfl

theorem next_time (next : mesh.next? = some later) : later.time = mesh.time := by
  unfold next? at next
  split at next
  · cases next
  · cases next
    exact (tidy_time _).trans (perform_time _ _)

/-- **What happens until a moment takes until then.** -/
theorem runUntil_time (mesh : Mesh) (moment : Nat) : (mesh.runUntil moment).time = max mesh.time moment := by
  have within (fuel : Nat) : ∀ mesh : Mesh, (runWithin moment fuel mesh).time = max mesh.time moment := by
    induction fuel with
    | zero => exact fun _ => rfl
    | succ fuel ih =>
      intro mesh
      unfold runWithin
      split
      · rename_i later next
        rw [ih, next_time next]
      · split
        · rename_i due _
          split
          · rename_i early
            rw [ih, (wake_chore _).keeps.time]
            dsimp only
            omega
          · rfl
        · rfl
  exact (within _ _).trans (congrArg (max · moment) mesh.tidy_time)

end Mesh

end PeerMesh
