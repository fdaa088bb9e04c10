/-
**The frame of a channel.**

A channel that takes part in traffic learns of peers, queues events, makes connections and counts. Its
`Channel.frame` is the rest: who it is, its settings, its phase and domain, its ends, its listeners, and the
announcements that it still has to make. What is left of a queue that was shut down, and who is at it, is no part
of it.

* `View.selfId_perform`, `Watched.selfId_run`, `Watched.selfId_receive` — a view stays with its node,
  whatever is done with it and whatever its watchers do.
* `Detector.frame` — what a detector is made with; `Detector.IsRoutine.frame`: a round leaves it alone.
* `Channel.heedsResync` — an event calls upon the channel to announce itself.
* **`react_frame`** — an event that is handled leaves the frame alone, unless it is such a call, and then
  the channel begins to announce itself.
* `Channel.outbox` — the events that are queued to go out.
-/

import PeerMesh.Channel.Protocol
import PeerMesh.Proofs.Consumer.Deliveries
import PeerMesh.Proofs.Detector.Grounds
import PeerMesh.Proofs.View.Soundness

namespace PeerMesh

/-! ### Whose view it is -/

namespace View

variable {view : View} {owner : NodeId}

theorem selfId_unlessRefused (view : View) (id : NodeId) {operation : Outcome Bool}
    (same : operation.view.selfId = view.selfId) :
    (view.unlessRefused id operation).view.selfId = view.selfId := by
  unfold unlessRefused
  split
  · rfl
  · exact same

theorem selfId_addHost (view : View) (now : Reading) (address : Address) (id : NodeId) :
    (view.addHost now address id).view.selfId = view.selfId := by
  refine view.selfId_unlessRefused id ?_
  split <;> rfl

theorem selfId_heartbeat (view : View) (now : Reading) (address : Address) (id : NodeId) :
    (view.heartbeat now address id).view.selfId = view.selfId := by
  refine view.selfId_unlessRefused id ?_
  dsimp only
  split
  · split <;> rfl
  · rfl

theorem selfId_observe (view : View) (now : Reading) (address : Address) (id : NodeId) (version : UInt64) :
    (view.observe now address id version).view.selfId = view.selfId := by
  refine view.selfId_unlessRefused id ?_
  split
  · split <;> rfl
  · split
    · dsimp only
      split <;> rfl
    · rfl

theorem selfId_removeDead (view : View) (now : Reading) (id : NodeId) :
    (view.removeDead now id).view.selfId = view.selfId := by
  unfold removeDead
  split <;> rfl

theorem selfId_removeLeaving (view : View) (id : NodeId) :
    (view.removeLeaving id).view.selfId = view.selfId := by
  unfold removeLeaving
  split <;> rfl

theorem selfId_cleanup (view : View) (now : Reading) (grace : Duration) :
    (view.cleanup now grace).view.selfId = view.selfId := by
  unfold cleanup
  dsimp only
  split <;> rfl

theorem selfId_conclude (view : View) (now : Reading) (probe : Probe) (affirmed : Bool) :
    (view.conclude now probe affirmed).view.selfId = view.selfId := by
  unfold conclude
  split
  · rfl
  · split
    · exact view.selfId_removeDead now probe.id
    · rfl

end View

/-- **Whatever step is made**, a view stays with its node. -/
theorem Kept.selfId_perform (kept : Kept) (time : Nat) (step : ViewStep) :
    (kept.perform time step).2.1.view.selfId = kept.view.selfId := by
  cases step with
  | addHost address id => exact kept.view.selfId_addHost _ address id
  | heartbeat address id => exact kept.view.selfId_heartbeat _ address id
  | observe address id version => exact kept.view.selfId_observe _ address id version
  | removeDead id => exact kept.view.selfId_removeDead _ id
  | removeLeaving id => exact kept.view.selfId_removeLeaving id
  | cleanup grace => exact kept.view.selfId_cleanup _ grace
  | _ => rfl

namespace Watched

theorem selfId_performWithin (watched : Watched) (time depth : Nat) (step : ViewStep) :
    (performWithin time depth watched step).2.view.selfId = watched.view.selfId :=
  performWithin_induct (·.selfId = watched.view.selfId)
    (fun kept step same => (kept.selfId_perform time step).trans same) depth watched step rfl

theorem selfId_tell (watched : Watched) (time : Nat) (notices : List Notice) :
    (watched.tell time notices).view.selfId = watched.view.selfId := by
  have abides : watched.Abides (·.selfId = watched.view.selfId) fun _ => True :=
    ⟨rfl, fun _ _ _ _ => trivial⟩
  refine (abides.tellAll (fun between step _ same => ⟨?_, fun _ _ _ _ => trivial⟩) notices).view
  exact (between.selfId_performWithin time _ step).trans same.view

theorem selfId_run {α : Type} (watched : Watched) (time : Nat) {operation : View → Reading → Outcome α}
    (same : ∀ view now, (operation view now).view.selfId = view.selfId) :
    (watched.run time operation).2.view.selfId = watched.view.selfId :=
  (selfId_tell _ time _).trans (same _ _)

theorem selfId_hearSender (watched : Watched) (time : Nat) (address : Address) (id : NodeId)
    (heartbeat : UInt64) :
    (watched.hearSender time address id heartbeat).view.selfId = watched.view.selfId := by
  have heard := watched.selfId_run time fun view now => view.selfId_heartbeat now address id
  unfold hearSender
  dsimp only
  split <;> exact heard

theorem selfId_merge (watched : Watched) (time : Nat) (address : Address) (sender : NodeId)
    (digest : Digest) : (watched.merge time address sender digest).view.selfId = watched.view.selfId := by
  unfold merge
  split
  · refine List.foldlRecOn (motive := fun later : Watched => later.view.selfId = watched.view.selfId)
      digest.entries _ (watched.selfId_hearSender time address sender _) fun between same entry _ => ?_
    refine Eq.trans ?_ same
    unfold hearEntry
    split
    · rfl
    · exact between.selfId_run time fun view now => view.selfId_observe now _ _ _
  · rfl

/-- A control message that arrives leaves the view with its node. -/
theorem selfId_receive (watched : Watched) (time : Nat) (event : Event) :
    (watched.receive time event).2.view.selfId = watched.view.selfId := by
  unfold receive
  split
  · rfl
  · exact watched.selfId_merge time _ _ _
  · exact watched.selfId_merge time _ _ _
  · rename_i request _
    cases request with
    | ping => exact watched.selfId_run time fun view now => view.selfId_heartbeat now _ _
    | healthCheck target address =>
      unfold receiveRequest
      dsimp only
      split <;> rfl
  · rfl

end Watched

/-! ### Detectors -/

namespace Detector

/-- What a detector is made with. -/
def frame (detector : Detector) : Detector := .new detector.settings detector.view.selfId (.running 0)

variable {detector later : Detector}

theorem frame_of_watched {watched : Watched} (same : watched.view.selfId = detector.view.selfId) :
    ({ detector with watched := watched } : Detector).frame = detector.frame := by
  unfold frame view at *
  dsimp only
  rw [same]

theorem settings_of_frame (same : later.frame = detector.frame) : later.settings = detector.settings := by
  show later.frame.settings = detector.frame.settings
  rw [same]

theorem run_frame {α : Type} (detector : Detector) (time : Nat) {operation : View → Reading → Outcome α}
    (same : ∀ view now, (operation view now).view.selfId = view.selfId) :
    (detector.run time operation).2.frame = detector.frame :=
  frame_of_watched (detector.watched.selfId_run time same)

/-- **A round leaves the frame of a detector alone**, whatever it does. -/
theorem IsRoutine.frame {time : Nat} {change : Detector → Detector} (routine : IsRoutine time change)
    (detector : Detector) : (change detector).frame = detector.frame := by
  cases routine with
  | aging => rfl
  | counting => rfl
  | conclusion probing =>
    have concluded := detector.run_frame time fun view now =>
      view.selfId_conclude now probing.probe probing.affirmed
    unfold conclude
    dsimp only
    split <;> exact concluded
  | eviction => exact detector.run_frame time fun view now => view.selfId_cleanup now _

end Detector

/-! ### Channels -/

/-- A client without the numbers and the partners of its exchanges. -/
def Client.bare (client : Client) : Client := { client with nextId := 0, partners := [] }

/-- A link without what its exchanges change. -/
def UnicastLink.bare : UnicastLink → UnicastLink
  | .memory own => .memory own
  | .stream client => .stream client.bare

namespace Channel

/-- What traffic leaves alone about a channel. -/
def frame (channel : Channel) : Channel :=
  { channel with
    detector := channel.detector.frame
    consumer := { channel.consumer.atRest with remnant := none }
    line := channel.line.bare
    publisher := none
    calling := .nobody
    sending := .nobody }

/-- The events that are queued to go out. -/
def outbox (channel : Channel) : List Outgoing :=
  (channel.publisher.map fun pool => pool.queue.map Job.task).getD []

variable {channel later : Channel}

theorem frame_of_detector {detector : Detector} (same : detector.frame = channel.detector.frame) :
    ({ channel with detector := detector } : Channel).frame = channel.frame := by
  unfold frame
  dsimp only
  rw [same]

theorem frame_of_consumer {consumer : Consumer Listener Replier}
    (same : consumer.atRest = channel.consumer.atRest) :
    ({ channel with consumer := consumer } : Channel).frame = channel.frame := by
  unfold frame
  dsimp only
  rw [same]

theorem frame_of_line {line : UnicastLink} (same : line.bare = channel.line.bare) :
    ({ channel with line := line } : Channel).frame = channel.frame := by
  unfold frame
  dsimp only
  rw [same]

/-- Whoever is reached or known, the channel is run by the same settings. -/
theorem settings_of_frame (same : later.frame = channel.frame) : later.settings = channel.settings := by
  show later.frame.settings = channel.frame.settings
  rw [same]

theorem selfId_of_frame (same : later.frame = channel.frame) : later.selfId = channel.selfId := by
  show later.frame.selfId = channel.frame.selfId
  rw [same]

/-- Who answers an event is part of the frame. -/
theorem replier?_of_frame (same : later.frame = channel.frame) (event : Event) :
    later.consumer.replier? event = channel.consumer.replier? event := by
  show later.frame.consumer.replier? event = channel.frame.consumer.replier? event
  rw [same]

theorem syncListeners_of_frame (same : later.frame = channel.frame) :
    later.consumer.syncListeners = channel.consumer.syncListeners := by
  show later.frame.consumer.syncListeners = channel.frame.consumer.syncListeners
  rw [same]

theorem run_frame {α : Type} (channel : Channel) (time : Nat) {operation : View → Reading → Outcome α}
    (same : ∀ view now, (operation view now).view.selfId = view.selfId) :
    (channel.run time operation).2.frame = channel.frame :=
  frame_of_detector (channel.detector.run_frame time same)

theorem hearControl_frame (channel : Channel) (time : Nat) (event : Event) :
    (channel.hearControl time event).2.frame = channel.frame :=
  frame_of_detector (Detector.frame_of_watched (channel.detector.watched.selfId_receive time event))

/-! ### Handling events -/

/-- The event calls upon the channel to announce itself. -/
def heedsResync (channel : Channel) (event : Event) : Bool :=
  ProtocolKind.ofText? event.kind = some .resync &&
    match ForceResync.codec.decode maxFrameSize event.data with
    | .error _ => false
    | .ok request => isAsked channel.selfId request

theorem heedsResync_of_frame (same : later.frame = channel.frame) (event : Event) :
    later.heedsResync event = channel.heedsResync event := by
  unfold heedsResync
  rw [selfId_of_frame same]

theorem onAnnounced_frame (channel : Channel) (time : Nat) (id : NodeId) (address : Address) :
    (channel.onAnnounced time id address).channel.frame = channel.frame := by
  have added : (channel.run time fun view now => view.addHost now address id).2.frame = channel.frame :=
    channel.run_frame time fun view now => view.selfId_addHost now address id
  unfold onAnnounced
  dsimp only
  split
  · exact added
  · exact added
  · split
    · exact added
    · exact (run_frame _ time fun view now => view.selfId_heartbeat now address id).trans added

/-- **An event that is handled leaves the frame of a channel alone**, unless it calls upon the channel to
announce itself. -/
theorem react_frame (channel : Channel) (time : Nat) (event : Event) :
    (channel.react time event).channel.frame =
      if channel.heedsResync event then (channel.resync time).frame else channel.frame := by
  unfold react heedsResync
  cases named : ProtocolKind.ofText? event.kind with
  | none => rfl
  | some kind =>
    cases kind with
    | publish =>
      show (channel.onPublish time event).channel.frame = channel.frame
      unfold onPublish
      split
      · rfl
      · exact channel.onAnnounced_frame time _ _
    | discover =>
      have added (address : Address) :
          (channel.run time fun view now => view.addHost now address event.origin).2.frame = channel.frame :=
        channel.run_frame time fun view now => view.selfId_addHost now address event.origin
      show (channel.onDiscover time event).channel.frame = channel.frame
      unfold onDiscover
      split
      · rfl
      · dsimp only
        split <;> exact added _
    | resync =>
      show (channel.onResync time event).channel.frame = _
      unfold onResync
      cases ForceResync.codec.decode maxFrameSize event.data with
      | error error => rfl
      | ok request =>
        simp only [decide_true, Bool.true_and]
        split <;> rfl
    | shutdown | leave =>
      exact channel.run_frame time fun view now => view.selfId_removeLeaving event.origin
    | control =>
      have heard := channel.hearControl_frame time event
      show (channel.onControl time event).channel.frame = channel.frame
      unfold onControl
      split <;> (rename_i hears; rw [hears] at heard; exact heard)

/-- An event that calls upon the channel to announce itself calls for nothing else. -/
theorem react_of_heeds {channel : Channel} {time : Nat} {event : Event}
    (heeds : channel.heedsResync event = true) : channel.react time event = (channel.resync time).quiet := by
  unfold heedsResync at heeds
  obtain ⟨named, asked⟩ := Bool.and_eq_true_iff.mp heeds
  unfold react
  rw [of_decide_eq_true named]
  show channel.onResync time event = _
  unfold onResync
  cases decoded : ForceResync.codec.decode maxFrameSize event.data with
  | error error =>
    rw [decoded] at asked
    cases asked
  | ok request =>
    rw [decoded] at asked
    exact if_pos asked

theorem outbox_of_queue (same : later.publisher.map Pool.queue = channel.publisher.map Pool.queue) :
    later.outbox = channel.outbox := by
  have tasks (some : Channel) :
      some.outbox = ((some.publisher.map Pool.queue).map (List.map Job.task)).getD [] := by
    rw [Option.map_map]
    rfl
  rw [tasks, tasks, same]

theorem outbox_of_publisher (same : later.publisher = channel.publisher) : later.outbox = channel.outbox := by
  unfold outbox
  rw [same]

/-- Of what is queued to go out, what a change of the queue keeps stays queued. -/
theorem outbox_of_fewer {change : Pool Outgoing → Option (Pool Outgoing)}
    (publisher : later.publisher = channel.publisher.bind change)
    (fewer : ∀ pool left, change pool = some left → left.queue ⊆ pool.queue) : later.outbox ⊆ channel.outbox := by
  unfold outbox
  rw [publisher]
  cases channel.publisher with
  | none => exact List.Subset.refl _
  | some pool =>
    rw [Option.bind_some]
    cases changed : change pool with
    | none => exact List.nil_subset _
    | some left => exact List.map_subset _ (fewer pool left changed)

theorem outbox_of_map {change : Pool Outgoing → Pool Outgoing}
    (publisher : later.publisher = channel.publisher.map change)
    (fewer : ∀ pool, (change pool).queue ⊆ pool.queue) : later.outbox ⊆ channel.outbox := by
  refine outbox_of_fewer (publisher.trans Option.map_eq_bind) fun pool left changed => ?_
  obtain rfl := Option.some.inj changed
  exact fewer pool

end Channel

end PeerMesh
