/-
**What stays about a channel while it runs, and the events that it makes and unpacks.**

* `Channel.footing` — its standing, its address, and who listens to it. What a channel does by itself
  leaves it alone, and whatever becomes of its view has happened to it: `Channel.Keeps`, `react_onlyLearns`.
* `Channel.Stamps` — an event carries the address of the channel, as every event does that the channel
  makes (`stamps_of_event`, `stamps_of_outboundEvent`, `react_stamps`).
* `Channel.IsStamped` — so does every event that is queued to go out.
* `Event.Wraps`, `Event.Contains` — an event carries another one in its data, directly or not, and the
  other one names the same origin. What a channel hands to its own listeners it has unpacked from what it
  was handed (`hearControl_wraps`, `react_wraps`).
* `Consumer.Holds` — an event waits for a listener; what a consumer comes to hold it was handed
  (`Consumer.holds_accept`).
-/

import Mathlib.Logic.Relation
import PeerMesh.Proofs.Channel.Rest
import PeerMesh.Proofs.Consumer.Registry
import PeerMesh.Proofs.Detector.Course
import PeerMesh.Proofs.Mesh.Continuity

namespace PeerMesh

/-! ### Events within events -/

namespace Event

variable {event inner last : Event}

/-- The data of an event is a control message that carries another event. -/
def Wraps (event inner : Event) : Prop :=
  ∃ kind data, ControlMessage.codec.decode maxFrameSize event.data = .ok (.event kind data) ∧
    inner = ⟨.unscoped, kind, data, event.origin, event.originAddress⟩

/-- An event is another one, or carries it at some depth. -/
def Contains : Event → Event → Prop := Relation.ReflTransGen Wraps

/-- What an event carries names the same origin. -/
theorem Contains.originAddress (contains : event.Contains inner) :
    inner.originAddress = event.originAddress := by
  induction contains with
  | refl => rfl
  | tail _ wraps same =>
    obtain ⟨kind, data, -, rfl⟩ := wraps
    exact same

end Event

namespace Consumer

variable {α β : Type} {consumer later : Consumer α β} {event : Event}

/-- An event waits for a listener. -/
def Holds (consumer : Consumer α β) (event : Event) : Prop :=
  ∃ job ∈ consumer.pending, job.task.event = event

instance (consumer : Consumer α β) (event : Event) : Decidable (consumer.Holds event) :=
  inferInstanceAs (Decidable (∃ job ∈ consumer.pending, job.task.event = event))

theorem holds_of_pending (pending : later.pending ⊆ consumer.pending) (holds : later.Holds event) :
    consumer.Holds event := by
  obtain ⟨job, queued, same⟩ := holds
  exact ⟨job, pending queued, same⟩

/-- **A consumer comes to hold only what it is handed.** -/
theorem holds_accept {handed : Event} (holds : (consumer.accept handed).Holds event) :
    consumer.Holds event ∨ event = handed := by
  obtain ⟨job, queued, rfl⟩ := holds
  rcases mem_pending_accept queued with before | ⟨-, same, -⟩
  · exact .inl ⟨job, before, rfl⟩
  · exact .inr same

end Consumer

/-! ### The footing of a channel -/

/-- What stays about a channel while it runs. -/
structure Channel.Footing where
  standing : Channel.Standing
  address : Option Address
  ownListeners : List ListenerId
  tables : Table String (List (ListenerId × Listener)) × Table String (ListenerId × Replier) ×
    Table ListenerId Registration × Nat

namespace Channel

variable {channel before later last : Channel} {event : Event}

/-- The footing of a channel. -/
def footing (channel : Channel) : Footing :=
  ⟨channel.standing, channel.address, channel.ownListeners, channel.consumer.tables⟩

/-- The event carries the address of the channel. -/
def Stamps (channel : Channel) (event : Event) : Prop := channel.address = some event.originAddress

/-- Every event that is queued to go out carries the address of the channel. -/
def IsStamped (channel : Channel) : Prop :=
  ∀ pool, channel.publisher = some pool → ∀ job ∈ pool.queue, channel.Stamps job.task.event

/-- The footing is the same, queued events still carry the address, and whatever has become of the view has
happened to it. -/
structure Keeps (before after : Channel) : Prop where
  footing : after.footing = before.footing
  becomes : before.view.Becomes after.view
  stamped : before.IsStamped → after.IsStamped

theorem Keeps.refl (channel : Channel) : channel.Keeps channel := ⟨rfl, .refl _, id⟩

theorem Keeps.trans (first : before.Keeps later) (second : later.Keeps last) : before.Keeps last :=
  ⟨second.footing.trans first.footing, first.becomes.trans second.becomes, second.stamped ∘ first.stamped⟩

theorem Keeps.address (keeps : before.Keeps later) : later.address = before.address :=
  congrArg Footing.address keeps.footing

theorem Keeps.standing (keeps : before.Keeps later) : later.standing = before.standing :=
  congrArg Footing.standing keeps.footing

theorem Keeps.stamps (keeps : before.Keeps later) (stamps : before.Stamps event) : later.Stamps event :=
  keeps.address.trans stamps

/-- The queue of events that go out stays, or there is none any more. -/
theorem keeps_of_publisher (footing : later.footing = channel.footing) (becomes : channel.view.Becomes later.view)
    (publisher : later.publisher = channel.publisher ∨ later.publisher = none) : channel.Keeps later := by
  refine ⟨footing, becomes, fun stamped pool opened job queued => ?_⟩
  rcases publisher with same | none
  · exact (congrArg Footing.address footing).trans (stamped pool (same.symm.trans opened) job queued)
  · rw [none] at opened
    cases opened

/-- What is queued to go out was queued before, or carries the address. -/
theorem keeps_of_queue (footing : later.footing = channel.footing) (becomes : channel.view.Becomes later.view)
    (queue : ∀ pool, later.publisher = some pool → ∀ job ∈ pool.queue,
      (∃ earlier, channel.publisher = some earlier ∧ job ∈ earlier.queue) ∨
        channel.Stamps job.task.event) : channel.Keeps later := by
  refine ⟨footing, becomes, fun stamped pool opened job queued => (congrArg Footing.address footing).trans ?_⟩
  rcases queue pool opened job queued with ⟨earlier, was, queuedBefore⟩ | stamps
  · exact stamped earlier was job queuedBefore
  · exact stamps

/-- What was queued to go out is still queued with a channel that is stopped, or dropped. -/
theorem halt_keeps (channel : Channel) : channel.Keeps channel.halt := by
  refine keeps_of_queue rfl (.refl _) fun pool left job queued => .inl ?_
  obtain ⟨earlier, had, stays⟩ := Option.bind_eq_some_iff.mp left
  refine ⟨earlier, had, ?_⟩
  rcases Pool.remnant?_queue stays with same | none
  · exact same ▸ queued
  · rw [none] at queued
    cases queued

/-! ### Events that a channel makes -/

theorem stamps_of_event {scope : Scope} {kind : String} {data : Bytes}
    (made : channel.event scope kind data = .ok event) : channel.Stamps event := by
  unfold Channel.event at made
  split at made
  · cases made
  · rename_i address reached
    obtain rfl := Except.ok.inj made
    exact reached

theorem stamps_of_outboundEvent {scope : Scope} {kind : String} {data : Bytes}
    (made : channel.outboundEvent scope kind data = .ok event) : channel.Stamps event := by
  unfold outboundEvent at made
  cases passes : channel.gate with
  | error error =>
    rw [passes] at made
    cases made
  | ok done =>
    rw [passes] at made
    cases makes : channel.event scope kind data with
    | error error =>
      simp only [makes] at made
      cases made
    | ok other =>
      simp only [makes] at made
      obtain rfl := Except.ok.inj made
      exact stamps_of_event makes

theorem stamps_of_announcement (made : channel.announcement = .ok event) : channel.Stamps event := by
  unfold announcement at made
  split at made
  · cases made
  · exact stamps_of_event made

theorem stamps_of_introduction (made : channel.introduction = .ok event) : channel.Stamps event := by
  unfold introduction at made
  split at made
  · cases made
  · exact stamps_of_event made

/-! ### Events that a channel handles -/

/-- The channel has only learnt something: its footing stays, and so do its queues. -/
structure OnlyLearns (before after : Channel) : Prop where
  footing : after.footing = before.footing
  becomes : before.view.Becomes after.view
  publisher : after.publisher = before.publisher
  consumer : after.consumer = before.consumer

theorem resync_onlyLearns (channel : Channel) (time : Nat) :
    channel.OnlyLearns (channel.resync time) := by
  unfold resync
  split <;> exact ⟨rfl, .refl _, rfl, rfl⟩

theorem OnlyLearns.refl (channel : Channel) : channel.OnlyLearns channel := ⟨rfl, .refl _, rfl, rfl⟩

theorem OnlyLearns.trans (first : before.OnlyLearns later) (second : later.OnlyLearns last) :
    before.OnlyLearns last :=
  ⟨second.footing.trans first.footing, first.becomes.trans second.becomes,
    second.publisher.trans first.publisher, second.consumer.trans first.consumer⟩

/-- A step on the view, with all that watchers make of it. -/
theorem run_onlyLearns {α : Type} (channel : Channel) (time : Nat) {operation : View → Reading → Outcome α}
    (becomes : ∀ now, channel.view.Becomes (operation channel.view now).view) :
    channel.OnlyLearns (channel.run time operation).2 :=
  ⟨rfl, channel.detector.watched.run_becomes time becomes, rfl, rfl⟩

theorem addHost_onlyLearns (channel : Channel) (time : Nat) (address : Address) (id : NodeId) :
    channel.OnlyLearns (channel.run time fun view now => view.addHost now address id).2 :=
  channel.run_onlyLearns time fun now => channel.view.becomes_undergo (.operation now (.addHost address id))

theorem heartbeat_onlyLearns (channel : Channel) (time : Nat) (address : Address) (id : NodeId) :
    channel.OnlyLearns (channel.run time fun view now => view.heartbeat now address id).2 :=
  channel.run_onlyLearns time fun now => channel.view.becomes_undergo (.operation now (.heartbeat address id))

theorem removeLeaving_onlyLearns (channel : Channel) (time : Nat) (id : NodeId) :
    channel.OnlyLearns (channel.run time fun view _ => view.removeLeaving id).2 :=
  channel.run_onlyLearns time fun now => channel.view.becomes_undergo (.operation now (.removeLeaving id))

theorem onAnnounced_onlyLearns (channel : Channel) (time : Nat) (id : NodeId) (address : Address) :
    channel.OnlyLearns (channel.onAnnounced time id address).channel := by
  have added := channel.addHost_onlyLearns time address id
  unfold onAnnounced
  dsimp only
  split
  · exact added
  · exact added
  · split
    · exact added
    · exact added.trans (heartbeat_onlyLearns _ time address id)

theorem hearControl_onlyLearns (channel : Channel) (time : Nat) (event : Event) :
    channel.OnlyLearns (channel.hearControl time event).2 :=
  ⟨rfl, channel.detector.watched.receive_becomes time event, rfl, rfl⟩

/-- **From an event that it handles a channel only learns.** -/
theorem react_onlyLearns (channel : Channel) (time : Nat) (event : Event) :
    channel.OnlyLearns (channel.react time event).channel := by
  unfold react
  split
  · unfold onPublish
    split
    · exact .refl channel
    · exact channel.onAnnounced_onlyLearns time _ _
  · unfold onDiscover
    split
    · exact .refl channel
    · dsimp only
      split <;> exact channel.addHost_onlyLearns time _ _
  · unfold onResync
    split
    · exact .refl channel
    · split
      · exact channel.resync_onlyLearns time
      · exact .refl channel
  · exact channel.removeLeaving_onlyLearns time event.origin
  · exact channel.removeLeaving_onlyLearns time event.origin
  · have heard := channel.hearControl_onlyLearns time event
    unfold onControl
    split <;> (rename_i hears; rw [hears] at heard; exact heard)
  · exact .refl channel

theorem OnlyLearns.keeps (learns : before.OnlyLearns later) : before.Keeps later :=
  keeps_of_publisher learns.footing learns.becomes (.inl learns.publisher)

/-! ### Events that a channel unpacks -/

/-- What a control message hands to the listeners is carried by its event. -/
theorem hearControl_wraps {channel : Channel} {time : Nat} {inner : Event}
    (hears : (channel.hearControl time event).1 = .deliver inner) : event.Wraps inner := by
  have followUp : (channel.detector.watched.receive time event).1 = .deliver inner := hears
  unfold Watched.receive at followUp
  split at followUp
  · cases followUp
  · cases followUp
  · cases followUp
  · rename_i request read
    cases request with
    | ping => cases followUp
    | healthCheck target address =>
      dsimp only [Watched.receiveRequest] at followUp
      split at followUp <;> cases followUp
  · rename_i kind data read
    exact ⟨kind, data, read, (FollowUp.deliver.inj followUp).symm⟩

/-- **What a channel hands to its listeners is carried by the event that it has handled.** -/
theorem react_wraps {channel : Channel} {time : Nat} {inner : Event}
    (delivers : (channel.react time event).delivered = some inner) : event.Wraps inner := by
  unfold react at delivers
  split at delivers
  · unfold onPublish at delivers
    split at delivers
    · cases delivers
    · unfold onAnnounced at delivers
      dsimp only at delivers
      split at delivers
      · cases delivers
      · cases delivers
      · split at delivers <;> cases delivers
  · unfold onDiscover at delivers
    split at delivers
    · cases delivers
    · dsimp only at delivers
      split at delivers <;> cases delivers
  · unfold onResync at delivers
    split at delivers
    · cases delivers
    · split at delivers <;> cases delivers
  · cases delivers
  · cases delivers
  · unfold onControl at delivers
    split at delivers
    · cases delivers
    · cases delivers
    · rename_i handed told hears
      obtain rfl := Option.some.inj delivers
      exact hearControl_wraps (congrArg Prod.fst hears)
    · cases delivers
  · cases delivers

/-! ### Events that a channel answers with -/

/-- A channel that welcomes somebody says where it is itself. -/
theorem welcome_stamps {told : Channel} (same : told.address = channel.address) {id : NodeId}
    {address : Address} {reply : Address × Event} (replies : reply ∈ (told.welcome id address).replies) :
    channel.Stamps reply.2 := by
  have made : ∃ event, told.introduction.toOption = some event ∧ (address, event) = reply := by
    simpa [welcome, quiet] using replies
  obtain ⟨event, introduced, rfl⟩ := made
  cases introduces : told.introduction with
  | error error =>
    rw [introduces] at introduced
    cases introduced
  | ok other =>
    rw [introduces] at introduced
    obtain rfl := Option.some.inj introduced
    exact same.symm.trans (stamps_of_introduction introduces)

/-- **What a channel replies carries its address.** -/
theorem react_stamps {channel : Channel} {time : Nat} {event : Event} {reply : Address × Event}
    (replies : reply ∈ (channel.react time event).replies) : channel.Stamps reply.2 := by
  have quiet (none : reply ∈ ([] : List (Address × Event))) : channel.Stamps reply.2 :=
    absurd none List.not_mem_nil
  unfold react at replies
  split at replies
  · unfold onPublish at replies
    split at replies
    · exact quiet replies
    · unfold onAnnounced at replies
      dsimp only at replies
      split at replies
      · exact quiet replies
      · refine welcome_stamps ?_ replies
        rfl
      · split at replies
        · exact quiet replies
        · refine welcome_stamps ?_ replies
          rfl
  · unfold onDiscover at replies
    split at replies
    · exact quiet replies
    · dsimp only at replies
      split at replies <;> exact quiet replies
  · unfold onResync at replies
    split at replies
    · exact quiet replies
    · split at replies <;> exact quiet replies
  · exact quiet replies
  · exact quiet replies
  · unfold onControl at replies
    split at replies <;> exact quiet replies
  · exact quiet replies

end Channel

end PeerMesh
