/-
**Channels at rest.**

* `Channel.standing` — the phase of a channel, its domain, its place among the registered and its ends on
  the network. `react_standing`: an event that is handled does not change it.
* `Channel.IsInert` — a channel that is closed, and of which nothing runs or is reached any more. Workers that were
  in the middle of a turn when it was closed may still be left.
* `Channel.StaysInert` — an inert channel has stayed so, no peer has become live, and no watcher was told of one.
  `Channel.Rests` — besides, what was left to be done is left, or dropped.
* `hearControl_of_shut`, **`IsInert.react`** — an inert channel that handles an event answers nobody, and of peers it
  only forgets one that goes.
* `Channel.ahead` — the calls of listeners that are still queued. `Channel.IsDeserted` — nothing at all is queued.
* `dismantled_isInert` — a closed channel is inert when it was taken apart.
-/

import Mathlib.Data.List.Perm.Subperm
import PeerMesh.Channel.Protocol
import PeerMesh.Proofs.Channel.Listeners
import PeerMesh.Proofs.View.Shut

namespace PeerMesh

/-- The end on the network by which single addresses are reached, if it is one on the network. -/
def UnicastLink.own? : UnicastLink → Option Memory.UnicastEnd
  | .memory own => some own
  | .stream _ => none

/-- Nobody is reached by the link. -/
def UnicastLink.isIdle : UnicastLink → Bool
  | .memory own => own.address.isNone
  | .stream client => client.address.isNone

/-- Nobody takes part in broadcasts by the link. -/
def GroupLink.isIdle : GroupLink → Bool
  | .memory member => !member.isStarted
  | .datagram member => !member.isJoined

theorem UnicastLink.close_isIdle {ρ : Type} (line : UnicastLink) (network : Memory.Network ρ) :
    (line.close network).1.isIdle = true := by
  cases line with
  | stream client =>
    show client.close.address.isNone = true
    unfold Client.close
    split
    · rename_i nowhere
      rw [nowhere]
      rfl
    · rfl
  | memory own =>
    show (own.close network).1.address.isNone = true
    unfold Memory.UnicastEnd.close
    split
    · rename_i nowhere
      rw [nowhere]
      rfl
    · rfl

theorem GroupLink.close_isIdle {ρ : Type} (group : GroupLink) (network : Memory.Network ρ) :
    (group.close network).1.isIdle = true := by
  cases group with
  | datagram member => rfl
  | memory member =>
    show (!(member.close network).1.isStarted) = true
    unfold Memory.GroupEnd.close
    split
    · rfl
    · rename_i notStarted
      rw [Bool.eq_false_iff.mpr notStarted]
      rfl

/-- What traffic does not change about a channel. -/
structure Channel.Standing where
  phase : Phase
  domain : String
  isLinked : Bool
  group : GroupLink
  own? : Option Memory.UnicastEnd

namespace Channel

/-- The standing of a channel. -/
def standing (channel : Channel) : Standing :=
  ⟨channel.phase, channel.domain, channel.isLinked, channel.group, channel.line.own?⟩

variable {channel later last : Channel}

/-! ### Handling events -/

theorem resync_standing (channel : Channel) (time : Nat) :
    (channel.resync time).standing = channel.standing := by
  unfold resync
  split <;> rfl

theorem onAnnounced_standing (channel : Channel) (time : Nat) (id : NodeId) (address : Address) :
    (channel.onAnnounced time id address).channel.standing = channel.standing := by
  unfold onAnnounced
  dsimp only
  split
  · rfl
  · rfl
  · split <;> rfl

/-- **An event that is handled leaves the standing of a channel alone.** -/
theorem react_standing (channel : Channel) (time : Nat) (event : Event) :
    (channel.react time event).channel.standing = channel.standing := by
  unfold react
  split
  · unfold onPublish
    split
    · rfl
    · exact channel.onAnnounced_standing time _ _
  · unfold onDiscover
    split
    · rfl
    · dsimp only
      split <;> rfl
  · unfold onResync
    split
    · rfl
    · split
      · exact channel.resync_standing time
      · rfl
  · rfl
  · rfl
  · have heard : (channel.hearControl time event).2.standing = channel.standing := rfl
    unfold onControl
    split <;> (rename_i hears; rw [hears] at heard; exact heard)
  · rfl

/-! ### Inert channels -/

/-- The channel is closed, and nothing of it runs or is reached any more, but for workers that were in the middle of
a turn. -/
structure IsInert (channel : Channel) : Prop where
  closed : channel.phase = .closed
  stopped : channel.consumer.isStopped = true
  noDeliveries : channel.consumer.pool = none
  noDispatches : ∀ pool, channel.publisher = some pool → pool.isShutDown = true
  noAnnouncements : channel.announcing = none
  noTurns : channel.detector.scheduler = .off
  noRound : channel.detector.round = none
  shut : channel.view.closed = true
  noLine : channel.line.isIdle = true
  noGroup : channel.group.isIdle = true

/-- If the channel was inert it has stayed so, no peer has become live, and no watcher was told of one
that joined. -/
def StaysInert (before after : Channel) : Prop :=
  before.IsInert → after.IsInert ∧ (∀ id, after.view.isLive id = true → before.view.isLive id = true) ∧
    after.detector.watched.welcomes = before.detector.watched.welcomes

theorem StaysInert.refl (channel : Channel) : channel.StaysInert channel :=
  fun inert => ⟨inert, fun _ live => live, rfl⟩

theorem StaysInert.trans (first : channel.StaysInert later) (second : later.StaysInert last) :
    channel.StaysInert last := by
  intro inert
  obtain ⟨stillInert, live, welcomes⟩ := first inert
  obtain ⟨everInert, later, same⟩ := second stillInert
  exact ⟨everInert, fun id isLive => live id (later id isLive), same.trans welcomes⟩

/-- What does not run in an inert channel changes at most. -/
theorem staysInert_of_same (phase : later.phase = channel.phase)
    (stopped : later.consumer.isStopped = channel.consumer.isStopped)
    (pool : later.consumer.pool = channel.consumer.pool)
    (publisher : ∀ pool, later.publisher = some pool →
      ∃ earlier, channel.publisher = some earlier ∧ pool.isShutDown = earlier.isShutDown)
    (announcing : later.announcing = channel.announcing) (detector : later.detector = channel.detector)
    (line : later.line = channel.line) (group : later.group = channel.group) : channel.StaysInert later := by
  intro inert
  have same : later.view = channel.view := congrArg Detector.view detector
  refine ⟨⟨phase.trans inert.closed, stopped.trans inert.stopped, pool.trans inert.noDeliveries, fun pool left => ?_,
    announcing.trans inert.noAnnouncements, ?_, ?_, ?_, ?_, ?_⟩, ?_, ?_⟩
  · obtain ⟨earlier, had, same⟩ := publisher pool left
    exact same.trans (inert.noDispatches earlier had)
  · rw [detector]
    exact inert.noTurns
  · rw [detector]
    exact inert.noRound
  · rw [same]
    exact inert.shut
  · rw [line]
    exact inert.noLine
  · rw [group]
    exact inert.noGroup
  · rw [same]
    exact fun _ live => live
  · rw [detector]

/-- If the channel was inert it has stayed so, and what was left to be done is left, or dropped. -/
structure Rests (before after : Channel) : Prop where
  stays : before.StaysInert after
  pending : before.IsInert → after.consumer.pending.Subperm before.consumer.pending
  outgoing : before.IsInert → ∀ pool, after.publisher = some pool →
    ∃ earlier, before.publisher = some earlier ∧ pool.queue ⊆ earlier.queue

theorem Rests.refl (channel : Channel) : channel.Rests channel :=
  ⟨.refl channel, fun _ => .refl _, fun _ pool left => ⟨pool, left, List.Subset.refl _⟩⟩

theorem Rests.trans (first : channel.Rests later) (second : later.Rests last) : channel.Rests last := by
  refine ⟨first.stays.trans second.stays, fun inert => ?_, fun inert pool left => ?_⟩
  · exact (second.pending (first.stays inert).1).trans (first.pending inert)
  · obtain ⟨between, had, kept⟩ := second.outgoing (first.stays inert).1 pool left
    obtain ⟨earlier, first, was⟩ := first.outgoing inert between had
    exact ⟨earlier, first, List.Subset.trans kept was⟩

/-- What does not run in an inert channel changes at most. -/
theorem rests_of_same (phase : later.phase = channel.phase)
    (stopped : later.consumer.isStopped = channel.consumer.isStopped)
    (pool : later.consumer.pool = channel.consumer.pool)
    (remnant : later.consumer.remnant = channel.consumer.remnant) (publisher : later.publisher = channel.publisher)
    (announcing : later.announcing = channel.announcing) (detector : later.detector = channel.detector)
    (line : later.line = channel.line) (group : later.group = channel.group) : channel.Rests later where
  stays := staysInert_of_same phase stopped pool (fun pool left => ⟨pool, publisher ▸ left, rfl⟩) announcing
    detector line group
  pending _ := by
    unfold Consumer.pending Consumer.workforce?
    rw [pool, remnant]
  outgoing _ pool left := ⟨pool, publisher ▸ left, List.Subset.refl _⟩

/-- A consumer that is stopped does at most what was queued with it. -/
theorem rests_of_consumer {consumer : Consumer Listener Replier}
    (stopped : consumer.isStopped = channel.consumer.isStopped)
    (pool : channel.consumer.pool = none → consumer.pool = none)
    (pending : channel.consumer.pool = none → consumer.pending.Subperm channel.consumer.pending) :
    channel.Rests { channel with consumer := consumer } := by
  refine ⟨fun inert => ⟨?_, fun _ live => live, rfl⟩, fun inert => pending inert.noDeliveries,
    fun _ pool left => ⟨pool, left, List.Subset.refl _⟩⟩
  exact { inert with stopped := stopped.trans inert.stopped, noDeliveries := pool inert.noDeliveries }

/-- The jobs that were to go out are fewer, or in another order. -/
theorem rests_of_publisher {change : Pool Outgoing → Pool Outgoing}
    (isShutDown : ∀ pool, (change pool).isShutDown = pool.isShutDown)
    (queue : ∀ pool, (change pool).queue ⊆ pool.queue) :
    channel.Rests { channel with publisher := channel.publisher.map change } := by
  refine ⟨fun inert => ⟨{ inert with noDispatches := fun pool left => ?_ }, fun _ live => live, rfl⟩,
    fun _ => .refl _, fun _ pool left => ?_⟩
  · obtain ⟨earlier, had, rfl⟩ := Option.map_eq_some_iff.mp left
    exact (isShutDown earlier).trans (inert.noDispatches earlier had)
  · obtain ⟨earlier, had, rfl⟩ := Option.map_eq_some_iff.mp left
    exact ⟨earlier, had, queue earlier⟩

/-- Something is done with the view of an inert channel. -/
theorem rests_of_watched {watched : Watched} (fades : channel.detector.watched.Fades watched) :
    channel.Rests (channel.mapWatched fun _ => watched) := by
  refine ⟨fun inert => ?_, fun _ => .refl _, fun _ pool left => ⟨pool, left, List.Subset.refl _⟩⟩
  obtain ⟨closed, live, welcomes⟩ := fades inert.shut
  exact ⟨⟨inert.closed, inert.stopped, inert.noDeliveries, inert.noDispatches, inert.noAnnouncements,
    inert.noTurns, inert.noRound, closed, inert.noLine, inert.noGroup⟩, live, welcomes⟩

/-- **Whatever control message arrives**, a view that is shut down stays as it is. -/
theorem receive_of_shut {watched : Watched} (shut : watched.view.closed = true) (time : Nat) (event : Event) :
    (watched.receive time event).2 = watched := by
  have heard (address : Address) (id : NodeId) : (watched.run time fun view now => view.heartbeat now address id) =
      (.error .closed, watched) := Watched.run_of_closed shut time id _
  have merged (address : Address) (sender : NodeId) (digest : Digest) :
      watched.merge time address sender digest = watched := by
    have entry (entry : GossipEntry) : Watched.hearEntry time sender watched entry = watched := by
      unfold Watched.hearEntry
      split
      · rfl
      · exact congrArg Prod.snd (Watched.run_of_closed shut time entry.id _)
    have first : watched.hearSender time address sender digest.heartbeat = watched := by
      unfold Watched.hearSender
      rw [heard]
    unfold Watched.merge
    rw [first]
    split
    · exact List.foldlRecOn (motive := (· = watched)) digest.entries _ rfl fun between same member _ => by
        rw [same, entry]
    · rfl
  unfold Watched.receive
  split
  · rfl
  · exact merged _ _ _
  · exact merged _ _ _
  · unfold Watched.receiveRequest
    split
    · rw [heard]
    · split <;> rfl
  · rfl

/-- What a channel that handles an event while it is inert does at most. -/
structure IsIdle (channel : Channel) (consequence : Consequence) : Prop where
  rests : channel.Rests consequence.channel
  consumer : consequence.channel.consumer = channel.consumer
  publisher : consequence.channel.publisher = channel.publisher
  line : consequence.channel.line = channel.line
  announcing : consequence.channel.announcing = channel.announcing
  replies : consequence.replies = []
  found : consequence.found = none

theorem isIdle_quiet (channel : Channel) : channel.IsIdle channel.quiet :=
  ⟨.refl channel, rfl, rfl, rfl, rfl, rfl, rfl⟩

/-- **An event that an inert channel handles** is answered to nobody, and tells of no peer. -/
theorem IsInert.react (inert : channel.IsInert) (time : Nat) (event : Event) :
    channel.IsIdle (channel.react time event) := by
  have added (address : Address) (id : NodeId) :
      (channel.run time fun view now => view.addHost now address id) = (.error .closed, channel) := by
    have refused : (channel.detector.watched.run time fun view now => view.addHost now address id) =
        (.error .closed, channel.detector.watched) := Watched.run_of_closed inert.shut time id _
    unfold Channel.run Detector.run
    rw [refused]
  have left : channel.IsIdle (channel.onLeave time event) :=
    ⟨rests_of_watched (Watched.run_fades _ time fun closed _ => View.removeLeaving_fades closed event.origin),
      rfl, rfl, rfl, rfl, rfl, rfl⟩
  have hears : (channel.hearControl time event).2 = channel := by
    show (channel.mapWatched fun _ => (channel.detector.watched.receive time event).2) = channel
    rw [receive_of_shut inert.shut]
    rfl
  unfold Channel.react
  split
  · unfold onPublish
    split
    · exact channel.isIdle_quiet
    · unfold onAnnounced
      rw [added]
      exact channel.isIdle_quiet
  · unfold onDiscover
    split
    · exact channel.isIdle_quiet
    · rw [added]
      exact channel.isIdle_quiet
  · unfold onResync
    split
    · exact channel.isIdle_quiet
    · split
      · unfold resync
        rw [if_neg fun started => nomatch started.1.symm.trans inert.closed]
        exact channel.isIdle_quiet
      · exact channel.isIdle_quiet
  · exact left
  · exact left
  · unfold onControl
    split
    all_goals
      rename_i told hears'
      rw [hears'] at hears
      subst hears
      exact ⟨.refl told, rfl, rfl, rfl, rfl, rfl, rfl⟩
  · exact channel.isIdle_quiet

/-- What is left of a pool was shut down with it. -/
theorem remnant?_isShutDown {α : Type} {pool left : Pool α} {turns : Turns}
    (stays : pool.remnant? turns = some left) : left.isShutDown = true := by
  obtain rfl := Option.some.inj (Option.filter_eq_some_iff.mp stays).1
  unfold Pool.shutdown
  split
  · assumption
  · rfl

/-- What would run in a channel is stopped. -/
theorem halt_rests (channel : Channel) : channel.Rests channel.halt := by
  refine ⟨fun inert => ?_, fun inert => ?_, fun inert pool left => ?_⟩
  · refine ⟨⟨inert.closed, rfl, rfl, fun pool left => ?_, rfl, rfl, rfl, inert.shut, inert.noLine, inert.noGroup⟩,
      fun _ live => live, rfl⟩
    obtain ⟨earlier, had, stays⟩ := Option.bind_eq_some_iff.mp left
    exact remnant?_isShutDown stays
  · have same : (channel.consumer.stop channel.calling).pending = channel.consumer.pending := by
      unfold Consumer.stop Consumer.remnantAfter Consumer.pending Consumer.workforce?
      rw [inert.noDeliveries]
    exact same ▸ .refl _
  · obtain ⟨earlier, had, stays⟩ := Option.bind_eq_some_iff.mp left
    refine ⟨earlier, had, ?_⟩
    rcases Pool.remnant?_queue stays with same | none
    · exact same ▸ List.Subset.refl _
    · exact none ▸ List.nil_subset _

/-! ### What is left to be done -/

/-- The call that a delivery is, unless it is for the channel itself: under which tag the listener records it, and
the event. -/
def toCall? (delivery : Delivery Listener) : Option (Tag × Event) :=
  match delivery.listener with
  | .script script => some (script.tag, delivery.event)
  | .protocol => none

/-- What is queued for listeners that are not the channel's own. -/
def ahead (channel : Channel) : List (Tag × Event) := channel.consumer.pending.filterMap (toCall? ·.task)

/-- Nothing is queued with the channel, and nothing with which it would go out. -/
def IsDeserted (channel : Channel) : Prop :=
  channel.consumer.pending = [] ∧ ∀ pool, channel.publisher = some pool → pool.queue = []

theorem Rests.ahead (rests : channel.Rests later) (inert : channel.IsInert) : later.ahead.Subperm channel.ahead := by
  obtain ⟨kept, same, among⟩ := rests.pending inert
  exact ⟨kept.filterMap _, same.filterMap _, among.filterMap _⟩

theorem Rests.isDeserted (rests : channel.Rests later) (inert : channel.IsInert) (deserted : channel.IsDeserted) :
    later.IsDeserted := by
  refine ⟨?_, fun pool left => ?_⟩
  · have fewer := rests.pending inert
    rw [deserted.1] at fewer
    exact List.subperm_nil.mp fewer
  · obtain ⟨earlier, had, kept⟩ := rests.outgoing inert pool left
    rw [deserted.2 earlier had] at kept
    exact List.subset_nil.mp kept

/-! ### Taking a channel apart -/

theorem dismiss_isStopped (channel : Channel) :
    channel.dismiss.consumer.isStopped = channel.consumer.isStopped := by
  refine List.foldlRecOn (motive := fun consumer : Consumer Listener Replier =>
    consumer.isStopped = channel.consumer.isStopped) channel.ownListeners _ rfl fun between same id _ => ?_
  rw [← same]
  unfold Consumer.unregister
  split <;> rfl

/-- **A closed channel is inert** when what ran in it is stopped, its view is shut down and its links are
idle. -/
theorem dismantled_isInert (closed : channel.phase = .closed) (time : Nat) {group : GroupLink}
    (noGroup : group.isIdle = true) {line : UnicastLink} (noLine : line.isIdle = true) :
    ({ (channel.halt.dismiss.run time fun view _ => view.shutdown).2 with
      group := group, line := line } : Channel).IsInert := by
  obtain ⟨_, _, pool, _⟩ := dismiss_consumer channel.halt
  refine ⟨closed, dismiss_isStopped channel.halt, pool, fun pool left => ?_, rfl, rfl, rfl, rfl, noLine, noGroup⟩
  obtain ⟨earlier, had, stays⟩ := Option.bind_eq_some_iff.mp left
  exact remnant?_isShutDown stays

end Channel

end PeerMesh
