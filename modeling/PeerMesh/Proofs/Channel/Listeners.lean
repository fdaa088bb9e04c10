/-
**The listeners that a channel registers for itself.**

* `enlist_fresh` — a channel to whose consumer nobody has listened is given one listener of its own for
  each kind of protocol event, and that is all it has; `IsEnlisted` is what follows for its deliveries.
* `openQueues_fresh` — a channel that has not been started yet can open its queues and enlist itself.
* `dismiss_consumer` — when they are removed, the consumer still serves the same node.
-/

import PeerMesh.Proofs.Channel.Tidings

namespace PeerMesh

/-- A consumer that is at rest like a new one is a new one, but for its counts. -/
theorem Consumer.eq_of_atRest_new {α β : Type} {consumer : Consumer α β} {selfId : NodeId}
    {domain : String} (same : consumer.atRest = .new selfId domain) :
    consumer = { Consumer.new selfId domain with
      delivered := consumer.delivered, dropped := consumer.dropped } := by
  obtain ⟨id, home, async, sync, index, handedOut, pool, remnant, stopped, delivered, dropped⟩ := consumer
  unfold atRest Consumer.new at same
  obtain ⟨rfl, rfl, rfl, rfl, rfl, rfl, opened, left, rfl, _⟩ := Consumer.mk.inj same
  obtain rfl := Option.map_eq_none_iff.mp opened
  obtain rfl := Option.map_eq_none_iff.mp left
  rfl

namespace Channel

/-- A consumer has one listener of the channel's own for each kind of protocol event, and no other. -/
def IsEnlisted (consumer : Consumer Listener Replier) : Prop :=
  ∃ id : Nat → ListenerId, consumer.asyncListeners.entries = ProtocolKind.all.zipIdx.map fun entry =>
    (entry.1.text, [(id entry.2, Listener.protocol)])

/-- Nobody but the channel listens. -/
theorem IsEnlisted.listensForItself {consumer : Consumer Listener Replier}
    (enlisted : IsEnlisted consumer) (kind : String) :
    ∀ entry ∈ consumer.asyncOf kind, entry.2 = .protocol := by
  obtain ⟨id, entries⟩ := enlisted
  intro entry member
  unfold Consumer.asyncOf at member
  cases found : consumer.asyncListeners.get? kind with
  | none =>
    rw [found] at member
    cases member
  | some listeners =>
    rw [found] at member
    have listed := (Table.mem_entries_iff _ _ _).mpr found
    rw [entries] at listed
    obtain ⟨numbered, _, same⟩ := List.mem_map.mp listed
    have own : [(id numbered.2, Listener.protocol)] = listeners := congrArg Prod.snd same
    rw [← own] at member
    rw [List.mem_singleton.mp member]

/-- The channel listens to every kind of protocol event, once. -/
theorem IsEnlisted.hears {consumer : Consumer Listener Replier} (enlisted : IsEnlisted consumer)
    (kind : ProtocolKind) : ∃ id, consumer.asyncOf kind.text = [(id, .protocol)] := by
  obtain ⟨id, entries⟩ := enlisted
  have numbered : ∃ place, (kind, place) ∈ ProtocolKind.all.zipIdx := by
    cases kind with
    | publish => exact ⟨0, by decide⟩
    | discover => exact ⟨1, by decide⟩
    | resync => exact ⟨2, by decide⟩
    | shutdown => exact ⟨3, by decide⟩
    | leave => exact ⟨4, by decide⟩
    | control => exact ⟨5, by decide⟩
  obtain ⟨place, member⟩ := numbered
  have listed : (kind.text, [(id place, Listener.protocol)]) ∈ consumer.asyncListeners.entries := by
    rw [entries]
    exact List.mem_map.mpr ⟨_, member, rfl⟩
  refine ⟨id place, ?_⟩
  unfold Consumer.asyncOf
  rw [(Table.mem_entries_iff _ _ _).mp listed]
  rfl

/-- **A channel enlists itself and nobody else**, if nobody has listened before. -/
theorem enlist_fresh {channel : Channel} {pool : Option (Pool (Delivery Listener))}
    {selfId : NodeId} {domain : String} {delivered dropped : Nat}
    (fresh : channel.consumer = { Consumer.new selfId domain with
      pool := pool, delivered := delivered, dropped := dropped }) :
    ∃ consumer ids, channel.enlist =
        (.ok (), { channel with consumer := consumer, ownListeners := ids }) ∧
      IsEnlisted consumer ∧ consumer.selfId = selfId ∧ consumer.domain = domain ∧
      consumer.pool = pool ∧ consumer.remnant = none := by
  obtain ⟨label, detector, phase, home, address, consumer, others⟩ := channel
  obtain rfl : consumer = _ := fresh
  exact ⟨_, _, rfl, ⟨fun place => UInt64.ofNat (place + 1), rfl⟩, rfl, rfl, rfl, rfl⟩

/-- A consumer that serves a node in a domain, with nothing queued and no listeners but the channel's
own. -/
structure IsReady (selfId : NodeId) (domain : String) (consumer : Consumer Listener Replier) :
    Prop where
  enlisted : IsEnlisted consumer
  ownId : consumer.selfId = selfId
  ownDomain : consumer.domain = domain
  opened : ∃ pool, consumer.pool = some pool ∧ pool.isServed = true ∧ pool.queue = []
  unattended : consumer.remnant = none

/-- **A new channel opens its queues and enlists itself**, if it can have the queues. -/
theorem openQueues_fresh {channel : Channel} {selfId : NodeId} {domain : String}
    (fresh : channel.consumer.atRest = .new selfId domain)
    (room : overflows channel.settings = false) :
    ∃ opened, channel.openQueues = (.ok (), opened) ∧
      ∃ consumer ids, ∃ publisher : Pool Outgoing,
        opened.enlist = (.ok (), { channel with
          consumer := consumer, publisher := some publisher, ownListeners := ids }) ∧
        IsReady selfId domain consumer ∧ publisher.queue = [] := by
  unfold overflows at room
  obtain ⟨inbound, outbound⟩ := Bool.or_eq_false_iff.mp room
  obtain ⟨pool, opens, served, empty⟩ := Pool.open?_of_le (α := Delivery Listener)
    channel.settings.consumerWorkers (Nat.le_of_not_lt (of_decide_eq_false inbound))
  obtain ⟨publisher, publishes, _, nothing⟩ := Pool.open?_of_le (α := Outgoing)
    channel.settings.publishWorkers (Nat.le_of_not_lt (of_decide_eq_false outbound))
  have consumer := Consumer.eq_of_atRest_new fresh
  have opened : ({ channel with
      consumer := { channel.consumer with pool := some pool }
      publisher := some publisher } : Channel).consumer = { Consumer.new selfId domain with
        pool := some pool
        delivered := channel.consumer.delivered
        dropped := channel.consumer.dropped } := by
    rw [consumer]
  obtain ⟨enlisted, ids, enlists, listeners, id, home, serves, unattended⟩ := enlist_fresh opened
  refine ⟨_, ?_, enlisted, ids, publisher, enlists,
    ⟨listeners, id, home, ⟨pool, serves, served, empty⟩, unattended⟩, nothing⟩
  unfold openQueues Consumer.start
  rw [consumer]
  dsimp only [Consumer.new]
  rw [opens, publishes]
  rfl

/-- A consumer from which a channel removes its listeners serves the same node. -/
theorem dismiss_consumer (channel : Channel) :
    channel.dismiss.consumer.selfId = channel.consumer.selfId ∧
      channel.dismiss.consumer.domain = channel.consumer.domain ∧
      channel.dismiss.consumer.pool = channel.consumer.pool ∧
      channel.dismiss.consumer.remnant = channel.consumer.remnant := by
  have each : ∀ (ids : List ListenerId) (consumer : Consumer Listener Replier),
      let after := ids.foldl (fun consumer id => (consumer.unregister id).2) consumer
      after.selfId = consumer.selfId ∧ after.domain = consumer.domain ∧
        after.pool = consumer.pool ∧ after.remnant = consumer.remnant := by
    intro ids
    induction ids with
    | nil => exact fun _ => ⟨rfl, rfl, rfl, rfl⟩
    | cons id rest ih =>
      intro consumer
      have first : (consumer.unregister id).2.selfId = consumer.selfId ∧
          (consumer.unregister id).2.domain = consumer.domain ∧
          (consumer.unregister id).2.pool = consumer.pool ∧
          (consumer.unregister id).2.remnant = consumer.remnant := by
        unfold Consumer.unregister
        split <;> exact ⟨rfl, rfl, rfl, rfl⟩
      obtain ⟨id, domain, pool, remnant⟩ := ih (consumer.unregister id).2
      exact ⟨id.trans first.1, domain.trans first.2.1, pool.trans first.2.2.1, remnant.trans first.2.2.2⟩
  exact each channel.ownListeners channel.consumer

end Channel

end PeerMesh
