/-
**What can happen to channels on one network.**

* `Deed` — channels come, start, move and go, and what is ready happens, in any order and with any
  delay. `Mesh.Permits` says which deeds can be done.
* `Mesh.IsCalmFor` — a channel moves only if it is free to, and begins a round only if none of its peers
  has left without its knowing.
* `Mesh.Reached` — the meshes that come of an empty one by deeds of some sort.
* `InOrder.act`, `InOrder.of_reached` — a calm deed keeps a mesh in order, and so do all of them one
  after another.
* `checkAll` — whether every deed of a run passes a check, such as `seesPermitted` and `seesCalm`.
-/

import PeerMesh.Proofs.Mesh.Departure

namespace PeerMesh

/-- Let the queued deliveries of a channel be in another order. -/
def Channel.requeue (channel : Channel) (queue : List (Job (Delivery Listener))) : Channel :=
  { channel with consumer := { channel.consumer with
      pool := channel.consumer.pool.map ({ · with queue := queue }) } }

/-- Events that overtake each other leave everything else as it was. -/
theorem Channel.requeue_consumer {channel : Channel} {queue : List (Job (Delivery Listener))}
    (same : queue.Perm channel.consumer.pending) :
    (channel.requeue queue).consumer.atRest = channel.consumer.atRest ∧
      (channel.requeue queue).consumer.pending.Perm channel.consumer.pending := by
  unfold Channel.requeue Consumer.atRest
  unfold Consumer.pending Consumer.workforce? at same ⊢
  dsimp only
  cases opened : channel.consumer.pool with
  | none => exact ⟨rfl, .refl _⟩
  | some pool =>
    rw [opened] at same
    exact ⟨rfl, same⟩

theorem Channel.eq_of_outboundEvent {channel : Channel} {scope : Scope} {kind : String} {data : Bytes}
    {event : Event} (made : channel.outboundEvent scope kind data = .ok event) :
    ∃ address, event = ⟨scope, kind, data, channel.selfId, address⟩ := by
  unfold outboundEvent Channel.event at made
  cases gated : channel.gate with
  | error error =>
    rw [gated] at made
    cases made
  | ok done =>
    rw [gated] at made
    cases reached : channel.address with
    | none =>
      rw [reached] at made
      cases made
    | some address =>
      rw [reached] at made
      exact ⟨address, (Except.ok.inj made).symm⟩

/-- What can happen to channels on one network. -/
inductive Deed where
  | create (label : String) (settings : Settings)
  | start (channel : Nat)
  | close (channel : Nat)
  | changeDomain (channel : Nat) (domain : String)
  | resync (channel : Nat)
  | forceResync (channel : Nat) (targets : Option (List NodeId))
  | register (channel : Nat)
  | unregister (channel : Nat)
  /-- Something that is ready happens. -/
  | move (move : Move)
  /-- The detector of a channel does what it waits for, with peers chosen by a draw. -/
  | turn (channel : Nat) (draw : Draw)
  /-- Events that are queued with a channel overtake each other. -/
  | overtake (channel : Nat) (queue : List (Job (Delivery Listener)))
  /-- Time passes. -/
  | pass (span : Nat)

namespace Mesh

/-- Do a deed. -/
def act (mesh : Mesh) : Deed → Mesh
  | .create label settings => (mesh.create label settings true).2
  | .start n => (mesh.start n).2
  | .close n => mesh.close n
  | .changeDomain n domain => (mesh.changeDomain n domain).2
  | .resync n => mesh.resync n
  | .forceResync n targets => (mesh.forceResync n targets).2
  | .register n => mesh.register n
  | .unregister n => (mesh.unregister n).2
  | .move move => mesh.perform move
  | .turn n draw => (stationWith draw n).turn mesh
  | .overtake n queue => mesh.modify n (·.requeue queue)
  | .pass span => { mesh with time := mesh.time + span }

/-- A channel can be created with these settings: it takes part in the network, nobody has its id, and
its numbers are machine words. -/
def PermitsCreate (mesh : Mesh) (settings : Settings) : Prop :=
  settings.broadcastProvider = .memory ∧ settings.unicastProvider = .memory ∧
    (∀ other ∈ mesh.channels, other.selfId ≠ settings.resolveNodeId mesh.madeUpId) ∧
    textLength (settings.resolveNodeId mesh.madeUpId).name < 2 ^ 64 ∧ settings.batchSize < 2 ^ 64

instance (mesh : Mesh) (settings : Settings) : Decidable (mesh.PermitsCreate settings) :=
  inferInstanceAs (Decidable (_ ∧ _ ∧ _ ∧ _ ∧ _))

/-- A deed can be done. Only a channel that is there, and can have its queues and an address, is
started; peers are drawn fairly; and events that overtake each other stay the same. -/
def Permits (mesh : Mesh) : Deed → Prop
  | .create _ settings => mesh.PermitsCreate settings
  | .start n => n < mesh.channels.length ∧ mesh.cannotStart n = false ∧
    mesh.network.nextNumber < 2 ^ 64
  | .turn _ draw => draw.IsFair
  | .overtake n queue => queue.Perm (mesh.channel n).consumer.pending
  | .close _ | .changeDomain .. | .resync _ | .forceResync .. | .register _ | .unregister _ | .move _
  | .pass _ => True

/-- No departure of one of its peers is queued with a channel. -/
def IsUpToDate (mesh : Mesh) (n : Nat) : Prop :=
  ∀ key id address, (mesh.channel n).view.Files key id address → ¬ (mesh.channel n).HasLeaveOf id

/-- A deed is calm: a channel moves only if it is free to, and begins a round only if it is up to
date. -/
def IsCalmFor (mesh : Mesh) : Deed → Prop
  | .changeDomain n domain => (mesh.channel n).phase = .started → (mesh.channel n).domain ≠ domain →
    mesh.IsFreeToMove n
  | .turn n _ | .move (.turn n) => mesh.beginsRound n = true → mesh.IsUpToDate n
  | _ => True

/-- The meshes that come of one without channels by deeds of some sort. -/
inductive Reached (permits : Mesh → Deed → Prop) (host : Socket.Host) : Mesh → Prop where
  | empty : Reached permits host (.empty host)
  | step {mesh : Mesh} {deed : Deed} : Reached permits host mesh → permits mesh deed →
    Reached permits host (mesh.act deed)

variable {mesh : Mesh} {n : Nat}

/-! ### Every calm deed keeps a mesh in order -/

namespace InOrder

theorem forceResync (inOrder : mesh.InOrder) (n : Nat) (targets : Option (List NodeId)) :
    (mesh.forceResync n targets).2.InOrder := by
  unfold Mesh.forceResync
  dsimp only
  cases found : mesh.channels[n]? with
  | none =>
    rw [channel_default found]
    exact inOrder
  | some channel =>
    rw [channel_eq found]
    split
    · exact inOrder
    · rename_i event made
      obtain ⟨address, rfl⟩ := Channel.eq_of_outboundEvent made
      exact inOrder.of_orderly (inOrder.orderly.post inOrder.wired (there found)
        fun _ _ => Event.tellsOnly_of_quiet (.inl rfl) _ _ _ _)

/-- Nothing waits to go out. -/
theorem dispatchNext (inOrder : mesh.InOrder) (n : Nat) : mesh.dispatchNext n = mesh := by
  have nothing : (mesh.channel n).publisher.bind Pool.take? = none := by
    cases found : mesh.channels[n]? with
    | none =>
      rw [channel_default found]
      rfl
    | some channel =>
      rw [channel_eq found]
      cases opened : channel.publisher with
      | none => rfl
      | some pool =>
        have empty := (inOrder.wired.at (there found)).sendsNothing pool opened
        show pool.take? = none
        unfold Pool.take?
        rw [empty]
  unfold Mesh.dispatchNext
  rw [nothing]

/-- Nobody waits for a reply on behalf of others. -/
theorem finish (inOrder : mesh.InOrder) (n ticket : Nat) : mesh.finish n ticket = mesh := by
  unfold Mesh.finish
  rw [inOrder.orderly.noErrands]
  rfl

/-- **The detector of a channel does what it waits for in order**, if the channel is up to date whenever a
round begins. -/
theorem turn (inOrder : mesh.InOrder) (calm : mesh.beginsRound n = true → mesh.IsUpToDate n)
    {draw : Draw} (fair : draw.IsFair) : ((stationWith draw n).turn mesh).InOrder := by
  have firm := inOrder.orderly.firmUp (fun m channel found (isFirm : m = n ∧ mesh.beginsRound n = true)
      key id address files => ?_)
  · exact inOrder.of_orderly (firm.turn inOrder.wired (fun begins => ⟨rfl, begins⟩) fair)
  · obtain ⟨rfl, begins⟩ := isFirm
    have upToDate := calm begins key id address
    rw [channel_eq found] at upToDate
    exact upToDate files

/-- **A move is made in order.** -/
theorem perform (inOrder : mesh.InOrder) {move : Move} (calm : mesh.IsCalmFor (.move move)) :
    (mesh.perform move).InOrder := by
  cases move with
  | deliver n => exact inOrder.of_orderly (inOrder.orderly.deliver inOrder.wired n)
  | dispatch n =>
    show (mesh.dispatchNext n).InOrder
    rw [inOrder.dispatchNext]
    exact inOrder
  | announce n => exact inOrder.of_orderly (inOrder.orderly.announce inOrder.wired n)
  | turn n => exact inOrder.turn calm Draw.first_isFair
  | hear n => exact inOrder.of_orderly (inOrder.orderly.hearScheduled Draw.first)
  | finish n ticket =>
    show (mesh.finish n ticket).InOrder
    rw [inOrder.finish]
    exact inOrder
  | heed n => exact inOrder.of_same rfl rfl rfl

/-- Events that overtake each other keep a mesh in order. -/
theorem overtake (inOrder : mesh.InOrder) {queue : List (Job (Delivery Listener))}
    (same : queue.Perm (mesh.channel n).consumer.pending) :
    (mesh.modify n (·.requeue queue)).InOrder := by
  refine inOrder.of_orderly (inOrder.orderly.modify n fun channel found => ?_)
  rw [channel_eq found] at same
  have each := inOrder.orderly.each n channel found
  obtain ⟨atRest, pending⟩ := Channel.requeue_consumer same
  exact ⟨Channel.atRest_of_consumer atRest, each.requeue atRest pending.symm.subset
    fun job queued => each.honest job (pending.subset queued)⟩

/-- **A calm deed keeps a mesh in order.** -/
theorem act (inOrder : mesh.InOrder) {deed : Deed} (permitted : mesh.Permits deed)
    (calm : mesh.IsCalmFor deed) : (mesh.act deed).InOrder := by
  cases deed with
  | create label settings =>
    obtain ⟨broadcasts, unicasts, fresh, smallId, smallBatch⟩ := permitted
    refine inOrder.create label ?_ ?_ fresh smallId smallBatch
    · unfold Settings.broadcastTransport
      rw [broadcasts]
      rfl
    · unfold Settings.unicastTransport
      rw [unicasts]
      rfl
  | start n => exact inOrder.start permitted.1 permitted.2.1 permitted.2.2
  | close n => exact inOrder.close n
  | changeDomain n domain => exact inOrder.changeDomain calm
  | resync n => exact inOrder.resync n
  | forceResync n targets => exact inOrder.forceResync n targets
  | register n => exact inOrder.register n
  | unregister n => exact inOrder.unregister n
  | move move => exact inOrder.perform calm
  | turn n draw => exact inOrder.turn calm permitted
  | overtake n queue => exact inOrder.overtake permitted
  | pass span => exact inOrder.of_same rfl rfl rfl

/-- **Every mesh that calm deeds lead to is in order.** -/
theorem of_reached {host : Socket.Host}
    (reached : Reached (fun mesh deed => mesh.Permits deed ∧ mesh.IsCalmFor deed) host mesh) :
    mesh.InOrder := by
  induction reached with
  | empty => exact .empty host
  | step _ done ih => exact ih.act done.1 done.2

end InOrder

/-! ### Runs that can be seen to be permitted -/

/-- Whether each of the deeds passes a check when it comes to it. -/
def checkAll (check : Mesh → Deed → Bool) : List Deed → Mesh → Bool
  | [], _ => true
  | deed :: rest, mesh => check mesh deed && checkAll check rest (mesh.act deed)

theorem reached_of_checkAll {permits : Mesh → Deed → Prop} {host : Socket.Host} {check : Mesh → Deed → Bool}
    (sound : ∀ mesh deed, check mesh deed = true → permits mesh deed) (deeds : List Deed) :
    ∀ mesh, Reached permits host mesh → checkAll check deeds mesh = true →
      Reached permits host (deeds.foldl act mesh) := by
  induction deeds with
  | nil => exact fun _ reached _ => reached
  | cons deed rest ih =>
    intro mesh reached checked
    obtain ⟨first, later⟩ := Bool.and_eq_true_iff.mp checked
    exact ih _ (reached.step (sound mesh deed first)) later

/-- Whether a deed is seen to be permitted. -/
def seesPermitted (mesh : Mesh) : Deed → Bool
  | .create _ settings => decide (mesh.PermitsCreate settings)
  | .start n => n < mesh.channels.length && !mesh.cannotStart n && mesh.network.nextNumber < 2 ^ 64
  | .turn .. | .overtake .. => false
  | _ => true

theorem permits_of_seesPermitted (mesh : Mesh) (deed : Deed) (seen : mesh.seesPermitted deed = true) :
    mesh.Permits deed := by
  cases deed with
  | create label settings => exact of_decide_eq_true (p := mesh.PermitsCreate settings) seen
  | start n =>
    obtain ⟨first, small⟩ := Bool.and_eq_true_iff.mp seen
    obtain ⟨isThere, can⟩ := Bool.and_eq_true_iff.mp first
    exact ⟨of_decide_eq_true isThere, Bool.not_inj can, of_decide_eq_true small⟩
  | turn | overtake => cases seen
  | _ => trivial

/-- Whether a deed is seen to be permitted and calm: a channel moves when nothing is queued with anybody,
and begins a round when nothing is queued with it. -/
def seesCalm (mesh : Mesh) (deed : Deed) : Bool :=
  mesh.seesPermitted deed && match deed with
    | .changeDomain .. => mesh.channels.all fun channel =>
      channel.consumer.pending.isEmpty && channel.consumer.pool.all fun pool =>
        pool.queue.length < pool.capacity
    | .move (.turn n) => (mesh.channel n).consumer.pending.isEmpty
    | _ => true

theorem isFreeToMove_of_seen (n : Nat) (seen : (mesh.channels.all fun channel =>
    channel.consumer.pending.isEmpty && channel.consumer.pool.all fun pool =>
      pool.queue.length < pool.capacity) = true) : mesh.IsFreeToMove n := by
  have each (m : Nat) (channel : Channel) (found : mesh.channels[m]? = some channel) :
      channel.consumer.pending = [] ∧ channel.HasRoom := by
    obtain ⟨empty, room⟩ := Bool.and_eq_true_iff.mp
      (List.all_eq_true.mp seen channel (List.mem_of_getElem? found))
    refine ⟨List.isEmpty_iff.mp empty, fun pool opened => ?_⟩
    rw [opened] at room
    exact of_decide_eq_true room
  refine ⟨fun channel found job queued => ?_, fun m other _ found job queued => ?_,
    fun m other _ found _ => (each m other found).2⟩
  · rw [(each n channel found).1] at queued
    cases queued
  · rw [(each m other found).1] at queued
    cases queued

theorem isCalmFor_of_seesCalm (mesh : Mesh) (deed : Deed) (seen : mesh.seesCalm deed = true) :
    mesh.Permits deed ∧ mesh.IsCalmFor deed := by
  obtain ⟨permitted, calm⟩ := Bool.and_eq_true_iff.mp seen
  refine ⟨permits_of_seesPermitted mesh deed permitted, ?_⟩
  cases deed with
  | changeDomain n domain => exact fun _ _ => isFreeToMove_of_seen n calm
  | turn n draw => cases permitted
  | move move =>
    cases move with
    | turn n =>
      rintro _ key id address _ ⟨job, queued, _⟩
      rw [List.isEmpty_iff.mp calm] at queued
      cases queued
    | _ => trivial
  | _ => trivial

end Mesh

end PeerMesh
