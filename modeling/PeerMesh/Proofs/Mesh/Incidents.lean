/-
**Whatever can happen to channels on one network.**

* `changeDomain_proceeds`, `create_proceeds`, `getOrCreate_proceeds`, `carryOut_proceeds` — a consistent mesh
  stays so and ages, its closed channels at rest, when a channel moves or is made, and whatever order is
  carried out.
* `Adjustment` — what can be done to a single channel without its taking notice: listeners and watchers come
  and go, and jobs overtake each other.
* `Incident` — channels are created and handed out, orders are carried out, events are queued, channels are
  adjusted, what is ready happens, in any order and with any delay, and time passes. `Mesh.Admits`: the channel
  that an incident names is there.
* **`undergo_proceeds`**, **`undergoAll_proceeds`** — whatever happens, once and any number of times.
-/

import PeerMesh.Mesh.Order
import PeerMesh.Proofs.Mesh.Upkeep

namespace PeerMesh

namespace Mesh

variable {mesh : Mesh} {n : Nat}

/-! ### Orders -/

theorem started_of_gate (passes : (mesh.channel n).gate = .ok ()) : (mesh.channel n).phase = .started := by
  unfold Channel.gate at passes
  cases phase : (mesh.channel n).phase with
  | started => rfl
  | created | closed =>
    rw [phase] at passes
    cases passes

/-- A channel says farewell to its domain, forgets its peers and is in another domain. -/
def migrate (mesh : Mesh) (n : Nat) (domain : String) : Mesh :=
  (mesh.postAll n (farewell (mesh.channel n) .leave)).settleIn n domain

theorem changeDomain_of_moves (started : (mesh.channel n).phase = .started) {domain : String}
    (differs : (mesh.channel n).domain ≠ domain) :
    (mesh.changeDomain n domain).2 =
      (if (mesh.channel n).isLinked then ((mesh.unregister n).2.migrate n domain).register n
        else mesh.migrate n domain).resync n := by
  have passes : (mesh.channel n).gate = .ok () := by
    unfold Channel.gate
    rw [started]
  unfold Mesh.changeDomain
  dsimp only
  rw [passes]
  dsimp only
  rw [if_neg differs]
  cases (mesh.channel n).isLinked <;>
    simp only [migrate, channel_unregister, Bool.false_eq_true, if_true, if_false]

theorem changeDomain_of_stays {domain : String}
    (stays : ¬ ((mesh.channel n).phase = .started ∧ (mesh.channel n).domain ≠ domain)) :
    (mesh.changeDomain n domain).2 = mesh := by
  unfold Mesh.changeDomain
  dsimp only
  split
  · rfl
  · rename_i passes
    split
    · rfl
    · rename_i differs
      exact absurd ⟨started_of_gate passes, differs⟩ stays

theorem setUp_unicast (mesh : Mesh) (manner : Memory.Manner) (joinsGroup : Bool) :
    (mesh.setUp manner joinsGroup).2.network.unicast =
      mesh.network.unicast.insert (Memory.addressOf mesh.network.nextNumber)
        ⟨.outsider ⟨"", mesh.outsider.makings, manner⟩, true⟩ := by
  unfold setUp
  cases joinsGroup <;> rfl

theorem setUp_groups (mesh : Mesh) (manner : Memory.Manner) (joinsGroup : Bool) :
    (mesh.setUp manner joinsGroup).2.network.groups =
      if joinsGroup then mesh.network.groups.insert mesh.outsider.group.number
        (.outsider ⟨"", mesh.outsider.makings, manner⟩) else mesh.network.groups := by
  unfold setUp
  cases joinsGroup <;> rfl

theorem hasNoEnds_default : (default : Channel).HasNoEnds :=
  ⟨fun _ reached => (nomatch reached), fun _ joined => nomatch joined⟩

theorem channel_of_append {later : Mesh} {made : Channel} (channels : later.channels = mesh.channels ++ [made])
    (m : Nat) : later.channel m = if m = mesh.channels.length then made else mesh.channel m := by
  unfold channel
  rw [channels]
  split
  · rename_i same
    simp [same]
  · rename_i other
    rcases Nat.lt_or_gt_of_ne other with before | beyond
    · rw [List.getElem?_append_left before]
    · rw [List.getElem?_eq_none (Nat.le_of_lt beyond), List.getElem?_eq_none]
      simpa [Nat.succ_le_iff] using beyond

/-- What the network holds of a channel is an end that it has, so nothing of one that is made. -/
theorem IsMatched.append {later : Mesh} (matched : mesh.IsMatched) {made : Channel}
    (channels : later.channels = mesh.channels ++ [made])
    (unicast : later.network.unicast = mesh.network.unicast) (groups : later.network.groups = mesh.network.groups) :
    later.IsMatched := by
  have absent : mesh.channel mesh.channels.length = default := channel_of_absent (Nat.le_refl _)
  have others (m : Nat) (other : m ≠ mesh.channels.length) : later.channel m = mesh.channel m :=
    (channel_of_append channels m).trans (if_neg other)
  refine matched.of_others others (fun address endpoint found => ?_) fun number receiver found => ?_
  · rw [unicast] at found
    refine ⟨fun receives => ?_, fun _ => found⟩
    have own := matched.unicast address endpoint found _ receives
    rw [absent] at own
    exact absurd own (hasNoEnds_default.line address)
  · rw [groups] at found
    refine ⟨fun receives => ?_, fun _ => found⟩
    have own := matched.groups number receiver found _ receives
    rw [absent] at own
    exact absurd own (hasNoEnds_default.group number)

/-- A link that was only made is no end on the network. -/
theorem linkGroup_hasNoEnds (mesh : Mesh) (label : String) (settings : Settings) (id : NodeId) (time : Nat)
    (groupKind lineKind : TransportKind) :
    (Channel.new label settings id time (mesh.linkGroup settings groupKind).1
      (unicastLink lineKind)).HasNoEnds := by
  refine ⟨fun address reached => ?_, fun number joined => ?_⟩
  · cases lineKind <;> cases reached
  · cases groupKind <;> cases joined

theorem create_ok {label : String} {settings : Settings} {hasNetwork : Bool} {later : Mesh}
    (creates : mesh.create label settings hasNetwork = (.ok n, later)) :
    n = mesh.channels.length ∧ later.registry = mesh.registry ∧ ∃ made : Channel,
      later.channels = mesh.channels ++ [made] ∧ made.phase = .created ∧ made.domain = settings.domain ∧
        made.isLinked = false := by
  have linked (kind : TransportKind) : (mesh.linkGroup settings kind).2.channels = mesh.channels ∧
      (mesh.linkGroup settings kind).2.registry = mesh.registry := by
    cases kind <;> exact ⟨rfl, rfl⟩
  unfold Mesh.create at creates
  split at creates
  · cases creates
  · cases creates
  · rename_i groupKind _ _
    obtain ⟨channels, registry⟩ := linked groupKind
    dsimp only at creates
    split at creates
    · cases creates
    · cases creates
      exact ⟨congrArg List.length channels, registry, _, congrArg (· ++ _) channels, rfl, rfl, rfl⟩

end Mesh

/-- The channel to which an order is given. -/
def Order.channel? : Order → Option Nat
  | .start n | .close n | .resync n | .forceResync n _ | .changeDomain n _ | .dispatch n .. | .burst n ..
  | .dispatchThenClose n .. | .send n .. | .sendMany n .. | .sendEach n .. | .sendToNodes n ..
  | .sendControl n .. | .addFinder n _ | .awaitPeers n .. | .isNodeDead n _ | .describe n | .settings n
  | .metrics n | .metricsText n | .view n _ | .register n | .unregister n => some n
  | .findByDomain _ | .registrySize | .closeAll | .sleep _ | .release _ | .setReachable .. | .endpointCount
  | .setUp .. | .forge .. | .forgeBroadcast _ | .forgeRequest .. => none

namespace Mesh

variable {mesh : Mesh} {n : Nat}

theorem carryOut_dispatchThenClose (mesh : Mesh) (n : Nat) (kind : String) (data : Bytes) :
    (mesh.carryOut (.dispatchThenClose n kind data)).2 =
      ((mesh.dispatchFor n .ownDomain kind data).2.close n).settle := by
  unfold carryOut
  dsimp only

end Mesh

/-! ### What is done to a single channel -/

/-- What can be done to a single channel without its taking notice. -/
inductive Adjustment where
  /-- Call a listener with events of a kind. -/
  | listen (kind : String) (script : AsyncScript)
  /-- Have a listener answer events of a kind. -/
  | reply (kind : String) (script : SyncScript)
  /-- Remove a listener. -/
  | dismiss (listener : ListenerId)
  | watch (watcher : Watcher)
  | unwatch (watcher : Nat)
  /-- Refer to the channel, or do so no more. -/
  | hold (value : Bool)
  /-- A delivery overtakes those that were queued earlier. -/
  | overtake (place : Nat)
  /-- An event that goes out overtakes those that were queued earlier. -/
  | hurry (place : Nat)
  /-- From now on, these workers are in the middle of their turns: of those that call listeners, and of those that
  send events. -/
  | stir (calling sending : Turns)
  /-- A worker that calls listeners has to wait. -/
  | restCaller (ticket? : Option Nat)
  /-- A worker that sends events has to wait. -/
  | restSender (ticket? : Option Nat)

/-- A job overtakes those that were queued earlier. -/
def Pool.overtake {α : Type} (pool : Pool α) (place : Nat) : Pool α :=
  { pool with queue := pool.queue[place]?.toList ++ pool.queue.eraseIdx place }

/-- A delivery overtakes those that were queued earlier. -/
def Consumer.overtake {α β : Type} (consumer : Consumer α β) (place : Nat) : Consumer α β :=
  { consumer with
    pool := consumer.pool.map (·.overtake place)
    remnant := consumer.remnant.map (·.overtake place) }

/-- A queue in which a job overtakes others holds the same jobs. -/
theorem Pool.overtake_perm {α : Type} (pool : Pool α) (place : Nat) : (pool.overtake place).queue.Perm pool.queue := by
  unfold overtake
  cases within : pool.queue[place]? with
  | none =>
    have beyond := List.getElem?_eq_none_iff.mp within
    simp [List.eraseIdx_of_length_le beyond]
  | some job =>
    obtain ⟨inside, rfl⟩ := List.getElem?_eq_some_iff.mp within
    exact List.getElem_cons_eraseIdx_perm inside

theorem Consumer.overtake_pending {α β : Type} (consumer : Consumer α β) (place : Nat) :
    (consumer.overtake place).pending.Perm consumer.pending := by
  unfold overtake pending workforce?
  cases consumer.pool with
  | some pool => exact pool.overtake_perm place
  | none =>
    cases consumer.remnant with
    | none => rfl
    | some left => exact left.overtake_perm place

namespace Channel

variable {channel : Channel}

/-- The registration of a listener was tried. -/
def registered (channel : Channel) (outcome : Except ConsumerError (ListenerId × Consumer Listener Replier)) :
    Channel :=
  match outcome with
  | .ok (_, consumer) => { channel with consumer := consumer }
  | .error _ => channel

/-- Adjust a channel. -/
def adjust (adjustment : Adjustment) (channel : Channel) : Channel :=
  match adjustment with
  | .listen kind script => channel.registered (channel.consumer.registerAsync kind (.script script))
  | .reply kind script => channel.registered (channel.consumer.registerSync kind (.script script))
  | .dismiss listener => { channel with consumer := (channel.consumer.unregister listener).2 }
  | .watch watcher => channel.mapWatched fun watched => (watched.listen watcher).2
  | .unwatch watcher => channel.mapWatched (·.unlisten watcher)
  | .hold value => { channel with isHeld := value }
  | .overtake place => { channel with consumer := channel.consumer.overtake place }
  | .hurry place => { channel with publisher := channel.publisher.map (·.overtake place) }
  | .stir calling sending => { channel with calling := calling, sending := sending }
  | .restCaller ticket? => { channel with consumer := channel.consumer.waitDelivery ticket? }
  | .restSender ticket? => { channel with publisher := channel.publisher.map (·.wait ticket?) }

theorem registered_standing (channel : Channel)
    (outcome : Except ConsumerError (ListenerId × Consumer Listener Replier)) :
    (channel.registered outcome).standing = channel.standing := by
  cases outcome <;> rfl

theorem adjust_standing (channel : Channel) (adjustment : Adjustment) :
    (channel.adjust adjustment).standing = channel.standing := by
  cases adjustment with
  | listen | reply => exact channel.registered_standing _
  | _ => rfl

end Channel

/-! ### Incidents -/

/-- Anything that can happen to channels on one network. -/
inductive Incident where
  | create (label : String) (settings : Settings) (hasNetwork : Bool)
  /-- The registry hands out a channel. -/
  | provide (label : String) (settings : Settings) (hasNetwork : Bool)
  | order (order : Order)
  /-- An event is queued that will go out. -/
  | queue (channel : Nat) (goal : Goal) (kind : String) (data : Bytes)
  | adjust (channel : Nat) (adjustment : Adjustment)
  /-- Something that is ready happens. -/
  | move (move : Move)
  /-- The detector of a channel does what it waits for, with peers chosen by a draw. -/
  | turn (channel : Nat) (draw : Draw)
  /-- Channels to which nothing refers go away. -/
  | tidy
  /-- Time passes. -/
  | pass (span : Nat)

/-- The channel that an incident names. -/
def Incident.channel? : Incident → Option Nat
  | .order given => given.channel?
  | .queue n .. | .adjust n _ | .turn n _ => some n
  | .create .. | .provide .. | .move _ | .tidy | .pass _ => none

namespace Mesh

/-- Something happens to a mesh. -/
def undergo (mesh : Mesh) : Incident → Mesh
  | .create label settings hasNetwork => (mesh.create label settings hasNetwork).2
  | .provide label settings hasNetwork => (mesh.getOrCreate label settings hasNetwork).2
  | .order order => (mesh.carryOut order).2
  | .queue n goal kind data => (mesh.dispatchFor n goal kind data).2
  | .adjust n adjustment => mesh.modify n (·.adjust adjustment)
  | .move move => mesh.perform move
  | .turn n draw => (stationWith draw n).turn mesh
  | .tidy => mesh.tidy
  | .pass span => { mesh with time := mesh.time + span }

/-- One thing after another happens to a mesh. -/
def undergoAll (mesh : Mesh) (history : List Incident) : Mesh := history.foldl undergo mesh

/-- The channel that an incident names is there. -/
def Admits (mesh : Mesh) (incident : Incident) : Prop :=
  incident.channel?.all (· < mesh.channels.length) = true

instance (mesh : Mesh) (incident : Incident) : Decidable (mesh.Admits incident) :=
  inferInstanceAs (Decidable (_ = true))

/-- The channels that incidents name are there when it comes to them. -/
def AdmitsAll (mesh : Mesh) : List Incident → Prop
  | [] => True
  | incident :: rest => mesh.Admits incident ∧ (mesh.undergo incident).AdmitsAll rest

instance decidableAdmitsAll : ∀ (mesh : Mesh) (history : List Incident), Decidable (mesh.AdmitsAll history)
  | _, [] => .isTrue trivial
  | mesh, incident :: rest =>
    have := decidableAdmitsAll (mesh.undergo incident) rest
    inferInstanceAs (Decidable (_ ∧ _))

variable {mesh : Mesh}

theorem undergoAll_append (mesh : Mesh) (history later : List Incident) :
    mesh.undergoAll (history ++ later) = (mesh.undergoAll history).undergoAll later := List.foldl_append

theorem admitsAll_append (history later : List Incident) : ∀ mesh : Mesh,
    mesh.AdmitsAll (history ++ later) ↔ mesh.AdmitsAll history ∧ (mesh.undergoAll history).AdmitsAll later := by
  induction history with
  | nil => simp [AdmitsAll, undergoAll]
  | cons incident rest ih =>
    intro mesh
    rw [List.cons_append, AdmitsAll, AdmitsAll, ih, and_assoc]
    rfl

theorem Admits.there {incident : Incident} (admits : mesh.Admits incident) {n : Nat}
    (names : incident.channel? = some n) : n < mesh.channels.length := by
  unfold Admits at admits
  rw [names] at admits
  exact of_decide_eq_true admits

theorem empty_isConsistent (host : Socket.Host) : (empty host).IsConsistent Nobody := by
  have same (n : Nat) : (empty host).channel n = default := channel_of_absent (Nat.zero_le n)
  refine ⟨⟨fun _ _ found => (nomatch found), fun _ _ found => nomatch found⟩, fun n _ _ => ?_, fun _ _ _ => rfl,
    fun n _ ended => ?_,
    fun _ waits => (nomatch waits), fun _ runs => nomatch runs⟩
  · rw [same]
    exact hasNoEnds_default
  · rw [same] at ended
    cases ended

end Mesh

end PeerMesh
