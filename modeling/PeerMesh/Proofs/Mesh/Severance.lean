/-
**Whatever happens, everything fits, and whoever is cut off stays so.**

* `Channel.adjust_stays` — what is done to a single channel leaves it where it is.
* `shutDown_upholds`, `close_upholds`, `changeDomain_upholds` — a channel leaves, or moves;
  `create_upholds`, `getOrCreate_upholds` — channels are made; `setReachable_upholds` — addresses are marked.
* **`undergo_upholds`**, **`undergoAll_upholds`** — whatever happens, once and any number of times, as long as
  the address is not marked reachable again.
* **`undergoAll_isFitted`** — every mesh that has come of an empty one is fitted.
-/

import PeerMesh.Proofs.Mesh.Cut

namespace PeerMesh

namespace Channel

variable {channel : Channel}

theorem stamps_of_farewell {kind : ProtocolKind} {outgoing : Outgoing}
    (said : outgoing ∈ Mesh.farewell channel kind) : channel.Stamps outgoing.event := by
  unfold Mesh.farewell at said
  cases made : channel.protocolEvent (.named channel.domain) kind [] with
  | error error =>
    rw [made] at said
    cases said
  | ok event =>
    rw [made] at said
    obtain rfl := List.mem_singleton.mp said
    exact stamps_of_event made

/-! ### What is done to a single channel -/

/-- The channel is where it was, in the same phase. -/
theorem IsSound.alike {later : Channel} (sound : channel.IsSound) (ends : later.ends = channel.ends)
    (phase : later.phase = channel.phase) (own : later.ownListeners = channel.ownListeners)
    (becomes : channel.view.Becomes later.view) (stamped : channel.IsStamped → later.IsStamped)
    (standing : channel.consumer.HasStanding → later.consumer.HasStanding) : later.IsSound := by
  refine ⟨stamped sound.stamped, fun created => ?_, standing sound.standing, sound.came.becomes becomes⟩
  obtain ⟨noEnds, nobody⟩ := sound.created (phase.symm.trans created)
  exact ⟨noEnds.of_ends ends, own.trans nobody⟩

/-- The channel stays where it is, and so do its queues and those who listen to it. -/
theorem stays_of_same {later : Channel} (ends : later.ends = channel.ends) (phase : later.phase = channel.phase)
    (own : later.ownListeners = channel.ownListeners) (becomes : channel.view.Becomes later.view)
    (publisher : later.publisher = channel.publisher) (tables : later.consumer.tables = channel.consumer.tables)
    (pending : later.consumer.pending = channel.consumer.pending) : channel.Stays later := by
  refine ⟨ends, phase.trans, fun sound => sound.alike ends phase own becomes
    (fun stamped pool opened job queued => ?_) fun standing => standing.of_tables tables,
    pending ▸ List.Subset.refl _⟩
  exact (congrArg Ends.address ends).trans (stamped pool (publisher ▸ opened) job queued)

/-- Those who listen change, and nothing new waits for them. -/
theorem stays_of_consumer {consumer : Consumer Listener Replier}
    (standing : channel.consumer.HasStanding → consumer.HasStanding)
    (pending : consumer.pending ⊆ channel.consumer.pending) :
    channel.Stays { channel with consumer := consumer } :=
  ⟨rfl, fun closed => closed, fun sound => sound.alike rfl rfl rfl (.refl _) (fun stamped => stamped) standing,
    pending⟩

/-- The queue of events that go out changes, and nothing new is in it. -/
theorem stays_of_publisher {change : Pool Outgoing → Pool Outgoing}
    (fewer : ∀ pool, (change pool).queue ⊆ pool.queue) :
    channel.Stays { channel with publisher := channel.publisher.map change } := by
  refine ⟨rfl, fun closed => closed, fun sound => sound.alike rfl rfl rfl (.refl _)
    (fun stamped later opened job queued => ?_) fun standing => standing, List.Subset.refl _⟩
  obtain ⟨pool, had, rfl⟩ := Option.map_eq_some_iff.mp opened
  exact stamped pool had job (fewer pool queued)

theorem registered_stays {outcome : Except ConsumerError (ListenerId × Consumer Listener Replier)}
    (registers : ∀ id consumer, outcome = .ok (id, consumer) → consumer.pending = channel.consumer.pending ∧
      (channel.consumer.HasStanding → consumer.HasStanding)) :
    channel.Stays (channel.registered outcome) := by
  unfold registered
  split
  · rename_i number consumer
    obtain ⟨pending, standing⟩ := registers number consumer rfl
    exact stays_of_consumer standing (pending ▸ List.Subset.refl _)
  · exact stays_of_same rfl rfl rfl (.refl _) rfl rfl rfl

/-- **What is done to a single channel leaves it where it is.** -/
theorem adjust_stays (channel : Channel) (adjustment : Adjustment) :
    channel.Stays (channel.adjust adjustment) := by
  cases adjustment with
  | watch | unwatch | hold | stir => exact stays_of_same rfl rfl rfl (.refl _) rfl rfl rfl
  | listen kind script =>
    refine registered_stays fun number consumer registers => ⟨?_, fun standing => standing.registerAsync registers⟩
    unfold Consumer.registerAsync at registers
    split_ifs at registers
    obtain ⟨-, rfl⟩ := Prod.mk.inj (Except.ok.inj registers)
    rfl
  | reply kind script =>
    refine registered_stays fun number consumer registers => ⟨?_, fun standing => standing.registerSync registers⟩
    unfold Consumer.registerSync at registers
    split_ifs at registers
    obtain ⟨-, rfl⟩ := Prod.mk.inj (Except.ok.inj registers)
    rfl
  | dismiss listener =>
    refine stays_of_consumer (fun standing => standing.step (.unregister listener)) ?_
    unfold Consumer.unregister
    split <;> exact List.Subset.refl _
  | overtake place =>
    exact stays_of_consumer (fun standing => standing.of_tables rfl)
      (channel.consumer.overtake_pending place).subset
  | hurry place => exact stays_of_publisher fun pool => (pool.overtake_perm place).subset
  | restCaller ticket? =>
    refine stays_of_consumer (fun standing => standing.of_tables rfl) ?_
    rcases channel.consumer.waitDelivery_pending ticket? with same | none
    · exact same ▸ List.Subset.refl _
    · exact none ▸ List.nil_subset _
  | restSender ticket? =>
    refine stays_of_publisher fun pool => ?_
    rcases pool.wait_queue ticket? with same | none
    · exact same ▸ List.Subset.refl _
    · exact none ▸ List.nil_subset _

end Channel

namespace Mesh

variable {forged : Event → Prop} {spared : Address → Prop} {mesh later : Mesh} {n : Nat}

/-! ### Channels that leave, or move -/

/-- A channel says farewell and is taken apart. -/
theorem shutDown_upholds (started : (mesh.channel n).phase = .started) :
    mesh.Upholds forged spared (mesh.shutDown n) := by
  let closed := mesh.modify n ({ · with phase := .closed })
  let posted := closed.postAll n (farewell (mesh.channel n) .shutdown)
  have there := there_of_phase started (by decide)
  have isClosed : closed.channel n = { mesh.channel n with phase := .closed } := channel_modify there _
  have closes : mesh.Upholds forged spared closed := by
    refine mesh.modify_upholds n ⟨rfl, fun _ => rfl, fun sound => ?_, List.Subset.refl _⟩
    exact sound.of_begun (fun created => nomatch created) sound.stamped rfl (.refl _)
  have posts : closed.Upholds forged spared posted := by
    refine upholds_of_carriage fun terms _ => closed.postAll_carriage fun outgoing said => ?_
    rw [isClosed]
    exact Channel.stamps_of_farewell said
  have stillClosed : (posted.channel n).phase = .closed := by
    exact (congrArg Channel.Standing.phase (closed.postAll_standing n n _)).trans (congrArg Channel.phase isClosed)
  exact (closes.trans posts).trans (teardown_upholds stillClosed)

theorem unregister_upholds (mesh : Mesh) (n : Nat) : mesh.Upholds forged spared (mesh.unregister n).2 :=
  mesh.registry_upholds _

/-- **A channel is closed.** -/
theorem close_upholds (mesh : Mesh) (n : Nat) : mesh.Upholds forged spared (mesh.close n) := by
  by_cases started : (mesh.channel n).phase = .started
  · rw [close_of_started started]
    split
    · exact (shutDown_upholds started).trans (unregister_upholds _ n)
    · exact shutDown_upholds started
  · rw [close_of_not_started started]
    exact .refl mesh

theorem closeAll_upholds (mesh : Mesh) : mesh.Upholds forged spared mesh.closeAll :=
  List.foldlRecOn mesh.registry _ (mesh.registry_upholds []) fun between upholds n _ =>
    upholds.trans (between.close_upholds n)

theorem register_upholds (mesh : Mesh) (n : Nat) : mesh.Upholds forged spared (mesh.register n) := by
  have linked : mesh.Upholds forged spared (mesh.modify n ({ · with isLinked := true })) :=
    mesh.modify_upholds n (Channel.stays_of_same rfl rfl rfl (.refl _) rfl rfl rfl)
  unfold Mesh.register
  dsimp only
  split
  · exact linked
  · exact linked.trans (registry_upholds _ _)

/-- A channel says farewell, and is in another domain. -/
theorem migrate_upholds (mesh : Mesh) (n : Nat) (domain : String) :
    mesh.Upholds forged spared (mesh.migrate n domain) := by
  let left := mesh.postAll n (farewell (mesh.channel n) .leave)
  have leaves : mesh.Upholds forged spared left :=
    upholds_of_carriage fun _ _ => mesh.postAll_carriage fun _ said => Channel.stamps_of_farewell said
  have clears : (left.channel n).OnlyLearns ((left.channel n).run left.time fun view _ => view.clear).2 :=
    Channel.run_onlyLearns _ _ fun now => View.becomes_undergo _ (.operation now .clear)
  have moves : left.Upholds forged spared (left.settleIn n domain) :=
    left.modify_upholds n (Channel.stays_of_same rfl rfl rfl clears.becomes rfl rfl rfl)
  exact leaves.trans moves

/-- **A channel moves to another domain.** -/
theorem changeDomain_upholds (mesh : Mesh) (n : Nat) (domain : String) :
    mesh.Upholds forged spared (mesh.changeDomain n domain).2 := by
  by_cases moves : (mesh.channel n).phase = .started ∧ (mesh.channel n).domain ≠ domain
  · obtain ⟨started, differs⟩ := moves
    rw [changeDomain_of_moves started differs]
    refine Upholds.trans ?_ (upholds_of_carriage fun _ _ => resync_carriage _ n)
    split
    · exact ((mesh.unregister_upholds n).trans (migrate_upholds _ n domain)).trans (register_upholds _ n)
    · exact mesh.migrate_upholds n domain
  · rw [changeDomain_of_stays moves]
    exact .refl mesh

/-! ### Channels that are made -/

/-- What the creation of a channel leaves alone. -/
theorem create_rest (mesh : Mesh) (label : String) (settings : Settings) (hasNetwork : Bool) :
    let later := (mesh.create label settings hasNetwork).2
    later.network.unicast = mesh.network.unicast ∧ later.log = mesh.log ∧ ∀ m,
      later.channel m = mesh.channel m ∨ m = mesh.channels.length ∧ (later.channel m).consumer.pending = [] := by
  intro later
  have linked (kind : TransportKind) : (mesh.linkGroup settings kind).2.network.unicast = mesh.network.unicast ∧
      (mesh.linkGroup settings kind).2.log = mesh.log ∧
      (mesh.linkGroup settings kind).2.channels = mesh.channels := by
    cases kind <;> exact ⟨rfl, rfl, rfl⟩
  have same {between : Mesh} (channels : between.channels = mesh.channels) (m : Nat) :
      between.channel m = mesh.channel m := by
    unfold channel
    rw [channels]
  unfold later Mesh.create
  split
  · exact ⟨rfl, rfl, fun _ => .inl rfl⟩
  · exact ⟨rfl, rfl, fun _ => .inl rfl⟩
  · rename_i groupKind _ _
    obtain ⟨unicast, log, channels⟩ := linked groupKind
    dsimp only
    split
    · exact ⟨unicast, log, fun m => .inl (same channels m)⟩
    · refine ⟨unicast, log, fun m => ?_⟩
      rw [channel_of_append (congrArg (· ++ _) channels)]
      split
      · rename_i isNew
        exact .inr ⟨isNew, rfl⟩
      · exact .inl rfl

/-- **A channel is created**, which is not the one that is cut off. -/
theorem create_upholds (mesh : Mesh) (label : String) (settings : Settings) (hasNetwork : Bool) :
    mesh.Upholds forged spared (mesh.create label settings hasNetwork).2 := by
  intro fitted
  obtain ⟨unicast, log, channels⟩ := mesh.create_rest label settings hasNetwork
  refine ⟨fitted.create label settings hasNetwork, fun x address held _ cut holds =>
    ⟨?_, fun m event waits => ?_, [], log, fun _ none => nomatch none⟩⟩
  · rcases channels x with same | ⟨rfl, -⟩
    · exact ⟨by rw [same]; exact cut.claims, cut.numbered, by rw [same, unicast]; exact cut.off⟩
    · have claims := cut.claims
      rw [channel_of_absent (Nat.le_refl _)] at claims
      cases claims
  · rcases channels m with same | ⟨-, empty⟩
    · rw [same] at waits
      exact holds m event waits
    · obtain ⟨job, queued, -⟩ := waits
      rw [empty] at queued
      cases queued

/-- **A channel is handed out.** -/
theorem getOrCreate_upholds (mesh : Mesh) (label : String) (settings : Settings) (hasNetwork : Bool) :
    mesh.Upholds forged spared (mesh.getOrCreate label settings hasNetwork).2 := by
  have created : mesh.Upholds forged spared (mesh.create label settings hasNetwork).2 :=
    mesh.create_upholds label settings hasNetwork
  unfold Mesh.getOrCreate
  split
  · exact .refl mesh
  · split
    · rename_i creates
      rw [creates] at created
      exact created
    · rename_i n began creates
      rw [creates] at created
      obtain ⟨rfl, _, made, channels, _⟩ := create_ok creates
      have there : mesh.channels.length < began.channels.length := by simp [channels]
      have starts := created.trans (began.start_upholds there)
      split
      · rename_i starting
        rw [starting] at starts
        exact starts.trans (register_upholds _ _)
      · rename_i starting
        rw [starting] at starts
        exact starts.trans (modify_upholds _ _ (Channel.stays_of_same rfl rfl rfl (.refl _) rfl rfl rfl))

/-! ### The network changes -/

/-- **An address is marked**, though not that of the channel that is cut off as reachable. -/
theorem setReachable_upholds (mesh : Mesh) (address : Address) (value : Bool)
    (spares : spared address → value = false) :
    mesh.Upholds forged spared { mesh with network := mesh.network.setReachable address value } := by
  intro fitted
  refine ⟨fitted.setReachable address value, fun x place held isSpared cut holds =>
    ⟨⟨cut.claims, cut.numbered, cut.off.imp_left fun marked => ?_⟩, holds, [], rfl, fun _ none => nomatch none⟩⟩
  show (mesh.network.setReachable address value).unicast.get? place = _
  rw [Memory.Network.get?_setReachable]
  split
  · rename_i same
    subst same
    rw [marked, spares isSpared]
    rfl
  · exact marked

theorem setUp_upholds (mesh : Mesh) (manner : Memory.Manner) (joinsGroup : Bool) :
    mesh.Upholds forged spared (mesh.setUp manner joinsGroup).2 := by
  intro fitted
  refine ⟨fitted.setUp manner joinsGroup, fun x place held isSpared cut holds =>
    ⟨⟨cut.claims, cut.numbered, cut.off.imp_left fun marked => ?_⟩, holds, [], rfl, fun _ none => nomatch none⟩⟩
  rw [setUp_unicast]
  exact get?_insert_next fitted marked

/-! ### Whatever happens -/

/-- **Whatever order is carried out.** -/
theorem carryOut_upholds (mesh : Mesh) {order : Order}
    (there : ∀ n, order.channel? = some n → n < mesh.channels.length)
    (forges : ∀ event, order.forged? = some event → forged event)
    (spares : ∀ address, order = .setReachable address true → ¬ spared address) :
    mesh.Upholds forged spared (mesh.carryOut order).2 := by
  cases order with
  | start n => exact mesh.start_upholds (there n rfl)
  | close n => exact mesh.close_upholds n
  | changeDomain n domain => exact mesh.changeDomain_upholds n domain
  | dispatchThenClose n kind data =>
    let queued := (mesh.dispatchFor n .ownDomain kind data).2
    have queues : mesh.Upholds forged spared queued :=
      upholds_of_carriage fun _ _ => mesh.dispatchFor_carriage n .ownDomain kind data
    have settles : (queued.close n).Upholds forged spared (queued.close n).settle :=
      upholds_of_carriage fun _ _ => settle_carriage _
    rw [carryOut_dispatchThenClose]
    exact (queues.trans (queued.close_upholds n)).trans settles
  | register n => exact mesh.register_upholds n
  | unregister n => exact mesh.unregister_upholds n
  | closeAll => exact mesh.closeAll_upholds
  | setReachable address value =>
    refine mesh.setReachable_upholds address value fun isSpared => ?_
    cases value with
    | false => rfl
    | true => exact absurd isSpared (spares address rfl)
  | setUp manner joinsGroup => exact mesh.setUp_upholds manner joinsGroup
  | _ =>
    exact upholds_of_carriage fun terms allows =>
      mesh.carryOut_carriage rfl fun event forging => allows event (forges event forging)

end Mesh

/-- The event that the outsider makes up. -/
def Incident.forged? : Incident → Option Event
  | .order given => given.forged?
  | _ => none

namespace Mesh

variable {forged : Event → Prop} {spared : Address → Prop} {mesh : Mesh}

/-- **Whatever happens.** -/
theorem undergo_upholds {incident : Incident} (admits : mesh.Admits incident)
    (forges : ∀ event, incident.forged? = some event → forged event)
    (spares : ∀ address, incident = .order (.setReachable address true) → ¬ spared address) :
    mesh.Upholds forged spared (mesh.undergo incident) := by
  cases incident with
  | create label settings hasNetwork => exact mesh.create_upholds label settings hasNetwork
  | provide label settings hasNetwork => exact mesh.getOrCreate_upholds label settings hasNetwork
  | order given =>
    exact mesh.carryOut_upholds (fun _ names => admits.there names) forges
      fun address same => spares address (congrArg Incident.order same)
  | queue n goal kind data => exact upholds_of_carriage fun _ _ => mesh.dispatchFor_carriage n goal kind data
  | adjust n adjustment => exact mesh.modify_upholds n (Channel.adjust_stays _ adjustment)
  | move move => exact upholds_of_carriage fun _ _ => mesh.perform_carriage move
  | turn n draw => exact upholds_of_carriage fun _ _ => mesh.turn_carriage draw n
  | tidy => exact upholds_of_carriage fun _ _ => mesh.tidy_carriage
  | pass span => exact upholds_of_carriage fun _ _ => mesh.pass_time_carriage _

/-- **However much happens.** -/
theorem undergoAll_upholds (history : List Incident) : ∀ mesh : Mesh, mesh.AdmitsAll history →
    (∀ incident ∈ history, ∀ event, incident.forged? = some event → forged event) →
    (∀ address, .order (.setReachable address true) ∈ history → ¬ spared address) →
    mesh.Upholds forged spared (mesh.undergoAll history) := by
  induction history with
  | nil => exact fun mesh _ _ _ => .refl mesh
  | cons incident rest ih =>
    intro mesh admits forges spares
    have first : mesh.Upholds forged spared (mesh.undergo incident) :=
      undergo_upholds admits.1 (forges incident List.mem_cons_self)
        fun address same => spares address (same ▸ List.mem_cons_self)
    exact first.trans (ih _ admits.2 (fun other among => forges other (List.mem_cons_of_mem _ among))
      fun address among => spares address (List.mem_cons_of_mem _ among))

section

variable {host : Socket.Host} {history : List Incident}

/-- **Every mesh that has come of an empty one is fitted.** -/
theorem undergoAll_isFitted (admits : (empty host).AdmitsAll history) :
    ((empty host).undergoAll history).IsFitted :=
  have upholds : (empty host).Upholds (fun _ => True) (fun _ => False) ((empty host).undergoAll history) :=
    undergoAll_upholds history _ admits (fun _ _ _ _ => trivial) fun _ _ => id
  (upholds (empty_isFitted host)).1

/-- **The view of every channel came of happenings**, in every mesh that has come of an empty one. -/
theorem undergoAll_hasCome (admits : (empty host).AdmitsAll history) (n : Nat) :
    (((empty host).undergoAll history).channel n).view.HasCome :=
  ((undergoAll_isFitted admits).fits n).sound.came

end

end Mesh

end PeerMesh
