/-
**What does not concern a channel.**

* `Channel.Seat` — what the announcements of a channel depend on: who it is and where it is reached, its settings,
  its phase and its domain, and the announcements that it still has to make.
* `Mesh.Bypasses` — from one mesh to a later one no time has passed, a channel has the same seat, and all that it
  has broadcast since and has queued is in order.
* `Chore.bypasses` — so do chores; `Alters.bypasses` — and what alters another channel alone.
* `start_bypasses`, `close_bypasses`, `changeDomain_bypasses`, `create_bypasses`, `getOrCreate_bypasses` — other
  channels come, start, move and go. `startParts_bypasses` — the channel itself starts.
* **`undergo_bypasses`** — whatever happens in an instant, if it does not concern the channel.
-/

import PeerMesh.Proofs.Mesh.Routine
import PeerMesh.Proofs.Mesh.Severance

namespace PeerMesh

namespace Consumer

variable {α β : Type} {consumer : Consumer α β} {kind : String} {made : ListenerId × Consumer α β}

/-- Whoever listens, a consumer heeds the same domain. -/
theorem domain_registerAsync {listener : α} (registers : consumer.registerAsync kind listener = .ok made) :
    made.2.domain = consumer.domain := by
  unfold registerAsync at registers
  split at registers
  · cases registers
  · cases registers
    rfl

theorem domain_registerSync {listener : β} (registers : consumer.registerSync kind listener = .ok made) :
    made.2.domain = consumer.domain := by
  unfold registerSync at registers
  split at registers
  · cases registers
  · split at registers
    · cases registers
    · cases registers
      rfl

theorem domain_unregister (consumer : Consumer α β) (id : ListenerId) :
    (consumer.unregister id).2.domain = consumer.domain := by
  unfold unregister
  split <;> rfl

theorem domain_start {workers capacity : Nat} {later : Consumer α β}
    (starts : consumer.start workers capacity = .ok later) : later.domain = consumer.domain := by
  unfold start at starts
  split at starts
  · cases starts
  · split at starts <;> (cases starts; rfl)

end Consumer

/-- A channel is started, and does not know where it is reached. -/
def Channel.IsLost (channel : Channel) : Prop := channel.phase = .started ∧ channel.address = none

/-- What the announcements of a channel depend on. -/
structure Channel.Seat where
  settings : Settings
  selfId : NodeId
  phase : Phase
  domain : String
  /-- The domain for which it heeds events. -/
  heeded : String
  address : Option Address
  announcing : Option Announcing

namespace Channel

variable {channel later : Channel}

/-- The seat of a channel. -/
def seat (channel : Channel) : Seat :=
  ⟨channel.settings, channel.selfId, channel.phase, channel.domain, channel.consumer.domain, channel.address,
    channel.announcing⟩

theorem seat_of_frame (same : later.frame = channel.frame) : later.seat = channel.seat := by
  show later.frame.seat = channel.frame.seat
  rw [same]

/-- Whoever listens to a channel, it keeps its seat. -/
theorem seat_of_consumer (channel : Channel) {consumer : Consumer Listener Replier}
    (domain : consumer.domain = channel.consumer.domain) :
    ({ channel with consumer := consumer } : Channel).seat = channel.seat := by
  unfold seat
  dsimp only
  rw [domain]
  rfl

theorem openQueues_seat (channel : Channel) : channel.openQueues.2.seat = channel.seat := by
  unfold openQueues
  dsimp only
  split
  · rfl
  · rename_i consumer starts
    exact channel.seat_of_consumer (Consumer.domain_start starts)

/-- In new queues nothing is queued. -/
theorem openQueues_outbox (channel : Channel) : channel.openQueues.2.outbox ⊆ channel.outbox := by
  rcases channel.openQueues_cases with ⟨opened, opens, nothing, -⟩ | ⟨error, fails⟩
  · rw [opens]
    intro outgoing queued
    unfold outbox at queued
    cases had : opened.publisher with
    | none =>
      rw [had] at queued
      cases queued
    | some pool =>
      rw [had, Option.map_some, Option.getD_some, nothing pool had] at queued
      cases queued
  · rw [fails]
    exact List.Subset.refl _

theorem enlist_seat (channel : Channel) : channel.enlist.2.seat = channel.seat := by
  have enlisted : (ProtocolKind.all.foldl enlistFor channel).seat = channel.seat := by
    refine List.foldlRecOn (motive := fun between : Channel => between.seat = channel.seat)
      ProtocolKind.all _ rfl fun between same kind _ => ?_
    unfold enlistFor
    split
    · rename_i registers
      exact (between.seat_of_consumer (Consumer.domain_registerAsync registers)).trans same
    · exact same
  unfold enlist
  dsimp only
  split
  · rename_i registers
    exact (seat_of_consumer (ProtocolKind.all.foldl enlistFor channel)
      (Consumer.domain_registerSync registers)).trans enlisted
  · exact enlisted

/-- What is queued to go out when a channel is stopped was queued before. -/
theorem halt_outbox (channel : Channel) : channel.halt.outbox ⊆ channel.outbox := by
  refine outbox_of_fewer rfl fun pool left stays => ?_
  rcases Pool.remnant?_queue stays with same | none
  · exact same ▸ List.Subset.refl _
  · exact none ▸ List.nil_subset _

theorem dismiss_seat (channel : Channel) : channel.dismiss.seat = channel.seat := by
  refine channel.seat_of_consumer ?_
  exact List.foldlRecOn
    (motive := fun consumer : Consumer Listener Replier => consumer.domain = channel.consumer.domain)
    channel.ownListeners _ rfl fun consumer same id _ => (consumer.domain_unregister id).trans same

end Channel

namespace Mesh

variable {τ : Type} {trait : Nat → Channel.Seat → τ} {allowed : Event → Prop} {mesh later last : Mesh} {n m : Nat}

/-- The trait of a channel and its domain are the same, and all that it has broadcast since and has queued is in
order. -/
structure Leaves (trait : Nat → Channel.Seat → τ) (allowed : Event → Prop) (n : Nat) (before after : Mesh) : Prop where
  count : before.channels.length ≤ after.channels.length
  domain : (after.channel n).domain = (before.channel n).domain
  same : trait after.time (after.channel n).seat = trait before.time (before.channel n).seat
  queues : ∀ event, .broadcast event ∈ (after.channel n).outbox → allowed event
  log : ∃ since, after.log = since ++ before.log ∧ ∀ entry ∈ since, ∀ event,
    entry.2 = .posted n (.broadcast event) →
      (event.scope = .named (before.channel n).domain ∧ event.kind ≠ ProtocolKind.publish.text) ∨ allowed event

/-- What leaves a channel alone that is there, if all that it had queued before was allowed. -/
def Bypasses (trait : Nat → Channel.Seat → τ) (allowed : Event → Prop) (n : Nat) (before after : Mesh) : Prop :=
  n < before.channels.length → (∀ event, .broadcast event ∈ (before.channel n).outbox → allowed event) →
    before.Leaves trait allowed n after

theorem Leaves.trans (first : mesh.Leaves trait allowed n later) (second : later.Leaves trait allowed n last) :
    mesh.Leaves trait allowed n last := by
  obtain ⟨earlier, begins, voiced⟩ := first.log
  obtain ⟨since, goesOn, stillVoiced⟩ := second.log
  refine ⟨first.count.trans second.count, second.domain.trans first.domain, second.same.trans first.same,
    second.queues, since ++ earlier, by rw [goesOn, begins, List.append_assoc], fun entry among event posted => ?_⟩
  rcases List.mem_append.mp among with new | old
  · rw [← first.domain]
    exact stillVoiced entry new event posted
  · exact voiced entry old event posted

theorem Bypasses.refl (trait : Nat → Channel.Seat → τ) (allowed : Event → Prop) (n : Nat) (mesh : Mesh) :
    mesh.Bypasses trait allowed n mesh :=
  fun _ queues => ⟨Nat.le_refl _, rfl, rfl, queues, [], rfl, fun _ none => nomatch none⟩

theorem Bypasses.trans (first : mesh.Bypasses trait allowed n later) (second : later.Bypasses trait allowed n last) :
    mesh.Bypasses trait allowed n last := fun there queues =>
  (first there queues).trans (second (there.trans_le (first there queues).count) (first there queues).queues)

/-- Chores bypass every channel. -/
theorem Chore.bypasses (chore : mesh.Chore (fun m event => m = n → allowed event) later) :
    mesh.Bypasses trait allowed n later := by
  intro _ queues
  have keeps := chore fun m event queued same => queues event (same ▸ queued)
  obtain ⟨since, grows, voiced⟩ := keeps.log
  refine ⟨keeps.count.ge, keeps.domain n, ?_, fun event queued => keeps.queues n event queued rfl, since, grows,
    fun entry among event posted => ?_⟩
  · rw [keeps.time, Channel.seat_of_frame (keeps.frame n)]
  · have voices := (voiced entry among).2
    rw [posted] at voices
    exact voices.imp_right fun may => may rfl

/-- Nothing happens, and the channel is the same. -/
theorem bypasses_of_same (time : later.time = mesh.time) (count : mesh.channels.length ≤ later.channels.length)
    (same : n < mesh.channels.length → later.channel n = mesh.channel n) (log : later.log = mesh.log) :
    mesh.Bypasses trait allowed n later := by
  intro there queues
  refine ⟨count, by rw [same there], by rw [same there, time], fun event queued => ?_, [], log,
    fun _ none => nomatch none⟩
  rw [same there] at queued
  exact queues event queued

/-- Only the network changes. -/
theorem network_bypasses (mesh : Mesh) (network : Memory.Network Party) :
    mesh.Bypasses trait allowed n { mesh with network := network } :=
  bypasses_of_same rfl (Nat.le_refl _) (fun _ => rfl) rfl

/-- What alters another channel alone. -/
theorem Alters.bypasses (alters : mesh.Alters m later) (other : n ≠ m) (time : later.time = mesh.time) :
    mesh.Bypasses trait allowed n later :=
  bypasses_of_same time alters.count.ge (fun _ => alters.others n other) alters.log

/-- Another channel changes. -/
theorem modify_bypasses (mesh : Mesh) (other : n ≠ m) (change : Channel → Channel) :
    mesh.Bypasses trait allowed n (mesh.modify m change) :=
  bypasses_of_same rfl (List.length_modify _ _ _).ge (fun _ => channel_modify_ne other mesh change) rfl

/-- A channel changes, but not its trait, and queues nothing. -/
theorem change_bypasses (mesh : Mesh) (n : Nat) {change : Channel → Channel}
    (domain : (change (mesh.channel n)).domain = (mesh.channel n).domain)
    (same : trait mesh.time (change (mesh.channel n)).seat = trait mesh.time (mesh.channel n).seat)
    (outbox : (change (mesh.channel n)).outbox ⊆ (mesh.channel n).outbox) :
    mesh.Bypasses trait allowed n (mesh.modify n change) := by
  intro there queues
  refine ⟨(List.length_modify _ _ _).ge, ?_, ?_, fun event queued => ?_, [], rfl, fun _ none => nomatch none⟩
  · rw [channel_modify there]
    exact domain
  · rw [channel_modify there]
    exact same
  · rw [channel_modify there] at queued
    exact queues event (outbox queued)

/-! ### What does not concern the channel -/

theorem startGroup_time (mesh : Mesh) (n : Nat) : (mesh.startGroup n).2.time = mesh.time := by
  unfold Mesh.startGroup
  split
  · rfl
  · split <;> rfl

theorem startLine_time (mesh : Mesh) (n : Nat) : (mesh.startLine n).2.time = mesh.time := by
  rcases mesh.startLine_cases n with ⟨ports, agenda, starts⟩ | ⟨error, fails⟩
  · rw [starts]
    unfold Mesh.takeAddress
    dsimp only
    split <;> rfl
  · rw [fails]

theorem resync_time (mesh : Mesh) (n : Nat) : (mesh.resync n).time = mesh.time := by
  unfold Mesh.resync
  split <;> rfl

theorem startLinks_time (mesh : Mesh) (n : Nat) : (mesh.startLinks n).2.time = mesh.time := by
  have lined := mesh.startLine_time n
  unfold Mesh.startLinks
  split
  · rename_i fails
    rw [fails] at lined
    exact lined
  · rename_i between starts
    rw [starts] at lined
    have linked := (between.startGroup_time n).trans lined
    split
    · rename_i fails
      rw [fails] at linked
      exact linked
    · rename_i joins
      rw [joins] at linked
      exact (resync_time _ n).trans linked

theorem startParts_time (mesh : Mesh) (n : Nat) : (mesh.startParts n).2.time = mesh.time := by
  unfold Mesh.startParts modifyGet
  dsimp only
  split
  · rename_i opens
    rw [← (Prod.mk.inj opens).2]
    rfl
  · rename_i first opens
    obtain rfl := (Prod.mk.inj opens).2
    split
    · rename_i enlists
      rw [← (Prod.mk.inj enlists).2]
      rfl
    · rename_i enlists
      obtain rfl := (Prod.mk.inj enlists).2
      exact startLinks_time _ n

theorem start_bypasses (mesh : Mesh) (other : n ≠ m) : mesh.Bypasses trait allowed n (mesh.start m).2 := by
  have begun : mesh.Bypasses trait allowed n (mesh.modify m ({ · with phase := .started })) :=
    mesh.modify_bypasses other _
  have starts := begun.trans ((startParts_alters _ m).bypasses other (startParts_time _ m))
  unfold Mesh.start
  split
  · exact .refl trait allowed n mesh
  · exact .refl trait allowed n mesh
  · split
    · rename_i starting
      rw [starting] at starts
      exact starts
    · rename_i starting
      rw [starting] at starts
      exact (starts.trans (modify_bypasses _ other _)).trans ((teardown_alters _ m).bypasses other rfl)

/-- A channel takes leave of its domain. -/
theorem farewell_chore {allowed : Nat → Event → Prop} (mesh : Mesh) (n : Nat) {channel : Channel}
    (domain : channel.domain = (mesh.channel n).domain) (kind : ProtocolKind)
    (leaves : kind.text ≠ ProtocolKind.publish.text) :
    mesh.Chore allowed (mesh.postAll n (farewell channel kind)) := by
  refine mesh.postAll_chore fun one among => ?_
  unfold farewell at among
  cases made : channel.protocolEvent (.named channel.domain) kind [] with
  | error error =>
    rw [made] at among
    cases among
  | ok event =>
    rw [made] at among
    obtain rfl := List.mem_singleton.mp among
    obtain ⟨scope, same⟩ := Channel.of_event made
    exact .inl ⟨scope.trans (congrArg Scope.named domain), same ▸ leaves⟩

theorem close_bypasses (mesh : Mesh) (other : n ≠ m) : mesh.Bypasses trait allowed n (mesh.close m) := by
  have closed : mesh.Bypasses trait allowed n (mesh.modify m ({ · with phase := .closed })) :=
    mesh.modify_bypasses other _
  have domain : (mesh.channel m).domain = ((mesh.modify m ({ · with phase := .closed })).channel m).domain := by
    rcases mesh.channel_modify_cases m ({ · with phase := .closed }) m with same | ⟨-, changed⟩
    · rw [same]
    · rw [changed]
  have torn := (closed.trans (farewell_chore _ m domain .shutdown (by decide)).bypasses).trans
    ((teardown_alters _ m).bypasses other rfl)
  unfold Mesh.close
  dsimp only
  split
  · split
    · exact torn.trans (bypasses_of_same rfl (Nat.le_refl _) (fun _ => rfl) rfl)
    · exact torn
  · exact .refl trait allowed n mesh

theorem closeAll_bypasses (mesh : Mesh)
    (each : ∀ m ∈ mesh.registry, ∀ between : Mesh, between.Bypasses trait allowed n (between.close m)) :
    mesh.Bypasses trait allowed n mesh.closeAll := by
  have emptied : mesh.Bypasses trait allowed n { mesh with registry := [] } :=
    bypasses_of_same rfl (Nat.le_refl _) (fun _ => rfl) rfl
  exact List.foldlRecOn mesh.registry _ emptied fun between bypasses m among => bypasses.trans (each m among between)

theorem register_bypasses (mesh : Mesh) (m : Nat) : mesh.Bypasses trait allowed n (mesh.register m) := by
  have linked : mesh.Bypasses trait allowed n (mesh.modify m ({ · with isLinked := true })) := by
    by_cases own : n = m
    · subst own
      exact mesh.change_bypasses n rfl rfl (List.Subset.refl _)
    · exact mesh.modify_bypasses own _
  unfold Mesh.register
  dsimp only
  split
  · exact linked
  · exact linked.trans (bypasses_of_same rfl (Nat.le_refl _) (fun _ => rfl) rfl)

theorem unregister_bypasses (mesh : Mesh) (m : Nat) : mesh.Bypasses trait allowed n (mesh.unregister m).2 :=
  bypasses_of_same rfl (Nat.le_refl _) (fun _ => rfl) rfl

theorem resync_bypasses (mesh : Mesh) (other : n ≠ m) : mesh.Bypasses trait allowed n (mesh.resync m) :=
  (mesh.resync_alters m).bypasses other (mesh.resync_time m)

theorem changeDomain_bypasses (mesh : Mesh) (other : n ≠ m) (domain : String) :
    mesh.Bypasses trait allowed n (mesh.changeDomain m domain).2 := by
  have migrates (mesh : Mesh) : mesh.Bypasses trait allowed n (mesh.migrate m domain) :=
    (farewell_chore mesh m rfl .leave (by decide)).bypasses.trans (modify_bypasses _ other _)
  by_cases moves : (mesh.channel m).phase = .started ∧ (mesh.channel m).domain ≠ domain
  · obtain ⟨started, differs⟩ := moves
    rw [changeDomain_of_moves started differs]
    refine Bypasses.trans ?_ (resync_bypasses _ other)
    split
    · exact ((mesh.unregister_bypasses m).trans (migrates _)).trans (register_bypasses _ m)
    · exact migrates mesh
  · rw [changeDomain_of_stays moves]
    exact .refl trait allowed n mesh

theorem linkGroup_bypasses (mesh : Mesh) (settings : Settings) (kind : TransportKind) :
    mesh.Bypasses trait allowed n (mesh.linkGroup settings kind).2 := by
  cases kind <;> exact bypasses_of_same rfl (Nat.le_refl _) (fun _ => rfl) rfl

theorem create_bypasses (mesh : Mesh) (label : String) (settings : Settings) (hasNetwork : Bool) :
    mesh.Bypasses trait allowed n (mesh.create label settings hasNetwork).2 := by
  unfold Mesh.create
  split
  · exact .refl trait allowed n mesh
  · exact .refl trait allowed n mesh
  · rename_i groupKind _ _
    have linked : mesh.Bypasses trait allowed n (mesh.linkGroup settings groupKind).2 :=
      mesh.linkGroup_bypasses settings groupKind
    dsimp only
    split
    · exact linked
    · refine linked.trans (bypasses_of_same rfl (by simp) (fun there => ?_) rfl)
      unfold channel
      dsimp only
      rw [List.getElem?_append_left there]

theorem getOrCreate_bypasses (mesh : Mesh) (there : n < mesh.channels.length) (label : String) (settings : Settings)
    (hasNetwork : Bool) : mesh.Bypasses trait allowed n (mesh.getOrCreate label settings hasNetwork).2 := by
  have created : mesh.Bypasses trait allowed n (mesh.create label settings hasNetwork).2 :=
    mesh.create_bypasses label settings hasNetwork
  unfold Mesh.getOrCreate
  split
  · exact .refl trait allowed n mesh
  · split
    · rename_i creates
      rw [creates] at created
      exact created
    · rename_i m later creates
      rw [creates] at created
      obtain ⟨rfl, -⟩ := create_ok creates
      have other : n ≠ mesh.channels.length := there.ne
      have starts := created.trans (later.start_bypasses other)
      split
      · rename_i starting
        rw [starting] at starts
        exact starts.trans (register_bypasses _ _)
      · rename_i starting
        rw [starting] at starts
        exact starts.trans (modify_bypasses _ other _)

/-! ### What a channel does when it starts -/

/-- An order that does not find the channel as it must be does nothing to it. -/
theorem start_of_begun (begun : (mesh.channel n).phase ≠ .created) : (mesh.start n).2 = mesh := by
  unfold Mesh.start
  cases phase : (mesh.channel n).phase with
  | created => exact absurd phase begun
  | started | closed => rfl

theorem resync_of_not_started (notStarted : (mesh.channel n).phase ≠ .started) : mesh.resync n = mesh :=
  if_neg notStarted

theorem open_bypasses (mesh : Mesh) (n : Nat) :
    mesh.Bypasses trait allowed n (mesh.modifyGet n Channel.openQueues).2 := by
  have seat := (mesh.channel n).openQueues_seat
  exact mesh.change_bypasses n (congrArg Channel.Seat.domain seat) (congrArg (trait mesh.time) seat)
    (mesh.channel n).openQueues_outbox

theorem enlist_bypasses (mesh : Mesh) (n : Nat) :
    mesh.Bypasses trait allowed n (mesh.modifyGet n Channel.enlist).2 := by
  have seat := (mesh.channel n).enlist_seat
  have outbox : (mesh.channel n).enlist.2.outbox = (mesh.channel n).outbox := by
    obtain ⟨consumer, ids, enlists, -⟩ := (mesh.channel n).enlist_cases
    rw [enlists]
    rfl
  exact mesh.change_bypasses n (congrArg Channel.Seat.domain seat) (congrArg (trait mesh.time) seat)
    (outbox ▸ List.Subset.refl _)

/-- To be reached somewhere is nothing to a trait that does not depend on where. -/
theorem startLine_bypasses (mesh : Mesh) (n : Nat)
    (anywhere : ∀ time seat address, trait time { seat with address := address } = trait time seat) :
    mesh.Bypasses trait allowed n (mesh.startLine n).2 := by
  have lined (mesh : Mesh) (network : Memory.Network Party) (line : UnicastLink) (address : Option Address) :
      mesh.Bypasses trait allowed n
        ({ mesh with network := network }.modify n ({ · with line := line, address := address })) :=
    (mesh.network_bypasses network).trans
      (change_bypasses _ n rfl (anywhere _ (mesh.channel n).seat _) (List.Subset.refl _))
  rcases mesh.startLine_cases n with ⟨ports, agenda, starts⟩ | ⟨error, fails⟩
  · let listening : Mesh := { mesh with ports := ports, agenda := agenda }
    have listens : mesh.Bypasses trait allowed n listening :=
      bypasses_of_same rfl (Nat.le_refl _) (fun _ => rfl) rfl
    rw [starts]
    refine listens.trans ?_
    unfold Mesh.takeAddress
    dsimp only
    split
    · exact lined listening _ _ _
    · exact lined listening mesh.network _ _
  · rw [fails]
    exact .refl trait allowed n mesh

theorem startGroup_bypasses (mesh : Mesh) (n : Nat) : mesh.Bypasses trait allowed n (mesh.startGroup n).2 := by
  have joined (network : Memory.Network Party) (group : GroupLink) :
      mesh.Bypasses trait allowed n ({ mesh with network := network }.modify n ({ · with group := group })) :=
    (mesh.network_bypasses network).trans (change_bypasses _ n rfl rfl (List.Subset.refl _))
  rcases mesh.startGroup_cases n with ⟨member, -, starts⟩ | ⟨member, -, starts⟩ | ⟨error, fails⟩
  · rw [starts]
    exact joined _ _
  · rw [starts]
    exact joined mesh.network _
  · rw [fails]
    exact .refl trait allowed n mesh

/-- To announce itself anew is nothing to a trait that does not depend on announcements. -/
theorem ownResync_bypasses (mesh : Mesh) (n : Nat)
    (anytime : ∀ time seat announcing, trait time { seat with announcing := announcing } = trait time seat) :
    mesh.Bypasses trait allowed n (mesh.resync n) := by
  unfold Mesh.resync
  split
  · refine Bypasses.trans (mesh.change_bypasses n ?_ ?_ ?_) (enqueueLast_chore _ _).bypasses
    all_goals
      unfold Channel.resync
      split
    · rfl
    · rfl
    · exact anytime _ (mesh.channel n).seat _
    · rfl
    · exact List.Subset.refl _
    · exact List.Subset.refl _
  · exact .refl trait allowed n mesh

/-- The parts of a channel are started, up to the first that fails. -/
theorem startParts_bypasses (mesh : Mesh) (n : Nat)
    (anywhere : ∀ time seat address, trait time { seat with address := address } = trait time seat)
    (anytime : ∀ time seat announcing, trait time { seat with announcing := announcing } = trait time seat) :
    mesh.Bypasses trait allowed n (mesh.startParts n).2 := by
  have links (mesh : Mesh) : mesh.Bypasses trait allowed n (mesh.startLinks n).2 := by
    have lined : mesh.Bypasses trait allowed n (mesh.startLine n).2 := mesh.startLine_bypasses n anywhere
    unfold Mesh.startLinks
    split
    · rename_i fails
      rw [fails] at lined
      exact lined
    rename_i between starts
    rw [starts] at lined
    have linked := lined.trans (between.startGroup_bypasses n)
    split
    · rename_i fails
      rw [fails] at linked
      exact linked
    · rename_i joins
      rw [joins] at linked
      exact (linked.trans (ownResync_bypasses _ n anytime)).trans (change_bypasses _ n rfl rfl (List.Subset.refl _))
  have opened : mesh.Bypasses trait allowed n (mesh.modifyGet n Channel.openQueues).2 := mesh.open_bypasses n
  unfold Mesh.startParts
  split
  · rename_i opens
    rw [opens] at opened
    exact opened
  · rename_i first opens
    rw [opens] at opened
    have enlisted : mesh.Bypasses trait allowed n (first.modifyGet n Channel.enlist).2 :=
      opened.trans (first.enlist_bypasses n)
    split
    · rename_i enlists
      rw [enlists] at enlisted
      exact enlisted
    · rename_i enlists
      rw [enlists] at enlisted
      exact enlisted.trans (links _)

/-- A channel whose link is started is reached somewhere. -/
theorem startLine_found (there : n < mesh.channels.length) (lines : mesh.startLine n = (.ok (), later)) :
    (later.channel n).address ≠ none := by
  rcases mesh.startLine_cases n with ⟨ports, agenda, starts⟩ | ⟨error, fails⟩
  · let listening : Mesh := { mesh with ports := ports, agenda := agenda }
    obtain rfl := (Prod.mk.inj (starts.symm.trans lines)).2
    rcases takeAddress_cases (show n < listening.channels.length from there) with
      ⟨own, -, channel, -⟩ | ⟨client, address, -, -, channel, -⟩
    · rw [channel]
      exact Option.some_ne_none _
    · rw [channel]
      exact Option.some_ne_none _
  · cases fails.symm.trans lines

/-- A channel whose links are started is reached somewhere. -/
theorem startLinks_found (there : n < mesh.channels.length) (starts : mesh.startLinks n = (.ok (), later)) :
    (later.channel n).address ≠ none := by
  -- once the channel is reached at an address it keeps it
  have keeps {mesh later : Mesh} (there : n < mesh.channels.length)
      (bypasses : mesh.Bypasses (fun _ seat => seat.address) (fun _ => True) n later) :
      n < later.channels.length ∧ (later.channel n).address = (mesh.channel n).address :=
    have leaves := bypasses there fun _ _ => trivial
    ⟨there.trans_le leaves.count, leaves.same⟩
  have alters := mesh.startLine_alters n
  unfold Mesh.startLinks at starts
  split at starts
  · cases starts
  rename_i lined lines
  rw [lines] at alters
  have linedThere : n < lined.channels.length := alters.count.symm ▸ there
  obtain ⟨groupedThere, grouped⟩ := keeps linedThere (lined.startGroup_bypasses n)
  split at starts
  · cases starts
  · rename_i linked links
    rw [links] at groupedThere grouped
    obtain rfl := (Prod.mk.inj starts).2
    obtain ⟨calledThere, called⟩ := keeps groupedThere (ownResync_bypasses linked n fun _ _ _ => rfl)
    rw [channel_modify calledThere]
    show ((linked.resync n).channel n).address ≠ none
    rw [called, grouped]
    exact startLine_found there lines

/-- A channel all of whose parts are started is reached somewhere. -/
theorem startParts_found (there : n < mesh.channels.length) (starts : mesh.startParts n = (.ok (), later)) :
    (later.channel n).address ≠ none := by
  have openedThere : n < (mesh.modifyGet n Channel.openQueues).2.channels.length :=
    (List.length_modify _ _ _).symm ▸ there
  unfold Mesh.startParts at starts
  split at starts
  · cases starts
  · rename_i first opens
    rw [opens] at openedThere
    have enlistedThere : n < (first.modifyGet n Channel.enlist).2.channels.length :=
      (List.length_modify _ _ _).symm ▸ openedThere
    split at starts
    · cases starts
    · rename_i second enlists
      rw [enlists] at enlistedThere
      exact startLinks_found enlistedThere starts

/-- A channel that is taken apart keeps its seat, but has nothing left to announce. -/
theorem teardown_seat (there : n < mesh.channels.length) :
    ((mesh.teardown n).channel n).seat = { (mesh.channel n).seat with announcing := none } :=
  calc ((mesh.teardown n).channel n).seat
      = ((mesh.dismantle n).channel n).seat := field_modify Channel.seat _ n n fun _ => rfl
    _ = (((mesh.halt n).modify n Channel.dismiss).channel n).seat := field_modify Channel.seat _ n n fun _ => rfl
    _ = ((mesh.halt n).channel n).seat := field_modify Channel.seat _ n n Channel.dismiss_seat
    _ = (mesh.channel n).halt.seat := congrArg Channel.seat (channel_modify there Channel.halt)

/-- A channel that is taken apart has nothing queued that was not before. -/
theorem teardown_outbox (there : n < mesh.channels.length) :
    ((mesh.teardown n).channel n).outbox ⊆ (mesh.channel n).outbox := by
  have same : ((mesh.teardown n).channel n).outbox = (mesh.channel n).halt.outbox :=
    calc ((mesh.teardown n).channel n).outbox
        = ((mesh.dismantle n).channel n).outbox := field_modify Channel.outbox _ n n fun _ => rfl
      _ = (((mesh.halt n).modify n Channel.dismiss).channel n).outbox :=
        field_modify Channel.outbox _ n n fun _ => rfl
      _ = ((mesh.halt n).channel n).outbox := field_modify Channel.outbox _ n n fun _ => rfl
      _ = (mesh.channel n).halt.outbox := congrArg Channel.outbox (channel_modify there Channel.halt)
  rw [same]
  exact (mesh.channel n).halt_outbox

/-! ### What the mesh does by itself -/

theorem Heeds.bypasses (heeds : mesh.Heeds (fun m event => m = n → allowed event) m later) (other : n ≠ m) :
    mesh.Bypasses trait allowed n later := by
  obtain ⟨between, before, after⟩ := heeds
  exact (before.bypasses.trans (between.modify_bypasses other _)).trans after.bypasses

/-- Another channel is delivered an event. -/
theorem deliver_bypasses (mesh : Mesh) (other : n ≠ m) : mesh.Bypasses trait allowed n (mesh.deliver m) := by
  cases called : mesh.isCalledUpon m with
  | false => exact (mesh.deliver_chore called).bypasses
  | true => exact (mesh.deliver_heeds called).bypasses other

/-- Another channel announces itself. -/
theorem announce_bypasses (mesh : Mesh) (other : n ≠ m) : mesh.Bypasses trait allowed n (mesh.announce m) := by
  have posts (change : Channel → Channel) (outgoing : List Outgoing) :
      mesh.Bypasses trait allowed n ((mesh.modify m change).postAll m outgoing) := by
    refine (mesh.modify_bypasses other change).trans (Chore.bypasses (postAll_chore _ fun one _ => ?_))
    cases one with
    | broadcast event => exact .inr fun same => absurd same.symm other
    | send address event => trivial
  cases isDue : mesh.isDue m with
  | false =>
    rw [announce_of_idle isDue]
    exact .refl trait allowed n mesh
  | true =>
    obtain ⟨announcing, announces, due⟩ := due_of_isDue isDue
    rcases announce_of_due announces due with same | same
    · rw [same]
      exact posts _ _
    · rw [same]
      exact (posts _ _).trans (enqueueFirst_chore _ _).bypasses

/-- The channels to which nothing refers go away, and they have no announcements to make. -/
theorem tidy_bypasses (mesh : Mesh) : mesh.Bypasses trait allowed n mesh.tidy := by
  refine List.foldlRecOn _ _ (Bypasses.refl trait allowed n mesh) fun between bypasses m _ => bypasses.trans ?_
  unfold retire
  split
  · exact .refl trait allowed n between
  · rename_i unreferred
    have idle : (between.channel m).announcing = none := by
      unfold isReferred at unreferred
      dsimp only at unreferred
      rw [← Option.not_isSome_iff_eq_none]
      intro announces
      rw [announces] at unreferred
      simp at unreferred
    by_cases own : n = m
    · subst own
      have halted : between.Bypasses trait allowed n (between.modify n Channel.halt) := by
        refine between.change_bypasses n rfl ?_ (Channel.halt_outbox _)
        unfold Channel.seat Channel.halt
        dsimp only
        rw [idle]
        rfl
      have forgotten := halted.trans (Chore.bypasses (chore_of_waiting _ between.agenda
        (between.gate.forget (·.channel = n)) (between.errands.filter (·.channel ≠ n))))
      exact forgotten.trans (change_bypasses _ n rfl rfl (List.Subset.refl _))
    · exact ((between.halt_alters m).bypasses own rfl).trans (modify_bypasses _ own _)

end Mesh

/-! ### Whatever does not concern the channel -/

/-- An order that is carried out in an instant. -/
def Order.isBrief : Order → Bool
  | .dispatch .. | .burst .. | .dispatchThenClose .. | .send .. | .sendMany .. | .sendEach .. | .sendToNodes ..
  | .awaitPeers .. | .sleep _ | .forgeRequest .. => false
  | _ => true

/-- Something that happens in an instant. -/
def Incident.isBrief : Incident → Bool
  | .order given => given.isBrief
  | .pass _ => false
  | _ => true

theorem Channel.adjust_seat (channel : Channel) (adjustment : Adjustment) :
    (channel.adjust adjustment).seat = channel.seat ∧ (channel.adjust adjustment).outbox ⊆ channel.outbox := by
  have registers {consumer : Consumer Listener Replier} {id : ListenerId}
      (domain : consumer.domain = channel.consumer.domain) :
      (channel.registered (.ok (id, consumer))).seat = channel.seat := by
    unfold registered seat
    dsimp only
    rw [domain]
    rfl
  cases adjustment with
  | listen kind script =>
    unfold adjust
    dsimp only
    cases listens : channel.consumer.registerAsync kind (.script script) with
    | error error => exact ⟨rfl, List.Subset.refl _⟩
    | ok made => exact ⟨registers (Consumer.domain_registerAsync listens), List.Subset.refl _⟩
  | reply kind script =>
    unfold adjust
    dsimp only
    cases replies : channel.consumer.registerSync kind (.script script) with
    | error error => exact ⟨rfl, List.Subset.refl _⟩
    | ok made => exact ⟨registers (Consumer.domain_registerSync replies), List.Subset.refl _⟩
  | dismiss listener =>
    refine ⟨?_, List.Subset.refl _⟩
    unfold adjust seat
    dsimp only
    rw [Consumer.domain_unregister]
    rfl
  | hurry place =>
    exact ⟨rfl, outbox_of_map rfl fun pool => (pool.overtake_perm place).subset⟩
  | restSender ticket? =>
    refine ⟨rfl, outbox_of_map rfl fun pool => ?_⟩
    rcases pool.wait_queue ticket? with same | none
    · exact same ▸ List.Subset.refl _
    · exact none ▸ List.nil_subset _
  | watch | unwatch | hold | overtake | stir | restCaller => exact ⟨rfl, List.Subset.refl _⟩

namespace Mesh

variable {τ : Type} {trait : Nat → Channel.Seat → τ} {allowed : Event → Prop} {mesh : Mesh} {n : Nat}

/-- The incident may change when the channel announces itself, in which phase it is or where it belongs. -/
def Touches (mesh : Mesh) (n : Nat) : Incident → Prop
  | .order (.start m) | .order (.close m) | .order (.resync m) | .order (.changeDomain m _)
  | .move (.announce m) => m = n
  | .order .closeAll => n ∈ mesh.registry
  | .move (.deliver m) => m = n ∧ mesh.isCalledUpon n = true
  | .pass _ => True
  | _ => False

/-- The incident has the channel queue an event to be broadcast. -/
def Commissions (mesh : Mesh) (n : Nat) (event : Event) : Incident → Prop
  | .queue m goal kind _ | .order (.dispatch m goal kind _) =>
    m = n ∧ mesh.scopeOf? n goal = some event.scope ∧ event.kind = kind
  | .order (.burst m _ kind _) | .order (.dispatchThenClose m kind _) =>
    m = n ∧ event.scope = .named (mesh.channel n).domain ∧ event.kind = kind
  | _ => False

theorem adjust_bypasses (mesh : Mesh) (m : Nat) (adjustment : Adjustment) :
    mesh.Bypasses trait allowed n (mesh.modify m (·.adjust adjustment)) := by
  by_cases own : n = m
  · subst own
    obtain ⟨seat, outbox⟩ := (mesh.channel n).adjust_seat adjustment
    exact mesh.change_bypasses n (congrArg Channel.Seat.domain seat) (congrArg (trait mesh.time) seat) outbox
  · exact mesh.modify_bypasses own _

/-- A step is made on the view of a channel. -/
theorem view_chore {allowed : Nat → Event → Prop} (mesh : Mesh) (m : Nat) (step : ViewStep) :
    mesh.Chore allowed (mesh.carryOut (.view m step)).2 :=
  mesh.change_chore m (Channel.frame_of_detector (Detector.frame_of_watched
    ((mesh.channel m).detector.watched.selfId_performWithin mesh.time _ step))) rfl

/-- **A brief order that does not concern a channel bypasses it.** -/
theorem carryOut_bypasses {order : Order} (brief : order.isBrief = true)
    (untouched : ¬ mesh.Touches n (.order order)) : mesh.Bypasses trait allowed n (mesh.carryOut order).2 := by
  cases order with
  | dispatch | burst | dispatchThenClose | send | sendMany | sendEach | sendToNodes | awaitPeers | sleep
  | forgeRequest => cases brief
  | isNodeDead | describe | settings | metrics | metricsText | findByDomain | registrySize | endpointCount =>
    exact .refl trait allowed n mesh
  | start m => exact mesh.start_bypasses fun same => untouched same.symm
  | close m => exact mesh.close_bypasses fun same => untouched same.symm
  | resync m => exact mesh.resync_bypasses fun same => untouched same.symm
  | changeDomain m domain => exact mesh.changeDomain_bypasses (fun same => untouched same.symm) domain
  | forceResync m targets => exact (mesh.forceResync_chore m targets).bypasses
  | sendControl m ids kind data => exact (mesh.sendControl_chore m ids kind data).bypasses
  | addFinder m finder =>
    by_cases own : n = m
    · subst own
      exact mesh.change_bypasses n rfl rfl (List.Subset.refl _)
    · exact mesh.modify_bypasses own _
  | view m step => exact (mesh.view_chore m step).bypasses
  | register m => exact mesh.register_bypasses m
  | unregister m => exact mesh.unregister_bypasses m
  | closeAll =>
    exact mesh.closeAll_bypasses fun m among between => between.close_bypasses fun same => untouched (same ▸ among)
  | release count => exact (mesh.release_chore count).bypasses
  | setReachable address value => exact mesh.network_bypasses _
  | setUp manner joinsGroup => exact bypasses_of_same rfl (Nat.le_refl _) (fun _ => rfl) rfl
  | forge address event => exact (mesh.carry_chore _ address event).bypasses
  | forgeBroadcast event => exact (mesh.spread_chore (.memory mesh.outsider.group) event).bypasses

/-- **Whatever happens in an instant and does not concern a channel bypasses it**, if what it has the channel
queue is allowed. -/
theorem undergo_bypasses (there : n < mesh.channels.length) {incident : Incident} (brief : incident.isBrief = true)
    (untouched : ¬ mesh.Touches n incident) (may : ∀ event, mesh.Commissions n event incident → allowed event) :
    mesh.Bypasses trait allowed n (mesh.undergo incident) := by
  cases incident with
  | create label settings hasNetwork => exact mesh.create_bypasses label settings hasNetwork
  | provide label settings hasNetwork => exact mesh.getOrCreate_bypasses there label settings hasNetwork
  | order order => exact carryOut_bypasses brief untouched
  | queue m goal kind data =>
    refine (mesh.dispatchFor_chore m fun event scope same own => ?_).bypasses
    subst own
    exact may event ⟨rfl, scope, same⟩
  | adjust m adjustment => exact mesh.adjust_bypasses m adjustment
  | move move =>
    cases move with
    | deliver m =>
      by_cases own : n = m
      · subst own
        have uncalled : mesh.isCalledUpon n = false :=
          Bool.eq_false_iff.mpr fun called => untouched ⟨rfl, called⟩
        exact (mesh.deliver_chore uncalled).bypasses
      · exact mesh.deliver_bypasses own
    | dispatch m => exact (mesh.dispatchNext_chore m).bypasses
    | announce m => exact mesh.announce_bypasses fun same => untouched same.symm
    | turn m => exact (mesh.turn_chore Draw.first m).bypasses
    | hear m => exact (mesh.hearScheduled_chore Draw.first m).bypasses
    | finish m ticket => exact (mesh.finish_chore m ticket).bypasses
    | heed m => exact bypasses_of_same rfl (Nat.le_refl _) (fun _ => rfl) rfl
  | turn m draw => exact (mesh.turn_chore draw m).bypasses
  | tidy => exact mesh.tidy_bypasses
  | pass span => cases brief

end Mesh

end PeerMesh
