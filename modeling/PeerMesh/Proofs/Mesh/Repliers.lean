/-
**Who answers for a channel.**

A caller may have any events answered by listeners of its own. A channel itself answers control messages, and
nothing else, whatever has been registered and removed.

* `Consumer.AnswersControlOnly` — the listener of the channel itself is registered for control messages at most;
  one lemma for each way in which listeners come and go.
* `Mesh.AnswersControlOnly` — this holds of every channel. `AnswersControlOnly.of_chore` — chores leave it so.
  `AnswersControlOnly.start`, `AnswersControlOnly.close`, `AnswersControlOnly.changeDomain`,
  `AnswersControlOnly.create` — and so do channels that come, start, move and go.
* **`AnswersControlOnly.live`** — whatever happens in an instant.
* `Mesh.IsReached` — a mesh that has come of an empty one, perhaps in the midst of some chore.
  **`IsReached.answersControlOnly`** — in it, channels answer control messages only.
-/

import PeerMesh.Proofs.Mesh.Instants

namespace PeerMesh

namespace Consumer

variable {consumer later : Consumer Listener Replier} {kind : String}

/-- A channel itself is the listener that answers control messages, or none at all. -/
def AnswersControlOnly (consumer : Consumer Listener Replier) : Prop :=
  ∀ kind id, consumer.syncListeners.get? kind = some (id, .protocol) → kind = ProtocolKind.control.text

theorem answersControlOnly_new (selfId : NodeId) (domain : String) :
    (Consumer.new selfId domain : Consumer Listener Replier).AnswersControlOnly :=
  fun _ _ found => nomatch found

theorem AnswersControlOnly.of_same (answers : consumer.AnswersControlOnly)
    (same : later.syncListeners = consumer.syncListeners) : later.AnswersControlOnly := by
  unfold AnswersControlOnly
  rw [same]
  exact answers

theorem AnswersControlOnly.registerAsync (answers : consumer.AnswersControlOnly) {listener : Listener}
    {made : ListenerId × Consumer Listener Replier}
    (registers : consumer.registerAsync kind listener = .ok made) : made.2.AnswersControlOnly := by
  unfold Consumer.registerAsync at registers
  split at registers
  · cases registers
  · cases registers
    exact answers.of_same rfl

theorem AnswersControlOnly.registerSync (answers : consumer.AnswersControlOnly) {listener : Replier}
    {made : ListenerId × Consumer Listener Replier}
    (registers : consumer.registerSync kind listener = .ok made)
    (own : listener = .protocol → kind = ProtocolKind.control.text) : made.2.AnswersControlOnly := by
  unfold Consumer.registerSync at registers
  split at registers
  · cases registers
  · split at registers
    · cases registers
    · cases registers
      intro other id found
      rw [Table.get?_insert] at found
      split at found
      · rename_i same
        exact same.trans (own (Prod.mk.inj (Option.some.inj found)).2)
      · exact answers other id found

theorem AnswersControlOnly.unregister (answers : consumer.AnswersControlOnly) (id : ListenerId) :
    (consumer.unregister id).2.AnswersControlOnly := by
  unfold Consumer.unregister
  split
  · exact answers.of_same rfl
  · intro kind number found
    rw [Table.get?_erase] at found
    split at found
    · cases found
    · exact answers kind number found
  · exact answers

end Consumer

namespace Channel

variable {channel : Channel}

theorem openQueues_answers (answers : channel.consumer.AnswersControlOnly) :
    channel.openQueues.2.consumer.AnswersControlOnly := by
  rcases channel.openQueues_cases with ⟨opened, opens, -, tables, -⟩ | ⟨error, fails⟩
  · rw [opens]
    exact answers.of_same (congrArg (fun tables => tables.2.1) tables)
  · rw [fails]
    exact answers

/-- A channel that enlists answers control messages. -/
theorem enlist_answers (answers : channel.consumer.AnswersControlOnly) :
    channel.enlist.2.consumer.AnswersControlOnly := by
  have enlisted : (ProtocolKind.all.foldl enlistFor channel).consumer.AnswersControlOnly := by
    refine List.foldlRecOn (motive := fun between : Channel => between.consumer.AnswersControlOnly)
      ProtocolKind.all _ answers fun between answers kind _ => ?_
    unfold enlistFor
    split
    · rename_i registers
      exact answers.registerAsync registers
    · exact answers
  unfold enlist
  dsimp only
  split
  · rename_i registers
    exact enlisted.registerSync registers fun _ => rfl
  · exact enlisted

theorem dismiss_answers (answers : channel.consumer.AnswersControlOnly) :
    channel.dismiss.consumer.AnswersControlOnly :=
  List.foldlRecOn (motive := fun consumer : Consumer Listener Replier => consumer.AnswersControlOnly)
    channel.ownListeners _ answers fun _ answers id _ => answers.unregister id

/-- Whoever registers a listener that answers is not the channel itself. -/
theorem adjust_answers (answers : channel.consumer.AnswersControlOnly) (adjustment : Adjustment) :
    (channel.adjust adjustment).consumer.AnswersControlOnly := by
  cases adjustment with
  | watch | unwatch | hold | overtake | hurry | stir | restCaller | restSender => exact answers.of_same rfl
  | dismiss listener => exact answers.unregister listener
  | listen kind script =>
    unfold adjust registered
    dsimp only
    split
    · rename_i registers
      exact answers.registerAsync registers
    · exact answers
  | reply kind script =>
    unfold adjust registered
    dsimp only
    split
    · rename_i registers
      exact answers.registerSync registers fun own => nomatch own
    · exact answers

end Channel

namespace Mesh

variable {mesh later : Mesh}

/-- Every channel itself answers control messages at most. -/
def AnswersControlOnly (mesh : Mesh) : Prop := ∀ n, (mesh.channel n).consumer.AnswersControlOnly

namespace AnswersControlOnly

/-! ### Small changes -/

theorem of_channels (answers : mesh.AnswersControlOnly) (same : later.channels = mesh.channels) :
    later.AnswersControlOnly := by
  intro n
  unfold channel
  rw [same]
  exact answers n

/-- Chores neither register nor remove a listener. -/
theorem of_chore (answers : mesh.AnswersControlOnly) (chore : mesh.Chore (fun _ _ => True) later) :
    later.AnswersControlOnly :=
  fun n => (answers n).of_same (Channel.syncListeners_of_frame (chore.keeps.frame n))

theorem modify (answers : mesh.AnswersControlOnly) (n : Nat) {change : Channel → Channel}
    (keeps : ∀ channel : Channel, channel.consumer.AnswersControlOnly →
      (change channel).consumer.AnswersControlOnly) : (mesh.modify n change).AnswersControlOnly := by
  intro m
  rcases mesh.channel_modify_cases n change m with same | ⟨-, changed⟩
  · rw [same]
    exact answers m
  · rw [changed]
    exact keeps _ (answers m)

/-- A channel changes, but for those who listen to it. -/
theorem modify_rest (answers : mesh.AnswersControlOnly) (n : Nat) {change : Channel → Channel}
    (same : ∀ channel, (change channel).consumer.syncListeners = channel.consumer.syncListeners) :
    (mesh.modify n change).AnswersControlOnly :=
  answers.modify n fun channel answers => answers.of_same (same channel)

/-! ### Channels that start, and go -/

theorem startLine (answers : mesh.AnswersControlOnly) (n : Nat) : (mesh.startLine n).2.AnswersControlOnly := by
  rcases mesh.startLine_cases n with ⟨ports, agenda, starts⟩ | ⟨error, fails⟩
  · have listening : ({ mesh with ports := ports, agenda := agenda } : Mesh).AnswersControlOnly :=
      answers.of_channels rfl
    rw [starts]
    unfold Mesh.takeAddress
    dsimp only
    split
    · exact modify_rest (listening.of_channels rfl) n fun _ => rfl
    · exact listening.modify_rest n fun _ => rfl
  · rw [fails]
    exact answers

theorem startGroup (answers : mesh.AnswersControlOnly) (n : Nat) : (mesh.startGroup n).2.AnswersControlOnly := by
  rcases mesh.startGroup_cases n with ⟨member, -, starts⟩ | ⟨joined, -, starts⟩ | ⟨error, fails⟩
  · rw [starts]
    exact modify_rest (answers.of_channels rfl) n fun _ => rfl
  · rw [starts]
    exact answers.modify_rest n fun _ => rfl
  · rw [fails]
    exact answers

theorem resync (answers : mesh.AnswersControlOnly) (n : Nat) : (mesh.resync n).AnswersControlOnly := by
  unfold Mesh.resync
  split
  · refine AnswersControlOnly.of_chore (answers.modify_rest n fun channel => ?_) (enqueueLast_chore _ _)
    unfold Channel.resync
    split <;> rfl
  · exact answers

theorem startLinks (answers : mesh.AnswersControlOnly) (n : Nat) : (mesh.startLinks n).2.AnswersControlOnly := by
  have lined := answers.startLine n
  unfold Mesh.startLinks
  split
  · rename_i fails
    rw [fails] at lined
    exact lined
  rename_i between starts
  rw [starts] at lined
  have linked := lined.startGroup n
  split
  · rename_i fails
    rw [fails] at linked
    exact linked
  · rename_i joins
    rw [joins] at linked
    exact (linked.resync n).modify_rest n fun _ => rfl

theorem startParts (answers : mesh.AnswersControlOnly) (n : Nat) : (mesh.startParts n).2.AnswersControlOnly := by
  have opened : (mesh.modifyGet n Channel.openQueues).2.AnswersControlOnly :=
    answers.modify n fun _ _ => Channel.openQueues_answers (answers n)
  unfold Mesh.startParts
  split
  · rename_i opens
    rw [opens] at opened
    exact opened
  · rename_i first opens
    rw [opens] at opened
    have enlisted : (first.modifyGet n Channel.enlist).2.AnswersControlOnly :=
      opened.modify n fun _ _ => Channel.enlist_answers (opened n)
    split
    · rename_i enlists
      rw [enlists] at enlisted
      exact enlisted
    · rename_i enlists
      rw [enlists] at enlisted
      exact enlisted.startLinks n

theorem halt (answers : mesh.AnswersControlOnly) (n : Nat) : (mesh.halt n).AnswersControlOnly := by
  have halted : (mesh.modify n Channel.halt).AnswersControlOnly := answers.modify_rest n fun _ => rfl
  exact halted.of_channels rfl

theorem teardown (answers : mesh.AnswersControlOnly) (n : Nat) : (mesh.teardown n).AnswersControlOnly := by
  have dismissed := (answers.halt n).modify n fun _ => Channel.dismiss_answers
  have shut : (mesh.dismantle n).AnswersControlOnly := dismissed.modify_rest n fun _ => rfl
  rw [teardown_eq]
  unfold Mesh.stopLinks
  exact modify_rest (shut.of_channels rfl) n fun _ => rfl

/-- **A channel is started**, or taken apart again. -/
theorem start (answers : mesh.AnswersControlOnly) (n : Nat) : (mesh.start n).2.AnswersControlOnly := by
  have begun : (mesh.modify n ({ · with phase := .started })).AnswersControlOnly :=
    answers.modify_rest n fun _ => rfl
  have starts := begun.startParts n
  unfold Mesh.start
  split
  · exact answers
  · exact answers
  · split
    · rename_i starting
      rw [starting] at starts
      exact starts
    · rename_i later starting
      rw [starting] at starts
      have closed : (later.modify n ({ · with phase := .closed })).AnswersControlOnly :=
        starts.modify_rest n fun _ => rfl
      exact closed.teardown n

/-- What is posted changes nothing about who listens. -/
theorem postAll (answers : mesh.AnswersControlOnly) (n : Nat) (outgoing : List Outgoing) :
    (mesh.postAll n outgoing).AnswersControlOnly := by
  refine answers.of_chore (mesh.postAll_chore fun one _ => ?_)
  cases one with
  | broadcast event => exact .inr trivial
  | send address event => trivial

/-- **A channel is closed.** -/
theorem close (answers : mesh.AnswersControlOnly) (n : Nat) : (mesh.close n).AnswersControlOnly := by
  by_cases started : (mesh.channel n).phase = .started
  · have closed : (mesh.modify n ({ · with phase := .closed })).AnswersControlOnly :=
      answers.modify_rest n fun _ => rfl
    have shut : (mesh.shutDown n).AnswersControlOnly := (closed.postAll n _).teardown n
    rw [close_of_started started]
    split
    · exact shut.of_channels rfl
    · exact shut
  · rw [close_of_not_started started]
    exact answers

theorem closeAll (answers : mesh.AnswersControlOnly) : mesh.closeAll.AnswersControlOnly :=
  List.foldlRecOn mesh.registry Mesh.close (answers.of_channels rfl) fun _ answers n _ => answers.close n

/-! ### Channels that move, and are made -/

theorem register (answers : mesh.AnswersControlOnly) (n : Nat) : (mesh.register n).AnswersControlOnly := by
  have linked : (mesh.modify n ({ · with isLinked := true })).AnswersControlOnly :=
    answers.modify_rest n fun _ => rfl
  unfold Mesh.register
  dsimp only
  split
  · exact linked
  · exact linked.of_channels rfl

/-- **A channel moves to another domain.** -/
theorem changeDomain (answers : mesh.AnswersControlOnly) (n : Nat) (domain : String) :
    (mesh.changeDomain n domain).2.AnswersControlOnly := by
  have migrates {mesh : Mesh} (answers : mesh.AnswersControlOnly) : (mesh.migrate n domain).AnswersControlOnly :=
    (answers.postAll n _).modify_rest n fun _ => rfl
  by_cases moves : (mesh.channel n).phase = .started ∧ (mesh.channel n).domain ≠ domain
  · obtain ⟨started, differs⟩ := moves
    rw [changeDomain_of_moves started differs]
    refine resync ?_ n
    split
    · have unregistered : (mesh.unregister n).2.AnswersControlOnly := answers.of_channels rfl
      exact (migrates unregistered).register n
    · exact migrates answers
  · rw [changeDomain_of_stays moves]
    exact answers

/-- **A channel is created**, and nobody listens to it. -/
theorem create (answers : mesh.AnswersControlOnly) (label : String) (settings : Settings) (hasNetwork : Bool) :
    (mesh.create label settings hasNetwork).2.AnswersControlOnly := by
  have linked (kind : TransportKind) : (mesh.linkGroup settings kind).2.channels = mesh.channels := by
    cases kind <;> rfl
  unfold Mesh.create
  split
  · exact answers
  · exact answers
  · rename_i groupKind _ _
    dsimp only
    split
    · exact answers.of_channels (linked groupKind)
    · intro n
      rw [channel_of_append (congrArg (· ++ _) (linked groupKind))]
      split
      · exact Consumer.answersControlOnly_new _ _
      · exact answers n

theorem getOrCreate (answers : mesh.AnswersControlOnly) (label : String) (settings : Settings)
    (hasNetwork : Bool) : (mesh.getOrCreate label settings hasNetwork).2.AnswersControlOnly := by
  have created := answers.create label settings hasNetwork
  unfold Mesh.getOrCreate
  split
  · exact answers
  · split
    · rename_i creates
      rw [creates] at created
      exact created
    · rename_i n began creates
      rw [creates] at created
      have starts := created.start n
      split
      · rename_i starting
        rw [starting] at starts
        exact starts.register n
      · rename_i starting
        rw [starting] at starts
        exact starts.modify_rest n fun _ => rfl

/-! ### What the mesh does by itself -/

theorem deliver (answers : mesh.AnswersControlOnly) (n : Nat) : (mesh.deliver n).AnswersControlOnly := by
  cases called : mesh.isCalledUpon n with
  | false => exact answers.of_chore (mesh.deliver_chore called)
  | true =>
    have heeds : mesh.Heeds (fun _ _ => True) n (mesh.deliver n) := mesh.deliver_heeds called
    obtain ⟨between, before, after⟩ := heeds
    refine AnswersControlOnly.of_chore ((answers.of_chore before).modify_rest n fun channel => ?_) after
    unfold Channel.resync
    split <;> rfl

theorem announce (answers : mesh.AnswersControlOnly) (n : Nat) : (mesh.announce n).AnswersControlOnly := by
  have counted (next : Option Announcing) :
      (mesh.modify n fun channel => { channel with announcing := next }).AnswersControlOnly :=
    answers.modify_rest n fun _ => rfl
  cases isDue : mesh.isDue n with
  | false =>
    rw [announce_of_idle isDue]
    exact answers
  | true =>
    obtain ⟨announcing, announces, due⟩ := due_of_isDue isDue
    rcases announce_of_due announces due with same | same
    · rw [same]
      exact (counted _).postAll n _
    · rw [same]
      exact ((counted _).postAll n _).of_chore (enqueueFirst_chore _ _)

theorem tidy (answers : mesh.AnswersControlOnly) : mesh.tidy.AnswersControlOnly := by
  refine List.foldlRecOn _ retire answers fun between answers n _ => ?_
  unfold retire
  split
  · exact answers
  · exact (answers.halt n).modify_rest n fun _ => rfl

/-! ### Whatever happens -/

theorem carryOut (answers : mesh.AnswersControlOnly) {order : Order} (brief : order.isBrief = true) :
    (mesh.carryOut order).2.AnswersControlOnly := by
  cases order with
  | dispatch | burst | dispatchThenClose | send | sendMany | sendEach | sendToNodes | awaitPeers | sleep
  | forgeRequest => cases brief
  | isNodeDead | describe | settings | metrics | metricsText | findByDomain | registrySize | endpointCount
  | unregister | setReachable | setUp => exact answers.of_channels rfl
  | start n => exact answers.start n
  | close n => exact answers.close n
  | resync n => exact answers.resync n
  | changeDomain n domain => exact answers.changeDomain n domain
  | forceResync n targets => exact answers.of_chore (mesh.forceResync_chore n targets)
  | sendControl n ids kind data => exact answers.of_chore (mesh.sendControl_chore n ids kind data)
  | addFinder n finder => exact answers.modify_rest n fun _ => rfl
  | view n step => exact answers.of_chore (mesh.view_chore n step)
  | register n => exact answers.register n
  | closeAll => exact answers.closeAll
  | release count => exact answers.of_chore (mesh.release_chore count)
  | forge address event => exact answers.of_chore (mesh.carry_chore _ address event)
  | forgeBroadcast event => exact answers.of_chore (mesh.spread_chore (.memory mesh.outsider.group) event)

theorem undergo (answers : mesh.AnswersControlOnly) {incident : Incident} (brief : incident.isBrief = true) :
    (mesh.undergo incident).AnswersControlOnly := by
  cases incident with
  | create label settings hasNetwork => exact answers.create label settings hasNetwork
  | provide label settings hasNetwork => exact answers.getOrCreate label settings hasNetwork
  | order order => exact answers.carryOut brief
  | queue n goal kind data => exact answers.of_chore (mesh.dispatchFor_chore n fun _ _ _ => trivial)
  | adjust n adjustment => exact answers.modify n fun _ answers => Channel.adjust_answers answers adjustment
  | move move =>
    cases move with
    | deliver n => exact answers.deliver n
    | dispatch n => exact answers.of_chore (mesh.dispatchNext_chore n)
    | announce n => exact answers.announce n
    | turn n => exact answers.of_chore (mesh.turn_chore Draw.first n)
    | hear n => exact answers.of_chore (mesh.hearScheduled_chore Draw.first n)
    | finish n ticket => exact answers.of_chore (mesh.finish_chore n ticket)
    | heed n => exact answers.of_channels rfl
  | turn n draw => exact answers.of_chore (mesh.turn_chore draw n)
  | tidy => exact answers.tidy
  | pass span => cases brief

/-- **Whatever happens in an instant**, channels themselves answer control messages only. -/
theorem live (answers : mesh.AnswersControlOnly) (instant : Instant) :
    (mesh.live instant).AnswersControlOnly := by
  cases instant with
  | happens incident brief => exact answers.undergo brief
  | asks n address event => exact answers.of_chore (mesh.request_chore n address event)
  | asksFromOutside address event =>
    exact answers.of_chore (requestFrom_chore (pingWithin_chore 1) mesh mesh.outsider.own address event)
  | schedules agenda => exact answers.of_channels rfl
  | passes span => exact answers.of_channels rfl

end AnswersControlOnly

/-- A mesh has come of an empty one, perhaps in the midst of some chore. -/
def IsReached (mesh : Mesh) : Prop :=
  ∃ host instants, ((empty host).liveAll instants).Chore (fun _ _ => True) mesh

theorem isReached_of_history (host : Socket.Host) (history : List Incident) :
    ((empty host).undergoAll history).IsReached := by
  obtain ⟨instants, lived⟩ := undergoAll_lived history (empty host)
  exact ⟨host, instants, lived ▸ .refl _ _⟩

theorem empty_answersControlOnly (host : Socket.Host) : (empty host).AnswersControlOnly := by
  intro n
  rw [channel_of_absent (Nat.zero_le n)]
  exact Consumer.answersControlOnly_new _ _

/-- **In every mesh that has come of an empty one** channels themselves answer control messages only. -/
theorem IsReached.answersControlOnly (reached : mesh.IsReached) : mesh.AnswersControlOnly := by
  obtain ⟨host, instants, chore⟩ := reached
  have lived : ((empty host).liveAll instants).AnswersControlOnly :=
    List.foldlRecOn instants Mesh.live (empty_answersControlOnly host) fun _ answers instant _ =>
      answers.live instant
  exact lived.of_chore chore

end Mesh

end PeerMesh
