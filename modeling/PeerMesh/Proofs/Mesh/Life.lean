/-
**The life of a channel keeps a mesh in order.**

* `Mesh.Differs` — a mesh is another one but for one channel and the network. The steps in which a
  channel is started or taken apart are followed by what they make of this channel.
* `InOrder.create`, `InOrder.start`, `InOrder.close` — a channel is created, started and closed in order.
-/

import PeerMesh.Mesh.Operations
import PeerMesh.Proofs.Channel.Listeners
import PeerMesh.Proofs.Memory.Network
import PeerMesh.Proofs.Mesh.Changes

namespace PeerMesh

namespace Channel

/-- A new channel has become a started one, which is reached at an address and takes part in broadcasts
under a number. -/
structure HasStarted (before : Channel) (address : Address) (number : Nat) (after : Channel) :
    Prop where
  phase : after.phase = .started
  watched : after.detector.watched = before.detector.watched
  settings : after.settings = before.settings
  sameDomain : after.domain = before.domain
  reached : after.address = some address
  line : after.line = .memory ⟨some address⟩
  group : after.group = .memory ⟨number, true⟩
  ready : IsReady before.selfId before.domain after.consumer
  publishes : ∃ pool, after.publisher = some pool ∧ pool.queue = []
  calling : after.calling = before.calling
  isGone : after.isGone = before.isGone

/-- A channel has been taken apart: it is reached nowhere, and no event comes in or goes out. -/
structure HasClosed (before after : Channel) : Prop where
  phase : after.phase = before.phase
  unwatched : after.detector.watched.registered = []
  sameId : after.selfId = before.selfId
  settings : after.settings = before.settings
  sameDomain : after.domain = before.domain
  address : after.address = before.address
  line : ∃ own : Memory.UnicastEnd, after.line = .memory own ∧ own.address = none
  group : ∀ number joined, before.group = .memory ⟨number, joined⟩ →
    after.group = .memory ⟨number, false⟩
  consumerId : after.consumer.selfId = before.consumer.selfId
  consumerDomain : after.consumer.domain = before.consumer.domain
  shut : after.consumer.pool = none
  left : after.consumer.remnant = before.consumer.remnantAfter before.calling
  publisher : after.publisher = before.publisher.bind (·.remnant? before.sending)
  calling : after.calling = before.calling
  isGone : after.isGone = before.isGone
  idle : after.detector.scheduler = .off ∧ after.detector.round = none

variable {before after : Channel} {address : Address} {number : Nat}

namespace HasClosed

theorem not_isOpen (closed : before.HasClosed after) : ¬ after.IsOpen := by
  unfold IsOpen
  rw [closed.shut]
  exact Bool.false_ne_true

/-- **A closed channel is wired.** -/
theorem isWired (closed : before.HasClosed after) {next : Nat} (wired : before.atRest.IsWired next)
    (ended : before.phase = .closed) : after.atRest.IsWired next := by
  obtain ⟨number, isStarted, group, below⟩ := wired.group
  obtain ⟨own, line, nowhere⟩ := closed.line
  have shut : ¬ after.atRest.IsOpen := fun isOpen => closed.not_isOpen (isOpen_atRest.mp isOpen)
  refine ⟨⟨number, false, closed.group number isStarted group, below⟩, ⟨own, line, .inl nowhere⟩, ?_,
    ?_, ?_, ?_, ?_, ?_, closed.calling.trans wired.undisturbed, closed.isGone.trans wired.present,
    fun new => ?_, fun started => ?_, fun isOpen => absurd isOpen shut⟩
  · intro place reached
    exact wired.numbered place (closed.address.symm.trans reached)
  · exact closed.consumerId.trans (wired.consumerId.trans closed.sameId.symm)
  · exact closed.consumerDomain.trans (wired.consumerDomain.trans closed.sameDomain.symm)
  · show textLength after.selfId.name < 2 ^ 64
    rw [closed.sameId]
    exact wired.smallId
  · show after.settings.batchSize < 2 ^ 64
    rw [closed.settings]
    exact wired.smallBatch
  · intro pool publishes
    obtain ⟨earlier, published, stays⟩ := Option.bind_eq_some_iff.mp (closed.publisher.symm.trans publishes)
    rcases Pool.remnant?_queue stays with same | none
    · exact same.trans (wired.sendsNothing earlier published)
    · exact none
  · cases (closed.phase.trans ended).symm.trans new
  · cases (closed.phase.trans ended).symm.trans started

/-- **A closed channel is in order**: nothing is queued with it, and it knows nobody who matters. -/
theorem orderly (closed : before.HasClosed after) (ended : before.phase = .closed) {next : Nat}
    (wired : before.atRest.IsWired next) {firm : Prop} {known others : NodeId → Address → Prop}
    (orderly : before.Orderly firm known) : after.Orderly False others := by
  -- nobody is in the middle of a turn when the pool is shut down
  have unattended : after.consumer.remnant = none := by
    rw [closed.left, show before.calling = .nobody from wired.undisturbed]
    unfold Consumer.remnantAfter
    cases opened : before.consumer.pool with
    | none => exact orderly.unattended
    | some pool =>
      have isOpen : before.IsOpen := by
        unfold IsOpen
        rw [opened]
        rfl
      obtain ⟨atRest, same, served⟩ := (wired.opened (isOpen_atRest.mpr isOpen)).served
      have rests : before.consumer.pool.map Pool.atRest = some atRest := same
      rw [opened] at rests
      obtain rfl := Option.some.inj rests
      refine pool.remnant?_nobody ?_
      simpa [Pool.atRest] using (Bool.and_eq_true_iff.mp served).1
  refine ⟨closed.unwatched, fun _ => closed.idle, fun new => ?_,
    fun job queued => absurd (isOpen_of_pending unattended queued) closed.not_isOpen,
    fun isOpen => absurd isOpen closed.not_isOpen, unattended⟩
  cases (closed.phase.trans ended).symm.trans new

end HasClosed

namespace HasStarted

theorem sameId (started : before.HasStarted address number after) : after.selfId = before.selfId :=
  congrArg (fun watched : Watched => watched.view.selfId) started.watched

theorem isOpen (started : before.HasStarted address number after) : after.IsOpen := by
  obtain ⟨pool, opened, _⟩ := started.ready.opened
  unfold IsOpen
  rw [opened]
  rfl

/-- **A started channel is wired** at its address and its number. -/
theorem isWired (started : before.HasStarted address number after) {next : Nat}
    (wired : before.atRest.IsWired next) {place : Nat} (named : address = Memory.addressOf place)
    (small : place < 2 ^ 64) {later : Nat} (placeBelow : place < later) (below : number < later) :
    after.atRest.IsWired later := by
  obtain ⟨pool, opened, served, _⟩ := started.ready.opened
  obtain ⟨publisher, publishes, nothing⟩ := started.publishes
  refine ⟨⟨number, true, started.group, below⟩, ⟨_, started.line, .inr started.reached.symm⟩, ?_,
    started.ready.ownId.trans started.sameId.symm, started.ready.ownDomain.trans started.sameDomain.symm,
    ?_, ?_, ?_, started.calling.trans wired.undisturbed, started.isGone.trans wired.present, ?_,
    fun _ => isOpen_atRest.mpr started.isOpen, fun _ => ?_⟩
  · intro other reached
    have same : address = other := Option.some.inj (started.reached.symm.trans reached)
    rw [← same, named]
    exact ⟨Memory.textLength_addressOf_lt small, place, placeBelow, rfl⟩
  · show textLength after.selfId.name < 2 ^ 64
    rw [started.sameId]
    exact wired.smallId
  · show after.settings.batchSize < 2 ^ 64
    rw [started.settings]
    exact wired.smallBatch
  · intro pool opened
    rw [← Option.some.inj (publishes.symm.trans opened)]
    exact nothing
  · intro new
    cases started.phase.symm.trans new
  · refine ⟨⟨address, started.reached, started.line⟩, started.ready.enlisted.listensForItself,
      started.ready.enlisted.hears .leave, pool.atRest, ?_, served⟩
    show after.consumer.pool.map Pool.atRest = _
    rw [opened]
    rfl

/-- **A started channel is in order**: nothing is queued with it, and it knows nobody. -/
theorem orderly (started : before.HasStarted address number after) (created : before.phase = .created)
    {firm : Prop} {known others : NodeId → Address → Prop} (orderly : before.Orderly firm known) :
    after.Orderly False others := by
  obtain ⟨pool, opened, _, empty⟩ := started.ready.opened
  refine ⟨?_, fun idle => absurd started.isOpen idle, fun new => ?_, fun job queued => ?_,
    fun _ key id address files => ?_, started.ready.unattended⟩
  · rw [started.watched]
    exact orderly.unwatched
  · cases started.phase.symm.trans new
  · rw [Consumer.pending_of_open opened] at queued
    have inPool : job ∈ pool.queue := queued
    rw [empty] at inPool
    cases inPool
  · have view : after.view = before.view := congrArg Watched.view started.watched
    rw [view] at files
    exact absurd files ((orderly.blank created).2 key id address)

/-- **To start is a change of one channel**, which is reached at an address that nobody had. -/
theorem change (started : before.HasStarted address number after) {roster later : Roster} {n : Nat}
    (wired : roster.Wired) (there : roster.channels[n]? = some before.atRest)
    (nowhere : before.address = none) {isStarted : Bool}
    (group : before.group = .memory ⟨number, isStarted⟩) (small : roster.network.nextNumber < 2 ^ 64)
    (channels : later.channels = roster.channels.modify n fun _ => after.atRest)
    (isNew : address = Memory.addressOf roster.network.nextNumber)
    (network : later.network =
      { nextNumber := roster.network.nextNumber + 1
        unicast := roster.network.unicast.insert address ⟨.channel n, true⟩
        groups := roster.network.groups.insert number (.channel n) }) :
    roster.Change n before.atRest after.atRest later := by
  refine ⟨channels, started.sameId, ?_, ?_, ?_, ?_, ?_, ?_, ?_, ?_⟩
  · intro place reached
    cases nowhere.symm.trans reached
  · intro place reached
    refine .inr fun other listed same => ?_
    obtain ⟨_, earlier, low, eq⟩ := (wired.each other listed).numbered _ same
    rw [← Option.some.inj (started.reached.symm.trans reached), isNew] at eq
    rw [← Memory.addressOf_injective eq] at low
    exact Nat.lt_irrefl _ low
  · intro other joined same
    cases started.group.symm.trans same
    exact ⟨isStarted, group⟩
  · rw [network]
    exact Nat.le_succ _
  · intro place endpoint entry
    rw [network, Table.get?_insert] at entry
    split at entry
    · rename_i same
      rw [same]
      exact .inr ⟨(Option.some.inj entry).symm, started.reached⟩
    · exact .inl entry
  · intro other others
    rw [network, Table.get?_insert, if_neg]
    rintro rfl
    exact others isStarted group
  · refine fun _ => ⟨number, started.group, ?_⟩
    rw [network, Table.get?_insert, if_pos rfl]
  · obtain ⟨own, _, isGroup, below⟩ := (wired.at there).group
    cases group.symm.trans isGroup
    rw [network]
    exact started.isWired (wired.at there) isNew small (Nat.lt_succ_self _) (Nat.lt_succ_of_lt below)

end HasStarted

end Channel

namespace Mesh

/-- A mesh is another one, but for one channel, the network, and what is not looked at here. -/
structure Differs (base : Mesh) (n : Nat) (channel : Channel) (network : Memory.Network Party)
    (mesh : Mesh) : Prop where
  there : n < base.channels.length
  channels : mesh.channels = base.channels.modify n fun _ => channel
  network : mesh.network = network
  errands : base.errands = [] → mesh.errands = []
  log : mesh.log = base.log

variable {base mesh : Mesh} {n : Nat} {channel : Channel} {network : Memory.Network Party}

namespace Differs

theorem nothing (found : base.channels[n]? = some channel) :
    base.Differs n channel base.network base := by
  refine ⟨(List.getElem?_eq_some_iff.mp found).1, ?_, rfl, fun none => none, rfl⟩
  refine List.ext_getElem? fun m => ?_
  by_cases same : n = m
  · subst same
    rw [List.getElem?_modify_eq, found]
    rfl
  · rw [List.getElem?_modify_ne _ _ same]

theorem found (differs : base.Differs n channel network mesh) : mesh.channels[n]? = some channel := by
  rw [differs.channels, List.getElem?_modify_eq, List.getElem?_eq_getElem differs.there]
  rfl

theorem channel_eq (differs : base.Differs n channel network mesh) : mesh.channel n = channel :=
  Mesh.channel_eq differs.found

/-- The channel is changed. -/
theorem modify (differs : base.Differs n channel network mesh) (change : Channel → Channel) :
    base.Differs n (change channel) network (mesh.modify n change) := by
  refine ⟨differs.there, ?_, differs.network, differs.errands, differs.log⟩
  show mesh.channels.modify n change = _
  rw [differs.channels, List.modify_modify_eq]
  rfl

/-- The channel is changed together with the network. -/
theorem modify_with (differs : base.Differs n channel network mesh) (change : Channel → Channel)
    (later : Memory.Network Party) :
    base.Differs n (change channel) later ({ mesh with network := later }.modify n change) :=
  ⟨differs.there, (differs.modify change).channels, rfl, differs.errands, differs.log⟩

/-- The channel is changed, and answers something. -/
theorem modifyGet {α : Type} (differs : base.Differs n channel network mesh)
    {change : Channel → α × Channel} {answer : α} {after : Channel}
    (changes : change channel = (answer, after)) :
    ∃ later, mesh.modifyGet n change = (answer, later) ∧ base.Differs n after network later := by
  refine ⟨mesh.modify n fun _ => after, ?_, differs.modify fun _ => after⟩
  unfold Mesh.modifyGet
  rw [differs.channel_eq, changes]

/-- Nothing that is looked at here changes. -/
theorem of_same {later : Mesh} (differs : base.Differs n channel network mesh)
    (channels : later.channels = mesh.channels) (same : later.network = mesh.network)
    (errands : later.errands = mesh.errands) (log : later.log = mesh.log) :
    base.Differs n channel network later := by
  refine ⟨differs.there, channels.trans differs.channels, same.trans differs.network, fun none => ?_,
    log.trans differs.log⟩
  rw [errands]
  exact differs.errands none

/-! ### The parts of a start -/

/-- To announce itself anew is all that a channel does when it is to be announced. -/
theorem resync (differs : base.Differs n channel network mesh) :
    ∃ announcing, base.Differs n { channel with announcing := announcing } network
      (mesh.resync n) := by
  have same : ∃ announcing, channel.resync mesh.time = { channel with announcing := announcing } := by
    unfold Channel.resync
    split
    · exact ⟨_, rfl⟩
    · exact ⟨channel.announcing, rfl⟩
  obtain ⟨announcing, resynced⟩ := same
  unfold Mesh.resync
  split
  · have changed := differs.modify (·.resync mesh.time)
    rw [resynced] at changed
    exact ⟨announcing, changed.of_same rfl rfl rfl rfl⟩
  · exact ⟨channel.announcing, differs⟩

theorem startLine (differs : base.Differs n channel network mesh) {own : Memory.UnicastEnd}
    (line : channel.line = .memory own) :
    let address := Memory.addressOf network.nextNumber
    ∃ later, mesh.startLine n = (.ok (), later) ∧
      base.Differs n { channel with line := .memory ⟨some address⟩, address := some address }
        { network with
          nextNumber := network.nextNumber + 1
          unicast := network.unicast.insert address ⟨.channel n, true⟩ } later := by
  intro address
  obtain rfl := differs.network
  refine ⟨_, ?_, differs.modify_with (fun channel =>
    { channel with line := .memory ⟨some address⟩, address := some address }) _⟩
  have linked : (mesh.channel n).line = .memory own := by rw [differs.channel_eq, line]
  unfold Mesh.startLine
  rw [listen_of_memory linked]
  dsimp only
  unfold Mesh.takeAddress
  dsimp only
  rw [linked]
  rfl

theorem startGroup (differs : base.Differs n channel network mesh) {number : Nat} {isStarted : Bool}
    (group : channel.group = .memory ⟨number, isStarted⟩) :
    ∃ later, mesh.startGroup n = (.ok (), later) ∧
      base.Differs n { channel with group := .memory ⟨number, true⟩ }
        { network with groups := network.groups.insert number (.channel n) } later := by
  obtain rfl := differs.network
  refine ⟨_, ?_, differs.modify_with ({ · with group := .memory ⟨number, true⟩ }) _⟩
  unfold Mesh.startGroup
  rw [differs.channel_eq, group]
  rfl

/-- A channel whose links are memory links can always be started, and has one address more then. -/
theorem startLinks (differs : base.Differs n channel network mesh) {own : Memory.UnicastEnd}
    (line : channel.line = .memory own) {number : Nat} {isStarted : Bool}
    (group : channel.group = .memory ⟨number, isStarted⟩) :
    let address := Memory.addressOf network.nextNumber
    ∃ announcing time later, mesh.startLinks n = (.ok (), later) ∧
      base.Differs n { channel with
          detector := channel.detector.start time
          line := .memory ⟨some address⟩
          address := some address
          group := .memory ⟨number, true⟩
          announcing := announcing }
        { nextNumber := network.nextNumber + 1
          unicast := network.unicast.insert address ⟨.channel n, true⟩
          groups := network.groups.insert number (.channel n) } later := by
  intro address
  obtain ⟨reached, reaches, onLine⟩ := differs.startLine line
  obtain ⟨joined, joins, inGroup⟩ := onLine.startGroup group
  obtain ⟨announcing, announced⟩ := inGroup.resync
  refine ⟨announcing, joined.time, _, ?_, announced.modify fun channel =>
    { channel with detector := channel.detector.start joined.time }⟩
  unfold Mesh.startLinks
  rw [reaches]
  dsimp only
  rw [joins]

/-! ### The parts of a close -/

theorem halt (differs : base.Differs n channel network mesh) :
    base.Differs n channel.halt network (mesh.halt n) := by
  refine ⟨differs.there, (differs.modify Channel.halt).channels, differs.network, fun none => ?_, differs.log⟩
  show mesh.errands.filter _ = []
  rw [differs.errands none]
  rfl

theorem stopLinks (differs : base.Differs n channel network mesh) {own : Memory.UnicastEnd}
    (line : channel.line = .memory own) {number : Nat} {isStarted : Bool}
    (group : channel.group = .memory ⟨number, isStarted⟩) :
    ∃ (closed : Memory.UnicastEnd) (later : Memory.Network Party), closed.address = none ∧
      network.Shrinks number later ∧
      base.Differs n { channel with group := .memory ⟨number, false⟩, line := .memory closed } later
        (mesh.stopLinks n) := by
  obtain rfl := differs.network
  obtain ⟨left, leaves⟩ := Memory.GroupEnd.close_shrinks number isStarted mesh.network
  obtain ⟨nowhere, goes⟩ := Memory.UnicastEnd.close_shrinks own
    (Memory.GroupEnd.close ⟨number, isStarted⟩ mesh.network).2 number
  refine ⟨_, _, nowhere, leaves.trans goes, ?_⟩
  unfold Mesh.stopLinks
  rw [differs.channel_eq]
  dsimp only
  rw [group, line, ← left]
  exact (differs.modify_with (fun channel =>
    { channel with group := .memory _, line := .memory _ }) _).of_same rfl rfl rfl rfl

/-- **What is left of a channel** that is taken apart. -/
theorem teardown (differs : base.Differs n channel network mesh)
    (unwatched : channel.detector.watched.registered = []) {own : Memory.UnicastEnd}
    (line : channel.line = .memory own) {number : Nat} {isStarted : Bool}
    (group : channel.group = .memory ⟨number, isStarted⟩) :
    ∃ (after : Channel) (later : Memory.Network Party), channel.HasClosed after ∧
      network.Shrinks number later ∧ base.Differs n after later (mesh.teardown n) := by
  have shut := ((differs.halt).modify Channel.dismiss).modify fun channel =>
    (channel.run mesh.time fun view _ => view.shutdown).2
  obtain ⟨closed, later, nowhere, shrinks, stopped⟩ := shut.stopLinks line group
  have watched : (channel.detector.watched.run mesh.time fun view _ => view.shutdown).2.view.selfId =
      channel.selfId ∧
      (channel.detector.watched.run mesh.time fun view _ => view.shutdown).2.registered = [] := by
    rw [Watched.run_of_unwatched unwatched]
    exact ⟨rfl, unwatched⟩
  obtain ⟨sameId, sameDomain, samePool, sameRemnant⟩ := Channel.dismiss_consumer channel.halt
  refine ⟨_, later, ?_, shrinks, stopped⟩
  refine ⟨rfl, watched.2, watched.1, rfl, rfl, rfl,
    ⟨closed, rfl, nowhere⟩, fun other joined same => ?_, sameId, sameDomain, samePool, sameRemnant, rfl, rfl, rfl,
    rfl, rfl⟩
  cases group.symm.trans same
  rfl

end Differs

/-- **What a start makes of a new channel**: it is reached at a new address, takes part in broadcasts,
and listens to the protocol events. -/
theorem start_differs (found : mesh.channels[n]? = some channel) (created : channel.phase = .created)
    (fresh : channel.consumer.atRest = .new channel.selfId channel.domain)
    {own : Memory.UnicastEnd} (line : channel.line = .memory own) {number : Nat} {isStarted : Bool}
    (group : channel.group = .memory ⟨number, isStarted⟩)
    (room : Channel.overflows channel.settings = false) :
    let address := Memory.addressOf mesh.network.nextNumber
    ∃ after, channel.HasStarted address number after ∧ mesh.Differs n after
      { nextNumber := mesh.network.nextNumber + 1
        unicast := mesh.network.unicast.insert address ⟨.channel n, true⟩
        groups := mesh.network.groups.insert number (.channel n) } (mesh.start n).2 := by
  intro address
  have begun := (Differs.nothing found).modify ({ · with phase := .started })
  have new : ({ channel with phase := .started } : Channel).consumer.atRest =
      .new channel.selfId channel.domain := fresh
  obtain ⟨opened, opens, consumer, ids, publisher, enlists, ready, nothing⟩ :=
    Channel.openQueues_fresh new room
  obtain ⟨first, doesFirst, isOpened⟩ := begun.modifyGet opens
  obtain ⟨second, doesSecond, isEnlisted⟩ := isOpened.modifyGet enlists
  obtain ⟨announcing, time, linked, links, isLinked⟩ := isEnlisted.startLinks line group
  have done : mesh.start n = (.ok (), linked) := by
    unfold Mesh.start
    rw [Mesh.channel_eq found, created]
    dsimp only
    unfold Mesh.startParts
    rw [doesFirst]
    dsimp only
    rw [doesSecond]
    dsimp only
    rw [links]
  rw [done]
  refine ⟨_, ?_, isLinked⟩
  exact ⟨rfl, rfl, rfl, rfl, rfl, rfl, rfl, ready, ⟨publisher, rfl, nothing⟩, rfl, rfl⟩

namespace InOrder

/-- **A channel is started in order.** -/
theorem start (inOrder : mesh.InOrder) (isThere : n < mesh.channels.length)
    (can : mesh.cannotStart n = false) (small : mesh.network.nextNumber < 2 ^ 64) :
    (mesh.start n).2.InOrder := by
  obtain ⟨channel, found⟩ : ∃ channel, mesh.channels[n]? = some channel :=
    ⟨_, List.getElem?_eq_getElem isThere⟩
  have wired := inOrder.wired.at (there found)
  have each := inOrder.orderly.each n channel found
  cases phase : channel.phase with
  | started | closed =>
    have idle : (mesh.start n).2 = mesh := by
      unfold Mesh.start
      rw [channel_eq found, phase]
    rw [idle]
    exact inOrder
  | created =>
    obtain ⟨nowhere, fresh⟩ := wired.created phase
    obtain ⟨number, isStarted, group, _⟩ := wired.group
    obtain ⟨own, line, _⟩ := wired.line
    have room : Channel.overflows channel.settings = false := by
      unfold Mesh.cannotStart at can
      dsimp only at can
      rw [channel_eq found, phase] at can
      exact can
    obtain ⟨after, started, differs⟩ := start_differs found phase fresh line group room
    exact inOrder.replace_in_domain found differs.channels (differs.errands inOrder.orderly.noErrands)
      (started.change inOrder.wired (there found) nowhere group small (roster_channels differs.channels)
        rfl differs.network) started.sameDomain (started.orderly phase each)

/-- A channel that is no longer started, and has not been taken apart yet, leaves the mesh in order. -/
theorem endPhase (inOrder : mesh.InOrder) (found : mesh.channels[n]? = some channel) :
    (mesh.modify n ({ · with phase := .closed })).InOrder := by
  have wired := inOrder.wired.at (there found)
  have each := inOrder.orderly.each n channel found
  have differs := (Differs.nothing found).modify ({ · with phase := .closed })
  refine inOrder.replace_in_domain found differs.channels inOrder.orderly.noErrands
    (inOrder.wired.change (there found) (roster_channels differs.channels) rfl rfl rfl rfl id ?_) rfl ?_
  · refine { wired with created := fun new => ?_, started := fun begun => ?_, opened := ?_ }
    · cases new
    · cases begun
    · exact fun isOpen => ⟨(wired.opened isOpen).reached, (wired.opened isOpen).listensForItself,
        (wired.opened isOpen).hearsLeaving, (wired.opened isOpen).served⟩
  · refine ⟨each.unwatched, each.idle, fun new => ?_, each.honest, each.informed, each.unattended⟩
    cases new

/-- A channel that is no longer started is taken apart in order. -/
theorem takeApart (inOrder : mesh.InOrder) (found : mesh.channels[n]? = some channel)
    (ended : channel.phase = .closed) : (mesh.teardown n).InOrder := by
  have wired := inOrder.wired.at (there found)
  obtain ⟨own, line, _⟩ := wired.line
  obtain ⟨number, isStarted, group, _⟩ := wired.group
  obtain ⟨after, network, closed, shrinks, differs⟩ := (Differs.nothing found).teardown
    (inOrder.orderly.each n channel found).unwatched line group
  have left : (mesh.teardown n).roster.network = network := differs.network
  refine inOrder.replace_in_domain found differs.channels (differs.errands inOrder.orderly.noErrands)
    ⟨roster_channels differs.channels, closed.sameId,
      fun address reached => closed.address.trans reached,
      fun address reached => .inl (closed.address.symm.trans reached), ?_, ?_, ?_, ?_, ?_, ?_⟩
    closed.sameDomain (closed.orderly ended wired (inOrder.orderly.each n channel found))
  · intro other joined same
    cases (closed.group number isStarted group).symm.trans same
    exact ⟨isStarted, group⟩
  · exact Nat.le_of_eq ((congrArg Memory.Network.nextNumber left).trans shrinks.counter).symm
  · intro address endpoint reached
    rw [left] at reached
    exact .inl (shrinks.endpoints address endpoint reached)
  · intro other others
    rw [left]
    refine shrinks.otherGroups other ?_
    rintro rfl
    exact others isStarted group
  · exact fun isOpen => absurd (Channel.isOpen_atRest.mp isOpen) closed.not_isOpen
  · rw [left, shrinks.counter]
    exact closed.isWired wired ended

/-- **A channel is closed in order.** -/
theorem close (inOrder : mesh.InOrder) (n : Nat) : (mesh.close n).InOrder := by
  unfold Mesh.close
  dsimp only
  split
  · rename_i started
    obtain ⟨channel, found⟩ : ∃ channel, mesh.channels[n]? = some channel := by
      cases found : mesh.channels[n]? with
      | none =>
        rw [channel_default found] at started
        cases started
      | some channel => exact ⟨channel, rfl⟩
    rw [channel_eq found]
    have closed := inOrder.endPhase found
    have here := there ((Differs.nothing found).modify ({ · with phase := .closed })).found
    have said := Orderly.postAll closed.wired here (farewell channel .shutdown) _ closed.orderly
      (Roster.allows_farewell channel (.inr (.inl rfl)))
    -- others are told while the queues are still open
    obtain ⟨last, isLast, same⟩ := said.exists_channel here
    have torn := (closed.of_orderly said).takeApart isLast (Channel.phase_of_atRest same)
    split
    · exact torn.of_same rfl rfl rfl
    · exact torn
  · exact inOrder

/-! ### The beginning -/

/-- A mesh without channels is in order. -/
theorem empty (host : Socket.Host) : (Mesh.empty host).InOrder := by
  have nobody (m : Nat) (channel : Channel) : (Mesh.empty host).roster.channels[m]? ≠ some channel :=
    fun found => nomatch found
  refine ⟨⟨?_, ?_, ?_, ?_, ?_, ?_⟩, rfl, rfl, fun m channel found => nomatch found⟩
  · exact fun m _ first _ found => absurd found (nobody m first)
  · exact fun m _ first _ _ found => absurd found (nobody m first)
  · exact fun m _ first _ _ _ _ found => absurd found (nobody m first)
  · exact fun _ _ found => nomatch found
  · exact fun m channel found => absurd found (nobody m channel)
  · exact fun _ listed => nomatch listed

/-- **A channel is created in order**, if nobody has its id. -/
theorem create (inOrder : mesh.InOrder) (label : String) {settings : Settings}
    (broadcasts : settings.broadcastTransport true = .ok .memory)
    (unicasts : settings.unicastTransport true = .ok .memory)
    (fresh : ∀ other ∈ mesh.channels, other.selfId ≠ settings.resolveNodeId mesh.madeUpId)
    (smallId : textLength (settings.resolveNodeId mesh.madeUpId).name < 2 ^ 64)
    (smallBatch : settings.batchSize < 2 ^ 64) : (mesh.create label settings true).2.InOrder := by
  unfold Mesh.create
  rw [broadcasts]
  cases settings.validate with
  | error error => exact inOrder
  | ok done =>
    dsimp only
    rw [unicasts]
    dsimp only [linkGroup]
    refine inOrder.append rfl inOrder.orderly.noErrands ?_ fun known => ?_
    · refine inOrder.wired.append (List.map_append ..) rfl ?_ rfl rfl Bool.false_ne_true ?_
      · intro other listed
        obtain ⟨channel, member, rfl⟩ := List.mem_map.mp listed
        exact fresh channel member
      · refine ⟨⟨_, false, rfl, Nat.lt_succ_self _⟩, ⟨_, rfl, .inl rfl⟩, ?_, rfl, rfl, smallId,
          smallBatch, ?_, rfl, rfl, fun _ => ⟨rfl, rfl⟩, ?_, ?_⟩
        · intro address reached
          cases reached
        · intro pool publishes
          cases publishes
        · intro started
          cases started
        · intro isOpen
          cases isOpen
    · refine ⟨rfl, fun _ => ⟨rfl, rfl⟩, fun _ => ⟨Bool.false_ne_true, ?_⟩, ?_, ?_, rfl⟩
      · rintro key id address ⟨member, filed, _⟩
        cases filed
      · intro job queued
        cases queued
      · intro isOpen
        cases isOpen

end InOrder

end Mesh

end PeerMesh
