/-
**Channels are made, started and taken apart while everything fits.**

* `Mesh.Refits` — a single channel has changed, though not its phase: everything still fits, the network
  holds of the other channels what it has held, and nothing new waits for listeners.
  **`startParts_refits`** — what starts a channel, up to the first part that fails; **`teardown_refits`** —
  what takes it apart.
* `Mesh.Concerns` — the same, but for the phase. **`start_concerns`** — a channel is started, or taken apart
  again.
* `IsFitted.setReachable`, `IsFitted.setUp` — the network changes, but for the channels;
  **`IsFitted.create`** — a channel is made; `empty_isFitted` — a mesh without channels is fitted.
-/

import PeerMesh.Proofs.Mesh.Fitting

namespace PeerMesh

namespace Mesh

variable {mesh later last : Mesh} {n : Nat}

/-- **A single channel has changed, and everything still fits.** -/
structure Refits (n : Nat) (before after : Mesh) : Prop where
  alters : before.Alters n after
  leaves : before.LeavesOthers n after
  fitted : after.IsFitted
  outsider : after.outsider = before.outsider
  /-- Nothing new waits for listeners. -/
  held : ∀ event, (after.channel n).consumer.Holds event → (before.channel n).consumer.Holds event

theorem Refits.refl (fitted : mesh.IsFitted) (n : Nat) : mesh.Refits n mesh :=
  ⟨.refl n mesh, .refl n mesh, fitted, rfl, fun _ held => held⟩

theorem Refits.trans (first : mesh.Refits n later) (second : later.Refits n last) : mesh.Refits n last :=
  ⟨first.alters.trans second.alters, first.leaves.trans second.leaves, second.fitted,
    second.outsider.trans first.outsider, fun event held => first.held event (second.held event held)⟩

theorem Refits.there (refits : mesh.Refits n later) (there : n < mesh.channels.length) :
    n < later.channels.length := by
  rw [refits.alters.count]
  exact there

theorem Refits.begun (refits : mesh.Refits n later) (begun : (mesh.channel n).phase ≠ .created) :
    (later.channel n).phase ≠ .created := by
  rw [refits.alters.phase]
  exact begun

/-- The channel keeps its standing and where it says that it is. -/
theorem modify_refits (fitted : mesh.IsFitted) (n : Nat) {change : Channel → Channel}
    (standing : (change (mesh.channel n)).standing = (mesh.channel n).standing)
    (address : (change (mesh.channel n)).address = (mesh.channel n).address)
    (sound : (change (mesh.channel n)).IsSound)
    (pending : (change (mesh.channel n)).consumer.pending ⊆ (mesh.channel n).consumer.pending) :
    mesh.Refits n (mesh.modify n change) := by
  have ends : (change (mesh.channel n)).ends = (mesh.channel n).ends := by
    have line : (change (mesh.channel n)).line.own? = (mesh.channel n).line.own? :=
      congrArg Channel.Standing.own? standing
    have group : (change (mesh.channel n)).group = (mesh.channel n).group :=
      congrArg Channel.Standing.group standing
    unfold Channel.ends
    rw [line, group, address]
  refine ⟨mesh.change_alters n standing, ⟨fun _ _ _ _ found => found, fun _ _ _ found => found⟩,
    fitted.modify n ends sound, rfl, fun event held => ?_⟩
  rcases mesh.channel_modify_cases n change n with same | ⟨-, changed⟩
  · rw [same] at held
    exact held
  · rw [changed] at held
    exact Consumer.holds_of_pending pending held

/-- From an event that it handles a channel only learns, and the like. -/
theorem learn_refits (fitted : mesh.IsFitted) (n : Nat) {change : Channel → Channel}
    (learns : (mesh.channel n).OnlyLearns (change (mesh.channel n))) : mesh.Refits n (mesh.modify n change) :=
  modify_refits fitted n learns.keeps.standing learns.keeps.address (learns.keeps.isSound (fitted.fits n).sound)
    (learns.consumer ▸ List.Subset.refl _)

/-- The agenda changes, and fewer wait. -/
theorem refits_of_waiting (fitted : mesh.IsFitted) (n : Nat) {agenda : List Move} {gate : Gate Parked}
    {errands : List Errand} (waiting : gate.waiting ⊆ mesh.gate.waiting) (fewer : errands ⊆ mesh.errands) :
    mesh.Refits n { mesh with agenda := agenda, gate := gate, errands := errands } :=
  ⟨alters_of_same n rfl (fun _ _ => rfl) rfl rfl waiting fewer,
    ⟨fun _ _ _ _ found => found, fun _ _ _ found => found⟩,
    fitted.of_ends rfl rfl (Nat.le_refl _) rfl rfl (fun _ => rfl) fun m => (fitted.fits m).sound, rfl,
    fun _ held => held⟩

theorem startLine_refits (fitted : mesh.IsFitted) (there : n < mesh.channels.length)
    (noEnds : (mesh.channel n).HasNoEnds) (begun : (mesh.channel n).phase ≠ .created)
    (nothing : (mesh.channel n).HasNothingQueued) : mesh.Refits n (mesh.startLine n).2 := by
  have alters := mesh.startLine_alters n
  rcases mesh.startLine_cases n with ⟨ports, agenda, starts⟩ | ⟨error, fails⟩
  · have listening := fitted.of_listening ports agenda
    rw [starts] at alters ⊢
    have leaves := takeAddress_leaves listening there
    refine ⟨alters, ⟨leaves.unicast, leaves.groups⟩, listening.takeAddress there noEnds begun nothing,
      takeAddress_outsider _ n, fun event held => ?_⟩
    rcases takeAddress_cases (show n < ({ mesh with ports := ports, agenda := agenda } : Mesh).channels.length
      from there) with ⟨own, -, channel, -⟩ | ⟨client, address, -, -, channel, -⟩
    · rw [channel] at held
      exact held
    · rw [channel] at held
      exact held
  · rw [fails]
    exact .refl fitted n

theorem startGroup_refits (fitted : mesh.IsFitted) (there : n < mesh.channels.length)
    (begun : (mesh.channel n).phase ≠ .created) : mesh.Refits n (mesh.startGroup n).2 := by
  have fits := fitted.startGroup there begun
  have alters := mesh.startGroup_alters n
  have leaves := startGroup_leaves fitted there
  rcases mesh.startGroup_cases n with ⟨member, -, starts⟩ | ⟨joined, -, starts⟩ | ⟨error, fails⟩
  · have channel : (mesh.startGroup n).2.channel n =
        { mesh.channel n with group := .memory { member with isStarted := true } } := by
      rw [starts]
      exact channel_modify there _
    refine ⟨alters, leaves, fits, by rw [starts]; rfl, fun event held => ?_⟩
    rw [channel] at held
    exact held
  · have channel : (mesh.startGroup n).2.channel n = { mesh.channel n with group := .datagram joined } := by
      rw [starts]
      exact channel_modify there _
    refine ⟨alters, leaves, fits, by rw [starts]; rfl, fun event held => ?_⟩
    rw [channel] at held
    exact held
  · rw [fails]
    exact .refl fitted n

theorem resync_refits (fitted : mesh.IsFitted) (n : Nat) : mesh.Refits n (mesh.resync n) := by
  unfold Mesh.resync
  split
  · have announced : mesh.Refits n (mesh.modify n (·.resync mesh.time)) :=
      learn_refits fitted n (Channel.resync_onlyLearns _ _)
    exact announced.trans (refits_of_waiting announced.fitted n (List.Subset.refl _) (List.Subset.refl _))
  · exact .refl fitted n

/-- The links of a channel are started, as far as they can be. -/
theorem startLinks_refits (fitted : mesh.IsFitted) (there : n < mesh.channels.length)
    (noEnds : (mesh.channel n).HasNoEnds) (begun : (mesh.channel n).phase ≠ .created)
    (nothing : (mesh.channel n).HasNothingQueued) : mesh.Refits n (mesh.startLinks n).2 := by
  have reached := startLine_refits fitted there noEnds begun nothing
  unfold Mesh.startLinks
  split
  · rename_i fails
    rw [fails] at reached
    exact reached
  rename_i lined starts
  rw [starts] at reached
  have linked := reached.trans (startGroup_refits reached.fitted (reached.there there) (reached.begun begun))
  split
  · rename_i fails
    rw [fails] at linked
    exact linked
  · rename_i joins
    rw [joins] at linked
    have announced := linked.trans (resync_refits linked.fitted n)
    exact announced.trans (learn_refits announced.fitted n ⟨rfl, .refl _, rfl, rfl⟩)

theorem channel_modifyGet {α : Type} (there : n < mesh.channels.length) (change : Channel → α × Channel) :
    (mesh.modifyGet n change).2.channel n = (change (mesh.channel n)).2 := channel_modify there _

/-- The queues of a channel are opened. -/
theorem open_refits (fitted : mesh.IsFitted) (n : Nat) (begun : (mesh.channel n).phase ≠ .created) :
    mesh.Refits n (mesh.modifyGet n Channel.openQueues).2 := by
  have kept : (mesh.channel n).openQueues.2.address = (mesh.channel n).address ∧
      (mesh.channel n).openQueues.2.consumer.pending ⊆ (mesh.channel n).consumer.pending := by
    rcases (mesh.channel n).openQueues_cases with ⟨opened, opens, -, -, pending, -, ends, -⟩ | ⟨error, fails⟩
    · rw [opens]
      exact ⟨congrArg Channel.Ends.address ends, pending⟩
    · rw [fails]
      exact ⟨rfl, List.Subset.refl _⟩
  exact modify_refits fitted n (Channel.openQueues_standing _) kept.1
    (Channel.openQueues_isSound (fitted.fits n).sound begun) kept.2

/-- A channel enlists. -/
theorem enlist_refits (fitted : mesh.IsFitted) (n : Nat) (begun : (mesh.channel n).phase ≠ .created) :
    mesh.Refits n (mesh.modifyGet n Channel.enlist).2 := by
  have sound := Channel.enlist_isSound (fitted.fits n).sound begun
  obtain ⟨consumer, ids, enlists, pending, -⟩ := (mesh.channel n).enlist_cases
  have rest : (mesh.channel n).enlist.2.address = (mesh.channel n).address ∧
      (mesh.channel n).enlist.2.consumer.pending ⊆ (mesh.channel n).consumer.pending := by
    rw [enlists]
    exact ⟨rfl, pending ▸ List.Subset.refl _⟩
  exact modify_refits fitted n (Channel.enlist_standing _) rest.1 sound rest.2

/-- A channel whose queues are opened has nothing queued. -/
theorem opened_of_modifyGet (there : n < mesh.channels.length)
    (opens : mesh.modifyGet n Channel.openQueues = (.ok (), later)) :
    (later.channel n).HasNothingQueued := by
  have isOpened := channel_modifyGet there Channel.openQueues
  have answer : (mesh.channel n).openQueues.1 = .ok () := congrArg Prod.fst opens
  rw [opens] at isOpened
  rw [isOpened]
  rcases (mesh.channel n).openQueues_cases with ⟨opened, opens, nothing, -⟩ | ⟨error, fails⟩
  · rw [opens]
    exact nothing
  · rw [fails] at answer
    cases answer

/-- **What starts a channel**, up to the first part that fails. -/
theorem startParts_refits (fitted : mesh.IsFitted) (there : n < mesh.channels.length)
    (noEnds : (mesh.channel n).HasNoEnds) (begun : (mesh.channel n).phase ≠ .created) :
    mesh.Refits n (mesh.startParts n).2 := by
  have opening := open_refits fitted n begun
  have isOpened := channel_modifyGet there Channel.openQueues
  unfold Mesh.startParts
  split
  · rename_i opens
    rw [opens] at opening
    exact opening
  · rename_i first opens
    rw [opens] at opening isOpened
    have nothing := opened_of_modifyGet there opens
    have enlisting := enlist_refits opening.fitted n (opening.begun begun)
    have isEnlisted := channel_modifyGet (opening.there there) Channel.enlist
    split
    · rename_i enlists
      rw [enlists] at enlisting
      exact opening.trans enlisting
    · rename_i second enlists
      rw [enlists] at enlisting isEnlisted
      have both := opening.trans enlisting
      refine both.trans (startLinks_refits both.fitted (both.there there) ?_ (both.begun begun) ?_)
      · rw [isEnlisted]
        refine Channel.HasNoEnds.of_standing ?_ (Channel.enlist_standing _)
        rw [isOpened]
        exact noEnds.of_standing (Channel.openQueues_standing _)
      · rw [isEnlisted]
        obtain ⟨consumer, ids, enlists, -⟩ := (first.channel n).enlist_cases
        rw [enlists]
        exact nothing

/-- **What takes a channel apart.** -/
theorem teardown_refits (fitted : mesh.IsFitted) (there : n < mesh.channels.length)
    (begun : (mesh.channel n).phase ≠ .created) : mesh.Refits n (mesh.teardown n) := by
  have halted : mesh.Refits n (mesh.modify n Channel.halt) := by
    refine modify_refits fitted n rfl rfl ((Channel.halt_keeps _).isSound (fitted.fits n).sound) ?_
    rcases (mesh.channel n).consumer.stop_pending (mesh.channel n).calling with same | none
    · exact same ▸ List.Subset.refl _
    · exact none ▸ List.nil_subset _
  have alone : mesh.Refits n (mesh.halt n) := halted.trans <|
    refits_of_waiting halted.fitted n (List.filter_subset_self _) (List.filter_subset_self _)
  have dismissed : (mesh.halt n).Refits n ((mesh.halt n).modify n Channel.dismiss) := by
    refine modify_refits alone.fitted n rfl rfl (Channel.dismiss_isSound (alone.fitted.fits n).sound) ?_
    obtain ⟨-, -, pool, remnant⟩ := Channel.dismiss_consumer ((mesh.halt n).channel n)
    unfold Consumer.pending Consumer.workforce?
    rw [pool, remnant]
    exact List.Subset.refl _
  have shut : ((mesh.halt n).modify n Channel.dismiss).Refits n
      (((mesh.halt n).modify n Channel.dismiss).modify n fun channel =>
        (channel.run (mesh.halt n).time fun view _ => view.shutdown).2) :=
    learn_refits dismissed.fitted n
      (Channel.run_onlyLearns _ _ fun now => View.becomes_undergo _ (.operation now .shutdown))
  have taken := (alone.trans dismissed).trans shut
  have stopped := taken.fitted.stopLinks (taken.there there) (taken.begun begun)
  refine taken.trans ⟨stopLinks_alters _ n, stopLinks_leaves taken.fitted (taken.there there), stopped, rfl,
    fun event held => ?_⟩
  have consumer := congrArg Channel.consumer (channel_stopLinks (taken.there there))
  exact consumer ▸ held

/-! ### What concerns a single channel -/

/-- What happens concerns a single channel, and everything fits. -/
structure Concerns (n : Nat) (before after : Mesh) : Prop where
  others : ∀ m, m ≠ n → after.channel m = before.channel m
  leaves : before.LeavesOthers n after
  fitted : after.IsFitted
  held : ∀ event, (after.channel n).consumer.Holds event → (before.channel n).consumer.Holds event
  log : after.log = before.log

theorem Refits.concerns (refits : mesh.Refits n later) : mesh.Concerns n later :=
  ⟨refits.alters.others, refits.leaves, refits.fitted, refits.held, refits.alters.log⟩

theorem Concerns.refl (fitted : mesh.IsFitted) (n : Nat) : mesh.Concerns n mesh := (Refits.refl fitted n).concerns

theorem Concerns.trans (first : mesh.Concerns n later) (second : later.Concerns n last) : mesh.Concerns n last :=
  ⟨fun m other => (second.others m other).trans (first.others m other), first.leaves.trans second.leaves,
    second.fitted, fun event held => first.held event (second.held event held), second.log.trans first.log⟩

/-- A channel that is not only created any more, or goes on. -/
theorem rephase_concerns (fitted : mesh.IsFitted) (n : Nat) {phase : Phase} (begins : phase ≠ .created) :
    mesh.Concerns n (mesh.modify n ({ · with phase := phase })) := by
  have sound := (fitted.fits n).sound
  refine ⟨fun m other => channel_modify_ne other _ _, ⟨fun _ _ _ _ found => found, fun _ _ _ found => found⟩,
    fitted.modify n rfl (sound.of_begun begins sound.stamped rfl (.refl _)), fun event held => ?_, rfl⟩
  rcases mesh.channel_modify_cases n ({ · with phase := phase }) n with same | ⟨-, changed⟩
  · rw [same] at held
    exact held
  · rw [changed] at held
    exact held

/-- **A channel is started**, or taken apart again. -/
theorem start_concerns (fitted : mesh.IsFitted) (there : n < mesh.channels.length) :
    mesh.Concerns n (mesh.start n).2 := by
  cases phase : (mesh.channel n).phase with
  | started | closed =>
    unfold Mesh.start
    rw [phase]
    exact .refl fitted n
  | created =>
    let begun := mesh.modify n ({ · with phase := .started })
    have begins : mesh.Concerns n begun := rephase_concerns fitted n (by decide)
    have begunThere : n < begun.channels.length := by simpa [begun, Mesh.modify] using there
    have isBegun : begun.channel n = { mesh.channel n with phase := .started } := channel_modify there _
    obtain ⟨earlier, -⟩ := (fitted.fits n).sound.created phase
    have noEnds : (begun.channel n).HasNoEnds := by
      rw [isBegun]
      exact ⟨earlier.line, earlier.group⟩
    have builds := startParts_refits begins.fitted begunThere noEnds (by simp [isBegun])
    have parts := begins.trans builds.concerns
    rcases start_cases phase with starts | ⟨error, fails⟩
    · rw [starts]
      exact parts
    · rw [fails]
      let built := (begun.startParts n).2
      have ended : built.Concerns n (built.modify n ({ · with phase := .closed })) :=
        rephase_concerns parts.fitted n (by decide)
      have partsThere := builds.there begunThere
      refine (parts.trans ended).trans (teardown_refits ended.fitted ?_ ?_).concerns
      · simpa [Mesh.modify] using partsThere
      · rw [channel_modify_phase partsThere]
        decide

/-! ### The network changes, but for the channels -/

/-- What the network holds of channels it holds still, at most marked otherwise. -/
theorem IsFitted.of_network (fitted : mesh.IsFitted) (channels : later.channels = mesh.channels)
    (matched : later.IsMatched)
    (unicast : ∀ n address isReachable, mesh.network.unicast.get? address = some ⟨.channel n, isReachable⟩ →
      ∃ isReachable, later.network.unicast.get? address = some ⟨.channel n, isReachable⟩)
    (groups : ∀ n number, mesh.network.groups.get? number = some (.channel n) →
      later.network.groups.get? number = some (.channel n))
    (keys : later.network.unicast.All fun address _ =>
      ∃ number < later.network.nextNumber, address = Memory.addressOf number)
    (next : mesh.network.nextNumber ≤ later.network.nextNumber)
    (outsider : later.outsider.group.number = mesh.outsider.group.number) : later.IsFitted := by
  have same (n : Nat) : later.channel n = mesh.channel n := by
    unfold channel
    rw [channels]
  refine ⟨matched, fun n => ?_, keys, ?_, fun n m number => ?_, fun n m number => ?_⟩
  · have before := fitted.fits n
    exact before.of_ends (same n ▸ before.sound) (by rw [same]) (unicast n) (groups n) next outsider
      fun there => channels ▸ there
  · rw [outsider]
    exact Nat.lt_of_lt_of_le fitted.outsider next
  · rw [same, same]
    exact fitted.distinct n m number
  · rw [same, same, channels]
    exact fitted.apart n m number

/-- An address is marked. -/
theorem IsFitted.setReachable (fitted : mesh.IsFitted) (address : Address) (value : Bool) :
    { mesh with network := mesh.network.setReachable address value }.IsFitted := by
  have earlier {other : Address} {endpoint : Memory.Endpoint Party}
      (found : (mesh.network.setReachable address value).unicast.get? other = some endpoint) :
      ∃ was, mesh.network.unicast.get? other = some was ∧ was.receiver = endpoint.receiver := by
    rw [Memory.Network.get?_setReachable] at found
    split at found
    · rename_i same
      obtain ⟨was, there, rfl⟩ := Option.map_eq_some_iff.mp found
      exact ⟨was, same ▸ there, rfl⟩
    · exact ⟨endpoint, found, rfl⟩
  refine fitted.of_network rfl ⟨fun other endpoint found n receives => ?_, fitted.matched.groups⟩
    (fun n other isReachable found => ?_) (fun _ _ joined => joined) (fun other endpoint found => ?_)
    (Nat.le_refl _) rfl
  · obtain ⟨was, there, same⟩ := earlier found
    exact fitted.matched.unicast other was there n (same.trans receives)
  · show ∃ _, (mesh.network.setReachable address value).unicast.get? other = _
    rw [Memory.Network.get?_setReachable]
    split
    · rename_i same
      subst same
      exact ⟨value, by rw [found]; rfl⟩
    · exact ⟨isReachable, found⟩
  · obtain ⟨was, there, -⟩ := earlier found
    exact fitted.keys other was there

/-- The outsider gets an address that nobody has had, and may join the group with a number of its own. -/
theorem IsFitted.setUp (fitted : mesh.IsFitted) (manner : Memory.Manner) (joinsGroup : Bool) :
    (mesh.setUp manner joinsGroup).2.IsFitted := by
  have next : (mesh.setUp manner joinsGroup).2.network.nextNumber = mesh.network.nextNumber + 1 := by
    unfold Mesh.setUp
    cases joinsGroup <;> rfl
  have number : (mesh.setUp manner joinsGroup).2.outsider.group.number = mesh.outsider.group.number := by
    unfold Mesh.setUp
    cases joinsGroup <;> rfl
  refine fitted.of_network rfl ⟨fun address endpoint found n receives => ?_,
    fun place receiver found n receives => ?_⟩ (fun n address isReachable found => ⟨isReachable, ?_⟩)
    (fun n place found => ?_) ?_ (next ▸ Nat.le_succ _) number
  · rw [setUp_unicast, Table.get?_insert] at found
    split at found
    · cases found
      cases receives
    · exact fitted.matched.unicast address endpoint found n receives
  · rw [setUp_groups] at found
    split at found
    · rw [Table.get?_insert] at found
      split at found
      · cases found
        cases receives
      · exact fitted.matched.groups place receiver found n receives
    · exact fitted.matched.groups place receiver found n receives
  · rw [setUp_unicast]
    exact get?_insert_next fitted found
  · have group := fitted.matched.groups place _ found n rfl
    have other := ((fitted.fits n).numbered (there_of_joined group) place (by rw [group]; rfl)).2
    rw [setUp_groups]
    split
    · rw [Table.get?_insert, if_neg other, found]
    · exact found
  · rw [setUp_unicast, next]
    refine Table.All.insert (fun address endpoint found => ?_) ⟨_, Nat.lt_succ_self _, rfl⟩
    obtain ⟨place, given, same⟩ := fitted.keys address endpoint found
    exact ⟨place, Nat.lt_succ_of_lt given, same⟩

/-! ### Channels that are made -/

/-- **A channel is made** that is reached nowhere and has a number of its own, if it has one. -/
theorem IsFitted.append (fitted : mesh.IsFitted) {made : Channel}
    (channels : later.channels = mesh.channels ++ [made])
    (unicast : later.network.unicast = mesh.network.unicast) (groups : later.network.groups = mesh.network.groups)
    (next : mesh.network.nextNumber ≤ later.network.nextNumber) (outsider : later.outsider = mesh.outsider)
    (sound : made.IsSound) (noEnds : made.HasNoEnds) (nowhere : made.address = none)
    (numbered : ∀ number, made.group.number? = some number →
      mesh.network.nextNumber ≤ number ∧ number < later.network.nextNumber) : later.IsFitted := by
  have isMade : later.channel mesh.channels.length = made := (channel_of_append channels _).trans (if_pos rfl)
  have others {m : Nat} (other : m ≠ mesh.channels.length) : later.channel m = mesh.channel m :=
    (channel_of_append channels m).trans (if_neg other)
  have before {m : Nat} (there : m < later.channels.length) (other : m ≠ mesh.channels.length) :
      m < mesh.channels.length := by
    rw [channels, List.length_append, List.length_singleton] at there
    omega
  have given {m : Nat} (there : m < later.channels.length) (other : m ≠ mesh.channels.length) {number : Nat}
      (has : (later.channel m).group.number? = some number) : number < mesh.network.nextNumber := by
    rw [others other] at has
    exact ((fitted.fits m).numbered (before there other) number has).1
  refine ⟨fitted.matched.append channels unicast groups, fun m => ?_, ?_, ?_, fun m k number one two => ?_,
    fun m k number there thereToo one two => ?_⟩
  · by_cases same : m = mesh.channels.length
    · subst same
      refine fits_of_hasNoEnds (isMade ▸ sound) (isMade ▸ noEnds) (isMade ▸ nowhere) fun number has => ?_
      rw [isMade] at has
      obtain ⟨late, early⟩ := numbered number has
      rw [outsider]
      exact ⟨early, Nat.ne_of_gt (Nat.lt_of_lt_of_le fitted.outsider late)⟩
    · have fits := fitted.fits m
      exact fits.of_ends (others same ▸ fits.sound) (by rw [others same])
        (fun _ isReachable found => ⟨isReachable, unicast ▸ found⟩) (fun _ found => groups ▸ found) next
        (by rw [outsider]) fun there => before there same
  · rw [unicast]
    intro address endpoint found
    obtain ⟨number, early, same⟩ := fitted.keys address endpoint found
    exact ⟨number, Nat.lt_of_lt_of_le early next, same⟩
  · rw [outsider]
    exact Nat.lt_of_lt_of_le fitted.outsider next
  · by_cases first : m = mesh.channels.length
    · rw [first, isMade, nowhere] at one
      cases one
    · by_cases second : k = mesh.channels.length
      · rw [second, isMade, nowhere] at two
        cases two
      · rw [others first] at one
        rw [others second] at two
        exact fitted.distinct m k number one two
  · by_cases first : m = mesh.channels.length <;> by_cases second : k = mesh.channels.length
    · rw [first, second]
    · rw [first, isMade] at one
      exact absurd (given thereToo second two) (Nat.not_lt_of_le (numbered number one).1)
    · rw [second, isMade] at two
      exact absurd (given there first one) (Nat.not_lt_of_le (numbered number two).1)
    · rw [others first] at one
      rw [others second] at two
      exact fitted.apart m k number (before there first) (before thereToo second) one two

/-- **A channel is created.** -/
theorem IsFitted.create (fitted : mesh.IsFitted) (label : String) (settings : Settings) (hasNetwork : Bool) :
    (mesh.create label settings hasNetwork).2.IsFitted := by
  have linked (kind : TransportKind) : (mesh.linkGroup settings kind).2.IsFitted := by
    cases kind with
    | memory =>
      exact fitted.of_ends rfl rfl (Nat.le_succ _) rfl rfl (fun _ => rfl) fun m => (fitted.fits m).sound
    | udp | tcp => exact fitted
  unfold Mesh.create
  split
  · exact fitted
  · exact fitted
  · rename_i groupKind _ _
    dsimp only
    split
    · exact linked groupKind
    · rename_i lineKind _
      have noEnds := mesh.linkGroup_hasNoEnds label settings (settings.resolveNodeId mesh.madeUpId) mesh.time
        groupKind lineKind
      have sound := Channel.new_isSound _ _ _ _ noEnds
      cases groupKind with
      | memory =>
        refine fitted.append rfl rfl rfl (Nat.le_succ _) rfl sound noEnds rfl fun number has => ?_
        cases has
        exact ⟨Nat.le_refl _, Nat.lt_succ_self _⟩
      | udp | tcp =>
        exact fitted.append rfl rfl rfl (Nat.le_refl _) rfl sound noEnds rfl fun number has => nomatch has

theorem empty_isFitted (host : Socket.Host) : (empty host).IsFitted := by
  have same (n : Nat) : (empty host).channel n = default := channel_of_absent (Nat.zero_le n)
  refine ⟨(empty_isConsistent host).matched, fun n => ?_, fun _ _ found => (nomatch found), Nat.zero_lt_one,
    fun n m number claims => ?_, fun n m number there => absurd there (Nat.not_lt_zero n)⟩
  · refine ⟨?_, fun address reached => ?_, fun number claims => ?_, fun number joined => ?_,
      fun there => absurd there (Nat.not_lt_zero n)⟩ <;> rw [same] at *
    · exact Channel.default_isSound
    · exact absurd reached (hasNoEnds_default.line address)
    · cases claims
    · exact absurd joined (hasNoEnds_default.group number)
  · rw [same] at claims
    cases claims

end Mesh

end PeerMesh
