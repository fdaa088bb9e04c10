/-
**Channels and the network fit together.**

* `Channel.IsSound` — what is queued to go out carries the address of the channel; a channel that is only
  created is reached nowhere and has enlisted nobody; its listeners are as they were registered, as long as ids
  have not run out; and its view has come of a new one.
* `Mesh.Fits` — the network holds the ends that a channel has, and its numbers were given out.
  `Mesh.IsFitted` — all channels fit, no two of them say that they are at one place of the network, and no
  two have one number in the group.
* `Mesh.LeavesOthers` — the network holds of the other channels what it has held.
* `IsFitted.of_carries` — whatever is carried leaves all fitted; `IsFitted.takeAddress`,
  `IsFitted.startGroup`, `IsFitted.stopLinks` — links that are started and stopped.
-/

import PeerMesh.Proofs.Channel.Enlisting
import PeerMesh.Proofs.Mesh.Incidents
import PeerMesh.Proofs.Mesh.Postings

namespace PeerMesh

/-- The number in the group of the network. -/
def GroupLink.number? : GroupLink → Option Nat
  | .memory member => some member.number
  | .datagram _ => none

theorem GroupLink.number?_close {ρ : Type} (group : GroupLink) (network : Memory.Network ρ) :
    (group.close network).1.number? = group.number? := by
  cases group with
  | datagram member => rfl
  | memory member =>
    show some (member.close network).1.number = some member.number
    unfold Memory.GroupEnd.close
    split <;> rfl

/-- Closing a link that reaches somebody takes its own entry away, and no other. -/
theorem UnicastLink.get?_close {ρ : Type} {line : UnicastLink} {network : Memory.Network ρ} {address : Address}
    (other : line.own? ≠ some ⟨some address⟩) :
    (line.close network).2.unicast.get? address = network.unicast.get? address := by
  cases line with
  | stream client => rfl
  | memory own =>
    show (own.close network).2.unicast.get? address = _
    unfold Memory.UnicastEnd.close
    split
    · rfl
    · rename_i place there
      refine (Table.get?_erase _ _ _).trans (if_neg ?_)
      rintro rfl
      obtain ⟨_⟩ := own
      subst there
      exact other rfl

theorem GroupLink.get?_close {ρ : Type} {group : GroupLink} {network : Memory.Network ρ} {number : Nat}
    (other : group.number? ≠ some number) :
    (group.close network).2.groups.get? number = network.groups.get? number := by
  cases group with
  | datagram member => rfl
  | memory member =>
    show (member.close network).2.groups.get? number = _
    unfold Memory.GroupEnd.close
    split
    · refine (Table.get?_erase _ _ _).trans (if_neg ?_)
      rintro rfl
      exact other rfl
    · rfl

/-- An idle link reaches nobody. -/
theorem UnicastLink.own?_of_isIdle {line : UnicastLink} (idle : line.isIdle = true) (address : Address) :
    line.own? ≠ some ⟨some address⟩ := by
  intro reached
  cases line with
  | stream client => cases reached
  | memory own =>
    cases reached
    cases idle

theorem GroupLink.ne_of_isIdle {group : GroupLink} (idle : group.isIdle = true) (number : Nat) :
    group ≠ .memory ⟨number, true⟩ := by
  rintro rfl
  cases idle

namespace Channel

/-- The ends of a channel, and where it says that it is. -/
structure Ends where
  own? : Option Memory.UnicastEnd
  group : GroupLink
  address : Option Address

/-- The ends of a channel, and where it says that it is. -/
def ends (channel : Channel) : Ends := ⟨channel.line.own?, channel.group, channel.address⟩

/-- Nothing is queued to go out. -/
def HasNothingQueued (channel : Channel) : Prop := ∀ pool, channel.publisher = some pool → pool.queue = []

/-- **What holds of a channel all the time.** -/
structure IsSound (channel : Channel) : Prop where
  stamped : channel.IsStamped
  created : channel.phase = .created → channel.HasNoEnds ∧ channel.ownListeners = []
  standing : channel.consumer.HasStanding
  came : channel.view.HasCome

variable {channel later : Channel}

theorem HasNoEnds.of_ends (noEnds : channel.HasNoEnds) (same : later.ends = channel.ends) : later.HasNoEnds := by
  have line : later.line.own? = channel.line.own? := congrArg Ends.own? same
  have group : later.group = channel.group := congrArg Ends.group same
  exact ⟨fun address => line ▸ noEnds.line address, fun number => group ▸ noEnds.group number⟩

theorem HasNothingQueued.isStamped (nothing : channel.HasNothingQueued) : channel.IsStamped := by
  intro pool opened job queued
  rw [nothing pool opened] at queued
  cases queued

theorem Keeps.isSound (keeps : channel.Keeps later) (sound : channel.IsSound) : later.IsSound := by
  have own : later.ownListeners = channel.ownListeners := congrArg Footing.ownListeners keeps.footing
  have tables : later.consumer.tables = channel.consumer.tables := congrArg Footing.tables keeps.footing
  refine ⟨keeps.stamped sound.stamped, fun created => ?_, sound.standing.of_tables tables,
    sound.came.becomes keeps.becomes⟩
  obtain ⟨noEnds, nobody⟩ := sound.created ((congrArg Standing.phase keeps.standing).symm.trans created)
  exact ⟨noEnds.of_standing keeps.standing, own.trans nobody⟩

theorem new_isSound (label : String) (settings : Settings) (id : NodeId) (time : Nat) {group : GroupLink}
    {line : UnicastLink} (noEnds : (Channel.new label settings id time group line).HasNoEnds) :
    (Channel.new label settings id time group line).IsSound :=
  ⟨fun _ opened => (nomatch opened), fun _ => ⟨noEnds, rfl⟩, fun _ => ⟨[], Consumer.agrees_new _ _⟩,
    View.hasCome_new id⟩

theorem default_isSound : (default : Channel).IsSound := new_isSound _ _ _ _ Mesh.hasNoEnds_default

/-- A channel that is not only created stays sound if its queue stays so, its listeners and its view. -/
theorem IsSound.of_begun (sound : channel.IsSound) (begun : later.phase ≠ .created)
    (stamped : later.IsStamped) (tables : later.consumer.tables = channel.consumer.tables)
    (becomes : channel.view.Becomes later.view) : later.IsSound :=
  ⟨stamped, fun created => absurd created begun, sound.standing.of_tables tables, sound.came.becomes becomes⟩

/-! ### The parts of a start within the channel -/

/-- A channel that opens its queues has nothing queued, or fails to and stays the same. -/
theorem openQueues_cases (channel : Channel) :
    (∃ opened, channel.openQueues = (.ok (), opened) ∧ opened.HasNothingQueued ∧
        opened.consumer.tables = channel.consumer.tables ∧
        opened.consumer.pending ⊆ channel.consumer.pending ∧
        opened.ownListeners = channel.ownListeners ∧ opened.ends = channel.ends ∧
        opened.view = channel.view) ∨
      ∃ error, channel.openQueues = (.error error, channel) := by
  unfold openQueues
  dsimp only
  split
  · rename_i error _
    exact .inr ⟨error, rfl⟩
  · rename_i consumer starts
    obtain ⟨tables, pending⟩ := Consumer.start_ok starts
    refine .inl ⟨_, rfl, fun pool opened => ?_, tables, pending, rfl, rfl, rfl⟩
    unfold Pool.open? at opened
    split at opened
    · obtain rfl := Option.some.inj opened
      rfl
    · cases opened

theorem openQueues_isSound (sound : channel.IsSound) (begun : channel.phase ≠ .created) :
    channel.openQueues.2.IsSound := by
  rcases channel.openQueues_cases with ⟨opened, opens, nothing, tables, -, -, -, view⟩ | ⟨error, fails⟩
  · have phase : opened.phase = channel.phase := by
      have standing := congrArg Standing.phase channel.openQueues_standing
      rw [opens] at standing
      exact standing
    rw [opens]
    exact sound.of_begun (phase ▸ begun) nothing.isStamped tables (view ▸ .refl _)
  · rw [fails]
    exact sound

/-- **What a channel does when it enlists** changes only who listens. -/
theorem enlist_cases (channel : Channel) : ∃ consumer ids,
    channel.enlist.2 = { channel with consumer := consumer, ownListeners := ids } ∧
      consumer.pending = channel.consumer.pending ∧ (channel.consumer.HasStanding → consumer.HasStanding) := by
  have enlisted : ∃ consumer ids,
      ProtocolKind.all.foldl enlistFor channel = { channel with consumer := consumer, ownListeners := ids } ∧
        consumer.pending = channel.consumer.pending ∧
          (channel.consumer.HasStanding → consumer.HasStanding) := by
    refine List.foldlRecOn (motive := fun between : Channel => ∃ consumer ids,
      between = { channel with consumer := consumer, ownListeners := ids } ∧
        consumer.pending = channel.consumer.pending ∧ (channel.consumer.HasStanding → consumer.HasStanding))
      ProtocolKind.all _ ⟨channel.consumer, channel.ownListeners, rfl, rfl, id⟩ fun between same kind _ => ?_
    obtain ⟨consumer, ids, rfl, pending, standing⟩ := same
    unfold enlistFor
    split
    · rename_i id registered registers
      refine ⟨registered, ids ++ [id], rfl, ?_, fun has => (standing has).registerAsync registers⟩
      unfold Consumer.registerAsync at registers
      split at registers
      · cases registers
      · obtain ⟨-, rfl⟩ := Prod.mk.inj (Except.ok.inj registers)
        exact pending
    · exact ⟨consumer, ids, rfl, pending, standing⟩
  obtain ⟨consumer, ids, same, pending, standing⟩ := enlisted
  unfold enlist
  dsimp only
  rw [same]
  split
  · rename_i id registered registers
    refine ⟨registered, ids ++ [id], rfl, ?_, fun has => (standing has).registerSync registers⟩
    unfold Consumer.registerSync at registers
    split at registers
    · cases registers
    · split at registers
      · cases registers
      · obtain ⟨-, rfl⟩ := Prod.mk.inj (Except.ok.inj registers)
        exact pending
  · exact ⟨consumer, ids, rfl, pending, standing⟩

theorem enlist_isSound (sound : channel.IsSound) (begun : channel.phase ≠ .created) :
    channel.enlist.2.IsSound := by
  obtain ⟨consumer, ids, enlists, -, standing⟩ := channel.enlist_cases
  rw [enlists]
  exact ⟨sound.stamped, fun created => absurd created begun, standing sound.standing, sound.came⟩

theorem dismiss_isSound (sound : channel.IsSound) : channel.dismiss.IsSound := by
  refine ⟨sound.stamped, fun created => ⟨(sound.created created).1.of_standing rfl, rfl⟩, ?_, sound.came⟩
  exact List.foldlRecOn (motive := Consumer.HasStanding) channel.ownListeners _ sound.standing
    fun between standing id _ => standing.step (.unregister id)

end Channel

namespace Mesh

variable {terms : Terms} {mesh later last : Mesh} {n : Nat}

/-! ### The channels and the network -/

/-- **The network holds the ends of a channel**, and its numbers were given out. -/
structure Fits (mesh : Mesh) (n : Nat) : Prop where
  sound : (mesh.channel n).IsSound
  line : ∀ address, (mesh.channel n).line.own? = some ⟨some address⟩ →
    (mesh.channel n).address = some address ∧
      ∃ isReachable, mesh.network.unicast.get? address = some ⟨.channel n, isReachable⟩
  known : ∀ number, (mesh.channel n).address = some (Memory.addressOf number) →
    number < mesh.network.nextNumber
  member : ∀ number, (mesh.channel n).group = .memory ⟨number, true⟩ →
    mesh.network.groups.get? number = some (.channel n)
  numbered : n < mesh.channels.length → ∀ number, (mesh.channel n).group.number? = some number →
    number < mesh.network.nextNumber ∧ number ≠ mesh.outsider.group.number

/-- **All channels fit**, no two say that they are at one place of the network, and no two have one number
in the group. -/
structure IsFitted (mesh : Mesh) : Prop where
  matched : mesh.IsMatched
  fits : ∀ n, mesh.Fits n
  keys : mesh.network.unicast.All fun address _ =>
    ∃ number < mesh.network.nextNumber, address = Memory.addressOf number
  outsider : mesh.outsider.group.number < mesh.network.nextNumber
  distinct : ∀ n m number, (mesh.channel n).address = some (Memory.addressOf number) →
    (mesh.channel m).address = some (Memory.addressOf number) → n = m
  apart : ∀ n m number, n < mesh.channels.length → m < mesh.channels.length →
    (mesh.channel n).group.number? = some number → (mesh.channel m).group.number? = some number → n = m

/-- The network holds of the other channels what it has held. -/
structure LeavesOthers (n : Nat) (before after : Mesh) : Prop where
  unicast : ∀ m, m ≠ n → ∀ address isReachable,
    before.network.unicast.get? address = some ⟨.channel m, isReachable⟩ →
      after.network.unicast.get? address = some ⟨.channel m, isReachable⟩
  groups : ∀ m, m ≠ n → ∀ number, before.network.groups.get? number = some (.channel m) →
    after.network.groups.get? number = some (.channel m)

theorem LeavesOthers.refl (n : Nat) (mesh : Mesh) : mesh.LeavesOthers n mesh :=
  ⟨fun _ _ _ _ found => found, fun _ _ _ found => found⟩

theorem LeavesOthers.trans (first : mesh.LeavesOthers n later) (second : later.LeavesOthers n last) :
    mesh.LeavesOthers n last :=
  ⟨fun m other address isReachable found =>
      second.unicast m other address isReachable (first.unicast m other address isReachable found),
    fun m other number found => second.groups m other number (first.groups m other number found)⟩

/-- Whoever takes part in broadcasts is there. -/
theorem there_of_joined {number : Nat} (joined : (mesh.channel n).group = .memory ⟨number, true⟩) :
    n < mesh.channels.length := by
  by_contra absent
  rw [channel_of_absent (Nat.le_of_not_lt absent)] at joined
  exact hasNoEnds_default.group number joined

/-- The address at which a channel is reached is numbered. -/
theorem IsFitted.exists_number (fitted : mesh.IsFitted) {address : Address}
    (reached : (mesh.channel n).line.own? = some ⟨some address⟩) :
    ∃ number < mesh.network.nextNumber, address = Memory.addressOf number := by
  obtain ⟨-, isReachable, found⟩ := (fitted.fits n).line address reached
  exact fitted.keys address _ found

/-- Two channels are not reached at one address. -/
theorem IsFitted.eq_of_reached (fitted : mesh.IsFitted) {m : Nat} {address : Address}
    (reached : (mesh.channel n).line.own? = some ⟨some address⟩)
    (claims : (mesh.channel m).address = some address) : m = n := by
  obtain ⟨number, -, rfl⟩ := fitted.exists_number reached
  exact fitted.distinct m n number claims ((fitted.fits n).line _ reached).1

/-! ### Small changes -/

/-- A channel fits that has the ends that it had, on a network that holds them still. -/
theorem Fits.of_ends (fits : mesh.Fits n) (sound : (later.channel n).IsSound)
    (ends : (later.channel n).ends = (mesh.channel n).ends)
    (unicast : ∀ address isReachable, mesh.network.unicast.get? address = some ⟨.channel n, isReachable⟩ →
      ∃ isReachable, later.network.unicast.get? address = some ⟨.channel n, isReachable⟩)
    (groups : ∀ number, mesh.network.groups.get? number = some (.channel n) →
      later.network.groups.get? number = some (.channel n))
    (next : mesh.network.nextNumber ≤ later.network.nextNumber)
    (outsider : later.outsider.group.number = mesh.outsider.group.number)
    (there : n < later.channels.length → n < mesh.channels.length) : later.Fits n := by
  have line : (later.channel n).line.own? = (mesh.channel n).line.own? := congrArg Channel.Ends.own? ends
  have group : (later.channel n).group = (mesh.channel n).group := congrArg Channel.Ends.group ends
  have address : (later.channel n).address = (mesh.channel n).address := congrArg Channel.Ends.address ends
  refine ⟨sound, fun place reached => ?_, fun number claims => ?_, fun number joined => ?_,
    fun isThere number has => ?_⟩
  · rw [line] at reached
    obtain ⟨claims, isReachable, found⟩ := fits.line place reached
    exact ⟨address.trans claims, unicast place isReachable found⟩
  · rw [address] at claims
    exact Nat.lt_of_lt_of_le (fits.known number claims) next
  · rw [group] at joined
    exact groups number (fits.member number joined)
  · rw [group] at has
    obtain ⟨given, other⟩ := fits.numbered (there isThere) number has
    exact ⟨Nat.lt_of_lt_of_le given next, outsider ▸ other⟩

/-- A channel fits that has no ends. -/
theorem fits_of_hasNoEnds (sound : (mesh.channel n).IsSound) (noEnds : (mesh.channel n).HasNoEnds)
    (nowhere : (mesh.channel n).address = none)
    (numbered : ∀ number, (mesh.channel n).group.number? = some number →
      number < mesh.network.nextNumber ∧ number ≠ mesh.outsider.group.number) : mesh.Fits n := by
  refine ⟨sound, fun address reached => absurd reached (noEnds.line address), fun number claims => ?_,
    fun number joined => absurd joined (noEnds.group number), fun _ => numbered⟩
  rw [nowhere] at claims
  cases claims

/-- The ends stay, on the network as with the channels. -/
theorem IsFitted.of_ends (fitted : mesh.IsFitted) (unicast : later.network.unicast = mesh.network.unicast)
    (groups : later.network.groups = mesh.network.groups)
    (next : mesh.network.nextNumber ≤ later.network.nextNumber) (outsider : later.outsider = mesh.outsider)
    (count : later.channels.length = mesh.channels.length)
    (ends : ∀ n, (later.channel n).ends = (mesh.channel n).ends)
    (sound : ∀ n, (later.channel n).IsSound) : later.IsFitted := by
  have line (n : Nat) : (later.channel n).line.own? = (mesh.channel n).line.own? :=
    congrArg Channel.Ends.own? (ends n)
  have group (n : Nat) : (later.channel n).group = (mesh.channel n).group := congrArg Channel.Ends.group (ends n)
  have address (n : Nat) : (later.channel n).address = (mesh.channel n).address :=
    congrArg Channel.Ends.address (ends n)
  have fits (n : Nat) : later.Fits n :=
    (fitted.fits n).of_ends (sound n) (ends n) (fun _ isReachable found => ⟨isReachable, unicast ▸ found⟩)
      (fun _ found => groups ▸ found) next (by rw [outsider]) fun there => count ▸ there
  refine ⟨⟨fun place endpoint found m receives => ?_, fun number receiver found m receives => ?_⟩, fits,
    fun place endpoint found => ?_, ?_, fun m other number one two => ?_,
    fun m other number there thereToo one two => ?_⟩
  · rw [line]
    exact fitted.matched.unicast place endpoint (unicast ▸ found) m receives
  · rw [group]
    exact fitted.matched.groups number receiver (groups ▸ found) m receives
  · obtain ⟨number, given, same⟩ := fitted.keys place endpoint (unicast ▸ found)
    exact ⟨number, Nat.lt_of_lt_of_le given next, same⟩
  · rw [outsider]
    exact Nat.lt_of_lt_of_le fitted.outsider next
  · rw [address] at one two
    exact fitted.distinct m other number one two
  · rw [group] at one two
    exact fitted.apart m other number (count ▸ there) (count ▸ thereToo) one two

/-- What is carried leaves channels and network fitted. -/
theorem IsFitted.of_carries (fitted : mesh.IsFitted) (carries : mesh.Carries terms later) :
    later.IsFitted := by
  refine fitted.of_ends (by rw [carries.network]) (by rw [carries.network]) (by rw [carries.network])
    carries.outsider carries.count (fun n => ?_) fun n => (carries.keeps n).isSound (fitted.fits n).sound
  have standing := (carries.keeps n).standing
  have line : (later.channel n).line.own? = (mesh.channel n).line.own? :=
    congrArg Channel.Standing.own? standing
  have group : (later.channel n).group = (mesh.channel n).group := congrArg Channel.Standing.group standing
  unfold Channel.ends
  rw [line, group, (carries.keeps n).address]

/-- A channel changes that keeps its ends. -/
theorem IsFitted.modify (fitted : mesh.IsFitted) (n : Nat) {change : Channel → Channel}
    (ends : (change (mesh.channel n)).ends = (mesh.channel n).ends)
    (sound : (change (mesh.channel n)).IsSound) : (mesh.modify n change).IsFitted := by
  refine fitted.of_ends rfl rfl (Nat.le_refl _) rfl (List.length_modify _ _ _) (fun m => ?_) fun m => ?_
  · rcases mesh.channel_modify_cases n change m with same | ⟨rfl, changed⟩
    · rw [same]
    · rw [changed, ends]
  · rcases mesh.channel_modify_cases n change m with same | ⟨rfl, changed⟩
    · rw [same]
      exact (fitted.fits m).sound
    · rw [changed]
      exact sound

/-- A single channel changes, and the network holds of the others what it has held. -/
theorem IsFitted.of_others (fitted : mesh.IsFitted) (alters : mesh.Alters n later)
    (leaves : mesh.LeavesOthers n later) (matched : later.IsMatched)
    (keys : later.network.unicast.All fun address _ =>
      ∃ number < later.network.nextNumber, address = Memory.addressOf number)
    (next : mesh.network.nextNumber ≤ later.network.nextNumber) (outsider : later.outsider = mesh.outsider)
    (number : (later.channel n).group.number? = (mesh.channel n).group.number?) (fits : later.Fits n)
    (alone : ∀ m, m ≠ n → ∀ number, (later.channel n).address = some (Memory.addressOf number) →
      (mesh.channel m).address ≠ some (Memory.addressOf number)) : later.IsFitted := by
  have numbers (m : Nat) : (later.channel m).group.number? = (mesh.channel m).group.number? := by
    by_cases same : m = n
    · rw [same, number]
    · rw [alters.others m same]
  refine ⟨matched, fun m => ?_, keys, ?_, fun m other place one two => ?_,
    fun m other place there thereToo one two => ?_⟩
  · by_cases same : m = n
    · exact same ▸ fits
    · have channel := alters.others m same
      have before := fitted.fits m
      exact before.of_ends (channel ▸ before.sound) (by rw [channel])
        (fun address isReachable found => ⟨isReachable, leaves.unicast m same address isReachable found⟩)
        (leaves.groups m same) next (by rw [outsider]) fun there => alters.count ▸ there
  · rw [outsider]
    exact Nat.lt_of_lt_of_le fitted.outsider next
  · by_cases first : m = n <;> by_cases second : other = n
    · rw [first, second]
    · rw [first] at one
      rw [alters.others other second] at two
      exact absurd two (alone other second place one)
    · rw [second] at two
      rw [alters.others m first] at one
      exact absurd one (alone m first place two)
    · rw [alters.others m first] at one
      rw [alters.others other second] at two
      exact fitted.distinct m other place one two
  · rw [numbers] at one two
    exact fitted.apart m other place (alters.count ▸ there) (alters.count ▸ thereToo) one two

/-! ### Links that are started -/

/-- The network holds nothing at the next address that it gives out. -/
theorem IsFitted.absent (fitted : mesh.IsFitted) :
    mesh.network.unicast.get? (Memory.addressOf mesh.network.nextNumber) = none := by
  cases found : mesh.network.unicast.get? (Memory.addressOf mesh.network.nextNumber) with
  | none => rfl
  | some endpoint =>
    obtain ⟨number, given, same⟩ := fitted.keys _ endpoint found
    rw [Memory.addressOf_injective same] at given
    exact absurd given (Nat.lt_irrefl _)

theorem get?_insert_next (fitted : mesh.IsFitted) {address : Address} {endpoint new : Memory.Endpoint Party}
    (found : mesh.network.unicast.get? address = some endpoint) :
    (mesh.network.unicast.insert (Memory.addressOf mesh.network.nextNumber) new).get? address =
      some endpoint := by
  rw [Table.get?_insert, if_neg, found]
  rintro rfl
  rw [fitted.absent] at found
  cases found

/-- The address at which a channel is reached: the next one of the network, or elsewhere. -/
theorem takeAddress_cases (there : n < mesh.channels.length) :
    (∃ own, (mesh.channel n).line = .memory own ∧
        (mesh.takeAddress n).channel n = { mesh.channel n with
          line := .memory ⟨some (Memory.addressOf mesh.network.nextNumber)⟩
          address := some (Memory.addressOf mesh.network.nextNumber) } ∧
        (mesh.takeAddress n).network = { mesh.network with
          nextNumber := mesh.network.nextNumber + 1
          unicast := mesh.network.unicast.insert (Memory.addressOf mesh.network.nextNumber)
            ⟨.channel n, true⟩ }) ∨
      ∃ client address, (mesh.channel n).line = .stream client ∧
        (∀ number, address ≠ Memory.addressOf number) ∧
        (mesh.takeAddress n).channel n =
          { mesh.channel n with line := .stream (client.start address), address := some address } ∧
        (mesh.takeAddress n).network = mesh.network := by
  unfold Mesh.takeAddress
  dsimp only
  split
  · rename_i own line
    exact .inl ⟨own, line, channel_modify there _, rfl⟩
  · rename_i client line
    exact .inr ⟨client, _, line, Socket.Endpoint.address_ne_addressOf _, channel_modify there _, rfl⟩

theorem takeAddress_outsider (mesh : Mesh) (n : Nat) : (mesh.takeAddress n).outsider = mesh.outsider := by
  unfold Mesh.takeAddress
  dsimp only
  split <;> rfl

theorem takeAddress_leaves (fitted : mesh.IsFitted) (there : n < mesh.channels.length) :
    mesh.LeavesOthers n (mesh.takeAddress n) := by
  rcases takeAddress_cases there with ⟨own, -, -, network⟩ | ⟨client, address, -, -, -, network⟩
  · refine ⟨fun m _ address isReachable found => ?_, fun m _ number found => ?_⟩
    · rw [network]
      exact get?_insert_next fitted found
    · rw [network]
      exact found
  · refine ⟨fun m _ address isReachable found => ?_, fun m _ number found => ?_⟩
    · rw [network]
      exact found
    · rw [network]
      exact found

/-- Wherever a channel is reached, it is at an address that the network has just given out or none of its own. -/
theorem IsFitted.reline (fitted : mesh.IsFitted) (there : n < mesh.channels.length)
    (begun : (mesh.channel n).phase ≠ .created) (nothing : (mesh.channel n).HasNothingQueued)
    (alters : mesh.Alters n later) (leaves : mesh.LeavesOthers n later) (matched : later.IsMatched)
    {line : UnicastLink} {address : Address}
    (channel : later.channel n = { mesh.channel n with line := line, address := some address })
    (groups : later.network.groups = mesh.network.groups) (outsider : later.outsider = mesh.outsider)
    (next : mesh.network.nextNumber ≤ later.network.nextNumber)
    (keys : later.network.unicast.All fun address _ =>
      ∃ number < later.network.nextNumber, address = Memory.addressOf number)
    (own : ∀ place, line.own? = some ⟨some place⟩ → address = place ∧
      ∃ isReachable, later.network.unicast.get? place = some ⟨.channel n, isReachable⟩)
    (fresh : ∀ number, address = Memory.addressOf number →
      mesh.network.nextNumber ≤ number ∧ number < later.network.nextNumber) : later.IsFitted := by
  have before := fitted.fits n
  refine fitted.of_others alters leaves matched keys next outsider (by rw [channel])
    ⟨?_, fun place reached => ?_, fun number claims => ?_, fun number joined => ?_, fun _ number has => ?_⟩
    fun m _ number claims same => ?_
  · rw [channel]
    have stillNothing : ({ mesh.channel n with line := line, address := some address } :
        Channel).HasNothingQueued := nothing
    exact before.sound.of_begun begun stillNothing.isStamped rfl (.refl _)
  · rw [channel] at reached ⊢
    obtain ⟨rfl, found⟩ := own place reached
    exact ⟨rfl, found⟩
  · rw [channel] at claims
    exact (fresh number (Option.some.inj claims)).2
  · rw [channel] at joined
    rw [groups]
    exact before.member number joined
  · rw [channel] at has
    rw [outsider]
    obtain ⟨given, other⟩ := before.numbered there number has
    exact ⟨Nat.lt_of_lt_of_le given next, other⟩
  · rw [channel] at claims
    have known := (fitted.fits m).known number same
    have given := (fresh number (Option.some.inj claims)).1
    omega

/-- **A channel is reached from now on** at an address that nobody else has. -/
theorem IsFitted.takeAddress (fitted : mesh.IsFitted) (there : n < mesh.channels.length)
    (noEnds : (mesh.channel n).HasNoEnds) (begun : (mesh.channel n).phase ≠ .created)
    (nothing : (mesh.channel n).HasNothingQueued) : (mesh.takeAddress n).IsFitted := by
  have alters := mesh.takeAddress_alters n
  have leaves := takeAddress_leaves fitted there
  have matched := fitted.matched.takeAddress there noEnds
  have outsider := mesh.takeAddress_outsider n
  rcases takeAddress_cases there with ⟨own, -, channel, network⟩ | ⟨client, address, -, elsewhere, channel, network⟩
  · refine fitted.reline there begun nothing alters leaves matched channel (by rw [network]) outsider
      (by simp [network]) ?_ (fun place reached => ?_) fun number same => ?_
    · rw [network]
      refine Table.All.insert (fun address endpoint found => ?_) ⟨_, Nat.lt_succ_self _, rfl⟩
      obtain ⟨number, given, same⟩ := fitted.keys address endpoint found
      exact ⟨number, Nat.lt_succ_of_lt given, same⟩
    · cases reached
      exact ⟨rfl, true, by simp [network]⟩
    · obtain rfl := Memory.addressOf_injective same
      simp [network]
  · exact fitted.reline there begun nothing alters leaves matched channel (by rw [network]) outsider
      (by rw [network]) (by rw [network]; exact fitted.keys) (fun place reached => by cases reached)
      fun number same => absurd same (elsewhere number)

/-- The sockets at which connections are accepted and what is ready are no matter of the ends. -/
theorem IsFitted.of_listening (fitted : mesh.IsFitted) (ports : List Port) (agenda : List Move) :
    ({ mesh with ports := ports, agenda := agenda } : Mesh).IsFitted :=
  fitted.of_ends rfl rfl (Nat.le_refl _) rfl rfl (fun _ => rfl) fun m => (fitted.fits m).sound

/-- What a channel does to take part in broadcasts: on the network, elsewhere, or in vain. -/
theorem startGroup_cases (mesh : Mesh) (n : Nat) :
    (∃ member, (mesh.channel n).group = .memory member ∧ mesh.startGroup n = (.ok (),
        ({ mesh with network := { mesh.network with
          groups := mesh.network.groups.insert member.number (.channel n) } }).modify n
            ({ · with group := .memory { member with isStarted := true } }))) ∨
      (∃ joined, (mesh.channel n).group.number? = none ∧
        mesh.startGroup n = (.ok (), mesh.modify n ({ · with group := .datagram joined }))) ∨
      ∃ error, mesh.startGroup n = (.error error, mesh) := by
  unfold Mesh.startGroup
  split
  · rename_i member group
    exact .inl ⟨member, group, rfl⟩
  · rename_i member group
    split
    · rename_i joined joins
      exact .inr (.inl ⟨joined, by rw [group]; rfl, rfl⟩)
    · rename_i error fails
      exact .inr (.inr ⟨error, rfl⟩)

/-- Numbers in the group that differ are those of different channels. -/
theorem IsFitted.number_ne (fitted : mesh.IsFitted) (there : n < mesh.channels.length) {m number place : Nat}
    (other : m ≠ n) (joined : mesh.network.groups.get? place = some (.channel m))
    (has : (mesh.channel n).group.number? = some number) : place ≠ number := by
  rintro rfl
  have group := fitted.matched.groups place _ joined m rfl
  exact other (fitted.apart m n place (there_of_joined group) there (by rw [group]; rfl) has)

theorem startGroup_leaves (fitted : mesh.IsFitted) (there : n < mesh.channels.length) :
    mesh.LeavesOthers n (mesh.startGroup n).2 := by
  rcases mesh.startGroup_cases n with ⟨member, group, starts⟩ | ⟨joined, -, starts⟩ | ⟨error, fails⟩
  · rw [starts]
    refine ⟨fun _ _ _ _ found => found, fun m other place found => ?_⟩
    show (mesh.network.groups.insert member.number (.channel n)).get? place = _
    have differs := fitted.number_ne there other found (by rw [group]; rfl)
    rw [Table.get?_insert, if_neg differs, found]
  · rw [starts]
    exact ⟨fun _ _ _ _ found => found, fun _ _ _ found => found⟩
  · rw [fails]
    exact .refl n mesh

/-- Whichever group a channel joins, it keeps its number there, its address and its line. -/
theorem IsFitted.regroup (fitted : mesh.IsFitted) (there : n < mesh.channels.length)
    (begun : (mesh.channel n).phase ≠ .created) {group : GroupLink} {network : Memory.Network Party}
    (regrouped : later = ({ mesh with network := network }).modify n ({ · with group := group }))
    (alters : mesh.Alters n later) (leaves : mesh.LeavesOthers n later) (matched : later.IsMatched)
    (unicast : network.unicast = mesh.network.unicast) (next : network.nextNumber = mesh.network.nextNumber)
    (number : group.number? = (mesh.channel n).group.number?)
    (member : ∀ number, group = .memory ⟨number, true⟩ → network.groups.get? number = some (.channel n)) :
    later.IsFitted := by
  have before := fitted.fits n
  have channel : later.channel n = { mesh.channel n with group := group } := by
    rw [regrouped]
    exact channel_modify there _
  have networked : later.network = network := by
    rw [regrouped]
    rfl
  have outsider : later.outsider = mesh.outsider := by
    rw [regrouped]
    rfl
  refine fitted.of_others alters leaves matched ?_ ?_ outsider ?_
    ⟨?_, fun place reached => ?_, fun place claims => ?_, fun place joined => ?_, fun _ place has => ?_⟩
    fun m other place claims same => ?_
  · rw [networked, unicast, next]
    exact fitted.keys
  · rw [networked, next]
  · rw [channel]
    exact number
  · rw [channel]
    exact before.sound.of_begun begun before.sound.stamped rfl (.refl _)
  · rw [channel] at reached ⊢
    rw [networked, unicast]
    exact before.line place reached
  · rw [channel] at claims
    rw [networked, next]
    exact before.known place claims
  · rw [channel] at joined
    rw [networked]
    exact member place joined
  · rw [channel] at has
    rw [networked, next, outsider]
    exact before.numbered there place (number ▸ has)
  · rw [channel] at claims
    exact other (fitted.distinct m n place same claims)

/-- **A channel takes part in broadcasts from now on.** -/
theorem IsFitted.startGroup (fitted : mesh.IsFitted) (there : n < mesh.channels.length)
    (begun : (mesh.channel n).phase ≠ .created) : (mesh.startGroup n).2.IsFitted := by
  have matched := fitted.matched.startGroup there
  have alters := mesh.startGroup_alters n
  have leaves := startGroup_leaves fitted there
  rcases mesh.startGroup_cases n with ⟨member, group, starts⟩ | ⟨joined, none, starts⟩ | ⟨error, fails⟩
  · refine fitted.regroup there begun (congrArg Prod.snd starts) alters leaves matched rfl rfl ?_ ?_
    · rw [group]
      rfl
    · intro number same
      cases same
      simp
  · exact fitted.regroup there begun (congrArg Prod.snd starts) alters leaves matched rfl rfl none.symm
      fun number same => absurd same (by simp)
  · rw [fails]
    exact fitted

/-! ### Links that are stopped -/

theorem network_stopLinks (mesh : Mesh) (n : Nat) : (mesh.stopLinks n).network =
    ((mesh.channel n).line.close ((mesh.channel n).group.close mesh.network).2).2 := rfl

/-- What a channel does to be reached no more. -/
theorem channel_stopLinks (there : n < mesh.channels.length) :
    (mesh.stopLinks n).channel n = { mesh.channel n with
      group := ((mesh.channel n).group.close mesh.network).1
      line := ((mesh.channel n).line.close ((mesh.channel n).group.close mesh.network).2).1 } :=
  channel_modify there _

theorem stopLinks_nextNumber (mesh : Mesh) (n : Nat) :
    (mesh.stopLinks n).network.nextNumber = mesh.network.nextNumber := by
  have line (line : UnicastLink) (network : Memory.Network Party) :
      (line.close network).2.nextNumber = network.nextNumber := by
    cases line with
    | stream client => rfl
    | memory own =>
      show (own.close network).2.nextNumber = _
      unfold Memory.UnicastEnd.close
      split <;> rfl
  have group (group : GroupLink) (network : Memory.Network Party) :
      (group.close network).2.nextNumber = network.nextNumber := by
    cases group with
    | datagram member => rfl
    | memory member =>
      show (member.close network).2.nextNumber = _
      unfold Memory.GroupEnd.close
      split <;> rfl
  exact (line _ _).trans (group _ _)

theorem stopLinks_leaves (fitted : mesh.IsFitted) (there : n < mesh.channels.length) :
    mesh.LeavesOthers n (mesh.stopLinks n) := by
  refine ⟨fun m other address isReachable found => ?_, fun m other number found => ?_⟩
  · have reached := fitted.matched.unicast address _ found m rfl
    rw [network_stopLinks, UnicastLink.get?_close, GroupLink.unicast_close, found]
    intro own
    exact other (fitted.eq_of_reached own ((fitted.fits m).line address reached).1)
  · rw [network_stopLinks, UnicastLink.groups_close, GroupLink.get?_close, found]
    exact fun has => fitted.number_ne there other found has rfl

/-- **A channel is reached no more.** -/
theorem IsFitted.stopLinks (fitted : mesh.IsFitted) (there : n < mesh.channels.length)
    (begun : (mesh.channel n).phase ≠ .created) : (mesh.stopLinks n).IsFitted := by
  have before := fitted.fits n
  have channel := channel_stopLinks there
  have next : (mesh.stopLinks n).network.nextNumber = mesh.network.nextNumber := stopLinks_nextNumber mesh n
  refine fitted.of_others (mesh.stopLinks_alters n) (stopLinks_leaves fitted there) fitted.matched.stopLinks
    (fun address endpoint found => ?_) (Nat.le_of_eq next.symm) rfl ?_
    ⟨?_, fun place reached => ?_, fun place claims => ?_, fun place joined => ?_, fun _ place has => ?_⟩
    fun m other place claims same => ?_
  · rw [network_stopLinks] at found
    obtain ⟨earlier, -⟩ := UnicastLink.endpoint_of_close found
    rw [GroupLink.unicast_close] at earlier
    rw [next]
    exact fitted.keys address endpoint earlier
  · rw [channel]
    exact GroupLink.number?_close _ _
  · rw [channel]
    exact before.sound.of_begun begun before.sound.stamped rfl (.refl _)
  · rw [channel] at reached
    exact absurd reached (UnicastLink.own?_of_isIdle (UnicastLink.close_isIdle _ _) place)
  · rw [channel] at claims
    rw [next]
    exact before.known place claims
  · rw [channel] at joined
    exact absurd joined (GroupLink.ne_of_isIdle (GroupLink.close_isIdle _ _) place)
  · rw [channel, GroupLink.number?_close] at has
    rw [next]
    exact before.numbered there place has
  · rw [channel] at claims
    exact other (fitted.distinct m n place same claims)

end Mesh

end PeerMesh
