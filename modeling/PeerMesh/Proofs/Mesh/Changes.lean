/-
**One channel changes by more than what traffic changes.**

Traffic leaves the roster of a mesh alone. A channel that is created, started, closed or moved to
another domain changes it.

* `Roster.Change` — one channel of a roster becomes another, with the same id, and the network changes
  by no more than that this channel is reached, and takes part in broadcasts, or does not any more.
  `Change.wired` says that the roster stays wired, and `Change.isMember` that everybody stays a member
  of its domain.
* `Mesh.InOrder` — the mesh is orderly, and its roster is wired. `InOrder.replace` says when it stays so
  if one channel changes, `InOrder.append` when a channel is added, and `InOrder.of_orderly` that traffic
  keeps it so.
-/

import PeerMesh.Proofs.Mesh.Rounds

namespace PeerMesh

theorem Channel.IsWired.mono {channel : Channel} {next later : Nat} (wired : channel.IsWired next)
    (grown : next ≤ later) : channel.IsWired later := by
  obtain ⟨number, isStarted, group, below⟩ := wired.group
  refine { wired with group := ⟨number, isStarted, group, by omega⟩, numbered := ?_ }
  intro address reached
  obtain ⟨short, number, low, same⟩ := wired.numbered address reached
  exact ⟨short, number, by omega, same⟩

/-- Who knows more members is in order with more of them. -/
theorem Channel.Orderly.mono {channel : Channel} {firm : Prop} {known others : NodeId → Address → Prop}
    (orderly : channel.Orderly firm known) (more : ∀ id address, known id address → others id address) :
    channel.Orderly firm others := by
  refine ⟨orderly.unwatched, orderly.idle, orderly.blank, fun job queued => ?_,
    fun isOpen key id address files => ?_, orderly.unattended⟩
  · obtain ⟨listener, tells⟩ := orderly.honest job queued
    exact ⟨listener, tells.mono more⟩
  · obtain ⟨filed, reason⟩ := orderly.informed isOpen key id address files
    exact ⟨filed, reason.imp_left (more id address)⟩

namespace Roster

/-- One channel becomes another, and the network changes by no more than what this channel does. -/
structure Change (roster : Roster) (n : Nat) (before after : Channel) (later : Roster) : Prop where
  channels : later.channels = roster.channels.modify n fun _ => after
  sameId : after.selfId = before.selfId
  keepsAddress : ∀ address, before.address = some address → after.address = some address
  newAddress : ∀ address, after.address = some address → before.address = some address ∨
    ∀ other ∈ roster.channels, other.address ≠ some address
  sameGroup : ∀ number joined, after.group = .memory ⟨number, joined⟩ →
    ∃ earlier, before.group = .memory ⟨number, earlier⟩
  counter : roster.network.nextNumber ≤ later.network.nextNumber
  endpoints : ∀ address endpoint, later.network.unicast.get? address = some endpoint →
    roster.network.unicast.get? address = some endpoint ∨
      (endpoint = ⟨.channel n, true⟩ ∧ after.address = some address)
  otherGroups : ∀ number, (∀ joined, before.group ≠ .memory ⟨number, joined⟩) →
    later.network.groups.get? number = roster.network.groups.get? number
  joined : after.IsOpen → ∃ number, after.group = .memory ⟨number, true⟩ ∧
    later.network.groups.get? number = some (.channel n)
  wired : after.IsWired later.network.nextNumber

/-- A channel that is reached where it was and takes part in broadcasts as it did has changed, and the
network has not. -/
theorem Wired.change {roster later : Roster} (wired : roster.Wired) {n : Nat} {before after : Channel}
    (there : roster.channels[n]? = some before)
    (channels : later.channels = roster.channels.modify n fun _ => after)
    (network : later.network = roster.network) (sameId : after.selfId = before.selfId)
    (address : after.address = before.address) (group : after.group = before.group)
    (opened : after.IsOpen → before.IsOpen) (own : after.IsWired roster.network.nextNumber) :
    roster.Change n before after later := by
  refine ⟨channels, sameId, fun place reached => address.trans reached,
    fun place reached => .inl (address.symm.trans reached),
    fun number joined same => ⟨joined, group.symm.trans same⟩, ?_, ?_, ?_, fun isOpen => ?_, ?_⟩
  · exact Nat.le_of_eq (congrArg Memory.Network.nextNumber network.symm)
  · rw [network]
    exact fun _ _ => .inl
  · rw [network]
    exact fun _ _ => rfl
  · obtain ⟨number, joined, takesPart⟩ := wired.joined n before there (opened isOpen)
    rw [network]
    exact ⟨number, group.trans joined, takesPart⟩
  · rw [network]
    exact own

namespace Change

variable {roster later : Roster} {n : Nat} {before after : Channel}

/-- The channels afterwards are those before, but for the one that changed. -/
theorem cases_there (change : roster.Change n before after later)
    {m : Nat} {channel : Channel} (found : later.channels[m]? = some channel) :
    (m = n ∧ channel = after) ∨ (m ≠ n ∧ roster.channels[m]? = some channel) := by
  rw [change.channels] at found
  exact (cases_modify found).imp_left fun ⟨same, _, _, changed⟩ => ⟨same, changed⟩

theorem there_self (change : roster.Change n before after later)
    (there : roster.channels[n]? = some before) : later.channels[n]? = some after := by
  rw [change.channels, List.getElem?_modify_eq, there]
  rfl

theorem there_other (change : roster.Change n before after later) {m : Nat} {channel : Channel}
    (other : m ≠ n) (found : roster.channels[m]? = some channel) :
    later.channels[m]? = some channel := by
  rw [change.channels, List.getElem?_modify_ne _ _ other.symm]
  exact found

/-- Every channel has the id and the place in the group that it had. -/
theorem earlier (change : roster.Change n before after later) (there : roster.channels[n]? = some before)
    {m : Nat} {channel : Channel} (found : later.channels[m]? = some channel) :
    ∃ old, roster.channels[m]? = some old ∧ old.selfId = channel.selfId ∧
      ∀ number joined, channel.group = .memory ⟨number, joined⟩ →
        ∃ earlier, old.group = .memory ⟨number, earlier⟩ := by
  rcases change.cases_there found with ⟨rfl, rfl⟩ | ⟨_, was⟩
  · exact ⟨before, there, change.sameId.symm, change.sameGroup⟩
  · exact ⟨channel, was, rfl, fun number joined group => ⟨joined, group⟩⟩

/-- Nobody else is reached where the changed channel is. -/
theorem address_ne (change : roster.Change n before after later) (wired : roster.Wired)
    (there : roster.channels[n]? = some before) {m : Nat} {other : Channel} (isOther : m ≠ n)
    (found : roster.channels[m]? = some other) {address : Address}
    (reached : after.address = some address) : other.address ≠ some address := by
  intro place
  rcases change.newAddress address reached with own | fresh
  · exact isOther (wired.distinctAddresses m n other before address found there place own)
  · exact fresh other (List.mem_of_getElem? found) place

/-- **The roster stays wired.** -/
theorem wired_later (change : roster.Change n before after later) (wired : roster.Wired)
    (there : roster.channels[n]? = some before) : later.Wired := by
  refine ⟨?_, ?_, ?_, ?_, ?_, ?_⟩
  · intro m k first second here place same
    obtain ⟨old, was, id, _⟩ := change.earlier there here
    obtain ⟨old', was', id', _⟩ := change.earlier there place
    exact wired.distinctIds m k old old' was was' (id.trans (same.trans id'.symm))
  · intro m k first second address here place reached reached'
    rcases change.cases_there here with ⟨rfl, rfl⟩ | ⟨other, was⟩
    · rcases change.cases_there place with ⟨rfl, rfl⟩ | ⟨other', was'⟩
      · rfl
      · exact absurd reached' (change.address_ne wired there other' was' reached)
    · rcases change.cases_there place with ⟨rfl, rfl⟩ | ⟨other', was'⟩
      · exact absurd reached (change.address_ne wired there other was reached')
      · exact wired.distinctAddresses m k first second address was was' reached reached'
  · intro m k first second number joined joined' here place group group'
    obtain ⟨old, was, _, earlier⟩ := change.earlier there here
    obtain ⟨old', was', _, earlier'⟩ := change.earlier there place
    obtain ⟨once, own⟩ := earlier number joined group
    obtain ⟨once', own'⟩ := earlier' number joined' group'
    exact wired.distinctGroups m k old old' number once once' was was' own own'
  · intro address endpoint found
    rcases change.endpoints address endpoint found with earlier | ⟨rfl, reached⟩
    · obtain ⟨reachable, m, channel, receiver, was, place⟩ := wired.endpoints address endpoint earlier
      refine ⟨reachable, m, ?_⟩
      by_cases same : m = n
      · subst same
        rw [there] at was
        obtain rfl := Option.some.inj was
        exact ⟨after, receiver, change.there_self there, change.keepsAddress address place⟩
      · exact ⟨channel, receiver, change.there_other same was, place⟩
    · exact ⟨rfl, n, after, rfl, change.there_self there, reached⟩
  · intro m channel found isOpen
    rcases change.cases_there found with ⟨rfl, rfl⟩ | ⟨other, was⟩
    · exact change.joined isOpen
    · obtain ⟨number, group, takesPart⟩ := wired.joined m channel was isOpen
      refine ⟨number, group, ?_⟩
      rw [change.otherGroups number fun joined own =>
        other (wired.distinctGroups m n channel before number true joined was there group own)]
      exact takesPart
  · intro channel listed
    obtain ⟨m, found⟩ := List.mem_iff_getElem?.mp listed
    rcases change.cases_there found with ⟨_, rfl⟩ | ⟨_, was⟩
    · exact change.wired
    · exact (wired.each channel (List.mem_of_getElem? was)).mono change.counter

/-- Everybody else stays a member of its domain. -/
theorem isMember_of_ne (change : roster.Change n before after later)
    (there : roster.channels[n]? = some before) {domain : String} {id : NodeId} {address : Address}
    (isMember : roster.IsMember domain id address) (other : id ≠ before.selfId) :
    later.IsMember domain id address := by
  obtain ⟨channel, listed, named, inDomain, place⟩ := isMember
  obtain ⟨m, found⟩ := List.mem_iff_getElem?.mp listed
  have isOther : m ≠ n := by
    rintro rfl
    rw [there] at found
    rw [Option.some.inj found] at other
    exact other named.symm
  exact ⟨channel, List.mem_of_getElem? (change.there_other isOther found), named, inDomain, place⟩

/-- **Everybody stays a member of its domain**, if the changed channel stays in its own. -/
theorem isMember (change : roster.Change n before after later)
    (there : roster.channels[n]? = some before) (sameDomain : after.domain = before.domain)
    {domain : String} {id : NodeId} {address : Address} (isMember : roster.IsMember domain id address) :
    later.IsMember domain id address := by
  obtain ⟨channel, listed, named, inDomain, place⟩ := isMember
  obtain ⟨m, found⟩ := List.mem_iff_getElem?.mp listed
  by_cases same : m = n
  · subst same
    rw [there] at found
    obtain rfl := Option.some.inj found
    exact ⟨after, List.mem_of_getElem? (change.there_self there), change.sameId.trans named,
      sameDomain.trans inDomain, change.keepsAddress address place⟩
  · exact ⟨channel, List.mem_of_getElem? (change.there_other same found), named, inDomain, place⟩

end Change

/-! ### A channel more -/

theorem cases_append {channels : List Channel} {last : Channel} {m : Nat} {channel : Channel}
    (found : (channels ++ [last])[m]? = some channel) :
    channels[m]? = some channel ∨ (m = channels.length ∧ channel = last) := by
  rw [List.getElem?_append] at found
  split at found
  · exact .inl found
  · rename_i beyond
    rw [List.getElem?_singleton] at found
    split at found
    · exact .inr ⟨by omega, (Option.some.inj found).symm⟩
    · cases found

/-- Nobody meets another one if nobody met before and nobody meets whoever is added. -/
theorem distinct_append {channels : List Channel} {last : Channel} (meets : Channel → Channel → Prop)
    (distinct : ∀ (m k : Nat) (first second : Channel), channels[m]? = some first →
      channels[k]? = some second → meets first second → m = k)
    (apart : ∀ (m : Nat) (channel : Channel), channels[m]? = some channel →
      ¬ meets channel last ∧ ¬ meets last channel)
    {m k : Nat} {first second : Channel} (here : (channels ++ [last])[m]? = some first)
    (place : (channels ++ [last])[k]? = some second) (meet : meets first second) : m = k := by
  rcases cases_append here with was | ⟨rfl, rfl⟩
  · rcases cases_append place with was' | ⟨rfl, rfl⟩
    · exact distinct m k first second was was' meet
    · exact absurd meet (apart m first was).1
  · rcases cases_append place with was' | ⟨rfl, rfl⟩
    · exact absurd meet (apart k second was').2
    · rfl

/-- **The roster stays wired** if a new channel comes, which nobody knows and which is nowhere yet. -/
theorem Wired.append {roster later : Roster} (wired : roster.Wired) {last : Channel}
    (channels : later.channels = roster.channels ++ [last])
    (network : later.network = { roster.network with nextNumber := roster.network.nextNumber + 1 })
    (fresh : ∀ other ∈ roster.channels, other.selfId ≠ last.selfId) (nowhere : last.address = none)
    (group : last.group = .memory ⟨roster.network.nextNumber, false⟩) (shut : ¬ last.IsOpen)
    (own : last.IsWired later.network.nextNumber) : later.Wired := by
  have notMet (m : Nat) (channel : Channel) (found : roster.channels[m]? = some channel) :
      ∀ joined, channel.group ≠ .memory ⟨roster.network.nextNumber, joined⟩ := by
    intro joined same
    obtain ⟨number, _, isGroup, below⟩ := (wired.at found).group
    rw [isGroup] at same
    cases same
    exact Nat.lt_irrefl _ below
  refine ⟨?_, ?_, ?_, ?_, ?_, ?_⟩ <;> rw [channels]
  · intro m k first second here place same
    refine distinct_append (fun first second => first.selfId = second.selfId)
      wired.distinctIds (fun m channel found => ?_) here place same
    have differs := fresh channel (List.mem_of_getElem? found)
    exact ⟨differs, fun same => differs same.symm⟩
  · intro m k first second address here place reached reached'
    refine distinct_append
      (fun first second => first.address = some address ∧ second.address = some address)
      (fun m k first second was was' meet =>
        wired.distinctAddresses m k first second address was was' meet.1 meet.2)
      (fun m channel found => ?_) here place ⟨reached, reached'⟩
    rw [nowhere]
    refine ⟨?_, ?_⟩
    · rintro ⟨_, isAt⟩
      cases isAt
    · rintro ⟨isAt, _⟩
      cases isAt
  · intro m k first second number joined joined' here place isGroup isGroup'
    refine distinct_append (fun first second =>
        first.group = .memory ⟨number, joined⟩ ∧ second.group = .memory ⟨number, joined'⟩)
      (fun m k first second was was' meet =>
        wired.distinctGroups m k first second number joined joined' was was' meet.1 meet.2)
      (fun m channel found => ?_) here place ⟨isGroup, isGroup'⟩
    rw [group]
    refine ⟨?_, ?_⟩
    · rintro ⟨met, same⟩
      cases same
      exact notMet m channel found joined met
    · rintro ⟨same, met⟩
      cases same
      exact notMet m channel found joined' met
  · intro address endpoint found
    rw [network] at found
    obtain ⟨reachable, m, channel, receiver, was, place⟩ := wired.endpoints address endpoint found
    refine ⟨reachable, m, channel, receiver, ?_, place⟩
    rw [List.getElem?_append_left (List.getElem?_eq_some_iff.mp was).1]
    exact was
  · intro m channel found isOpen
    rcases cases_append found with was | ⟨rfl, rfl⟩
    · rw [network]
      exact wired.joined m channel was isOpen
    · exact absurd isOpen shut
  · intro channel listed
    rcases List.mem_append.mp listed with was | isLast
    · refine (wired.each channel was).mono ?_
      rw [network]
      exact Nat.le_succ _
    · rw [List.mem_singleton.mp isLast]
      exact own

theorem IsMember.append {roster later : Roster} {last : Channel}
    (channels : later.channels = roster.channels ++ [last]) {domain : String} {id : NodeId}
    {address : Address} (isMember : roster.IsMember domain id address) :
    later.IsMember domain id address := by
  obtain ⟨channel, listed, others⟩ := isMember
  refine ⟨channel, ?_, others⟩
  rw [channels]
  exact List.mem_append_left _ listed

end Roster

namespace Mesh

variable {mesh later : Mesh} {n : Nat} {channel after : Channel}

/-- The mesh is orderly, and its roster is wired. -/
structure InOrder (mesh : Mesh) : Prop where
  wired : mesh.roster.Wired
  orderly : mesh.Orderly mesh.roster fun _ => False

/-- No channel need be firm. -/
theorem Orderly.weaken {roster : Roster} {firm : Nat → Prop} (orderly : mesh.Orderly roster firm) :
    mesh.Orderly roster fun _ => False := by
  refine ⟨orderly.sameRoster, orderly.noErrands, fun m channel found => ?_⟩
  have each := orderly.each m channel found
  refine { each with informed := fun isOpen key id address files => ?_ }
  obtain ⟨filed, reason⟩ := each.informed isOpen key id address files
  exact ⟨filed, reason.imp_right fun ⟨_, leaves⟩ => ⟨not_false, leaves⟩⟩

/-- A channel is firm if no departure of one of its peers is queued with it. -/
theorem Orderly.firmUp {roster : Roster} (orderly : mesh.Orderly roster fun _ => False)
    {firm : Nat → Prop} (isCalm : ∀ m channel, mesh.channels[m]? = some channel → firm m →
      ∀ key id address, channel.view.Files key id address → ¬ channel.HasLeaveOf id) :
    mesh.Orderly roster firm := by
  refine ⟨orderly.sameRoster, orderly.noErrands, fun m channel found => ?_⟩
  have each := orderly.each m channel found
  refine { each with informed := fun isOpen key id address files => ?_ }
  obtain ⟨filed, reason⟩ := each.informed isOpen key id address files
  exact ⟨filed, reason.imp_right fun ⟨_, leaves⟩ =>
    ⟨fun isFirm => isCalm m channel found isFirm key id address files leaves, leaves⟩⟩

namespace InOrder

/-- **Traffic keeps a mesh in order.** -/
theorem of_orderly (inOrder : mesh.InOrder) {firm : Nat → Prop}
    (orderly : later.Orderly mesh.roster firm) : later.InOrder := by
  have kept := orderly.weaken
  rw [← orderly.sameRoster] at kept
  refine ⟨?_, kept⟩
  rw [orderly.sameRoster]
  exact inOrder.wired

/-- Only the channels, the network and the errands matter. -/
theorem of_same (inOrder : mesh.InOrder) (channels : later.channels = mesh.channels)
    (network : later.network = mesh.network) (errands : later.errands = mesh.errands) :
    later.InOrder :=
  inOrder.of_orderly (inOrder.orderly.of_same channels network errands)

theorem there (found : mesh.channels[n]? = some channel) :
    mesh.roster.channels[n]? = some channel.atRest := by
  show (mesh.channels.map Channel.atRest)[n]? = _
  rw [List.getElem?_map, found]
  rfl

/-- The roster of a mesh of which one channel changes. -/
theorem roster_channels (channels : later.channels = mesh.channels.modify n fun _ => after) :
    later.roster.channels = mesh.roster.channels.modify n fun _ => after.atRest := by
  show later.channels.map Channel.atRest = (mesh.channels.map Channel.atRest).modify n _
  rw [channels]
  exact map_modify fun _ _ => rfl

/-- **A mesh of which one channel changes stays in order**, if all channels are in order in the roster
that comes of it. -/
theorem replace (inOrder : mesh.InOrder) (found : mesh.channels[n]? = some channel)
    (channels : later.channels = mesh.channels.modify n fun _ => after)
    (errands : later.errands = [])
    (change : mesh.roster.Change n channel.atRest after.atRest later.roster)
    (own : after.Orderly False (later.roster.IsMember after.domain))
    (others : ∀ m other, m ≠ n → mesh.channels[m]? = some other →
      other.Orderly False (later.roster.IsMember other.domain)) : later.InOrder := by
  refine ⟨change.wired_later inOrder.wired (there found), rfl, errands, fun m other place => ?_⟩
  rw [channels] at place
  rcases cases_modify place with ⟨_, _, _, rfl⟩ | ⟨isOther, was⟩
  · exact own
  · exact others m other isOther was

/-- **The same if the channel stays in its domain**; then all others are in order as they were. -/
theorem replace_in_domain (inOrder : mesh.InOrder) (found : mesh.channels[n]? = some channel)
    (channels : later.channels = mesh.channels.modify n fun _ => after)
    (errands : later.errands = [])
    (change : mesh.roster.Change n channel.atRest after.atRest later.roster)
    (sameDomain : after.domain = channel.domain)
    (own : after.Orderly False (mesh.roster.IsMember channel.domain)) : later.InOrder := by
  have more : ∀ domain id address, mesh.roster.IsMember domain id address →
      later.roster.IsMember domain id address :=
    fun _ _ _ => change.isMember (there found) sameDomain
  refine inOrder.replace found channels errands change ?_ fun m other _ was =>
    (inOrder.orderly.each m other was).mono (more other.domain)
  rw [sameDomain]
  exact own.mono (more channel.domain)

/-- **A mesh to which a channel is added stays in order.** -/
theorem append (inOrder : mesh.InOrder) {last : Channel}
    (channels : later.channels = mesh.channels ++ [last]) (errands : later.errands = [])
    (wired : later.roster.Wired)
    (own : ∀ known : NodeId → Address → Prop, last.Orderly False known) : later.InOrder := by
  have listed : later.roster.channels = mesh.roster.channels ++ [last.atRest] := by
    show later.channels.map Channel.atRest = _
    rw [channels, List.map_append]
    rfl
  refine ⟨wired, rfl, errands, fun m channel found => ?_⟩
  rw [channels] at found
  rcases Roster.cases_append found with was | ⟨_, rfl⟩
  · exact (inOrder.orderly.each m channel was).mono fun _ _ => Roster.IsMember.append listed
  · exact own _

end InOrder

end Mesh

end PeerMesh
