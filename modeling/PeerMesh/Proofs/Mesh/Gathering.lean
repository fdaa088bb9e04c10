/-
**The channels of a domain gather.**

* `Mesh.Gathers` — all channels are at ease, and any two of one domain that have announced themselves meet.
* `Gathers.goesOn` — they go on gathering while nothing is taken from a queue and nobody is new.
* `Gathers.announce` — an announcement comes to everybody of the domain (`Gathers.announced`).
* `Gathers.deliver` — what was queued of a meeting and is handled brings it to its next stage.
* `Gathers.create`, `Gathers.start` — channels are new, and have not announced themselves.
-/

import PeerMesh.Proofs.Mesh.Handling

namespace PeerMesh

/-- **A channel that is started is at ease.** -/
theorem Channel.HasStarted.isAtEase {before after : Channel} {address : Address} {number n : Nat}
    {network : Memory.Network Party} (started : before.HasStarted address number after)
    (hospitable : before.IsHospitable) (short : textLength address.text ≤ 84)
    (endpoint : network.unicast.get? address = some ⟨.channel n, true⟩) : after.IsAtEase n network := by
  have view : after.view = before.view := congrArg Watched.view started.watched
  refine ⟨⟨?_, ?_, fun id => ?_⟩, fun job queued => ?_, ?_, fun _ => ?_⟩
  · rw [started.watched]
    exact hospitable.unwatched
  · rw [view]
    exact hospitable.notClosed
  · rw [view]
    exact hospitable.nobodyDead id
  · obtain ⟨pool, opened, _, empty⟩ := started.ready.opened
    rw [Consumer.pending_of_open opened, empty] at queued
    cases queued
  · rw [started.phase]
    exact Phase.noConfusion
  · exact ⟨started.ready.enlisted, address, started.reached, short, endpoint⟩

namespace Mesh

variable {mesh later : Mesh} {n m k : Nat} {channel other first second : Channel} {event : Event}

/-- Any two channels of one domain that have announced themselves meet. -/
structure Gathers (mesh : Mesh) : Prop where
  inOrder : mesh.InOrder
  spared : mesh.IsSpared
  peaceful : mesh.IsPeaceful
  meets : ∀ (n m : Nat) (first second : Channel), n ≠ m → mesh.channels[n]? = some first →
    mesh.channels[m]? = some second → mesh.hasAnnounced n = true → mesh.hasAnnounced m = true →
      first.domain = second.domain → first.Meets second

/-- **The channels go on gathering** while nothing is taken from a queue and nobody is new. -/
theorem Gathers.goesOn (gathers : mesh.Gathers) (goesOn : mesh.GoesOn later) (inOrder : later.InOrder)
    (spared : later.IsSpared) : later.Gathers := by
  refine ⟨inOrder, spared, goesOn.isPeaceful gathers.peaceful spared, ?_⟩
  intro n m first' second' apart isThere isThere' said said' sameDomain
  obtain ⟨first, found, begins⟩ := goesOn.exists_before isThere
  obtain ⟨second, place, others⟩ := goesOn.exists_before isThere'
  rw [goesOn.announced] at said said'
  rw [begins.domain, others.domain] at sameDomain
  exact goesOn.meets gathers.peaceful spared found place
    (gathers.meets n m first second apart found place said said' sameDomain) isThere isThere'

/-! ### An announcement -/

/-- **Either a channel does not announce itself, or its announcement goes out**, and everything goes on. -/
theorem announce_cases (found : mesh.channels[n]? = some channel) :
    mesh.announce n = mesh ∨ ∃ announcing,
      ((mesh.modify n fun channel => { channel with announcing := announcing }).postAll n
        (channel.announcement.toOption.map .broadcast).toList).GoesOn (mesh.announce n) := by
  have again (posted : Mesh) (isDue : Bool) :
      posted.GoesOn (if isDue then posted.enqueueFirst (.announce n) else posted) := by
    split
    · exact (GoesOn.refl _).of_same rfl rfl fun _ => rfl
    · exact .refl _
  unfold announce
  dsimp only
  rw [channel_eq found]
  split
  · exact .inl rfl
  · split
    · exact .inl rfl
    · exact .inr ⟨_, again _ _⟩

/-- Only the announcements that are still to be made change. -/
theorem reannounce_goesOn (mesh : Mesh) (n : Nat) (announcing : Option Announcing) :
    mesh.GoesOn (mesh.modify n fun channel => { channel with announcing := announcing }) :=
  mesh.modify_goesOn n fun _ _ =>
    ⟨rfl, rfl, rfl, rfl, List.Subset.refl _, fun _ queued => .inl queued, Nat.le_refl _, .refl _⟩

/-- Only the channel that hands on an event has announced itself by it. -/
theorem hasAnnounced_of_note {outgoing : Outgoing}
    (said : (mesh.note (.posted n outgoing)).hasAnnounced k = true) :
    k = n ∨ mesh.hasAnnounced k = true := by
  obtain isNew | earlier := Bool.or_eq_true_iff.mp
    (show ((Occurrence.posted n outgoing).announces k || mesh.hasAnnounced k) = true from said)
  · left
    cases outgoing with
    | broadcast event => exact (of_decide_eq_true (Bool.and_eq_true_iff.mp isNew).1).symm
    | send address event => cases isNew
  · exact .inr earlier

/-- **An announcement comes to everybody of the domain who is started.** -/
theorem IsPeaceful.announcement_hasHeard (peaceful : mesh.IsPeaceful) (inOrder : mesh.InOrder)
    (found : mesh.channels[n]? = some channel) (announces : channel.announcement = .ok event)
    (place : mesh.channels[k]? = some other) (apart : n ≠ k) (othersStarted : other.phase = .started)
    (sameDomain : channel.domain = other.domain) : (mesh.post n (.broadcast event)).2.HasHeard k event := by
  have wired := inOrder.wired.at (InOrder.there found)
  have wired' := inOrder.wired.at (InOrder.there place)
  obtain ⟨started, friendly⟩ := (peaceful.atEase n channel found).announcement wired announces
  obtain ⟨address, _, said⟩ := Channel.eq_of_announcement announces
  have made : event.kind = ProtocolKind.publish.text := by rw [said]
  have differ : event.origin ≠ other.selfId := by
    rw [said]
    exact inOrder.selfId_ne found place apart
  have admitted : event.scope.admits other.domain = true := by
    rw [said, sameDomain]
    exact beq_self_eq_true _
  exact broadcast_hasHeard inOrder found (Channel.isOpen_atRest.mp (wired.started started)) place
    (Channel.isOpen_atRest.mp (wired'.started othersStarted)) friendly
    ((peaceful.atEase k other place).isOpenTo wired' othersStarted made differ admitted)

/-- **When an announcement goes out, the channels go on gathering.** -/
theorem Gathers.announced (gathers : mesh.Gathers) (found : mesh.channels[n]? = some channel)
    (announces : channel.announcement = .ok event)
    (goesOn : (mesh.post n (.broadcast event)).2.GoesOn later) (inOrder : later.InOrder)
    (spared : later.IsSpared) : later.Gathers := by
  have atEase := gathers.peaceful.atEase n channel found
  obtain ⟨started, friendly⟩ :=
    atEase.announcement (gathers.inOrder.wired.at (InOrder.there found)) announces
  have goesOut : (mesh.note (.posted n (.broadcast event))).GoesOn (mesh.post n (.broadcast event)).2 :=
    mesh.posted_goesOn n friendly
  have whole := goesOut.trans goesOn
  have peaceful : (mesh.note (.posted n (.broadcast event))).IsPeaceful := by
    refine ⟨gathers.peaceful.atEase, fun k said => ?_⟩
    obtain rfl | earlier := hasAnnounced_of_note said
    · exact ⟨channel, found, started⟩
    · exact gathers.peaceful.announced k earlier
  obtain ⟨after, isAfter, begins⟩ := whole.channels n channel found
  have ownId : after.selfId = channel.selfId :=
    (begins.retains_of_spared atEase (spared after (List.mem_of_getElem? isAfter))).1.sameOwner
  -- whoever of the domain has announced itself before has the announcement in its queue
  have awaits (k : Nat) (last : Channel) (apart : k ≠ n) (isThere : later.channels[k]? = some last)
      (said : later.hasAnnounced k = true) (sameDomain : last.domain = after.domain) :
      last.Awaits .publish after.selfId := by
    rw [whole.announced] at said
    obtain ⟨other, place, othersStarted⟩ :=
      gathers.peaceful.announced k ((hasAnnounced_of_note said).resolve_left apart)
    obtain ⟨same, isSame, others⟩ := whole.channels k other place
    obtain rfl := Option.some.inj (isThere.symm.trans isSame)
    rw [others.domain, begins.domain] at sameDomain
    obtain ⟨same, isSame, heard⟩ := goesOn.hasHeard (gathers.peaceful.announcement_hasHeard
      gathers.inOrder found announces place apart.symm othersStarted sameDomain.symm)
    obtain rfl := Option.some.inj (isThere.symm.trans isSame)
    obtain ⟨address, _, rfl⟩ := Channel.eq_of_announcement announces
    rw [ownId]
    exact heard.awaits (spared last (List.mem_of_getElem? isThere)) rfl
  refine ⟨inOrder, spared, whole.isPeaceful peaceful spared, ?_⟩
  intro k m first' second' apart isThere isThere' said said' sameDomain
  by_cases isFirst : k = n
  · rw [isFirst, isAfter] at isThere
    obtain rfl := Option.some.inj isThere
    exact .isAnswered (awaits m second' (fun same => apart (isFirst.trans same.symm)) isThere' said'
      sameDomain.symm)
  by_cases isSecond : m = n
  · rw [isSecond, isAfter] at isThere'
    obtain rfl := Option.some.inj isThere'
    exact .hears (.inl rfl) (awaits k first' isFirst isThere said sameDomain)
  · obtain ⟨first, isFirst', starts⟩ := whole.exists_before isThere
    obtain ⟨second, isSecond', others⟩ := whole.exists_before isThere'
    rw [whole.announced] at said said'
    rw [starts.domain, others.domain] at sameDomain
    refine whole.meets peaceful spared isFirst' isSecond' ?_ isThere isThere'
    exact gathers.meets k m first second apart isFirst' isSecond'
      ((hasAnnounced_of_note said).resolve_left isFirst)
      ((hasAnnounced_of_note said').resolve_left isSecond) sameDomain

/-- **When a channel announces itself, the channels go on gathering.** -/
theorem Gathers.announce (gathers : mesh.Gathers) (n : Nat) (inOrder : (mesh.announce n).InOrder)
    (spared : (mesh.announce n).IsSpared) : (mesh.announce n).Gathers := by
  cases found : mesh.channels[n]? with
  | none =>
    have same : mesh.announce n = mesh := by
      unfold Mesh.announce
      rw [channel_default found]
      rfl
    rw [same]
    exact gathers
  | some channel =>
    obtain same | ⟨announcing, goesOn⟩ := announce_cases found
    · rw [same]
      exact gathers
    have begins := mesh.reannounce_goesOn n announcing
    cases announces : channel.announcement with
    | error error =>
      rw [announces] at goesOn
      exact gathers.goesOn (begins.trans goesOn) inOrder spared
    | ok event =>
      rw [announces] at goesOn
      let counted := mesh.modify n fun channel => { channel with announcing := announcing }
      have isThere : counted.channels[n]? = some { channel with announcing := announcing } := by
        show (mesh.channels.modify n _)[n]? = _
        rw [List.getElem?_modify_eq, found]
        rfl
      have stillSpared : counted.IsSpared := by
        intro changed listed
        obtain ⟨k, there⟩ := List.mem_iff_getElem?.mp listed
        obtain ⟨_, earlier, was, rfl⟩ | ⟨_, was⟩ := cases_modify there
        · exact gathers.spared earlier (List.mem_of_getElem? was)
        · exact gathers.spared changed (List.mem_of_getElem? was)
      have stillInOrder := gathers.inOrder.of_orderly (gathers.inOrder.orderly.reannounce n announcing)
      exact (gathers.goesOn begins stillInOrder stillSpared).announced isThere announces goesOn inOrder
        spared

/-! ### A delivery -/

/-- **When a worker handles an event, the channels go on gathering**: whoever has made itself known is a
peer then, and whoever has announced itself hears of the channel. -/
theorem Gathers.deliver (gathers : mesh.Gathers) (n : Nat) (inOrder : (mesh.deliver n).InOrder)
    (spared : (mesh.deliver n).IsSpared) : (mesh.deliver n).Gathers := by
  obtain same | ⟨channel, job, consumer, changed, handles⟩ := exists_handles gathers.inOrder n
  · rw [same]
    exact gathers
  have dequeued := handles.dequeued_isPeaceful gathers.peaceful
  obtain ⟨begins, goesOn⟩ := handles.dequeued_goesOn gathers.inOrder gathers.peaceful
  have whole := begins.trans goesOn
  refine ⟨inOrder, spared, whole.isPeaceful dequeued spared, ?_⟩
  intro k m first' second' apart isThere isThere' said said' sameDomain
  rw [whole.announced] at said said'
  obtain ⟨first, isFirst, starts⟩ := whole.exists_before isThere
  obtain ⟨second, isSecond, others⟩ := whole.exists_before isThere'
  obtain ⟨before, found, home, view, keeps⟩ := handles.exists_before isFirst
  obtain ⟨before', place, home', view', keeps'⟩ := handles.exists_before isSecond
  have sameId : first.selfId = before.selfId := congrArg View.selfId view
  have sameId' : second.selfId = before'.selfId := congrArg View.selfId view'
  rw [starts.domain, others.domain, home, home'] at sameDomain
  have stillMeets (meets : first.Meets second) : first'.Meets second' :=
    whole.meets dequeued spared isFirst isSecond meets isThere isThere'
  cases gathers.meets k m before before' apart found place said said' sameDomain with
  | knows live =>
    refine stillMeets (.knows ?_)
    rw [view, sameId']
    exact live
  | hears makesKnown queued =>
    obtain stays | ⟨isHere, made, origin⟩ := keeps _ _ queued
    · refine stillMeets (.hears makesKnown ?_)
      rw [sameId']
      exact stays
    · -- it is this event that is handled
      subst isHere
      have known := handles.knows gathers.inOrder gathers.peaceful place apart makesKnown made origin
      have peaceful := begins.isPeaceful dequeued (goesOn.isSpared spared)
      exact goesOn.meets peaceful spared handles.there (handles.there_other apart place) (.knows known) isThere
        isThere'
  | isAnswered queued =>
    obtain stays | ⟨isHere, made, origin⟩ := keeps' _ _ queued
    · refine stillMeets (.isAnswered ?_)
      rw [sameId]
      exact stays
    · subst isHere
      obtain ⟨_, isFound, othersStarted⟩ := gathers.peaceful.announced k said
      obtain rfl := Option.some.inj (found.symm.trans isFound)
      obtain rfl := Option.some.inj (handles.found.symm.trans place)
      obtain ⟨reply, isReply, source, last, isLast, heard⟩ := handles.answers gathers.inOrder
        gathers.peaceful found apart.symm othersStarted made origin
      obtain rfl := Option.some.inj (isThere.symm.trans isLast)
      have stays := (others.retains_of_spared (dequeued.atEase m second isSecond)
        (spared second' (List.mem_of_getElem? isThere'))).1
      have ownId : second'.selfId = channel.selfId := stays.sameOwner.trans sameId'
      refine .hears (.inr rfl) ?_
      rw [ownId, ← source]
      exact heard.awaits (spared first' (List.mem_of_getElem? isThere)) isReply

/-! ### New channels -/

/-- The channels go on gathering if those that have announced themselves stay as they are. -/
theorem Gathers.of_kept (gathers : mesh.Gathers) (inOrder : later.InOrder) (spared : later.IsSpared)
    (log : later.log = mesh.log)
    (atEase : ∀ (k : Nat) (channel : Channel), later.channels[k]? = some channel →
      channel.IsAtEase k later.network)
    (kept : ∀ (k : Nat) (channel : Channel), mesh.channels[k]? = some channel →
      channel.phase = .started → later.channels[k]? = some channel) : later.Gathers := by
  have announced (k : Nat) (said : later.hasAnnounced k = true) : mesh.hasAnnounced k = true := by
    unfold hasAnnounced at said ⊢
    rw [← log]
    exact said
  have stays (k : Nat) (said : later.hasAnnounced k = true) :
      ∃ channel, mesh.channels[k]? = some channel ∧ later.channels[k]? = some channel ∧
        channel.phase = .started := by
    obtain ⟨channel, found, started⟩ := gathers.peaceful.announced k (announced k said)
    exact ⟨channel, found, kept k channel found started, started⟩
  refine ⟨inOrder, spared, ⟨atEase, fun k said => ?_⟩, ?_⟩
  · obtain ⟨channel, _, isThere, started⟩ := stays k said
    exact ⟨channel, isThere, started⟩
  · intro k m first second apart isThere isThere' said said'
    obtain ⟨_, found, same, _⟩ := stays k said
    obtain ⟨_, place, same', _⟩ := stays m said'
    obtain rfl := Option.some.inj (isThere.symm.trans same)
    obtain rfl := Option.some.inj (isThere'.symm.trans same')
    exact gathers.meets k m first second apart found place (announced k said) (announced m said')

/-- **A channel is created**, and the others go on gathering. -/
theorem Gathers.create (gathers : mesh.Gathers) (label : String) {settings : Settings}
    (broadcasts : settings.broadcastTransport true = .ok .memory)
    (unicasts : settings.unicastTransport true = .ok .memory)
    (inOrder : (mesh.create label settings true).2.InOrder)
    (spared : (mesh.create label settings true).2.IsSpared) :
    (mesh.create label settings true).2.Gathers := by
  unfold Mesh.create at inOrder spared ⊢
  rw [broadcasts] at inOrder spared ⊢
  cases valid : settings.validate with
  | error error => exact gathers
  | ok done =>
    rw [valid] at inOrder spared
    dsimp only at inOrder spared ⊢
    rw [unicasts] at inOrder spared ⊢
    refine gathers.of_kept inOrder spared rfl (fun k channel isThere => ?_) fun k channel found _ => ?_
    · obtain was | ⟨_, rfl⟩ := Roster.cases_append isThere
      · exact (gathers.peaceful.atEase k channel was).of_network fun _ _ => rfl
      · refine ⟨⟨rfl, rfl, fun _ => rfl⟩, fun job queued => ?_, ?_, fun started => ?_⟩
        · cases queued
        · exact Phase.noConfusion
        · cases started
    · show (mesh.channels ++ [_])[k]? = some channel
      rw [List.getElem?_append_left (List.getElem?_eq_some_iff.mp found).1]
      exact found

/-- **A channel is started**, and the others go on gathering. -/
theorem Gathers.start (gathers : mesh.Gathers) (isThere : n < mesh.channels.length)
    (can : mesh.cannotStart n = false) (small : mesh.network.nextNumber < 2 ^ 64)
    (inOrder : (mesh.start n).2.InOrder) (spared : (mesh.start n).2.IsSpared) : (mesh.start n).2.Gathers := by
  obtain ⟨channel, found⟩ : ∃ channel, mesh.channels[n]? = some channel :=
    ⟨_, List.getElem?_eq_getElem isThere⟩
  cases phase : channel.phase with
  | started | closed =>
    have idle : (mesh.start n).2 = mesh := by
      unfold Mesh.start
      rw [channel_eq found, phase]
    rw [idle]
    exact gathers
  | created =>
    have wired := gathers.inOrder.wired.at (InOrder.there found)
    obtain ⟨_, fresh⟩ := wired.created phase
    obtain ⟨number, isStarted, group, _⟩ := wired.group
    obtain ⟨own, line, _⟩ := wired.line
    have room : Channel.overflows channel.settings = false := by
      unfold Mesh.cannotStart at can
      dsimp only at can
      rw [channel_eq found, phase] at can
      exact can
    obtain ⟨after, started, differs⟩ := start_differs found phase fresh line group room
    refine gathers.of_kept inOrder spared differs.log (fun k other isThere => ?_)
      fun k other place othersStarted => ?_
    · rw [differs.channels] at isThere
      rw [differs.network]
      obtain ⟨rfl, _, _, rfl⟩ | ⟨_, was⟩ := cases_modify isThere
      · refine started.isAtEase (gathers.peaceful.atEase k channel found).hospitable
          (Memory.textLength_addressOf_le small) ?_
        rw [Table.get?_insert, if_pos rfl]
      · -- nobody else has the new address
        refine (gathers.peaceful.atEase k other was).of_network fun address reached => ?_
        rw [Table.get?_insert, if_neg]
        rintro rfl
        obtain ⟨_, earlier, low, same⟩ :=
          (gathers.inOrder.wired.at (InOrder.there was)).numbered _ reached
        rw [← Memory.addressOf_injective same] at low
        exact Nat.lt_irrefl _ low
    · have apart : n ≠ k := by
        rintro rfl
        obtain rfl := Option.some.inj (found.symm.trans place)
        rw [phase] at othersStarted
        cases othersStarted
      rw [differs.channels, List.getElem?_modify_ne _ _ apart]
      exact place

end Mesh

end PeerMesh
