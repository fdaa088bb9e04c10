/-
**A channel whose address was marked unreachable.**

* `Event.StemsFrom` — an event is one of some others, or was unpacked from one. `Terms.cut` — what carries
  the address of a channel that is cut off may wait only where it stems from what waited there before, or
  was forged; and so may anything with that channel itself.
* `Mesh.IsCut` — the network has marked the address of a channel, or the channel is closed and has left.
  **`IsCut.apart`** — the network hands nothing to such a channel, and nothing to anybody that carries its
  address, unless the outsider has forged it.
* `Mesh.Severs` — from one mesh to a later one a channel is cut off still, and whatever has happened respects
  that (`Respects`). `Mesh.Upholds` — everything still fits, and whoever is cut off is so still.
* `upholds_of_carriage`, `Concerns.severs`, `modify_upholds`, **`teardown_upholds`** — what upholds this:
  whatever is carried, what concerns another channel, what leaves a channel where it is, and what takes a
  channel apart, be it the one that is cut off.
-/

import PeerMesh.Proofs.Mesh.Refitting

namespace PeerMesh

/-- An event is one of some others, or was unpacked from one. -/
def Event.StemsFrom (event : Event) (sources : Event → Prop) : Prop :=
  ∃ source, sources source ∧ source.Contains event

theorem Event.StemsFrom.unpack {event inner : Event} {sources : Event → Prop}
    (stems : event.StemsFrom sources) (wraps : event.Wraps inner) : inner.StemsFrom sources := by
  obtain ⟨source, among, contains⟩ := stems
  exact ⟨source, among, contains.tail wraps⟩

/-- What may wait while a channel is cut off that was reached at an address: nothing new with the channel
itself, and elsewhere nothing new that carries its address, unless it was forged. -/
def Terms.cut (x : Nat) (address : Address) (forged : Event → Prop) (held : Nat → Event → Prop) : Terms where
  forged := forged
  owns n event := n = x ∨ event.originAddress = address →
    event.StemsFrom (held n) ∨ n ≠ x ∧ event.StemsFrom forged
  unwraps := by
    intro n event inner owns wraps concerned
    have same : inner.originAddress = event.originAddress :=
      Event.Contains.originAddress (Relation.ReflTransGen.single wraps)
    rcases owns (same ▸ concerned) with before | ⟨other, forged⟩
    · exact .inl (before.unpack wraps)
    · exact .inr ⟨other, forged.unpack wraps⟩

/-- Anything may be forged, and anything may wait. -/
def Terms.lax : Terms := ⟨fun _ => True, fun _ _ => True, fun _ _ => trivial⟩

/-- The channel stays where it is, and nothing new waits. -/
structure Channel.Stays (before after : Channel) : Prop where
  ends : after.ends = before.ends
  closed : before.phase = .closed → after.phase = .closed
  sound : before.IsSound → after.IsSound
  pending : after.consumer.pending ⊆ before.consumer.pending

namespace Mesh

variable {terms : Terms} {forged : Event → Prop} {spared : Address → Prop} {held : Nat → Event → Prop}
  {mesh later last : Mesh} {n x : Nat} {address : Address} {event : Event}

/-! ### Who is cut off -/

/-- **A channel is cut off**: its address is marked, or it is closed and has left the network. -/
structure IsCut (mesh : Mesh) (x : Nat) (address : Address) : Prop where
  claims : (mesh.channel x).address = some address
  numbered : ∃ number, address = Memory.addressOf number
  off : mesh.network.unicast.get? address = some ⟨.channel x, false⟩ ∨
    (mesh.channel x).phase = .closed ∧ (mesh.channel x).HasNoEnds

/-- Nobody else says that it is there. -/
theorem IsCut.eq (cut : mesh.IsCut x address) (fitted : mesh.IsFitted)
    (claims : (mesh.channel n).address = some address) : n = x := by
  obtain ⟨number, rfl⟩ := cut.numbered
  exact fitted.distinct n x number claims cut.claims

/-- A channel that is only created is not cut off. -/
theorem IsCut.begun (cut : mesh.IsCut x address) (fitted : mesh.IsFitted) :
    (mesh.channel x).phase ≠ .created := by
  intro created
  obtain ⟨noEnds, -⟩ := (fitted.fits x).sound.created created
  rcases cut.off with marked | ⟨closed, -⟩
  · exact noEnds.line address (fitted.matched.unicast address _ marked x rfl)
  · rw [created] at closed
    cases closed

/-- A channel that was reached at an address whose entry is marked does not reach anybody from there. -/
theorem IsCut.not_reachable (cut : mesh.IsCut x address) (fitted : mesh.IsFitted) {own : Memory.UnicastEnd}
    (line : (mesh.channel x).line.own? = some own) {place : Address} (there : own.address = some place) :
    mesh.network.isReachable place = false := by
  obtain ⟨_⟩ := own
  subst there
  rcases cut.off with marked | ⟨-, noEnds⟩
  · have claims := ((fitted.fits x).line place line).1
    obtain rfl := Option.some.inj (cut.claims.symm.trans claims)
    exact Memory.Network.isReachable_eq_false_iff.mpr ⟨_, marked, rfl⟩
  · exact absurd line (noEnds.line place)

/-- A channel that is cut off is neither called to broadcasts nor reached at any address. -/
theorem IsCut.not_heard (cut : mesh.IsCut x address) (fitted : mesh.IsFitted) (origin : Address) :
    Party.channel x ∉ mesh.network.audience origin := by
  intro hears
  obtain ⟨-, joined, notCut⟩ := Memory.Network.mem_audience_iff.mp hears
  rcases cut.off with marked | ⟨-, noEnds⟩
  · exact notCut (Memory.Network.mem_cutOff_iff.mpr ⟨address, _, marked, rfl, rfl⟩)
  · obtain ⟨number, found⟩ := (Table.mem_values_iff _ _).mp joined
    exact noEnds.group number (fitted.matched.groups number _ found x rfl)

theorem IsCut.not_routed (cut : mesh.IsCut x address) (fitted : mesh.IsFitted) (own : Memory.UnicastEnd)
    (place : Address) : own.route mesh.network place ≠ .ok (.channel x) := by
  intro route
  obtain ⟨-, -, -, found⟩ := Memory.UnicastEnd.route_eq_ok_iff.mp route
  have reached := fitted.matched.unicast place _ found x rfl
  rcases cut.off with marked | ⟨-, noEnds⟩
  · have own := fitted.matched.unicast address _ marked x rfl
    obtain rfl : address = place := by simpa using own.symm.trans reached
    rw [marked] at found
    cases found
  · exact noEnds.line place reached

/-- **The network hands nothing to a channel that is cut off**, and nobody anything that carries its address,
unless it was forged. -/
theorem IsCut.apart (cut : mesh.IsCut x address) (fitted : mesh.IsFitted) {party : Party}
    (hands : mesh.Hands terms event party) :
    party ≠ .channel x ∧ (event.originAddress = address → terms.forged event) := by
  refine ⟨?_, fun carries => ?_⟩
  · rintro rfl
    cases hands with
    | broadcast _ _ hears | forgedBroadcast _ hears => exact cut.not_heard fitted _ hears
    | send _ _ route | forgedSend _ route => exact cut.not_routed fitted _ _ route
  · cases hands with
    | broadcast joined stamps hears =>
      obtain rfl := cut.eq fitted (stamps.trans (congrArg some carries))
      have reachable := (Memory.Network.mem_audience_iff.mp hears).1
      rw [carries] at reachable
      rcases cut.off with marked | ⟨-, noEnds⟩
      · rw [Memory.Network.isReachable_eq_false_iff.mpr ⟨_, marked, rfl⟩] at reachable
        cases reachable
      · exact absurd joined (noEnds.group _)
    | send line stamps route =>
      obtain rfl := cut.eq fitted (stamps.trans (congrArg some carries))
      obtain ⟨place, there, reachable, -⟩ := Memory.UnicastEnd.route_eq_ok_iff.mp route
      rw [cut.not_reachable fitted line there] at reachable
      cases reachable
    | forgedBroadcast forges _ => exact forges
    | forgedSend forges _ => exact forges

/-! ### What respects that -/

/-- **What happens respects that a channel is cut off** that was reached at an address. -/
def Respects (x : Nat) (address : Address) (forged : Event → Prop) : Occurrence → Prop
  | .posted n outgoing => n = x ↔ outgoing.event.originAddress = address
  | .asked n _ event => n = x ↔ event.originAddress = address
  | .reached party _ event => party ≠ .channel x ∧ (event.originAddress = address → forged event)
  | .called .. | .discovered .. | .dispatched .. => True

/-- The channel that is cut off stays so, what has happened respects that, and what waits stems from what has
waited before, as far as it is concerned. -/
structure Severs (x : Nat) (address : Address) (forged : Event → Prop) (held : Nat → Event → Prop)
    (before after : Mesh) : Prop where
  cut : after.IsCut x address
  held : after.HoldsOwn (.cut x address forged held)
  log : ∃ since, after.log = since ++ before.log ∧ ∀ entry ∈ since, Respects x address forged entry.2

theorem Severs.trans (first : mesh.Severs x address forged held later)
    (second : later.Severs x address forged held last) : mesh.Severs x address forged held last := by
  obtain ⟨earlier, begins, respected⟩ := first.log
  obtain ⟨since, goesOn, stillRespected⟩ := second.log
  refine ⟨second.cut, second.held, since ++ earlier, by rw [goesOn, begins, List.append_assoc],
    fun entry among => ?_⟩
  rcases List.mem_append.mp among with new | old
  · exact stillRespected entry new
  · exact respected entry old

/-- What was accounted for respects the cut. -/
theorem IsCut.respects (cut : mesh.IsCut x address) (fitted : mesh.IsFitted) {occurrence : Occurrence}
    (accounts : mesh.Accounts terms occurrence) : Respects x address terms.forged occurrence := by
  have whose {n : Nat} {event : Event} (stamps : (mesh.channel n).Stamps event) :
      n = x ↔ event.originAddress = address := by
    refine ⟨fun same => ?_, fun carries => cut.eq fitted (stamps.trans (congrArg some carries))⟩
    subst same
    exact Option.some.inj (stamps.symm.trans cut.claims)
  cases occurrence with
  | posted n outgoing => exact whose accounts
  | asked n place event => exact whose accounts
  | reached party isSync event => exact cut.apart fitted accounts
  | called | discovered | dispatched => trivial

/-- **Everything still fits, and whoever is cut off stays so**, as long as it is spared. -/
def Upholds (forged : Event → Prop) (spared : Address → Prop) (before after : Mesh) : Prop :=
  before.IsFitted → after.IsFitted ∧ ∀ x address held, spared address → before.IsCut x address →
    before.HoldsOwn (.cut x address forged held) → before.Severs x address forged held after

theorem Upholds.refl (mesh : Mesh) : mesh.Upholds forged spared mesh :=
  fun fitted => ⟨fitted, fun _ _ _ _ cut held => ⟨cut, held, [], rfl, fun _ none => nomatch none⟩⟩

theorem Upholds.trans (first : mesh.Upholds forged spared later) (second : later.Upholds forged spared last) :
    mesh.Upholds forged spared last := by
  intro fitted
  obtain ⟨stillFitted, severs⟩ := first fitted
  obtain ⟨everFitted, seversOn⟩ := second stillFitted
  refine ⟨everFitted, fun x address held spares cut holds => ?_⟩
  have earlier := severs x address held spares cut holds
  exact earlier.trans (seversOn x address held spares earlier.cut earlier.held)

/-! ### What is carried -/

theorem IsFitted.abides_lax (fitted : mesh.IsFitted) : mesh.Abides .lax :=
  ⟨fun n => (fitted.fits n).sound.stamped, fun _ _ _ => trivial, fun _ _ _ => trivial⟩

/-- What the network hands to anybody is as the terms allow. -/
theorem IsCut.abides (cut : mesh.IsCut x address) (fitted : mesh.IsFitted)
    (holds : mesh.HoldsOwn (.cut x address forged held)) : mesh.Abides (.cut x address forged held) := by
  refine ⟨fun n => (fitted.fits n).sound.stamped, holds, fun n event hands concerned => ?_⟩
  obtain ⟨other, forges⟩ := cut.apart fitted hands
  have differs : n ≠ x := fun same => other (congrArg Party.channel same)
  rcases concerned with same | carries
  · exact absurd same differs
  · exact .inr ⟨differs, event, forges carries, .refl⟩

/-- **Whatever is carried.** -/
theorem upholds_of_carriage (carriage : ∀ terms : Terms, (∀ event, forged event → terms.forged event) →
    mesh.Carriage terms later) : mesh.Upholds forged spared later := by
  refine fun fitted => ⟨fitted.of_carries (carriage .lax (fun _ _ => trivial) fitted.abides_lax),
    fun x address held _ cut holds => ?_⟩
  have carries := carriage (.cut x address forged held) (fun _ forges => forges) (cut.abides fitted holds)
  have standing := (carries.keeps x).standing
  refine ⟨⟨(carries.keeps x).address.trans cut.claims, cut.numbered, ?_⟩, carries.held, ?_⟩
  · rcases cut.off with marked | ⟨closed, noEnds⟩
    · exact .inl (carries.network ▸ marked)
    · exact .inr ⟨(congrArg Channel.Standing.phase standing).trans closed, noEnds.of_standing standing⟩
  · obtain ⟨since, log, accounted⟩ := carries.log
    exact ⟨since, log, fun entry among => cut.respects fitted (accounted entry among)⟩

/-! ### What concerns a single channel -/

theorem HoldsOwn.of_others (holds : mesh.HoldsOwn terms) (others : ∀ m, m ≠ n → later.channel m = mesh.channel m)
    (fewer : ∀ event, (later.channel n).consumer.Holds event → (mesh.channel n).consumer.Holds event) :
    later.HoldsOwn terms := by
  intro m event waits
  by_cases same : m = n
  · subst same
    exact holds m event (fewer event waits)
  · rw [others m same] at waits
    exact holds m event waits

/-- What concerns another channel leaves the one that is cut off as it is. -/
theorem Concerns.severs (concerns : mesh.Concerns n later) (differs : x ≠ n) (cut : mesh.IsCut x address)
    (holds : mesh.HoldsOwn (.cut x address forged held)) : mesh.Severs x address forged held later := by
  have same := concerns.others x differs
  refine ⟨⟨?_, cut.numbered, ?_⟩, holds.of_others concerns.others concerns.held, [], concerns.log,
    fun _ none => nomatch none⟩
  · rw [same]
    exact cut.claims
  · rw [same]
    exact cut.off.imp_left (concerns.leaves.unicast x differs address false)

/-- A channel is started: it was not cut off, as it was only created. -/
theorem start_upholds (mesh : Mesh) (there : n < mesh.channels.length) :
    mesh.Upholds forged spared (mesh.start n).2 := by
  cases phase : (mesh.channel n).phase with
  | started | closed =>
    unfold Mesh.start
    rw [phase]
    exact .refl mesh
  | created =>
    intro fitted
    have concerns := start_concerns fitted there
    refine ⟨concerns.fitted, fun x address held _ cut holds => concerns.severs ?_ cut holds⟩
    rintro rfl
    exact cut.begun fitted phase

/-- **What leaves a channel where it is**, even one that is cut off. -/
theorem modify_upholds (mesh : Mesh) (n : Nat) {change : Channel → Channel}
    (stays : (mesh.channel n).Stays (change (mesh.channel n))) :
    mesh.Upholds forged spared (mesh.modify n change) := by
  intro fitted
  refine ⟨fitted.modify n stays.ends (stays.sound (fitted.fits n).sound), fun x address held _ cut holds =>
    ⟨?_, holds.of_others (fun m other => channel_modify_ne other _ _) fun event waits => ?_, [], rfl,
      fun _ none => nomatch none⟩⟩
  · rcases mesh.channel_modify_cases n change x with same | ⟨rfl, changed⟩
    · exact ⟨by rw [same]; exact cut.claims, cut.numbered, by rw [same]; exact cut.off⟩
    · refine ⟨?_, cut.numbered, ?_⟩
      · rw [changed]
        exact (congrArg Channel.Ends.address stays.ends).trans cut.claims
      · rw [changed]
        exact cut.off.imp_right fun ⟨closed, noEnds⟩ => ⟨stays.closed closed, noEnds.of_ends stays.ends⟩
  · rcases mesh.channel_modify_cases n change n with same | ⟨-, changed⟩
    · rw [same] at waits
      exact waits
    · rw [changed] at waits
      exact Consumer.holds_of_pending stays.pending waits

/-- Nothing changes but the registry. -/
theorem registry_upholds (mesh : Mesh) (registry : List Nat) :
    mesh.Upholds forged spared { mesh with registry := registry } :=
  upholds_of_carriage fun _ _ => carriage_of_same rfl rfl rfl rfl

/-- What a change leaves alone about a channel. -/
theorem field_modify {α : Type} (field : Channel → α) (mesh : Mesh) (n m : Nat) {change : Channel → Channel}
    (keeps : ∀ channel, field (change channel) = field channel) :
    field ((mesh.modify n change).channel m) = field (mesh.channel m) := by
  rcases mesh.channel_modify_cases n change m with same | ⟨rfl, changed⟩
  · rw [same]
  · rw [changed, keeps]

/-- A channel is taken apart, but for its links. -/
def dismantle (mesh : Mesh) (n : Nat) : Mesh :=
  ((mesh.halt n).modify n Channel.dismiss).modify n fun channel =>
    (channel.run mesh.time fun view _ => view.shutdown).2

theorem teardown_eq (mesh : Mesh) (n : Nat) : mesh.teardown n = (mesh.dismantle n).stopLinks n := rfl

/-- What taking a channel apart leaves alone about it, but for its links. -/
theorem field_dismantle {α : Type} (field : Channel → α) (mesh : Mesh) (n m : Nat)
    (halted : ∀ channel, field (Channel.halt channel) = field channel)
    (dismissed : ∀ channel, field (Channel.dismiss channel) = field channel)
    (shut : ∀ channel time, field (Channel.run channel time fun view _ => view.shutdown).2 = field channel) :
    field ((mesh.dismantle n).channel m) = field (mesh.channel m) :=
  calc field ((mesh.dismantle n).channel m)
      = field (((mesh.halt n).modify n Channel.dismiss).channel m) := field_modify field _ n m fun _ => shut _ _
    _ = field ((mesh.halt n).channel m) := field_modify field _ n m dismissed
    _ = field (mesh.channel m) := field_modify field mesh n m halted

/-- A channel that is taken apart remembers where it was. -/
theorem teardown_address (mesh : Mesh) (n m : Nat) :
    ((mesh.teardown n).channel m).address = (mesh.channel m).address :=
  calc ((mesh.teardown n).channel m).address
      = ((mesh.dismantle n).channel m).address := field_modify Channel.address _ n m fun _ => rfl
    _ = (mesh.channel m).address :=
      mesh.field_dismantle Channel.address n m (fun _ => rfl) (fun _ => rfl) fun _ _ => rfl

/-- **What takes a closed channel apart**, be it the one that is cut off. -/
theorem teardown_upholds (closed : (mesh.channel n).phase = .closed) :
    mesh.Upholds forged spared (mesh.teardown n) := by
  intro fitted
  have there := there_of_phase closed (by decide)
  have begun : (mesh.channel n).phase ≠ .created := by
    rw [closed]
    decide
  have refits := teardown_refits fitted there begun
  refine ⟨refits.fitted, fun x address held spares cut holds => ?_⟩
  by_cases same : x = n
  · subst same
    obtain ⟨inert, -, -⟩ := teardown_isInert there closed
    refine ⟨⟨?_, cut.numbered, .inr ⟨inert.closed, inert.hasNoEnds⟩⟩,
      holds.of_others refits.alters.others refits.held, [], refits.alters.log, fun _ none => nomatch none⟩
    exact (mesh.teardown_address x x).trans cut.claims
  · exact refits.concerns.severs same cut holds

end Mesh

end PeerMesh
