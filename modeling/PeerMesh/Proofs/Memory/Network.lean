/-
**Addresses, and who hears a broadcast.**

* `addressOf_injective`, `textLength_addressOf_lt` — different numbers have different addresses, and the
  text of an address is short.
* `UnicastEnd.exists_endpoint_of_route` — whoever is reached at an address is registered there.
* `Network.mem_audience` — on a network on which nobody is cut off, every member of the group hears every
  broadcast.
-/

import PeerMesh.Memory.Network
import PeerMesh.Proofs.Wire.RoundTrip

namespace PeerMesh

namespace Memory

theorem repr_injective {number other : Nat} (same : Nat.repr number = Nat.repr other) :
    number = other := by
  have digits : Nat.toDigits 10 number = Nat.toDigits 10 other := by
    rw [← Nat.toList_repr, ← Nat.toList_repr, same]
  rw [← Nat.ofDigitChars_ten_toDigits (n := number), digits, Nat.ofDigitChars_ten_toDigits]

/-- **Different numbers have different addresses.** -/
theorem addressOf_injective {number other : Nat} (same : addressOf number = addressOf other) :
    number = other := by
  have texts : "mem:" ++ Nat.repr number = "mem:" ++ Nat.repr other := congrArg Address.text same
  have lists := congrArg String.toList texts
  rw [String.toList_append, String.toList_append] at lists
  exact repr_injective (String.toList_inj.mp (List.append_cancel_left lists))

/-- A character takes at most four bytes. -/
theorem utf8ByteSize_ofList_le (chars : List Char) :
    (String.ofList chars).utf8ByteSize ≤ 4 * chars.length := by
  induction chars with
  | nil => exact Nat.le_refl _
  | cons char rest ih =>
    have first := Char.utf8Size_le_four char
    rw [show String.ofList (char :: rest) = String.singleton char ++ String.ofList rest by
      rw [String.singleton_eq_ofList, ← String.ofList_append]; rfl]
    rw [String.utf8ByteSize_append, String.utf8ByteSize_singleton, List.length_cons]
    omega

/-- The text of an address has at most eighty-four bytes. -/
theorem textLength_addressOf_le {number : Nat} (small : number < 2 ^ 64) :
    textLength (addressOf number).text ≤ 84 := by
  have digits : (Nat.toDigits 10 number).length ≤ 20 := by
    rw [Nat.length_toDigits_le_iff (by decide) (by decide)]
    omega
  have bytes := utf8ByteSize_ofList_le (Nat.toDigits 10 number)
  have size : textLength (addressOf number).text = ("mem:" ++ Nat.repr number).utf8ByteSize :=
    Array.length_toList
  rw [size, String.utf8ByteSize_append, Nat.repr_eq_ofList_toDigits]
  have head : "mem:".utf8ByteSize = 4 := by decide
  omega

/-- **The text of an address is short.** -/
theorem textLength_addressOf_lt {number : Nat} (small : number < 2 ^ 64) :
    textLength (addressOf number).text < 2 ^ 64 :=
  Nat.lt_of_le_of_lt (textLength_addressOf_le small) (by decide)

/-- Whoever is reached at an address is registered there. -/
theorem UnicastEnd.exists_endpoint_of_route {ρ : Type} {own : UnicastEnd} {network : Network ρ}
    {address : Address} {receiver : ρ} (routed : own.route network address = .ok receiver) :
    ∃ endpoint, network.unicast.get? address = some endpoint ∧ endpoint.receiver = receiver := by
  unfold route at routed
  split at routed
  · cases routed
  · split at routed
    · unfold Network.target at routed
      split at routed
      · cases routed
      · rename_i endpoint found
        split at routed
        · exact ⟨endpoint, found, Except.ok.inj routed⟩
        · cases routed
    · cases routed

namespace Network

variable {ρ : Type}

/-- Nobody is cut off. -/
def IsWhole (network : Network ρ) : Prop :=
  ∀ address endpoint, network.unicast.get? address = some endpoint → endpoint.isReachable = true

theorem IsWhole.cutOff_eq_nil {network : Network ρ} (whole : network.IsWhole) :
    network.cutOff = [] := by
  unfold cutOff
  rw [List.map_eq_nil_iff, List.filter_eq_nil_iff]
  intro endpoint member
  obtain ⟨address, found⟩ := (Table.mem_values_iff _ _).mp member
  rw [whole address endpoint found]
  exact Bool.false_ne_true

theorem IsWhole.isReachable {network : Network ρ} (whole : network.IsWhole) (address : Address) :
    network.isReachable address = true := by
  unfold Network.isReachable
  split
  · rename_i endpoint found
    exact whole address endpoint found
  · rfl

/-- **Every member of the group hears a broadcast**, if nobody is cut off. -/
theorem mem_audience [DecidableEq ρ] {network : Network ρ} (whole : network.IsWhole) {number : Nat}
    {receiver : ρ} (joined : network.groups.get? number = some receiver) (origin : Address) :
    receiver ∈ network.audience origin := by
  unfold audience
  rw [if_pos (whole.isReachable origin), whole.cutOff_eq_nil]
  refine List.mem_filter.mpr ⟨(Table.mem_values_iff _ _).mpr ⟨number, joined⟩, ?_⟩
  exact decide_eq_true List.not_mem_nil

/-- Some addresses and at most one member of the group are gone, and nobody is new. -/
structure Shrinks (network : Network ρ) (number : Nat) (later : Network ρ) : Prop where
  counter : later.nextNumber = network.nextNumber
  endpoints : ∀ address endpoint, later.unicast.get? address = some endpoint →
    network.unicast.get? address = some endpoint
  otherGroups : ∀ other, other ≠ number → later.groups.get? other = network.groups.get? other

theorem Shrinks.trans {number : Nat} {network later last : Network ρ}
    (first : network.Shrinks number later) (second : later.Shrinks number last) :
    network.Shrinks number last :=
  ⟨second.counter.trans first.counter,
    fun address endpoint found => first.endpoints address endpoint (second.endpoints address endpoint found),
    fun other isOther => (second.otherGroups other isOther).trans (first.otherGroups other isOther)⟩

end Network

/-- Whoever is registered at an address is reached there, if nobody is cut off. -/
theorem UnicastEnd.route_of_endpoint {ρ : Type} {own address : Address} {network : Network ρ}
    {receiver : ρ} (whole : network.IsWhole)
    (found : network.unicast.get? address = some ⟨receiver, true⟩) :
    (UnicastEnd.mk (some own)).route network address = .ok receiver := by
  unfold route Network.target
  dsimp only
  rw [whole.isReachable own, if_pos rfl, found]
  rfl

/-- Whoever is reached nowhere any more leaves everybody else where they are. -/
theorem UnicastEnd.close_shrinks {ρ : Type} (own : UnicastEnd) (network : Network ρ) (number : Nat) :
    (own.close network).1.address = none ∧ network.Shrinks number (own.close network).2 := by
  unfold UnicastEnd.close
  cases place : own.address with
  | none => exact ⟨place, rfl, fun _ _ found => found, fun _ _ => rfl⟩
  | some address =>
    refine ⟨rfl, rfl, fun other endpoint found => ?_, fun _ _ => rfl⟩
    rw [Table.get?_erase] at found
    split at found
    · cases found
    · exact found

/-- Whoever leaves the group leaves all others in it. -/
theorem GroupEnd.close_shrinks {ρ : Type} (number : Nat) (isStarted : Bool) (network : Network ρ) :
    (GroupEnd.close ⟨number, isStarted⟩ network).1 = ⟨number, false⟩ ∧
      network.Shrinks number (GroupEnd.close ⟨number, isStarted⟩ network).2 := by
  unfold GroupEnd.close
  cases isStarted with
  | false => exact ⟨rfl, rfl, fun _ _ found => found, fun _ _ => rfl⟩
  | true =>
    refine ⟨rfl, rfl, fun _ _ found => found, fun other isOther => ?_⟩
    show (network.groups.erase number).get? other = _
    rw [Table.get?_erase, if_neg isOther]

end Memory

end PeerMesh
