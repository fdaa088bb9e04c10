/-
**Which broadcast events are heard.**

A member of a group measures an event by the bytes of its encoding, but whoever receives it counts
the bytes that the encoding claims: four for the tag of the scope and eight for every length, however
few bytes these take. The two measures differ, and both are compared with `maxDatagramSize`.

* `Event.peak_ledger` — an event claims `Event.claimed` bytes in all, and gives none of them back.
* `eventIn?_write` — an encoding that fits into a datagram is heard as the same event if the event
  claims at most `maxDatagramSize` bytes, and otherwise is dropped.
* `dispatch_reception` — what becomes of every event that a joined member dispatches.
* `claimed_le_length_write` — an event claims at most 38 bytes more than its encoding has, so only
  encodings within 38 bytes of the limit can be sent and then dropped (`sent_and_dropped`).
-/

import PeerMesh.Datagram.Group
import PeerMesh.Proofs.Wire.RoundTrip

namespace PeerMesh

open Wire

/-! ### What an event claims -/

/-- The bytes that a scope claims. -/
def Scope.claimed : Scope → Nat
  | .unscoped | .all => 4
  | .named domain => 4 + (8 + textLength domain)

/-- The bytes that an event claims. -/
def Event.claimed (event : Event) : Nat :=
  event.scope.claimed + ((8 + textLength event.kind) + (8 + event.data.length) +
    (8 + textLength event.origin.name) + (8 + textLength event.originAddress.text))

/-- The claims made for a scope, in order. -/
def Scope.claims : Scope → List Nat
  | .unscoped | .all => [4]
  | .named domain => [4, 8, textLength domain]

theorem Scope.ledger_eq_claims (scope : Scope) : scope.ledger = scope.claims.map .claim := by
  cases scope <;> rfl

theorem Scope.sum_claims (scope : Scope) : scope.claims.sum = scope.claimed := by
  cases scope <;> rfl

/-- **An event claims `Event.claimed` bytes**: all of its claims add up. -/
theorem Event.peak_ledger (event : Event) : event.ledger.peak = event.claimed := by
  have claims : event.ledger = (event.scope.claims ++ [8, textLength event.kind, 8,
      event.data.length, 8, textLength event.origin.name, 8,
      textLength event.originAddress.text]).map .claim := by
    rw [List.map_append, ← Scope.ledger_eq_claims]
    rfl
  rw [claims, Ledger.peak, Ledger.highest_claims, List.sum_append, Scope.sum_claims]
  simp only [List.sum_cons, List.sum_nil, Event.claimed]
  omega

/-! ### How long an encoding is -/

theorem length_number_pos (value : Nat) : 0 < (number value).length := by
  unfold number
  split
  · exact Nat.succ_pos _
  · split
    · exact Nat.succ_pos _
    · split <;> exact Nat.succ_pos _

theorem lt_length_write_bytes (value : Bytes) : value.length < (Codec.bytes.write value).length := by
  have := length_number_pos value.length
  simp only [Codec.bytes, List.length_append]
  omega

theorem lt_length_write_text (text : String) :
    textLength text < (Codec.text.write text).length :=
  lt_length_write_bytes (Utf8.encode text)

/-- The parts of a written scope. -/
theorem Scope.length_write (scope : Scope) :
    1 ≤ (Scope.codec.write scope).length ∧ scope.claimed ≤ (Scope.codec.write scope).length + 10 ∧
      ∀ length ∈ scope.lengths, length ≤ (Scope.codec.write scope).length := by
  cases scope with
  | unscoped => exact ⟨by decide, by decide, by simp [Scope.lengths]⟩
  | all => exact ⟨by decide, by decide, by simp [Scope.lengths]⟩
  | named domain =>
    have written : Scope.codec.write (.named domain) = 2 :: Codec.text.write domain := rfl
    have longer := lt_length_write_text domain
    rw [written, List.length_cons]
    refine ⟨by omega, ?_, ?_⟩
    · simp only [Scope.claimed]
      omega
    · intro length member
      rw [List.mem_singleton.mp member]
      omega

/-- An encoding is as long as its parts together. -/
theorem Event.length_write (event : Event) :
    (Event.codec.write event).length = (Scope.codec.write event.scope).length +
      ((Codec.text.write event.kind).length + ((Codec.bytes.write event.data).length +
        ((Codec.text.write event.origin.name).length +
          (Codec.text.write event.originAddress.text).length))) := by
  have written : Event.codec.write event = Scope.codec.write event.scope ++
      (Codec.text.write event.kind ++ (Codec.bytes.write event.data ++
        (Codec.text.write event.origin.name ++ Codec.text.write event.originAddress.text))) := rfl
  rw [written, List.length_append, List.length_append, List.length_append, List.length_append]

/-- **An event claims at most 38 bytes more than its encoding has.** -/
theorem Event.claimed_le_length_write (event : Event) :
    event.claimed ≤ (Event.codec.write event).length + 38 := by
  have scope := (Scope.length_write event.scope).2.1
  have kind := lt_length_write_text event.kind
  have data := lt_length_write_bytes event.data
  have origin := lt_length_write_text event.origin.name
  have place := lt_length_write_text event.originAddress.text
  rw [Event.length_write, Event.claimed]
  omega

/-- No length written in an event is larger than the encoding. -/
theorem Event.lengths_le_length_write (event : Event) :
    ∀ length ∈ event.lengths, length ≤ (Event.codec.write event).length := by
  intro length member
  have kind := lt_length_write_text event.kind
  have data := lt_length_write_bytes event.data
  have origin := lt_length_write_text event.origin.name
  have place := lt_length_write_text event.originAddress.text
  rw [Event.length_write]
  rcases List.mem_append.mp member with inScope | inRest
  · have := (Scope.length_write event.scope).2.2 length inScope
    omega
  · simp only [List.mem_cons, List.not_mem_nil, or_false] at inRest
    rcases inRest with rfl | rfl | rfl | rfl <;> omega

/-! ### What is heard -/

namespace GroupMember

/-- An encoding that fits into a datagram is heard as its event, or is dropped because the event claims
too much. -/
theorem eventIn?_write (event : Event)
    (fits : (Event.codec.write event).length ≤ maxDatagramSize) :
    eventIn? (Event.codec.write event) =
      if event.claimed ≤ maxDatagramSize then some event else none := by
  have words : AreWords event.lengths := by
    intro length member
    have := event.lengths_le_length_write length member
    simp only [maxDatagramSize] at fits
    omega
  unfold eventIn?
  rw [(Event.codec_accounts words).decode_write, Event.peak_ledger]
  by_cases low : event.claimed ≤ maxDatagramSize
  · rw [if_pos low, if_pos low]
    rfl
  · rw [if_neg low, if_neg low]
    rfl

/-- **What becomes of a dispatched event.** A joined member refuses an event whose encoding is too
long for a datagram and sends nothing; the encoding of any other event is sent whole, and it is heard
as the same event exactly if the event claims at most `maxDatagramSize` bytes. -/
theorem dispatch_reception (group : Socket.Endpoint) (event : Event) :
    (maxDatagramSize < (Event.codec.write event).length ∧
        ∃ detail, dispatch ⟨group, true⟩ event = .error (.encode detail)) ∨
      (dispatch ⟨group, true⟩ event = .ok (Event.codec.write event) ∧
        (eventIn? (Event.codec.write event) = some event ↔ event.claimed ≤ maxDatagramSize) ∧
        (eventIn? (Event.codec.write event) = none ↔ maxDatagramSize < event.claimed)) := by
  have sent : dispatch ⟨group, true⟩ event = datagramOf event := if_pos rfl
  rw [sent]
  unfold datagramOf
  by_cases long : maxDatagramSize < (Event.codec.write event).length
  · exact .inl ⟨long, _, if_pos long⟩
  · refine .inr ⟨if_neg long, ?_⟩
    rw [eventIn?_write event (Nat.le_of_not_lt long)]
    by_cases low : event.claimed ≤ maxDatagramSize
    · rw [if_pos low]
      refine ⟨⟨fun _ => low, fun _ => rfl⟩, ⟨fun absent => ?_, fun high => ?_⟩⟩
      · cases absent
      · exact absurd low (Nat.not_le_of_lt high)
    · rw [if_neg low]
      refine ⟨⟨fun heard => ?_, fun claim => absurd claim low⟩, ⟨fun _ => ?_, fun _ => rfl⟩⟩
      · cases heard
      · exact Nat.lt_of_not_le low

/-- Every event whose encoding is 38 bytes below the limit is heard. -/
theorem eventIn?_write_of_short (event : Event)
    (short : (Event.codec.write event).length + 38 ≤ maxDatagramSize) :
    eventIn? (Event.codec.write event) = some event := by
  rw [eventIn?_write event (Nat.le_trans (Nat.le_add_right _ _) short),
    if_pos (Nat.le_trans event.claimed_le_length_write short)]

/-- **Some events are sent and dropped by whoever receives them**, such as one with 65490 bytes of
data. -/
theorem sent_and_dropped (group : Socket.Endpoint) :
    ∃ event datagram, dispatch ⟨group, true⟩ event = .ok datagram ∧ eventIn? datagram = none := by
  obtain ⟨data, sized⟩ : ∃ data : Bytes, data.length = 65490 :=
    ⟨List.replicate 65490 0, List.length_replicate⟩
  have one (text : String) (single : textLength text = 1) :
      (Codec.text.write text).length = 2 := by
    have written : Codec.text.write text = number (textLength text) ++ Utf8.encode text := rfl
    have counted : (Utf8.encode text).length = 1 := single
    rw [written, single, List.length_append, counted]
    rfl
  have most : (Codec.bytes.write data).length = 65493 := by
    have written : Codec.bytes.write data = number data.length ++ data := rfl
    have three : (number 65490).length = 3 := rfl
    rw [written, List.length_append, sized, three]
  have encoded : (Event.codec.write ⟨.all, "x", data, ⟨"a"⟩, ⟨"m"⟩⟩).length = 65500 := by
    have tag : (Scope.codec.write .all).length = 1 := rfl
    rw [Event.length_write, one "x" rfl, one "a" rfl, one "m" rfl, most, tag]
  have claimed : Event.claimed ⟨.all, "x", data, ⟨"a"⟩, ⟨"m"⟩⟩ = 65529 := by
    show 4 + ((8 + 1) + (8 + data.length) + (8 + 1) + (8 + 1)) = 65529
    rw [sized]
  have fits : ¬ maxDatagramSize <
      (Event.codec.write ⟨.all, "x", data, ⟨"a"⟩, ⟨"m"⟩⟩).length := by
    rw [encoded]
    decide
  refine ⟨⟨.all, "x", data, ⟨"a"⟩, ⟨"m"⟩⟩, _, (if_pos rfl).trans (if_neg fits), ?_⟩
  rw [eventIn?_write _ (Nat.le_of_not_lt fits), claimed]
  rfl

end GroupMember

end PeerMesh
