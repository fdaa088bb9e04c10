/-
**As long as there are permits for all, they make no difference.**

* `Permits.IsStocked` — every endpoint has all its permits, free or taken. It holds of the permits of a new client
  (`stocked_new`) and goes on holding with each exchange (`IsStocked.exchange`) and each fan-out
  (`IsStocked.sendMany`).
* `Permits.endings` — how the exchanges with all targets end; `sendMany_eq_endings` — the fan-out brings just what
  these endings say. `ending_le_timeout` — none of them takes longer than the timeout.
* `Permits.HasRoom` — no endpoint gets to have more exchanges under way than there are permits for it; asking the
  next target keeps it (`HasRoom.exchange`).
* `IsStocked.sendMany_eq` — with room for all, a fan-out is one without permits. **`IsStocked.serves`** — what
  becomes of a fan-out in any case, and what if there is room.
-/

import PeerMesh.Proofs.Transport.Fanout
import PeerMesh.Transport.Permits

namespace PeerMesh

/-- Ticks of a span of whole milliseconds. -/
theorem Duration.ticks_ofMillis (count : Nat) : (ofMillis count).ticks = count := by
  show (count * nanosPerMilli + (nanosPerMilli - 1)) / nanosPerMilli = count
  unfold nanosPerMilli
  omega

/-- How an exchange ends depends on the ticks of its timeout only. -/
theorem Behaviour.ending_ofMillis (timeout : Duration) (behaviour : Behaviour) :
    behaviour.ending (.ofMillis timeout.ticks) = behaviour.ending timeout := by
  unfold ending
  rw [Duration.ticks_ofMillis]

/-- Without a wait for a permit, the exchange ends as if there were no permits. -/
theorem Behaviour.endingAfter_zero (timeout : Duration) (behaviour : Behaviour) :
    behaviour.endingAfter 0 timeout = behaviour.ending timeout := by
  unfold endingAfter
  rw [if_neg fun late => Nat.lt_irrefl 0 late.1]
  dsimp only
  rw [Nat.sub_zero, ending_ofMillis, Nat.zero_add]

/-- The wait for a permit counts towards the timeout. -/
theorem Behaviour.endingAfter_le (wait : Nat) (timeout : Duration) (target : Address × Behaviour) :
    (target.2.endingAfter wait timeout).2 ≤ timeout.ticks := by
  unfold endingAfter
  split
  · exact Nat.le_refl _
  · rename_i inTime
    have rest := loneSend_le_timeout (.ofMillis (timeout.ticks - wait)) target
    rw [Duration.ticks_ofMillis] at rest
    change wait + (target.2.ending (.ofMillis (timeout.ticks - wait))).2 ≤ timeout.ticks
    change (target.2.ending (.ofMillis (timeout.ticks - wait))).2 ≤ timeout.ticks - wait at rest
    omega

namespace Permits

variable {permits : Permits} {timeout : Duration} {time : Nat}

/-- The exchanges with an endpoint that are under way at a moment, or are to begin later. -/
def taken (permits : Permits) (endpoint : Socket.Endpoint) (time : Nat) : Nat :=
  (permits.of endpoint).countP (time < ·)

/-! ### What an exchange does with the permits -/

/-- Every endpoint has all its permits, free or taken. -/
structure IsStocked (permits : Permits) : Prop where
  any : 0 < permits.limit
  all : ∀ endpoint, (permits.of endpoint).length = permits.limit

/-- Nobody has to do with the endpoints of the others. -/
theorem of_exchange_other {endpoint : Socket.Endpoint} (target : Address × Behaviour)
    (other : target.1.endpoint? ≠ some endpoint) :
    (permits.exchange timeout time target).2.of endpoint = permits.of endpoint := by
  unfold exchange
  split
  · rfl
  · rename_i own known
    have others : ¬ endpoint = own := fun same => other (same ▸ known)
    split
    · rfl
    · show ((permits.freeFrom.insert own _).get? endpoint).getD _ = _
      rw [Table.get?_insert, if_neg others]
      rfl

/-- An exchange takes the permit that is free first, and holds it until it ends. -/
theorem of_exchange_own {endpoint : Socket.Endpoint} {first : Nat} (target : Address × Behaviour)
    (own : target.1.endpoint? = some endpoint) (next : (permits.of endpoint).min? = some first) :
    let ending := target.2.endingAfter (first - time) timeout
    (permits.exchange timeout time target).1 = ending ∧
      (permits.exchange timeout time target).2.of endpoint =
        max first (time + ending.2) :: (permits.of endpoint).erase first := by
  intro ending
  unfold exchange
  rw [own]
  dsimp only
  rw [next]
  refine ⟨rfl, ?_⟩
  show ((permits.freeFrom.insert endpoint _).get? endpoint).getD _ = _
  rw [Table.get?_insert, if_pos rfl]
  rfl

theorem limit_exchange (target : Address × Behaviour) :
    (permits.exchange timeout time target).2.limit = permits.limit := by
  unfold exchange
  split
  · rfl
  · split <;> rfl

theorem stocked_new (limit : Nat) : (new limit).IsStocked :=
  ⟨Nat.lt_of_lt_of_le Nat.one_pos (Nat.le_max_right _ _), fun _ => List.length_replicate⟩

/-- There is a permit that is free first. -/
theorem IsStocked.first (stocked : permits.IsStocked) (endpoint : Socket.Endpoint) :
    ∃ first ∈ permits.of endpoint, (permits.of endpoint).min? = some first ∧
      ∀ moment ∈ permits.of endpoint, first ≤ moment := by
  cases next : (permits.of endpoint).min? with
  | none =>
    have nothing := stocked.all endpoint
    rw [List.min?_eq_none_iff.mp next] at nothing
    exact absurd nothing (Nat.ne_of_lt stocked.any)
  | some first =>
    obtain ⟨among, least⟩ := List.min?_eq_some_iff.mp next
    exact ⟨first, among, rfl, least⟩

/-- An exchange loses no permit. -/
theorem IsStocked.exchange (stocked : permits.IsStocked) (timeout : Duration) (time : Nat)
    (target : Address × Behaviour) : (permits.exchange timeout time target).2.IsStocked := by
  refine ⟨by rw [limit_exchange]; exact stocked.any, fun endpoint => ?_⟩
  rw [limit_exchange]
  by_cases own : target.1.endpoint? = some endpoint
  · obtain ⟨first, among, next, -⟩ := stocked.first endpoint
    rw [(of_exchange_own target own next).2, List.length_cons, List.length_erase_of_mem among, stocked.all]
    exact Nat.succ_pred_eq_of_pos stocked.any
  · rw [of_exchange_other target own, stocked.all]

/-! ### Many exchanges at once -/

/-- How the exchanges with all targets end. -/
def endings (timeout : Duration) (time : Nat) : Permits → List (Address × Behaviour) → List Fanout.Ending
  | _, [] => []
  | permits, target :: rest =>
    (target.1, (permits.exchange timeout time target).1) ::
      endings timeout time (permits.exchange timeout time target).2 rest

/-- The targets are launched one after another, with the endings that they come to. -/
theorem launch_endings (timeout : Duration) (targets : List (Address × Behaviour)) :
    ∀ (fanout : Fanout) (permits : Permits),
      (targets.foldl (launch timeout) (fanout, permits)).1 =
        (permits.endings timeout fanout.time targets).foldl (fun fanout ending => fanout.enter ending.1 ending.2)
          fanout := by
  induction targets with
  | nil => exact fun _ _ => rfl
  | cons target rest ih => exact fun fanout permits => ih (fanout.enter target.1 _) _

theorem length_endings (timeout : Duration) (time : Nat) (targets : List (Address × Behaviour)) :
    ∀ permits : Permits, (permits.endings timeout time targets).length = targets.length := by
  induction targets with
  | nil => exact fun _ => rfl
  | cons target rest ih => exact fun permits => congrArg Nat.succ (ih _)

/-- **A fan-out brings what the endings of its exchanges say**, and is over with the last of them. -/
theorem sendMany_eq_endings (permits : Permits) (timeout : Duration) (targets : List (Address × Behaviour))
    (time : Nat) :
    let endings := permits.endings timeout time targets
    (permits.sendMany timeout targets time).1 =
      (endings.map Fanout.Ending.response, time + (endings.map fun ending => ending.2.2).foldr max 0) := by
  intro endings
  obtain ⟨responses, ended⟩ := Fanout.finish_enterAll endings time
  have launched : (targets.foldl (launch timeout) (⟨[], [], time⟩, permits)).1 = Fanout.enterAll endings time :=
    launch_endings timeout targets ⟨[], [], time⟩ permits
  rw [length_endings, ← launched] at responses ended
  exact Prod.ext responses ended

/-- Each target has its response, whoever else is asked. -/
theorem map_fst_endings (timeout : Duration) (time : Nat) (targets : List (Address × Behaviour)) :
    ∀ permits : Permits, (permits.endings timeout time targets).map Prod.fst = targets.map Prod.fst := by
  induction targets with
  | nil => exact fun _ => rfl
  | cons target rest ih => exact fun permits => congrArg (target.1 :: ·) (ih _)

/-- An exchange takes no longer than the timeout, the wait for its permit included. -/
theorem exchange_le_timeout (permits : Permits) (timeout : Duration) (time : Nat) (target : Address × Behaviour) :
    (permits.exchange timeout time target).1.2 ≤ timeout.ticks := by
  unfold exchange
  split
  · exact loneSend_le_timeout timeout target
  · split
    · exact Nat.le_refl _
    · exact Behaviour.endingAfter_le _ timeout target

theorem ending_le_timeout (timeout : Duration) (time : Nat) (targets : List (Address × Behaviour)) :
    ∀ permits : Permits, ∀ ending ∈ permits.endings timeout time targets, ending.2.2 ≤ timeout.ticks := by
  induction targets with
  | nil => exact fun _ _ none => nomatch none
  | cons target rest ih =>
    intro permits ending among
    rcases List.mem_cons.mp among with rfl | later
    · exact permits.exchange_le_timeout timeout time target
    · exact ih _ ending later

/-- A fan-out loses no permit. -/
theorem IsStocked.sendMany (stocked : permits.IsStocked) (timeout : Duration)
    (targets : List (Address × Behaviour)) (time : Nat) :
    (permits.sendMany timeout targets time).2.IsStocked :=
  List.foldlRecOn (motive := fun begun : Fanout × Permits => begun.2.IsStocked) targets _ stocked
    fun _ still target _ => still.exchange timeout _ target

/-! ### With room for all -/

/-- No endpoint gets to have more exchanges under way than there are permits for it. -/
def HasRoom (permits : Permits) (targets : List (Address × Behaviour)) (time : Nat) : Prop :=
  ∀ endpoint, permits.taken endpoint time + targets.countP (·.1.endpoint? = some endpoint) ≤ permits.limit

/-- A new client has room for as many targets as there are permits for one endpoint. -/
theorem hasRoom_new {limit : Nat} {targets : List (Address × Behaviour)} (few : targets.length ≤ limit) (time : Nat) :
    (new limit).HasRoom targets time := by
  intro endpoint
  have free : (new limit).taken endpoint time = 0 :=
    List.countP_eq_zero.mpr fun moment among => by simp [List.eq_of_mem_replicate among]
  rw [free, Nat.zero_add]
  exact Nat.le_trans (Nat.le_trans List.countP_le_length few) (Nat.le_max_left _ _)

/-- A permit is free while fewer are taken than there are. -/
theorem IsStocked.exists_free (stocked : permits.IsStocked) {endpoint : Socket.Endpoint}
    (few : permits.taken endpoint time < permits.limit) : ∃ moment ∈ permits.of endpoint, moment ≤ time := by
  rw [← stocked.all endpoint] at few
  by_contra none
  refine Nat.ne_of_lt few (List.countP_eq_length.mpr fun moment among => ?_)
  exact decide_eq_true (Nat.lt_of_not_le fun free => none ⟨moment, among, free⟩)

/-- An exchange takes at most one permit more. -/
theorem taken_cons_erase_le (moments : List Nat) (first held time : Nat) :
    (held :: moments.erase first).countP (time < ·) ≤ moments.countP (time < ·) + 1 := by
  have fewer : (moments.erase first).countP (time < ·) ≤ moments.countP (time < ·) :=
    List.erase_sublist.countP_le
  rw [List.countP_cons]
  split <;> omega

/-- Whoever asks while there is room finds a free permit, and leaves room for the rest. -/
theorem IsStocked.exchange_eq {target : Address × Behaviour} {rest : List (Address × Behaviour)}
    (stocked : permits.IsStocked) (timeout : Duration) (room : permits.HasRoom (target :: rest) time) :
    (permits.exchange timeout time target).1 = target.2.ending timeout ∧
      (permits.exchange timeout time target).2.HasRoom rest time := by
  refine ⟨?_, fun endpoint => ?_⟩
  · cases own : target.1.endpoint? with
    | none =>
      unfold Permits.exchange
      rw [own]
    | some endpoint =>
      have enough := room endpoint
      rw [List.countP_cons_of_pos (by simp [own])] at enough
      have few : permits.taken endpoint time < permits.limit := by omega
      obtain ⟨moment, among, free⟩ := stocked.exists_free few
      obtain ⟨first, -, next, least⟩ := stocked.first endpoint
      rw [(of_exchange_own target own next).1, Nat.sub_eq_zero_of_le (Nat.le_trans (least moment among) free),
        Behaviour.endingAfter_zero]
  · have enough := room endpoint
    rw [limit_exchange]
    by_cases own : target.1.endpoint? = some endpoint
    · obtain ⟨first, -, next, -⟩ := stocked.first endpoint
      have more := taken_cons_erase_le (permits.of endpoint) first
        (max first (time + (target.2.endingAfter (first - time) timeout).2)) time
      rw [← (of_exchange_own target own next).2] at more
      rw [List.countP_cons_of_pos (by simp [own])] at enough
      unfold taken at enough ⊢
      omega
    · rw [List.countP_cons_of_neg (by simp [own])] at enough
      unfold taken at enough ⊢
      rwa [of_exchange_other target own]

/-- With room for all, every exchange ends as if there were no permits. -/
theorem endings_of_hasRoom (timeout : Duration) (time : Nat) (targets : List (Address × Behaviour)) :
    ∀ {permits : Permits}, permits.IsStocked → permits.HasRoom targets time →
      permits.endings timeout time targets = targets.map fun target => (target.1, target.2.ending timeout) := by
  induction targets with
  | nil => exact fun _ _ => rfl
  | cons target rest ih =>
    intro permits stocked room
    obtain ⟨ends, still⟩ := stocked.exchange_eq timeout room
    rw [endings, ends, ih (stocked.exchange timeout time target) still, List.map_cons]

/-- **With room for all, a fan-out is one without permits.** -/
theorem IsStocked.sendMany_eq (stocked : permits.IsStocked) (timeout : Duration)
    (targets : List (Address × Behaviour)) (time : Nat) (room : permits.HasRoom targets time) :
    (permits.sendMany timeout targets time).1 = PeerMesh.sendMany timeout targets time := by
  rw [sendMany_eq_endings, endings_of_hasRoom timeout time targets stocked room, PeerMesh.sendMany_eq, List.map_map,
    List.map_map]
  rfl

/-- **What becomes of a fan-out** with such permits. -/
structure Serves (permits : Permits) (timeout : Duration) (targets : List (Address × Behaviour)) (time : Nat) :
    Prop where
  /-- There is one response for each target, in their order. -/
  sources : (permits.sendMany timeout targets time).1.1.map Response.source = targets.map Prod.fst
  /-- All is over within the timeout, the waits for permits included. -/
  inTime : (permits.sendMany timeout targets time).1.2 ≤ time + timeout.ticks
  /-- With room for all, each response is that of a lone send, and all is over with the slowest of these. -/
  alone : permits.HasRoom targets time → (permits.sendMany timeout targets time).1 =
    (targets.map fun target => (loneSend timeout target).1,
      time + (targets.map fun target => (loneSend timeout target).2).foldr max 0)
  /-- No permit is lost. -/
  stocked : (permits.sendMany timeout targets time).2.IsStocked

/-- **Fan-outs are served**, whatever the targets do. -/
theorem IsStocked.serves (stocked : permits.IsStocked) (timeout : Duration) (targets : List (Address × Behaviour))
    (time : Nat) : permits.Serves timeout targets time where
  sources := by
    have same : Response.source ∘ Fanout.Ending.response = Prod.fst :=
      funext fun ending => Response.source_ofResult ending.1 _
    rw [sendMany_eq_endings, List.map_map, same, map_fst_endings]
  inTime := by
    rw [sendMany_eq_endings]
    refine Nat.add_le_add_left (foldr_max_le fun delay among => ?_) time
    obtain ⟨ending, isEnding, rfl⟩ := List.mem_map.mp among
    exact ending_le_timeout timeout time targets permits ending isEnding
  alone room := (stocked.sendMany_eq timeout targets time room).trans (PeerMesh.sendMany_eq timeout targets time)
  stocked := stocked.sendMany timeout targets time

end Permits

end PeerMesh
