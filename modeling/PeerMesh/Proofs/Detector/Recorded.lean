/-
**Taking down what is sent.**

* `Attempt` — a control message that was to be sent, and whether it was accepted.
* `Station.recorded` — a station that takes down what it sends.
* `Station.sendAll_recorded`, `Station.broadcastAll_recorded` — it sends what the station sends, and what it takes
  down of several messages.
-/

import PeerMesh.Detector.Rounds

namespace PeerMesh

/-- A control message that a detector tried to send to an address or, without one, to broadcast. -/
structure Attempt where
  receiver : Option Address
  message : ControlMessage
  succeeded : Bool
  deriving DecidableEq

/-- What was to be sent, and whom to. -/
def Attempt.sending (attempt : Attempt) : Option Address × ControlMessage :=
  (attempt.receiver, attempt.message)

/-- What was sent of a list of messages, up to the first failure. -/
structure Attempt.AreUpToFailure (attempts : List Attempt)
    (messages : List (Option Address × ControlMessage)) : Prop where
  inOrder : attempts.map Attempt.sending <+: messages
  earlier : ∀ attempt ∈ attempts.dropLast, attempt.succeeded = true
  last : attempts.length = messages.length ∨
    ∃ attempt, attempts.getLast? = some attempt ∧ attempt.succeeded = false

namespace Station

variable {σ : Type} (station : Station σ)

/-- A station that takes down what it sends. -/
def recorded : Station (σ × List Attempt) where
  detector noted := station.detector noted.1
  update change noted := (station.update change noted.1, noted.2)
  time noted := station.time noted.1
  ask noted question timeout :=
    let (answer, state) := station.ask noted.1 question timeout
    (answer, state, noted.2)
  send noted address message :=
    let (accepted, state) := station.send noted.1 address message
    (accepted, state, noted.2 ++ [⟨some address, message, accepted⟩])
  broadcast noted message :=
    let (result, state) := station.broadcast noted.1 message
    (result, state, noted.2 ++ [⟨none, message, result.isOk⟩])
  draw := station.draw

/-- The first message of a list is sent, and then the others. -/
theorem sendAll_cons {send : σ → Address → ControlMessage → Bool × σ} (message : Address × ControlMessage)
    (rest : List (Address × ControlMessage)) (state : σ) :
    sendAll send (message :: rest) state =
      let first := send state message.1 message.2
      let others := sendAll send rest first.2
      (first.1.toNat + others.1, others.2) := by
  have counted (messages : List (Address × ControlMessage)) : ∀ (before : Nat) (state : σ),
      messages.foldl (fun told next =>
          (told.1 + (send told.2 next.1 next.2).1.toNat, (send told.2 next.1 next.2).2)) (before, state) =
        (before + (sendAll send messages state).1, (sendAll send messages state).2) := by
    induction messages with
    | nil => exact fun _ _ => rfl
    | cons next rest ih =>
      intro before state
      have others := ih (0 + (send state next.1 next.2).1.toNat) (send state next.1 next.2).2
      rw [List.foldl_cons, ih, show sendAll send (next :: rest) state = _ from others, Nat.zero_add,
        Nat.add_assoc]
  rw [show sendAll send (message :: rest) state = _ from counted rest _ _, Nat.zero_add]

/-- All messages of a list are sent, whatever becomes of each. -/
theorem sendAll_recorded (messages : List (Address × ControlMessage)) :
    ∀ (state : σ) (taken : List Attempt), ∃ attempts,
      sendAll station.recorded.send messages (state, taken) =
        ((sendAll station.send messages state).1, (sendAll station.send messages state).2,
          taken ++ attempts) ∧
      attempts.map Attempt.sending = messages.map (fun message => (some message.1, message.2)) ∧
      (sendAll station.send messages state).1 = attempts.countP Attempt.succeeded := by
  induction messages with
  | nil => exact fun state taken => ⟨[], by rw [List.append_nil]; rfl, rfl, rfl⟩
  | cons message rest ih =>
    intro state taken
    let sent := station.send state message.1 message.2
    let attempt : Attempt := ⟨some message.1, message.2, sent.1⟩
    obtain ⟨attempts, same, sendings, accepted⟩ := ih sent.2 (taken ++ [attempt])
    have noted : station.recorded.send (state, taken) message.1 message.2 =
        (sent.1, sent.2, taken ++ [attempt]) := rfl
    refine ⟨attempt :: attempts, ?_, ?_, ?_⟩
    · rw [sendAll_cons, sendAll_cons, noted]
      dsimp only
      rw [same, List.append_assoc]
      rfl
    · rw [List.map_cons, List.map_cons, sendings]
      rfl
    · rw [sendAll_cons, List.countP_cons]
      show sent.1.toNat + (sendAll station.send rest sent.2).1 = _
      rw [accepted, Nat.add_comm]
      show _ = _ + if sent.1 = true then 1 else 0
      cases sent.1 <;> rfl

/-- Messages of a list are broadcast up to the first failure. -/
theorem broadcastAll_recorded (messages : List ControlMessage) :
    ∀ (state : σ) (taken : List Attempt), ∃ attempts,
      broadcastAll station.recorded.broadcast messages (state, taken) =
        (broadcastAll station.broadcast messages state, taken ++ attempts) ∧
      Attempt.AreUpToFailure attempts (messages.map fun message => (none, message)) := by
  induction messages with
  | nil =>
    exact fun state taken => ⟨[], by rw [List.append_nil]; rfl, List.nil_prefix,
      fun _ none => absurd none List.not_mem_nil, .inl rfl⟩
  | cons message rest ih =>
    intro state taken
    have noted : station.recorded.broadcast (state, taken) message =
        ((station.broadcast state message).1, (station.broadcast state message).2,
          taken ++ [⟨none, message, (station.broadcast state message).1.isOk⟩]) := rfl
    unfold broadcastAll
    rw [noted]
    obtain ⟨result, later⟩ := station.broadcast state message
    cases result with
    | ok done =>
      obtain ⟨attempts, same, upTo⟩ := ih later (taken ++ [⟨none, message, true⟩])
      refine ⟨⟨none, message, true⟩ :: attempts, ?_, ?_, ?_, ?_⟩
      · refine same.trans ?_
        rw [List.append_assoc]
        rfl
      · exact List.cons_prefix_cons.mpr ⟨rfl, upTo.inOrder⟩
      · intro attempt among
        cases attempts with
        | nil => exact absurd among List.not_mem_nil
        | cons next others =>
          rcases List.mem_cons.mp among with rfl | later
          · rfl
          · exact upTo.earlier attempt later
      · rcases upTo.last with all | ⟨attempt, last, failed⟩
        · exact .inl (congrArg Nat.succ all)
        · refine .inr ⟨attempt, ?_, failed⟩
          rw [List.getLast?_cons, last]
          rfl
    | error error =>
      refine ⟨[⟨none, message, false⟩], rfl, ?_, fun _ none => absurd none List.not_mem_nil,
        .inr ⟨_, rfl, rfl⟩⟩
      exact List.cons_prefix_cons.mpr ⟨rfl, List.nil_prefix⟩

end Station

end PeerMesh
