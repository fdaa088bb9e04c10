/-
**How waits for peers end.**

* `View.Justifies` — what the end of a wait has to do with the view in which it ends.
* `View.perform_of_not_signals` — nobody who waits misses anything without a signal, and so
  `PeerCall.verdictOn?_eq`: looking at the view only after signals is as good as looking at it always.
* `Lobby.InOrder.move` — what holds of a lobby holds whatever happens next; `PeerCall.Follows` — what becomes of
  a call thereby.
* **`Lobby.waits_are_justified`** — in every run, every call ends as the view justifies, at once if it can, and
  interrupted if the view is shut down.
* **`Vigil.awaitPeers_justified`** — a single wait, while steps are due, ends so as well.
-/

import PeerMesh.Proofs.View.History
import PeerMesh.Proofs.View.Shut
import PeerMesh.View.Lobby
import PeerMesh.View.Vigil

namespace PeerMesh

/-- Whether a span of time is over at a moment, in milliseconds, that began at another one. -/
def Duration.HasPassed (span : Duration) (begun time : Nat) : Prop :=
  span.nanos ≤ (time - begun) * Duration.nanosPerMilli

theorem Duration.hasPassed_of_ticks_le {span : Duration} {begun time : Nat}
    (late : begun + span.ticks ≤ time) : span.HasPassed begun time := by
  unfold HasPassed
  unfold ticks nanosPerMilli at *
  omega

namespace View

/-- What the end of a wait for `minimum` peers has to do with the view in which it ends; `late` says that the
timeout is over. -/
def Justifies (view : View) (minimum : Nat) (late : Prop) : Except ViewError Nat → Prop
  | .ok count => max minimum 1 ≤ count ∧ count = view.nodeCount ∧ view.closed = false
  | .error (.awaitTimeout expected actual) =>
    late ∧ expected = max minimum 1 ∧ actual = view.nodeCount ∧ actual < expected ∧ view.closed = false
  | .error .interrupted => view.closed = true
  | .error .closed | .error (.selfAddition _) => False

variable {selfId : NodeId} {view : View}

/-- A verdict is justified by the view. -/
theorem Sound.justifies (sound : view.Sound selfId) {minimum : Nat} {expired : Bool} {late : Prop}
    (timely : expired = true → late) {verdict : Except ViewError Nat}
    (ends : view.awaitVerdict? minimum expired = some verdict) : view.Justifies minimum late verdict := by
  unfold awaitVerdict? at ends
  dsimp only at ends
  rw [sound.peersCounted] at ends
  split at ends
  · rename_i closed
    obtain rfl := Option.some.inj ends
    exact closed
  · rename_i notClosed
    have isOpen : view.closed = false := Bool.eq_false_iff.mpr notClosed
    split at ends
    · rename_i enough
      obtain rfl := Option.some.inj ends
      exact ⟨enough, rfl, isOpen⟩
    · rename_i tooFew
      split at ends
      · rename_i isOver
        obtain rfl := Option.some.inj ends
        exact ⟨timely isOver, rfl, rfl, Nat.lt_of_not_le tooFew, isOpen⟩
      · cases ends

/-- Without a verdict there is reason to wait. -/
theorem Sound.patient_of_none (sound : view.Sound selfId) {minimum : Nat} {expired : Bool}
    (waits : view.awaitVerdict? minimum expired = none) :
    view.closed = false ∧ view.nodeCount < max minimum 1 := by
  unfold awaitVerdict? at waits
  dsimp only at waits
  rw [sound.peersCounted] at waits
  split at waits
  · cases waits
  · rename_i notClosed
    split at waits
    · cases waits
    · rename_i tooFew
      exact ⟨Bool.eq_false_iff.mpr notClosed, Nat.lt_of_not_le tooFew⟩

/-- A wait ends when its time is over. -/
theorem awaitVerdict?_ne_none (view : View) (minimum : Nat) : view.awaitVerdict? minimum true ≠ none := by
  unfold awaitVerdict?
  dsimp only
  split
  · exact nofun
  · split <;> exact nofun

/-- **Nobody who waits misses anything without a signal.** -/
theorem perform_of_not_signals {now : Reading} {step : ViewStep} (quiet : view.signals now step = false) :
    (view.perform now step).2.peerCount = view.peerCount ∧
      (view.perform now step).2.closed = view.closed := by
  have refused {id : NodeId} {operation : Outcome Bool} (isRefused : (view.refusal? id).isNone = false) :
      (view.unlessRefused id operation).view.peerCount = view.peerCount ∧
        (view.unlessRefused id operation).view.closed = view.closed := by
    unfold unlessRefused
    cases found : view.refusal? id with
    | none =>
      rw [found] at isRefused
      cases isRefused
    | some error => exact ⟨rfl, rfl⟩
  cases step with
  | addHost | heartbeat | observe => exact refused quiet
  | removeDead | removeLeaving | clear | shutdown => cases quiet
  | cleanup grace =>
    have none : ¬ 0 < (view.cleanup now grace).answer := of_decide_eq_false quiet
    show (view.cleanup now grace).view.peerCount = _ ∧ (view.cleanup now grace).view.closed = _
    unfold cleanup at none ⊢
    dsimp only at none ⊢
    rw [if_neg none]
    exact ⟨rfl, rfl⟩
  | suspect | touch | checkState | observeVersion | get | addressOf | isLive | isDead | normal | staleness
  | advance | set => exact ⟨rfl, rfl⟩

end View

namespace PeerCall

/-- Whoever waits without a signal has reason to wait. -/
def IsPatient (call : PeerCall) (view : View) : Prop :=
  call.verdict = none → call.signalled = false → view.closed = false ∧ view.nodeCount < call.wanted

/-- What becomes of a call when a view has become a later one: it waits on, has ended before, or ends as the
view justifies. -/
structure Follows (view : View) (time : Nat) (later : View) (before after : PeerCall) : Prop where
  request : after.minimum = before.minimum ∧ after.timeout = before.timeout ∧ after.begun = before.begun
  ended : before.verdict ≠ none → after.verdict = before.verdict
  ending : before.verdict = none → ∀ verdict, after.verdict = some verdict →
    view.Justifies before.minimum (before.timeout.HasPassed before.begun time) verdict
  patient : after.IsPatient later

variable {view later : View} {time : Nat} {call : PeerCall}

/-- A call is not decided. -/
theorem follows_of_same {after : PeerCall}
    (request : after.minimum = call.minimum ∧ after.timeout = call.timeout ∧ after.begun = call.begun)
    (same : after.verdict = call.verdict) (patient : after.IsPatient later) :
    call.Follows view time later after :=
  ⟨request, fun _ => same, fun waits verdict ends =>
    absurd ends (by rw [same, waits]; exact nofun), patient⟩

theorem isPatient_signal (call : PeerCall) (view : View) : call.signal.IsPatient view :=
  fun _ unsignalled => nomatch unsignalled

/-- **Looking at the view after signals only is as good as looking at it always.** -/
theorem verdictOn?_eq {selfId : NodeId} (sound : view.Sound selfId) (patient : call.IsPatient view)
    (waits : call.verdict = none) (rung : Bool) :
    call.verdictOn? view rung = view.awaitVerdict? call.minimum rung := by
  unfold verdictOn? View.awaitVerdict?
  dsimp only
  rw [sound.peersCounted]
  unfold IsPatient wanted at patient
  unfold wanted
  cases signalled : call.signalled with
  | true => cases closed : view.closed <;> simp
  | false =>
    obtain ⟨isOpen, tooFew⟩ := patient waits signalled
    simp [isOpen, Nat.not_le.mpr tooFew]

/-- **When its turn comes, a call ends as the view justifies or goes on waiting.** -/
theorem follows_look {selfId : NodeId} (sound : view.Sound selfId) (patient : call.IsPatient view) (time : Nat)
    (rung : Bool) : call.Follows view time view (call.look view (rung && call.deadline ≤ time)) := by
  unfold look
  split
  · exact follows_of_same ⟨rfl, rfl, rfl⟩ rfl patient
  · rename_i waits
    have ends := verdictOn?_eq sound patient waits (rung && call.deadline ≤ time)
    have timely (expired : (rung && decide (call.deadline ≤ time)) = true) :
        call.timeout.HasPassed call.begun time := by
      rw [Bool.and_eq_true] at expired
      exact Duration.hasPassed_of_ticks_le (of_decide_eq_true expired.2)
    refine ⟨⟨rfl, rfl, rfl⟩, fun ended => absurd waits ended, fun _ verdict some => ?_, fun still _ => ?_⟩
    · exact sound.justifies timely (ends.symm.trans some)
    · exact sound.patient_of_none (ends.symm.trans still)

end PeerCall

namespace Lobby

variable {selfId : NodeId} {lobby : Lobby}

/-- What holds of a lobby, whatever has happened in it. -/
structure InOrder (selfId : NodeId) (lobby : Lobby) : Prop where
  sound : lobby.view.Sound selfId
  patient : ∀ call ∈ lobby.calls, call.IsPatient lobby.view

/-- The call that is made, if one is. -/
def Move.made (time : Nat) : Move → List PeerCall
  | .call timeout minimum => [⟨minimum, timeout, time, true, none⟩]
  | .step _ _ | .turn _ _ | .pass _ => []

/-- Of a list in which one item was changed, every item stands where it stood. -/
theorem forall₂_modify {α : Type} {related : α → α → Prop} {change : α → α} (items : List α) :
    (∀ item ∈ items, related item item ∧ related item (change item)) →
      ∀ number, List.Forall₂ related items (items.modify number change) := by
  induction items with
  | nil =>
    intro _ number
    rw [List.modify_nil]
    exact .nil
  | cons item rest ih =>
    intro each number
    obtain ⟨first, others⟩ := List.forall_mem_cons.mp each
    cases number with
    | zero => exact .cons first.2 (List.forall₂_same.mpr fun other among => (others other among).1)
    | succ number => exact .cons first.1 (ih others number)

/-- The turn of one call comes, and the other calls wait on. -/
theorem InOrder.turn (inOrder : lobby.InOrder selfId) (number : Nat) (rung : Bool) :
    List.Forall₂ (PeerCall.Follows lobby.view lobby.time lobby.view) lobby.calls
      (lobby.turn number rung).calls :=
  forall₂_modify lobby.calls (fun call among =>
    ⟨PeerCall.follows_of_same ⟨rfl, rfl, rfl⟩ rfl (inOrder.patient call among),
      PeerCall.follows_look inOrder.sound (inOrder.patient call among) lobby.time rung⟩) number

/-- A new call looks at the view. -/
theorem InOrder.withCall (inOrder : lobby.InOrder selfId) (timeout : Duration) (minimum : Nat) :
    { lobby with calls := lobby.calls ++ [⟨minimum, timeout, lobby.time, true, none⟩] : Lobby }.InOrder
      selfId := by
  refine ⟨inOrder.sound, fun call among => ?_⟩
  rcases List.mem_append.mp among with earlier | new
  · exact inOrder.patient call earlier
  · rw [List.mem_singleton.mp new]
    exact PeerCall.isPatient_signal ⟨minimum, timeout, lobby.time, true, none⟩ _

/-- **What happens next**: the lobby stays in order, no call is lost, and calls end as the view justifies. -/
theorem InOrder.move (inOrder : lobby.InOrder selfId) (move : Move) :
    (lobby.move move).view.Sound selfId ∧
      List.Forall₂ (PeerCall.Follows lobby.view lobby.time (lobby.move move).view)
        (lobby.calls ++ move.made lobby.time) (lobby.move move).calls := by
  cases move with
  | step now step =>
    refine ⟨inOrder.sound.perform now step, ?_⟩
    show List.Forall₂ _ (lobby.calls ++ []) (if lobby.view.signals now step then _ else _)
    rw [List.append_nil]
    split
    · rw [List.forall₂_map_right_iff]
      exact List.forall₂_same.mpr fun call among =>
        PeerCall.follows_of_same ⟨rfl, rfl, rfl⟩ rfl (call.isPatient_signal _)
    · rename_i silent
      obtain ⟨count, closed⟩ := View.perform_of_not_signals (Bool.eq_false_iff.mpr silent)
      refine List.forall₂_same.mpr fun call among =>
        PeerCall.follows_of_same ⟨rfl, rfl, rfl⟩ rfl fun waits unsignalled => ?_
      obtain ⟨isOpen, tooFew⟩ := inOrder.patient call among waits unsignalled
      refine ⟨closed.trans isOpen, ?_⟩
      rw [← inOrder.sound.peersCounted, ← count, (inOrder.sound.perform now step).peersCounted] at tooFew
      exact tooFew
  | call timeout minimum =>
    exact ⟨inOrder.sound, (inOrder.withCall timeout minimum).turn lobby.calls.length false⟩
  | turn number rung =>
    refine ⟨inOrder.sound, ?_⟩
    show List.Forall₂ _ (lobby.calls ++ []) _
    rw [List.append_nil]
    exact inOrder.turn number rung
  | pass millis =>
    refine ⟨inOrder.sound, ?_⟩
    show List.Forall₂ _ (lobby.calls ++ []) lobby.calls
    rw [List.append_nil]
    exact List.forall₂_same.mpr fun call among =>
      PeerCall.follows_of_same ⟨rfl, rfl, rfl⟩ rfl (inOrder.patient call among)

/-- A lobby is in order after anything. -/
theorem InOrder.afterwards (inOrder : lobby.InOrder selfId) (move : Move) :
    (lobby.move move).InOrder selfId := by
  obtain ⟨sound, follow⟩ := inOrder.move move
  refine ⟨sound, ?_⟩
  have patient {before after : List PeerCall}
      (follow : List.Forall₂ (PeerCall.Follows lobby.view lobby.time (lobby.move move).view) before after) :
      ∀ call ∈ after, call.IsPatient (lobby.move move).view := by
    induction follow with
    | nil => exact fun _ none => absurd none List.not_mem_nil
    | cons first _ ih => exact List.forall_mem_cons.mpr ⟨first.patient, ih⟩
  exact patient follow

theorem InOrder.run (moves : List Move) : ∀ {lobby : Lobby}, lobby.InOrder selfId →
    (lobby.run moves).InOrder selfId := by
  induction moves with
  | nil => exact fun inOrder => inOrder
  | cons move rest ih => exact fun inOrder => ih (inOrder.afterwards move)

/-- What a call has returned. -/
def answerTo (lobby : Lobby) (number : Nat) : Option (Except ViewError Nat) :=
  lobby.calls[number]?.bind PeerCall.verdict

/-- A call whose turn comes is answered by the view as it is. -/
theorem InOrder.answerTo_turn (inOrder : lobby.InOrder selfId) {number : Nat} {call : PeerCall}
    (found : lobby.calls[number]? = some call) (waits : call.verdict = none) (rung : Bool) :
    (lobby.turn number rung).answerTo number =
      lobby.view.awaitVerdict? call.minimum (rung && call.deadline ≤ lobby.time) := by
  have patient := inOrder.patient call (List.mem_of_getElem? found)
  rw [← PeerCall.verdictOn?_eq inOrder.sound patient waits]
  unfold answerTo Lobby.turn
  rw [List.getElem?_modify_eq, found]
  show (call.look _ _).verdict = _
  unfold PeerCall.look
  split
  · rename_i verdict ended
    rw [waits] at ended
    cases ended
  · rfl

/-- A call that has ended keeps its answer. -/
theorem answerTo_turn_of_ended {number : Nat} {call : PeerCall} {verdict : Except ViewError Nat}
    (found : lobby.calls[number]? = some call) (ended : call.verdict = some verdict) (rung : Bool) :
    (lobby.turn number rung).answerTo number = some verdict := by
  unfold answerTo Lobby.turn
  rw [List.getElem?_modify_eq, found]
  show (call.look _ _).verdict = _
  unfold PeerCall.look
  rw [ended]
  exact ended

/-- A new call is answered by the view as it is. -/
theorem InOrder.answerTo_call (inOrder : lobby.InOrder selfId) (timeout : Duration) (minimum : Nat) :
    (lobby.move (.call timeout minimum)).answerTo lobby.calls.length =
      lobby.view.awaitVerdict? minimum false := by
  let made : PeerCall := ⟨minimum, timeout, lobby.time, true, none⟩
  have found : (lobby.calls ++ [made])[lobby.calls.length]? = some made := List.getElem?_concat_length
  exact (inOrder.withCall timeout minimum).answerTo_turn found rfl false

/-- A view that is shut down stays so. -/
theorem closed_move (closed : lobby.view.closed = true) (move : Move) :
    (lobby.move move).view.closed = true := by
  cases move with
  | step now step =>
    have kept : (Kept.mk lobby.view (.manual now)).view.closed = true := closed
    exact (Kept.perform_fades kept 0 step).closed
  | call | turn | pass => exact closed

/-- **How waits for peers end**, whatever has happened in the lobby so far.

* Whatever happens next, no call is lost, none that has ended changes, and each that ends does so as the view
  justifies at that moment.
* On a view that is shut down, for good, every new call is interrupted at once, and every call that still waits
  is signalled and is interrupted when its turn comes.
* On an open view with enough peers a new call is answered at once, whatever its timeout.
* A call ends when its turn comes and its timer has rung. -/
theorem waits_are_justified {start : View} (sound : start.Sound selfId) (time : Nat) (moves : List Move) :
    let lobby := (Lobby.new start time).run moves
    (∀ move, List.Forall₂ (PeerCall.Follows lobby.view lobby.time (lobby.move move).view)
      (lobby.calls ++ move.made lobby.time) (lobby.move move).calls) ∧
    (lobby.view.closed = true → (∀ move, (lobby.move move).view.closed = true) ∧
      (∀ timeout minimum, (lobby.move (.call timeout minimum)).answerTo lobby.calls.length =
        some (.error .interrupted)) ∧
      ∀ number call, lobby.calls[number]? = some call → call.verdict = none → call.signalled = true ∧
        ∀ rung, (lobby.turn number rung).answerTo number = some (.error .interrupted)) ∧
    (lobby.view.closed = false → ∀ timeout minimum, max minimum 1 ≤ lobby.view.nodeCount →
      (lobby.move (.call timeout minimum)).answerTo lobby.calls.length = some (.ok lobby.view.nodeCount)) ∧
    ∀ number call, lobby.calls[number]? = some call → call.deadline ≤ lobby.time →
      (lobby.turn number true).answerTo number ≠ none := by
  intro lobby
  have inOrder : lobby.InOrder selfId := InOrder.run moves ⟨sound, fun _ none => absurd none List.not_mem_nil⟩
  have interrupted {minimum : Nat} {expired : Bool} (closed : lobby.view.closed = true) :
      lobby.view.awaitVerdict? minimum expired = some (.error .interrupted) := by
    unfold View.awaitVerdict?
    rw [if_pos closed]
  refine ⟨fun move => (inOrder.move move).2, fun closed => ⟨closed_move closed, fun timeout minimum => ?_,
    fun number call found waits => ⟨?_, fun rung => ?_⟩⟩, fun isOpen timeout minimum enough => ?_,
    fun number call found due => ?_⟩
  · exact (inOrder.answerTo_call timeout minimum).trans (interrupted closed)
  · cases signalled : call.signalled with
    | true => rfl
    | false =>
      have isOpen := (inOrder.patient call (List.mem_of_getElem? found) waits signalled).1
      exact absurd (closed.symm.trans isOpen) (by decide)
  · exact (inOrder.answerTo_turn found waits rung).trans (interrupted closed)
  · rw [inOrder.answerTo_call]
    unfold View.awaitVerdict?
    rw [inOrder.sound.peersCounted, isOpen]
    simp [enough]
  · cases waits : call.verdict with
    | none =>
      rw [inOrder.answerTo_turn found waits, decide_eq_true due]
      exact lobby.view.awaitVerdict?_ne_none call.minimum
    | some verdict =>
      rw [answerTo_turn_of_ended found waits]
      exact nofun

/-- Two peers are waited for, and then one without any time. The first call sees one peer come; the second one
goes before the turn of the call comes again. Its time is over before a third call and the view is shut down. -/
theorem waits_of_three_calls :
    let moves : List Move := [.call ⟨5000001⟩ 2, .step 1 (.heartbeat ⟨"mem:2"⟩ ⟨"b"⟩), .turn 0 false,
      .call ⟨0⟩ 0, .step 1 (.heartbeat ⟨"mem:3"⟩ ⟨"c"⟩), .step 1 (.removeDead ⟨"c"⟩), .turn 0 false, .pass 5,
      .turn 0 true]
    let lobby := (Lobby.new (View.new ⟨"a"⟩) 0).run moves
    let ended := (Lobby.new (View.new ⟨"a"⟩) 0).run
      (moves ++ [.pass 1, .turn 0 true, .call ⟨7⟩ 3, .step 2 .shutdown])
    lobby.calls.map PeerCall.verdict = [none, some (.ok 1)] ∧
      (lobby.move (.call ⟨0⟩ 1)).answerTo 2 = some (.ok 1) ∧
      ended.calls.map PeerCall.verdict = [some (.error (.awaitTimeout 2 1)), some (.ok 1), none] ∧
      (∀ rung, (ended.turn 2 rung).answerTo 2 = some (.error .interrupted)) ∧
      ∀ timeout minimum, (ended.move (.call timeout minimum)).answerTo 3 = some (.error .interrupted) := by
  intro moves lobby ended
  have verdicts : lobby.calls.map PeerCall.verdict = [none, some (.ok 1)] := by decide +kernel
  have isOpen : lobby.view.closed = false ∧ lobby.view.nodeCount = 1 := by decide +kernel
  have ends : ended.calls.map PeerCall.verdict =
      [some (.error (.awaitTimeout 2 1)), some (.ok 1), none] := by decide +kernel
  have closed : ended.view.closed = true := by decide +kernel
  have first : lobby = (Lobby.new (View.new ⟨"a"⟩) 0).run moves := rfl
  have second : ended = (Lobby.new (View.new ⟨"a"⟩) 0).run
      (moves ++ [.pass 1, .turn 0 true, .call ⟨7⟩ 3, .step 2 .shutdown]) := rfl
  -- what follows is true of any two such lobbies, and is slow to check on these two
  clear_value lobby ended
  have two : lobby.calls.length = 2 := by rw [← List.length_map, verdicts]; rfl
  have three : ended.calls.length = 3 := by rw [← List.length_map, ends]; rfl
  obtain ⟨_, _, atOnce, _⟩ := waits_are_justified (View.new_sound ⟨"a"⟩) 0 moves
  rw [← first, two, isOpen.2] at atOnce
  obtain ⟨_, shut, _⟩ := waits_are_justified (View.new_sound ⟨"a"⟩) 0
    (moves ++ [.pass 1, .turn 0 true, .call ⟨7⟩ 3, .step 2 .shutdown])
  rw [← second, three] at shut
  obtain ⟨_, later, pending⟩ := shut closed
  have waiting : ended.calls[2]?.map PeerCall.verdict = some none := by
    rw [← List.getElem?_map, ends]
    rfl
  obtain ⟨call, third, waits⟩ := Option.map_eq_some_iff.mp waiting
  exact ⟨verdicts, atOnce isOpen.1 ⟨0⟩ 1 (by decide), ends, (pending 2 call third waits).2, later⟩

end Lobby

/-! ### A single wait -/

namespace Vigil

variable {selfId : NodeId}

/-- Steps keep the view of a vigil sound. -/
theorem sound_steps (steps : List (Nat × ViewStep)) : ∀ {vigil : Vigil}, vigil.watched.view.Sound selfId →
    (vigil.performAll steps).watched.view.Sound selfId := by
  induction steps with
  | nil => exact fun sound => sound
  | cons entry rest ih =>
    exact fun sound => ih (Watched.performWithin_induct (View.Sound selfId)
      (fun _ step sound => Kept.perform_sound sound _ step) _ _ entry.2 sound)

theorem due_performAll (steps : List (Nat × ViewStep)) : ∀ vigil : Vigil,
    (vigil.performAll steps).due = vigil.due := by
  induction steps with
  | nil => exact fun _ => rfl
  | cons entry rest ih => exact fun vigil => ih (vigil.perform entry.2).2

/-- However many steps are due, a wait ends as the view justifies by then. -/
theorem awaitUntil_justified {late : Nat → Prop} {minimum deadline : Nat}
    (isOver : ∀ time, deadline ≤ time → late time) (fuel : Nat) : ∀ {vigil : Vigil},
    vigil.watched.view.Sound selfId → vigil.due.length ≤ fuel →
      let (verdict, later) := awaitUntil minimum deadline fuel vigil
      later.watched.view.Justifies minimum (late later.time) verdict := by
  have atDeadline {vigil : Vigil} (sound : vigil.watched.view.Sound selfId) :
      vigil.watched.view.Justifies minimum (late deadline)
        ((vigil.watched.view.awaitVerdict? minimum true).getD (.error .interrupted)) := by
    obtain ⟨verdict, ends⟩ := Option.ne_none_iff_exists'.mp
      (vigil.watched.view.awaitVerdict?_ne_none minimum)
    rw [ends]
    exact sound.justifies (fun _ => isOver deadline (Nat.le_refl _)) ends
  induction fuel with
  | zero =>
    intro vigil sound few
    have nothing : vigil.due = [] := List.eq_nil_of_length_eq_zero (Nat.le_zero.mp few)
    unfold awaitUntil
    dsimp only
    split
    · rename_i verdict ends
      exact sound.justifies (fun expired => isOver _ (of_decide_eq_true expired)) ends
    · rw [nothing]
      simp only [List.head?_nil, Option.map_none, Option.getD_none, Nat.lt_irrefl, if_false]
      exact atDeadline sound
  | succ fuel ih =>
    intro vigil sound few
    unfold awaitUntil
    dsimp only
    split
    · rename_i verdict ends
      exact sound.justifies (fun expired => isOver _ (of_decide_eq_true expired)) ends
    · split
      · rename_i soon
        refine ih (sound_steps _ sound) ?_
        rw [due_performAll, List.length_drop]
        have ready : 0 < (vigil.due.takeWhile
            (·.1 ≤ (vigil.due.head?.map Prod.fst).getD deadline)).length := by
          cases due : vigil.due with
          | nil =>
            rw [due] at soon
            exact absurd soon (Nat.lt_irrefl _)
          | cons first rest => simp
        omega
      · exact atDeadline sound

/-- **A wait for peers ends as the view justifies by then**, whatever steps are due meanwhile. -/
theorem awaitPeers_justified {vigil : Vigil} (sound : vigil.watched.view.Sound selfId) (timeout : Duration)
    (minimum : Nat) :
    let (verdict, later) := vigil.awaitPeers timeout minimum
    later.watched.view.Justifies minimum (timeout.HasPassed vigil.time later.time) verdict :=
  awaitUntil_justified (fun _ => Duration.hasPassed_of_ticks_le) _ sound (Nat.le_succ _)

end Vigil

end PeerMesh
