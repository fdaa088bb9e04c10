/-
**What happens on a served connection.**

Frames that fit, sent one after another and then the end, are served as if there were no bytes in between:

* every request hands its event to the receiver, once and in order (`Frame.handed`);
* every request that expects a reply gets one, of its own number and with what the receiver answers
  (`Frame.replies`), and nothing else is sent back;
* the service ends without an error.

`serve_messages` says so for every way the stream is cut into pieces. What is sent back is itself a
stream of frames, from which the replies are read one after another (`Frame.Yields`).
-/

import PeerMesh.Proofs.Stream.Framing

namespace PeerMesh

namespace Frame

/-- The event that a frame hands to the receiver, with whether it has to answer. -/
def handed? : Frame → Option (Bool × Event)
  | .request _ expectsReply event => some (expectsReply, event)
  | .reply _ _ => none

/-- The events that frames hand to the receiver, in order. -/
def handed (frames : List Frame) : List (Bool × Event) := frames.filterMap handed?

/-- The replies to frames that arrive after `earlier` events were handed to the receiver. -/
def replies (answer : Answering) : (earlier : List (Bool × Event)) → List Frame → List Frame
  | _, [] => []
  | earlier, .reply _ _ :: frames => replies answer earlier frames
  | earlier, .request id expectsReply event :: frames =>
    let later := replies answer (earlier ++ [(expectsReply, event)]) frames
    if expectsReply then .reply id (answer earlier event) :: later else later

/-- Frames are read off a stream, one after another, until it is over. -/
inductive Yields : List Bytes → List Frame → Prop
  | nothing {pieces : List Bytes} (finished : read pieces = .finished) : Yields pieces []
  | next {pieces rest : List Bytes} {frame : Frame} {frames : List Frame}
      (first : read pieces = .frame frame rest) (later : Yields rest frames) :
      Yields pieces (frame :: frames)

variable {pieces : List Bytes} {frames : List Frame}

theorem read_of_empty (empty : pieces.flatten = []) : read pieces = .finished := by
  have short : takeExactly 4 pieces = none := takeExactly_of_short (by simp [empty])
  simp only [read, short]

theorem length_le_length_messages (frames : List Frame) :
    frames.length ≤ (frames.flatMap message).length := by
  induction frames with
  | nil => simp
  | cons frame frames ih =>
    simp only [List.length_cons, List.flatMap_cons, List.length_append, message,
      Bytes.length_bigEndian]
    omega

/-- **Frames that fit are read back from their messages**, however these are cut. -/
theorem yields_messages (fit : ∀ frame ∈ frames, frame.Fits)
    (arrives : pieces.flatten = frames.flatMap message) : Yields pieces frames := by
  induction frames generalizing pieces with
  | nil => exact .nothing (read_of_empty arrives)
  | cons frame frames ih =>
    rw [List.flatMap_cons] at arrives
    obtain ⟨rest, first, left⟩ := read_message_of_fits (fit frame List.mem_cons_self) arrives
    exact .next first (ih (fun other member => fit other (List.mem_cons_of_mem _ member)) left)

end Frame

open PeerMesh.Frame

variable {pieces : List Bytes} {frames : List Frame}

/-- One frame after the other is served, if the fuel is enough for all of them. -/
theorem serveWithin_messages (answer : Answering) {fuel : Nat} (earlier : List (Bool × Event))
    (enough : frames.length < fuel) (fit : ∀ frame ∈ frames, frame.Fits)
    (arrives : pieces.flatten = frames.flatMap message) :
    serveWithin answer fuel earlier pieces =
      ⟨handed frames, (replies answer earlier frames).flatMap message, .ok ()⟩ := by
  induction frames generalizing fuel earlier pieces with
  | nil =>
    obtain ⟨fuel, rfl⟩ := Nat.exists_eq_succ_of_ne_zero (Nat.ne_of_gt enough)
    simp only [serveWithin, read_of_empty arrives]
    rfl
  | cons frame frames ih =>
    obtain ⟨fuel, rfl⟩ := Nat.exists_eq_succ_of_ne_zero (Nat.ne_of_gt (Nat.zero_lt_of_lt enough))
    rw [List.flatMap_cons] at arrives
    obtain ⟨rest, first, left⟩ := read_message_of_fits (fit frame List.mem_cons_self) arrives
    have later := fun handedBefore => ih handedBefore (Nat.lt_of_succ_lt_succ enough)
      (fun other member => fit other (List.mem_cons_of_mem _ member)) left
    cases frame with
    | reply id data =>
      simp only [serveWithin, first, later]
      rfl
    | request id expectsReply event =>
      simp only [serveWithin, first, later]
      cases expectsReply <;> rfl

/-- **The transcript of a served connection.** Frames that fit hand the events of their requests to the
receiver, in order; what is sent back are the messages of the replies and nothing else; and the
service ends without an error. If the replies fit as well, whoever reads what was sent back gets
them. -/
theorem serve_messages (answer : Answering) (fit : ∀ frame ∈ frames, frame.Fits)
    (arrives : pieces.flatten = frames.flatMap message) :
    (serve answer pieces).handed = handed frames ∧
      (serve answer pieces).sentBack = (replies answer [] frames).flatMap message ∧
      (serve answer pieces).ending = .ok () ∧
      ((∀ reply ∈ replies answer [] frames, reply.Fits) →
        ∀ back : List Bytes, back.flatten = (serve answer pieces).sentBack →
          Yields back (replies answer [] frames)) := by
  have enough : frames.length < pieces.flatten.length + 1 := by
    have few := length_le_length_messages frames
    rw [arrives]
    omega
  have served := serveWithin_messages answer [] enough fit arrives
  rw [serve, served]
  exact ⟨rfl, rfl, rfl, fun fitting back same => yields_messages fitting same⟩

/-! ### A connection with three frames -/

/-- A question, a reply that nobody asked for, and a notice. -/
def questionAndNotice : List Frame :=
  [.request 7 true ⟨.all, "ask", [1, 2], ⟨"a"⟩, ⟨"m:1"⟩⟩, .reply 3 none,
    .request 8 false ⟨.named "d", "tell", [], ⟨"a"⟩, ⟨"m:1"⟩⟩]

/-- The three messages, cut within a length and within a payload. -/
def questionAndNoticePieces : List Bytes :=
  let stream := questionAndNotice.flatMap message
  [stream.take 2, [], (stream.drop 2).take 10, stream.drop 12]

/-- A receiver that answers with the data it was sent, after the number of events before. -/
def countingEcho : Answering := fun earlier event =>
  some (UInt8.ofNat earlier.length :: event.data)

theorem serve_questionAndNotice :
    (∀ frame ∈ questionAndNotice, frame.Fits) ∧
      questionAndNoticePieces.flatten = questionAndNotice.flatMap message ∧
      (serve countingEcho questionAndNoticePieces).sentBack =
        (Frame.reply 7 (some [0, 1, 2])).message ∧
      Yields [(Frame.reply 7 (some [0, 1, 2])).message] [.reply 7 (some [0, 1, 2])] := by
  have fit : ∀ frame ∈ questionAndNotice, frame.Fits := by decide
  have arrives : questionAndNoticePieces.flatten = questionAndNotice.flatMap message := by decide
  obtain ⟨-, back, -, read⟩ := serve_messages countingEcho fit arrives
  refine ⟨fit, arrives, back, read ?_ _ ?_⟩
  · decide
  · rw [back]
    decide

end PeerMesh
