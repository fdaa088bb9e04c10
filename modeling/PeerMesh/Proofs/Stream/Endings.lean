/-
**How the service of a connection ends.**

Any bytes may arrive on a connection before its end. They begin with some whole frames (`Segment`), and what
follows these is no whole frame.

* `Frame.read_cases` — what is at the front of a stream: a whole frame, something else, or nothing.
* `Segment.cut_unique` — a stream is cut into whole frames in one way.
* **`serve_ends`** — the whole frames of every stream are served. What follows them ends the service with an
  error unless it is shorter than the length of a frame, so a stream that ends within such a length is taken for
  one that ends before it.
-/

import PeerMesh.Proofs.Stream.Transcripts
import PeerMesh.Proofs.Wire.Normal

namespace PeerMesh

/-- A frame as it stands in a stream, and what it holds. -/
structure Segment where
  payload : Bytes
  frame : Frame
  small : payload.length ≤ maxFrameSize
  holds : Frame.ofPayload payload = .ok frame

namespace Segment

/-- The length of the payload and the payload. -/
def bytes (segment : Segment) : Bytes := Bytes.bigEndian 4 segment.payload.length ++ segment.payload

theorem four_le_length (segment : Segment) : 4 ≤ segment.bytes.length := by
  unfold bytes
  rw [List.length_append, Bytes.length_bigEndian]
  exact Nat.le_add_right _ _

theorem announced (segment : Segment) : segment.payload.length % 256 ^ 4 = segment.payload.length := by
  have small := segment.small
  unfold maxFrameSize at small
  exact Nat.mod_eq_of_lt (by omega)

/-- Of two whole frames at the front of one stream neither is longer. -/
theorem eq_of_append {first second : Segment} {rest other : Bytes}
    (same : first.bytes ++ rest = second.bytes ++ other) : first.bytes = second.bytes ∧ rest = other := by
  unfold bytes at same ⊢
  simp only [List.append_assoc] at same
  have four (one other : Nat) : (Bytes.bigEndian 4 one).length = (Bytes.bigEndian 4 other).length := by
    rw [Bytes.length_bigEndian, Bytes.length_bigEndian]
  obtain ⟨header, body⟩ := List.append_inj same (four _ _)
  have lengths : first.payload.length = second.payload.length := by
    rw [← first.announced, ← second.announced, ← Bytes.ofBigEndian_bigEndian, header,
      Bytes.ofBigEndian_bigEndian]
  obtain ⟨payload, rest⟩ := List.append_inj body lengths
  exact ⟨by rw [payload], rest⟩

/-- Whether a whole frame is at the front of a stream. -/
def IsAtFront (stream : Bytes) : Prop := ∃ (segment : Segment) (rest : Bytes), stream = segment.bytes ++ rest

/-- **A stream is cut into whole frames in one way**: if nothing is left of it, nothing is left after as many
whole frames as there are at its front. -/
theorem cut_unique {segments : List Segment} {tail : Bytes} (noMore : ¬ IsAtFront tail) {others : List Segment}
    (same : segments.flatMap bytes ++ tail = others.flatMap bytes) : tail = [] := by
  induction segments generalizing others with
  | nil =>
    cases others with
    | nil => exact same
    | cons other rest => exact absurd ⟨other, _, same⟩ noMore
  | cons segment rest ih =>
    cases others with
    | nil =>
      have none := congrArg List.length same
      have four := segment.four_le_length
      simp only [List.flatMap_cons, List.length_append, List.flatMap_nil, List.length_nil] at none
      omega
    | cons other later =>
      rw [List.flatMap_cons, List.append_assoc, List.flatMap_cons] at same
      exact ih (eq_of_append same).2

end Segment

namespace Frame

variable {pieces : List Bytes}

/-- A whole frame at the front of a stream is read. -/
theorem read_segment (segment : Segment) {body : Bytes} (arrives : pieces.flatten = segment.bytes ++ body) :
    ∃ rest, read pieces = .frame segment.frame rest ∧ rest.flatten = body := by
  unfold Segment.bytes at arrives
  rw [List.append_assoc] at arrives
  obtain ⟨rest, follows, reads, -⟩ := read_of_whole arrives segment.announced segment.small
  exact ⟨rest, reads segment.frame segment.holds, follows⟩

/-- The first four bytes of a stream announce a length. -/
theorem exists_announced (enough : 4 ≤ pieces.flatten.length) :
    ∃ length, length % 256 ^ 4 = length ∧
      pieces.flatten = Bytes.bigEndian 4 length ++ pieces.flatten.drop 4 := by
  have four : (pieces.flatten.take 4).reverse.length = 4 := by
    rw [List.length_reverse, List.length_take_of_le enough]
  have header : Bytes.bigEndian 4 (Bytes.ofBigEndian (pieces.flatten.take 4)) = pieces.flatten.take 4 := by
    have written := Bytes.littleEndian_ofLittleEndian (pieces.flatten.take 4).reverse
    rw [four] at written
    unfold Bytes.bigEndian Bytes.ofBigEndian
    rw [written, List.reverse_reverse]
  refine ⟨Bytes.ofBigEndian (pieces.flatten.take 4), ?_, ?_⟩
  · rw [← Bytes.ofBigEndian_bigEndian, header]
  · rw [header, List.take_append_drop]

/-- A payload that is cut off breaks the stream. -/
theorem read_of_cut {length : Nat} {body : Bytes}
    (arrives : pieces.flatten = Bytes.bigEndian 4 length ++ body) (announced : length % 256 ^ 4 = length)
    (cut : body.length < length) : ∃ error, read pieces = .broken error := by
  obtain ⟨later, taken, rfl⟩ := takeExactly_length arrives
  simp only [read, taken, announcedLength_bigEndian, announced, Option.getD_some, takeExactly_of_short cut]
  split <;> exact ⟨_, rfl⟩

/-- **What is at the front of a stream**: a whole frame, something else, or too little for either. -/
theorem read_cases (pieces : List Bytes) :
    (∃ (segment : Segment) (rest : List Bytes), read pieces = .frame segment.frame rest ∧
        pieces.flatten = segment.bytes ++ rest.flatten) ∨
      (∃ error, read pieces = .broken error ∧ 4 ≤ pieces.flatten.length) ∨
      (read pieces = .finished ∧ pieces.flatten.length < 4) := by
  by_cases short : pieces.flatten.length < 4
  · refine .inr (.inr ⟨?_, short⟩)
    simp only [read, takeExactly_of_short short]
  have four : 4 ≤ pieces.flatten.length := Nat.le_of_not_lt short
  obtain ⟨length, announced, arrives⟩ := exists_announced four
  by_cases large : maxFrameSize < length
  · obtain ⟨error, broken⟩ := read_of_large arrives (announced.symm ▸ large)
    exact .inr (.inl ⟨error, broken, four⟩)
  by_cases cut : (pieces.flatten.drop 4).length < length
  · obtain ⟨error, broken⟩ := read_of_cut arrives announced cut
    exact .inr (.inl ⟨error, broken, four⟩)
  -- The payload is there as a whole.
  obtain ⟨payload, body, rfl, there⟩ : ∃ payload body, payload.length = length ∧
      pieces.flatten.drop 4 = payload ++ body :=
    ⟨_, _, List.length_take_of_le (Nat.le_of_not_lt cut), (List.take_append_drop length _).symm⟩
  rw [there] at arrives
  have small : payload.length ≤ maxFrameSize := Nat.le_of_not_lt large
  obtain ⟨rest, follows, reads, breaks⟩ := read_of_whole arrives announced small
  cases found : ofPayload payload with
  | error error => exact .inr (.inl ⟨error, breaks error found, four⟩)
  | ok frame =>
    refine .inl ⟨⟨payload, frame, small, found⟩, rest, reads frame found, ?_⟩
    rw [follows, arrives, ← List.append_assoc]
    rfl

end Frame

open PeerMesh.Frame

/-- **What becomes of any stream**: the whole frames at its front are served, and what follows them decides how
the service ends. -/
theorem serveWithin_ends (answer : Answering) (fuel : Nat) : ∀ (earlier : List (Bool × Event))
    {pieces : List Bytes}, pieces.flatten.length < fuel →
    ∃ (segments : List Segment) (tail : Bytes),
      pieces.flatten = segments.flatMap Segment.bytes ++ tail ∧ ¬ Segment.IsAtFront tail ∧
      (serveWithin answer fuel earlier pieces).handed = handed (segments.map Segment.frame) ∧
      (serveWithin answer fuel earlier pieces).sentBack =
        (replies answer earlier (segments.map Segment.frame)).flatMap message ∧
      ((serveWithin answer fuel earlier pieces).ending = .ok () ↔ tail.length < 4) := by
  induction fuel with
  | zero => exact fun _ _ short => absurd short (Nat.not_lt_zero _)
  | succ fuel ih =>
    intro earlier pieces short
    rcases read_cases pieces with ⟨segment, rest, first, arrives⟩ | ⟨error, broken, four⟩ | ⟨finished, few⟩
    · have shorter : rest.flatten.length < fuel := by
        have four := segment.four_le_length
        rw [arrives, List.length_append] at short
        omega
      cases isWhat : segment.frame with
      | reply id data =>
        obtain ⟨segments, tail, left, noMore, served⟩ := ih earlier shorter
        refine ⟨segment :: segments, tail, ?_, noMore, ?_⟩
        · rw [arrives, left, List.flatMap_cons, List.append_assoc]
        · unfold serveWithin
          rw [first, List.map_cons, isWhat]
          exact served
      | request id expectsReply event =>
        obtain ⟨segments, tail, left, noMore, handed, sentBack, ending⟩ :=
          ih (earlier ++ [(expectsReply, event)]) shorter
        refine ⟨segment :: segments, tail, ?_, noMore, ?_⟩
        · rw [arrives, left, List.flatMap_cons, List.append_assoc]
        · unfold serveWithin
          rw [first, List.map_cons, isWhat]
          refine ⟨congrArg (List.cons (expectsReply, event)) handed, ?_, ending⟩
          show (if expectsReply then (Frame.reply id (answer earlier event)).message else []) ++
            (serveWithin answer fuel (earlier ++ [(expectsReply, event)]) rest).sentBack = _
          rw [sentBack]
          cases expectsReply <;> rfl
    · refine ⟨[], pieces.flatten, rfl, ?_, ?_⟩
      · rintro ⟨segment, rest, arrives⟩
        obtain ⟨_, read, _⟩ := read_segment segment arrives
        rw [broken] at read
        cases read
      · unfold serveWithin
        rw [broken]
        refine ⟨rfl, rfl, ⟨fun ended => ?_, fun few => absurd four (Nat.not_le_of_lt few)⟩⟩
        cases ended
    · refine ⟨[], pieces.flatten, rfl, ?_, ?_⟩
      · rintro ⟨segment, rest, arrives⟩
        have four := segment.four_le_length
        rw [arrives, List.length_append] at few
        omega
      · unfold serveWithin
        rw [finished]
        exact ⟨rfl, rfl, ⟨fun _ => few, fun _ => rfl⟩⟩

/-- A stream of whole frames and nothing else. -/
def Segment.AreAll (stream : Bytes) : Prop := ∃ segments : List Segment, stream = segments.flatMap Segment.bytes

/-- **How the service of a connection ends**, whatever arrives on it in whatever pieces. The whole frames at the
front of the stream are served, and nothing else is. Without anything after them the service ends without an
error. With something it ends with an error, unless that is shorter than the length of a frame: one byte to
three bytes are taken for nothing. -/
theorem serve_ends (answer : Answering) (pieces : List Bytes) :
    ∃ (segments : List Segment) (tail : Bytes),
      pieces.flatten = segments.flatMap Segment.bytes ++ tail ∧ ¬ Segment.IsAtFront tail ∧
      (serve answer pieces).handed = handed (segments.map Segment.frame) ∧
      (serve answer pieces).sentBack = (replies answer [] (segments.map Segment.frame)).flatMap message ∧
      (Segment.AreAll pieces.flatten ↔ tail = []) ∧
      ((serve answer pieces).ending = .ok () ↔
        Segment.AreAll pieces.flatten ∨ 0 < tail.length ∧ tail.length < 4) := by
  obtain ⟨segments, tail, arrives, noMore, handed, sentBack, ending⟩ :=
    serveWithin_ends answer (pieces.flatten.length + 1) [] (Nat.lt_succ_self _)
  have all : Segment.AreAll pieces.flatten ↔ tail = [] := by
    constructor
    · rintro ⟨others, same⟩
      exact Segment.cut_unique noMore (arrives.symm.trans same)
    · rintro rfl
      exact ⟨segments, arrives.trans (List.append_nil _)⟩
  refine ⟨segments, tail, arrives, noMore, handed, sentBack, all, ending.trans ?_⟩
  rw [all, ← List.length_eq_zero_iff]
  omega

/-- The first two bytes of a length end the service as if they were not there. -/
example : (serve countingEcho [[0], [0]]).ending = .ok () := rfl

end PeerMesh
