/-
**Which frames are read back from a connection.**

A frame is sent as the length of its payload in 32 bits and the payload. The sender sets no bound on
either, but whoever reads the frame sets two: on the bytes of the payload, and on the bytes that the
payload claims, both of them `maxFrameSize`. A frame *fits* (`Frame.Fits`) if it keeps both.

* `takeExactly_spec` — how a stream is cut into pieces does not matter to what is taken off it.
* `read_message_of_fits` — a frame that fits is read back from its message, with what follows it left.
* `read_message_iff` — every other frame is sent all the same, but reads as broken: too large, or
  with too many claims, or, where its length does not fit into 32 bits, cut off somewhere.
-/

import PeerMesh.Proofs.Datagram.Reception
import PeerMesh.Proofs.Wire.Accepted
import PeerMesh.Stream.Service

namespace PeerMesh

open Wire

/-! ### Pieces of a stream -/

/-- Nothing is taken off a stream that is too short. -/
theorem takeExactly_of_short {count : Nat} {pieces : List Bytes}
    (short : pieces.flatten.length < count) : takeExactly count pieces = none := by
  induction pieces generalizing count with
  | nil =>
    cases count with
    | zero => simp at short
    | succ count => rfl
  | cons piece pieces ih =>
    rw [List.flatten_cons, List.length_append] at short
    have beyond : ¬ count ≤ piece.length := by omega
    rw [takeExactly.eq_3, if_neg beyond, ih (by omega)]
    rfl

/-- **Taking off a stream**: the cuts between its pieces do not matter. -/
theorem takeExactly_of_enough {count : Nat} {pieces : List Bytes}
    (enough : count ≤ pieces.flatten.length) :
    ∃ rest, takeExactly count pieces = some (pieces.flatten.take count, rest) ∧
      rest.flatten = pieces.flatten.drop count := by
  induction pieces generalizing count with
  | nil =>
    have none : count = 0 := by simpa using enough
    subst none
    exact ⟨[], rfl, rfl⟩
  | cons piece pieces ih =>
    rw [List.flatten_cons, List.length_append] at enough
    rw [takeExactly.eq_3, List.flatten_cons]
    by_cases within : count ≤ piece.length
    · refine ⟨piece.drop count :: pieces, ?_, ?_⟩
      · rw [if_pos within, List.take_append_of_le_length within]
      · rw [List.flatten_cons, List.drop_append_of_le_length within]
    · have more : count - piece.length ≤ pieces.flatten.length := by omega
      obtain ⟨rest, taken, left⟩ := ih more
      refine ⟨rest, ?_, ?_⟩
      · rw [if_neg within, taken, Option.map_some, List.take_append,
          List.take_of_length_le (by omega : piece.length ≤ count)]
      · rw [left, List.drop_append, List.drop_eq_nil_of_le (by omega : piece.length ≤ count),
          List.nil_append]

/-- What is at the front of a stream is taken off it, and what follows stays. -/
theorem takeExactly_append {pieces : List Bytes} {front body : Bytes}
    (arrives : pieces.flatten = front ++ body) :
    ∃ rest, takeExactly front.length pieces = some (front, rest) ∧ rest.flatten = body := by
  have enough : front.length ≤ pieces.flatten.length := by simp [arrives]
  obtain ⟨rest, taken, left⟩ := takeExactly_of_enough enough
  rw [arrives, List.take_left] at taken
  rw [arrives, List.drop_left] at left
  exact ⟨rest, taken, left⟩

namespace Frame

/-! ### The front of a stream -/

variable {pieces : List Bytes} {length : Nat}

theorem announcedLength_bigEndian (length : Nat) :
    announcedLength (Bytes.bigEndian 4 length) = some (length % 256 ^ 4) := by
  have four := Bytes.length_bigEndian 4 length
  unfold announcedLength
  rw [if_neg (by omega), List.take_of_length_le (by omega), Bytes.ofBigEndian_bigEndian]

theorem takeExactly_length {body : Bytes}
    (arrives : pieces.flatten = Bytes.bigEndian 4 length ++ body) :
    ∃ later, takeExactly 4 pieces = some (Bytes.bigEndian 4 length, later) ∧
      later.flatten = body := by
  have taken := takeExactly_append arrives
  rwa [Bytes.length_bigEndian] at taken

/-- A length above the bound breaks the stream. -/
theorem read_of_large {body : Bytes} (arrives : pieces.flatten = Bytes.bigEndian 4 length ++ body)
    (large : maxFrameSize < length % 256 ^ 4) : ∃ error, read pieces = .broken error := by
  obtain ⟨later, taken, -⟩ := takeExactly_length arrives
  simp only [read, taken, announcedLength_bigEndian, Option.getD_some, if_pos large]
  exact ⟨_, rfl⟩

/-- As many bytes as the length announces are the payload, whatever they hold. -/
theorem read_of_whole {payload body : Bytes}
    (arrives : pieces.flatten = Bytes.bigEndian 4 length ++ (payload ++ body))
    (announced : length % 256 ^ 4 = payload.length) (small : payload.length ≤ maxFrameSize) :
    ∃ rest, rest.flatten = body ∧
      (∀ frame, ofPayload payload = .ok frame → read pieces = .frame frame rest) ∧
      ∀ error, ofPayload payload = .error error → read pieces = .broken error := by
  obtain ⟨later, taken, left⟩ := takeExactly_length arrives
  obtain ⟨rest, body, follows⟩ := takeExactly_append left
  refine ⟨rest, follows, fun frame found => ?_, fun error found => ?_⟩ <;>
    simp only [read, taken, announcedLength_bigEndian, Option.getD_some, announced,
      if_neg (Nat.not_lt.mpr small), body, found]

/-! ### What a sender sends -/

/-- The frame is within both bounds of whoever reads it: that on the payload, and that on what the
payload claims. -/
def Fits (frame : Frame) : Prop :=
  (codec.write frame).length ≤ maxFrameSize ∧ frame.ledger.peak ≤ maxFrameSize

instance (frame : Frame) : Decidable frame.Fits := inferInstanceAs (Decidable (_ ∧ _))

/-- No length written in a frame is larger than its payload. -/
theorem lengths_le_length_write (frame : Frame) :
    ∀ length ∈ frame.lengths, length ≤ (codec.write frame).length := by
  intro length member
  cases frame with
  | request id expectsReply event =>
    have written : codec.write (.request id expectsReply event) = number 0 ++
        (Codec.word.write id ++ (Codec.flag.write expectsReply ++ Event.codec.write event)) := rfl
    have within := event.lengths_le_length_write length member
    simp only [written, List.length_append]
    omega
  | reply id data =>
    cases data with
    | none => simp [lengths] at member
    | some data =>
      have written : codec.write (.reply id (some data)) = number 1 ++
          (Codec.word.write id ++ 1 :: Codec.bytes.write data) := rfl
      have within := lt_length_write_bytes data
      rw [List.mem_singleton.mp member, written]
      simp only [List.length_append, List.length_cons]
      omega

theorem Fits.areWords {frame : Frame} (fits : frame.Fits) : AreWords frame.lengths := by
  intro length member
  have within := frame.lengths_le_length_write length member
  have small := fits.1
  simp only [maxFrameSize] at small
  omega

theorem ofPayload_write {frame : Frame} (words : AreWords frame.lengths) :
    ofPayload (codec.write frame) =
      if frame.ledger.peak ≤ maxFrameSize then .ok frame else .error (.ofDecode .limitExceeded) := by
  unfold ofPayload
  rw [(codec_accounts words).decode_write]
  by_cases low : frame.ledger.peak ≤ maxFrameSize
  · simp only [if_pos low]
  · simp only [if_neg low]

/-- **A frame that fits is read back**, and what follows it is left. -/
theorem read_message_of_fits {frame : Frame} {body : Bytes} (fits : frame.Fits)
    (arrives : pieces.flatten = frame.message ++ body) :
    ∃ rest, read pieces = .frame frame rest ∧ rest.flatten = body := by
  have small := fits.1
  have announced : (codec.write frame).length % 256 ^ 4 = (codec.write frame).length := by
    refine Nat.mod_eq_of_lt ?_
    simp only [maxFrameSize] at small
    omega
  unfold message at arrives
  rw [List.append_assoc] at arrives
  obtain ⟨rest, follows, reads, -⟩ := read_of_whole arrives announced small
  refine ⟨rest, reads frame ?_, follows⟩
  rw [ofPayload_write fits.areWords, if_pos fits.2]

/-- A frame that does not fit is broken. -/
theorem read_message_of_not_fits {frame : Frame} {body : Bytes} (words : AreWords frame.lengths)
    (unfit : ¬ frame.Fits) (arrives : pieces.flatten = frame.message ++ body) :
    ∃ error, read pieces = .broken error := by
  unfold message at arrives
  rw [List.append_assoc] at arrives
  by_cases large : maxFrameSize < (codec.write frame).length % 256 ^ 4
  · exact read_of_large arrives large
  -- Either the whole payload is read, and claims too much, or only a part of it is.
  by_cases whole : (codec.write frame).length % 256 ^ 4 = (codec.write frame).length
  · have small : (codec.write frame).length ≤ maxFrameSize := by omega
    obtain ⟨rest, -, -, breaks⟩ := read_of_whole arrives whole small
    have refused := ofPayload_write words
    rw [if_neg fun low => unfit ⟨small, low⟩] at refused
    exact ⟨_, breaks _ refused⟩
  · have cut : (codec.write frame).length % 256 ^ 4 < (codec.write frame).length :=
      Nat.lt_of_le_of_ne (Nat.mod_le _ _) whole
    have part := List.length_take_of_le (Nat.le_of_lt cut)
    rw [← List.take_append_drop ((codec.write frame).length % 256 ^ 4) (codec.write frame),
      List.append_assoc, List.take_append_drop] at arrives
    obtain ⟨rest, -, -, breaks⟩ := read_of_whole arrives part.symm (by omega)
    cases found : ofPayload ((codec.write frame).take ((codec.write frame).length % 256 ^ 4)) with
    | error error => exact ⟨error, breaks error found⟩
    | ok other =>
      unfold ofPayload at found
      split at found
      · exact absurd ‹_› (codec_normalises.not_decode_of_cut (codec_accounts words) cut)
      · cases found

/-- **Exactly the frames that fit are read back**, on whatever pieces the message arrives and whatever
follows it. Every other frame is sent just the same, and reads as broken. -/
theorem read_message_iff {frame : Frame} {body : Bytes} (words : AreWords frame.lengths)
    (arrives : pieces.flatten = frame.message ++ body) :
    ((∃ rest, read pieces = .frame frame rest ∧ rest.flatten = body) ↔ frame.Fits) ∧
      ((∃ error, read pieces = .broken error) ↔ ¬ frame.Fits) := by
  by_cases fits : frame.Fits
  · have back := read_message_of_fits fits arrives
    refine ⟨⟨fun _ => fits, fun _ => back⟩, ⟨fun ⟨error, broken⟩ => ?_, fun unfit => absurd fits unfit⟩⟩
    obtain ⟨rest, found, -⟩ := back
    rw [found] at broken
    cases broken
  · have breaks := read_message_of_not_fits words fits arrives
    refine ⟨⟨fun ⟨rest, found, _⟩ => ?_, fun fit => absurd fit fits⟩, ⟨fun _ => fits, fun _ => breaks⟩⟩
    obtain ⟨error, broken⟩ := breaks
    rw [found] at broken
    cases broken

/-- A reply whose payload is within the bound, but claims five bytes too many, is sent and reads as
broken. -/
theorem read_message_of_claiming_reply :
    ∃ frame : Frame, AreWords frame.lengths ∧ (codec.write frame).length ≤ maxFrameSize ∧
      ∃ error, read [frame.message] = .broken error := by
  obtain ⟨data, sized⟩ : ∃ data : Bytes, data.length = 16777200 :=
    ⟨List.replicate 16777200 0, List.length_replicate⟩
  have words : AreWords (Frame.reply 1 (some data)).lengths := by
    intro length member
    rw [List.mem_singleton.mp member, sized]
    decide
  have short : (codec.write (.reply 1 (some data))).length ≤ maxFrameSize := by
    have written : codec.write (.reply 1 (some data)) =
        [1, 1, 1] ++ (number data.length ++ data) := rfl
    have five : (number 16777200).length = 5 := rfl
    simp only [written, List.length_append, sized, five, maxFrameSize]
    decide
  have claims : (Frame.reply 1 (some data)).ledger = [4, 8, 1, 8, data.length].map .claim := rfl
  have unfit : ¬ (Frame.reply 1 (some data)).Fits := by
    rintro ⟨-, low⟩
    rw [claims, Ledger.peak, Ledger.highest_claims, sized] at low
    exact absurd low (by decide)
  have arrives : [(Frame.reply 1 (some data)).message].flatten =
      (Frame.reply 1 (some data)).message ++ [] := by simp
  exact ⟨_, words, short, (read_message_iff words arrives).2.mpr unfit⟩

end Frame

end PeerMesh
