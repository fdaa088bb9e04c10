/-
**Which byte strings are accepted as a payload.**

A layout normalises (`Codec.Normalises`) if what it accepts as a value is what it writes for the value,
or a longer form of that, in which numbers are written in more bytes than they need.

* `pair_normalises`, `sequence_normalises`, `tagged_normalises`, … — layouts made of layouts.
* `PayloadType.readFront_normal` — whatever is accepted as a payload is the payload's own writing, or a
  longer form of it.
* `PayloadType.decode_cut` — a payload that was cut off ends too early, so it is never taken for another
  one.
-/

import PeerMesh.Proofs.Wire.Normal
import PeerMesh.Proofs.Wire.RoundTrip

namespace PeerMesh

/-- The bytes that were read as a text are the bytes of the text. -/
theorem Utf8.encode_of_decode? {bytes : Bytes} {text : String} (read : decode? bytes = some text) :
    encode text = bytes := by
  unfold decode? String.fromUTF8? at read
  split at read
  · cases read
    rfl
  · cases read

namespace Wire

variable {α β : Type}

/-! ### Layouts -/

namespace Codec

open Reader

/-- What is accepted as a value is what the layout writes for it, or a longer form of that. -/
def Normalises (codec : Codec α) : Prop := codec.read.Normalises codec.write

theorem nothing_normalises : nothing.Normalises := done_normalises rfl

theorem byte_normalises : byte.Normalises :=
  (claim_normalises 1).andThen (fun _ byte => [byte]) (fun _ => takeByte_normalises) fun _ _ => rfl

theorem flag_normalises : flag.Normalises := by
  refine byte_normalises.andThen (fun _ _ => []) (fun found => ?_) fun {_ _ _ found _ _} _ ended => ?_
  · exact .ite (fun _ => done_normalises rfl) fun _ =>
      .ite (fun _ => done_normalises rfl) fun _ => fail_normalises _ _
  · split_ifs at ended with zero one
    · cases ended
      exact congrArg (fun byte => [byte]) zero.symm
    · cases ended
      exact congrArg (fun byte => [byte]) one.symm
    · cases ended

theorem word_normalises : word.Normalises :=
  length_normalises.finish fun read =>
    congrArg number (UInt64.toNat_ofNat_of_lt' (length_lt read))

theorem bytes_normalises : bytes.Normalises := by
  refine length_normalises.andThen (fun _ value => value) (fun count => ?_)
    fun {_ _ _ count value _} _ ended => ?_
  · exact (claim_normalises count).andThen (fun _ => id) (fun _ => take_normalises count) fun _ _ => rfl
  · obtain ⟨-, middle, -, taken⟩ := andThen_eq_ok ended
    rw [← (take_eq_ok taken).1]
    rfl

theorem text_normalises : text.Normalises := by
  refine bytes_normalises.andThen (fun _ _ => []) (fun found => ?_)
    fun {_ _ _ found value _} _ ended => ?_
  · cases Utf8.decode? found with
    | none => exact fail_normalises _ _
    | some value => exact done_normalises rfl
  · cases read : Utf8.decode? found with
    | none =>
      rw [read] at ended
      cases ended
    | some text =>
      rw [read] at ended
      cases ended
      rw [List.append_nil]
      exact congrArg bytes.write (Utf8.encode_of_decode? read)

theorem pair_normalises {first : Codec α} {second : Codec β} (here : first.Normalises)
    (there : second.Normalises) : (first.pair second).Normalises := by
  refine here.andThen (fun _ value => second.write value.2) (fun one => there.finish fun _ => rfl)
    fun {_ _ _ one value _} _ ended => ?_
  obtain ⟨two, middle, -, joined⟩ := andThen_eq_ok ended
  cases joined
  rfl

/-- Another type with the same layout, if nothing is lost on the way there and back. -/
theorem via_normalises {codec : Codec α} {toLayout : β → α} {ofLayout : α → β}
    (normalises : codec.Normalises) (back : ∀ layout, toLayout (ofLayout layout) = layout) :
    (codec.via toLayout ofLayout).Normalises :=
  Reader.Normalises.finish normalises fun {_ _ one _} _ => congrArg codec.write (back one)

theorem optional_normalises (typeName : String) {codec : Codec α} (normalises : codec.Normalises) :
    (optional typeName codec).Normalises := by
  refine byte_normalises.andThen
    (fun _ value => (value.map codec.write).getD []) (fun tag => ?_)
    fun {_ _ _ tag value _} _ ended => ?_
  · exact .ite (fun _ => done_normalises rfl) fun _ =>
      .ite (fun _ => Reader.Normalises.finish normalises fun _ => rfl) fun _ => fail_normalises _ _
  · split_ifs at ended with zero one
    · cases ended
      exact congrArg (fun byte => [byte]) zero.symm
    · obtain ⟨content, middle, -, joined⟩ := andThen_eq_ok ended
      cases joined
      exact congrArg (fun byte => byte :: codec.write content) one.symm
    · cases ended

theorem readItems_normalises (room : Nat) {codec : Codec α} (normalises : codec.Normalises)
    (count : Nat) :
    (readItems room codec.read count).Normalises fun items => items.flatMap codec.write := by
  induction count with
  | zero => exact done_normalises rfl
  | succ count ih =>
    refine (giveBack_normalises room).andThen (fun _ items => items.flatMap codec.write) (fun _ => ?_)
      fun _ _ => (List.nil_append _).symm
    refine Reader.Normalises.andThen (fun _ items => items.tail.flatMap codec.write) normalises
      (fun item => ih.finish fun _ => rfl)
      fun {_ _ _ item items _} _ ended => ?_
    obtain ⟨later, middle, -, joined⟩ := andThen_eq_ok ended
    cases joined
    exact List.flatMap_cons

theorem length_readItems {room count limit : Nat} {read : Reader α} {start ending : Cursor}
    {items : List α} (found : readItems room read count limit start = .ok (items, ending)) :
    items.length = count := by
  induction count generalizing start items with
  | zero =>
    cases found
    rfl
  | succ count ih =>
    obtain ⟨-, given, -, found⟩ := andThen_eq_ok found
    obtain ⟨item, middle, -, found⟩ := andThen_eq_ok found
    obtain ⟨later, last, others, joined⟩ := andThen_eq_ok found
    cases joined
    rw [List.length_cons, ih others]

theorem sequence_normalises (room : Nat) {codec : Codec α} (normalises : codec.Normalises) :
    (sequence room codec).Normalises := by
  refine length_normalises.andThen (fun _ items => items.flatMap codec.write) (fun count => ?_)
    fun {_ _ _ count items _} _ ended => ?_
  · exact (claim_normalises (count * room)).andThen (fun _ items => items.flatMap codec.write)
      (fun _ => readItems_normalises room normalises count) fun _ _ => rfl
  · obtain ⟨-, middle, -, found⟩ := andThen_eq_ok ended
    rw [← length_readItems found]
    rfl

theorem tagged_normalises {count : Nat} {content : Fin count → Type} (typeName : String)
    {alternative : (tag : Fin count) → Codec (content tag)}
    (each : ∀ tag, (alternative tag).Normalises) : (tagged typeName alternative).Normalises := by
  refine (claim_normalises 4).andThen (fun _ => (tagged typeName alternative).write) (fun _ => ?_)
    fun _ _ => (List.nil_append _).symm
  refine shortNumber_normalises.andThen
    (fun _ value => (alternative value.1).write value.2) (fun tag => ?_)
    fun {_ _ _ tag value _} _ ended => ?_
  · by_cases inRange : tag < count
    · rw [dif_pos inRange]
      exact Reader.Normalises.finish (each ⟨tag, inRange⟩) fun _ => rfl
    · rw [dif_neg inRange]
      exact fail_normalises _ _
  · split_ifs at ended with inRange
    · obtain ⟨found, middle, -, joined⟩ := andThen_eq_ok ended
      cases joined
      rfl
    · cases ended

/-! ### Parts of what is written -/

theorem read_of_decode {codec : Codec α} {limit : Nat} {input : Bytes} {value : α}
    (read : codec.decode limit input = .ok value) :
    ∃ ending, codec.read limit ⟨input, 0⟩ = .ok (value, ending) := by
  unfold decode readFront at read
  cases found : codec.read limit ⟨input, 0⟩ with
  | error error =>
    rw [found] at read
    cases read
  | ok pair =>
    rw [found] at read
    cases read
    exact ⟨pair.2, rfl⟩

/-- What was decoded is decoded whatever follows. -/
theorem Normalises.decode_append {codec : Codec α} (normalises : codec.Normalises) {limit : Nat}
    {input : Bytes} {value : α} (read : codec.decode limit input = .ok value) (more : Bytes) :
    codec.decode limit (input ++ more) = .ok value := by
  obtain ⟨ending, found⟩ := read_of_decode read
  obtain ⟨front, split, takes, -⟩ := normalises found
  unfold decode readFront
  rw [show input = front ++ ending.rest from split, List.append_assoc, takes.whole]

/-- **A part of what was written ends too early**, if the whole can be decoded. -/
theorem Normalises.decode_part {codec : Codec α} (normalises : codec.Normalises) {value found : α}
    {ledger : Ledger} (accounts : codec.Accounts value ledger) {limit : Nat}
    (read : codec.decode limit (codec.write value) = .ok found) {short : Bytes}
    (isPart : short <+: codec.write value) (proper : short ≠ codec.write value) :
    ∃ additional, 1 ≤ additional ∧ additional + short.length ≤ (codec.write value).length ∧
      codec.decode limit short = .error (.unexpectedEnd additional) := by
  obtain ⟨ending, taken⟩ := read_of_decode read
  obtain ⟨front, split, takes, -⟩ := normalises taken
  have account := accounts limit [] 0 (Nat.zero_le limit)
  rw [List.append_nil, taken] at account
  split_ifs at account
  cases account
  have whole : codec.write value = front := split.trans (List.append_nil front)
  obtain ⟨missing, cut⟩ := isPart
  have some : 0 < missing.length := by
    refine List.length_pos_iff.mpr fun none => proper ?_
    rw [← cut, none, List.append_nil]
  obtain ⟨additional, one, few, ends⟩ := takes.part (whole.symm.trans cut.symm) some
  refine ⟨additional, one, ?_, ?_⟩
  · rw [← cut, List.length_append]
    omega
  · unfold decode readFront
    rw [ends]

/-- **A payload that was cut off is not read as anything else.** -/
theorem Normalises.not_decode_of_cut {codec : Codec α} (normalises : codec.Normalises)
    {value other : α} {ledger : Ledger} (accounts : codec.Accounts value ledger) {limit count : Nat}
    (cut : count < (codec.write value).length) :
    codec.decode limit ((codec.write value).take count) ≠ .ok other := by
  intro read
  have whole := normalises.decode_append read ((codec.write value).drop count)
  rw [List.take_append_drop] at whole
  have proper : (codec.write value).take count ≠ codec.write value := by
    intro same
    have length := congrArg List.length same
    rw [List.length_take_of_le (Nat.le_of_lt cut)] at length
    omega
  obtain ⟨additional, -, -, ends⟩ := normalises.decode_part accounts whole (List.take_prefix _ _) proper
  rw [read] at ends
  cases ends

end Codec

end Wire

open Wire Codec

/-! ### All types of payloads -/

theorem NodeId.codec_normalises : NodeId.codec.Normalises := via_normalises text_normalises fun _ => rfl

theorem Address.codec_normalises : Address.codec.Normalises := via_normalises text_normalises fun _ => rfl

theorem Scope.codec_normalises : Scope.codec.Normalises := by
  refine via_normalises (tagged_normalises _ fun tag => ?_) fun layout => ?_
  · match tag with
    | 0 => exact nothing_normalises
    | 1 => exact nothing_normalises
    | 2 => exact text_normalises
  · match layout with
    | ⟨0, _⟩ | ⟨1, _⟩ | ⟨2, _⟩ => rfl

theorem Announce.codec_normalises : Announce.codec.Normalises :=
  via_normalises Address.codec_normalises fun _ => rfl

theorem ForceResync.codec_normalises : ForceResync.codec.Normalises :=
  via_normalises (optional_normalises _ (sequence_normalises _ NodeId.codec_normalises)) fun _ => rfl

theorem GossipEntry.codec_normalises : GossipEntry.codec.Normalises :=
  via_normalises (pair_normalises NodeId.codec_normalises
    (pair_normalises Address.codec_normalises word_normalises)) fun _ => rfl

theorem SyncRequest.codec_normalises : SyncRequest.codec.Normalises := by
  refine via_normalises (tagged_normalises _ fun tag => ?_) fun layout => ?_
  · match tag with
    | 0 => exact nothing_normalises
    | 1 => exact pair_normalises NodeId.codec_normalises Address.codec_normalises
  · match layout with
    | ⟨0, _⟩ | ⟨1, _⟩ => rfl

theorem SyncReply.codec_normalises : SyncReply.codec.Normalises := by
  refine via_normalises (tagged_normalises _ fun tag => ?_) fun layout => ?_
  · match tag with
    | 0 => exact nothing_normalises
    | 1 => exact flag_normalises
  · match layout with
    | ⟨0, _⟩ | ⟨1, _⟩ => rfl

theorem Digest.codec_normalises : Digest.codec.Normalises :=
  via_normalises (pair_normalises byte_normalises (pair_normalises word_normalises
    (sequence_normalises _ GossipEntry.codec_normalises))) fun _ => rfl

theorem ControlMessage.codec_normalises : ControlMessage.codec.Normalises := by
  refine via_normalises (tagged_normalises _ fun tag => ?_) fun layout => ?_
  · match tag with
    | 0 => exact Digest.codec_normalises
    | 1 => exact Digest.codec_normalises
    | 2 => exact SyncRequest.codec_normalises
    | 3 => exact pair_normalises text_normalises bytes_normalises
  · match layout with
    | ⟨0, _⟩ | ⟨1, _⟩ | ⟨2, _⟩ | ⟨3, _⟩ => rfl

theorem Event.codec_normalises : Event.codec.Normalises :=
  via_normalises (pair_normalises Scope.codec_normalises (pair_normalises text_normalises
    (pair_normalises bytes_normalises
      (pair_normalises NodeId.codec_normalises Address.codec_normalises)))) fun _ => rfl

theorem Frame.codec_normalises : Frame.codec.Normalises := by
  refine via_normalises (tagged_normalises _ fun tag => ?_) fun layout => ?_
  · match tag with
    | 0 => exact pair_normalises word_normalises (pair_normalises flag_normalises Event.codec_normalises)
    | 1 => exact pair_normalises word_normalises (optional_normalises _ bytes_normalises)
  · match layout with
    | ⟨0, _⟩ | ⟨1, _⟩ => rfl

namespace PayloadType

/-- **Every layout normalises.** -/
theorem codec_normalises (type : PayloadType) : type.codec.Normalises :=
  match type with
  | .scope => Scope.codec_normalises
  | .announce => Announce.codec_normalises
  | .forceResync => ForceResync.codec_normalises
  | .gossipEntry => GossipEntry.codec_normalises
  | .syncRequest => SyncRequest.codec_normalises
  | .syncReply => SyncReply.codec_normalises
  | .controlMessage => ControlMessage.codec_normalises
  | .event => Event.codec_normalises
  | .frame => Frame.codec_normalises

/-- **Whatever is accepted as a payload is the payload's own writing, or a longer form of it**: what is
written for the value has at most as many bytes as were read, is accepted just the same, and is what was
read if it has as many bytes. -/
theorem readFront_normal (type : PayloadType) (limit : Nat) (input rest : Bytes) (value : type.Value)
    (read : type.codec.readFront limit input = .ok (value, rest)) :
    ∃ front, input = front ++ rest ∧ (type.codec.write value).length ≤ front.length ∧
      type.codec.readFront limit (type.codec.write value) = .ok (value, []) ∧
      ((type.codec.write value).length = front.length → type.codec.write value = front) := by
  unfold readFront at read
  cases found : type.codec.read limit ⟨input, 0⟩ with
  | error error =>
    rw [found] at read
    cases read
  | ok pair =>
    rw [found] at read
    cases read
    obtain ⟨front, split, -, again, shortens⟩ := type.codec_normalises found
    refine ⟨front, split, shortens.length_le, ?_, shortens.eq_of_length⟩
    have reads := again.whole []
    rw [List.append_nil] at reads
    unfold readFront
    rw [reads]

/-- A reply whose tag and number are written in more bytes than they need. -/
def wideReply : Bytes := [252, 1, 0, 0, 0, 251, 7, 0, 1, 253, 2, 0, 0, 0, 0, 0, 0, 0, 65, 66]

/-- The reply is accepted in twenty bytes, and written in six. -/
theorem readFront_normal_wideReply :
    (codec .frame).readFront 64 (wideReply ++ [9]) = .ok (.reply 7 (some [65, 66]), [9]) ∧
      ∃ front, wideReply ++ [9] = front ++ [9] ∧
        ((codec .frame).write (.reply 7 (some [65, 66]))).length ≤ front.length ∧
        (codec .frame).readFront 64 ((codec .frame).write (.reply 7 (some [65, 66]))) =
          .ok (.reply 7 (some [65, 66]), []) ∧
        (((codec .frame).write (.reply 7 (some [65, 66]))).length = front.length →
          (codec .frame).write (.reply 7 (some [65, 66])) = front) := by
  have read : (codec .frame).readFront 64 (wideReply ++ [9]) = .ok (.reply 7 (some [65, 66]), [9]) := rfl
  exact ⟨read, readFront_normal .frame 64 (wideReply ++ [9]) [9] (.reply 7 (some [65, 66])) read⟩

/-- **A payload that was cut off ends too early**, wherever the cut is: it is said that bytes are missing,
and of no more than were cut off. -/
theorem decode_cut (type : PayloadType) (value : type.Value) (words : AreWords (type.lengths value))
    (limit : Nat) (found : type.Value)
    (read : type.codec.decode limit (type.codec.write value) = .ok found) (short : Bytes)
    (isPart : short <+: type.codec.write value) (proper : short ≠ type.codec.write value) :
    ∃ additional, 1 ≤ additional ∧ additional + short.length ≤ (type.codec.write value).length ∧
      type.codec.decode limit short = .error (.unexpectedEnd additional) :=
  type.codec_normalises.decode_part (type.codec_accounts words) read isPart proper

/-- Of a digest of two entries that is cut off within its heartbeat number, the rest of that number is
missing. -/
theorem decode_cut_gossipOfTwo :
    AreWords (lengths .controlMessage gossipOfTwo) ∧
      (codec .controlMessage).decode 133 ((codec .controlMessage).write gossipOfTwo) =
        .ok gossipOfTwo ∧
      [1, 1, 251] <+: (codec .controlMessage).write gossipOfTwo ∧
      [1, 1, 251] ≠ (codec .controlMessage).write gossipOfTwo ∧
      ∃ additional, 1 ≤ additional ∧
        additional + 3 ≤ ((codec .controlMessage).write gossipOfTwo).length ∧
        (codec .controlMessage).decode 133 [1, 1, 251] = .error (.unexpectedEnd additional) := by
  have words : AreWords (lengths .controlMessage gossipOfTwo) := by decide
  have read := ((codec_accounts .controlMessage words).decode_write 133).trans (if_pos (by decide))
  have isPart : [1, 1, 251] <+: (codec .controlMessage).write gossipOfTwo := by decide
  have proper : [1, 1, 251] ≠ (codec .controlMessage).write gossipOfTwo := by decide
  exact ⟨words, read, isPart, proper,
    decode_cut .controlMessage gossipOfTwo words 133 gossipOfTwo read [1, 1, 251] isPart proper⟩

end PayloadType

end PeerMesh
