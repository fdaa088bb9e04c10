/-
**What a reader takes off its input, and the shortest form of it.**

A reader *takes* a byte string as a value (`Reader.Takes`) if it reads the value from every input that
begins with it, leaves the rest, and finds every part of it too short: it asks for one byte at least, and
for no more than are missing. A number can be written in more than one width, so several byte strings
are taken as the same value. A reader *normalises* (`Reader.Normalises`) if what it takes is either what
is written for the value or longer than that, and what is written would have been taken just the same,
with the same count of claimed bytes.

* `Takes.andThen`, `Normalises.andThen` — readers one after the other.
* `IsWidths.normalises` — numbers normalise: their width is all that is free.
-/

import Mathlib.Algebra.Ring.Nat
import PeerMesh.Wire.Codec

namespace PeerMesh

namespace Bytes

/-- A byte string is another one, or shorter. -/
def Shortens (short long : Bytes) : Prop := short = long ∨ short.length < long.length

theorem Shortens.refl (bytes : Bytes) : bytes.Shortens bytes := .inl rfl

theorem Shortens.append {first second front back : Bytes} (here : first.Shortens front)
    (there : second.Shortens back) : (first ++ second).Shortens (front ++ back) := by
  unfold Shortens at *
  rw [List.length_append, List.length_append]
  obtain rfl | shorter := here
  · obtain rfl | shorter := there
    · exact .inl rfl
    · exact .inr (by omega)
  · right
    obtain rfl | shorter := there <;> omega

theorem Shortens.length_le {short long : Bytes} (shortens : short.Shortens long) :
    short.length ≤ long.length := by
  obtain rfl | shorter := shortens
  · exact Nat.le_refl _
  · exact Nat.le_of_lt shorter

theorem Shortens.eq_of_length {short long : Bytes} (shortens : short.Shortens long)
    (same : short.length = long.length) : short = long := by
  obtain equal | shorter := shortens
  · exact equal
  · omega

theorem ofLittleEndian_lt (bytes : Bytes) : ofLittleEndian bytes < 256 ^ bytes.length := by
  induction bytes with
  | nil => simp [ofLittleEndian]
  | cons byte bytes ih =>
    have small := byte.toNat_lt
    rw [ofLittleEndian, List.length_cons, Nat.pow_succ]
    omega

/-- A low-byte-first layout is written again for the number that it stands for. -/
theorem littleEndian_ofLittleEndian (bytes : Bytes) :
    littleEndian bytes.length (ofLittleEndian bytes) = bytes := by
  induction bytes with
  | nil => rfl
  | cons byte bytes ih =>
    have small := byte.toNat_lt
    have low : (byte.toNat + 256 * ofLittleEndian bytes) % 256 = byte.toNat := by omega
    have high : (byte.toNat + 256 * ofLittleEndian bytes) / 256 = ofLittleEndian bytes := by omega
    rw [ofLittleEndian, List.length_cons, littleEndian, low, high, ih, UInt8.ofNat_toNat]

end Bytes

namespace Wire

variable {α β : Type}

/-! ### What a reader takes -/

namespace Reader

theorem andThen_eq_ok {first : Reader α} {next : α → Reader β} {limit : Nat} {start : Cursor}
    {result : β × Cursor} (read : first.andThen next limit start = .ok result) :
    ∃ one middle, first limit start = .ok (one, middle) ∧ next one limit middle = .ok result := by
  unfold andThen at read
  cases found : first limit start with
  | error error => simp [found] at read
  | ok pair => exact ⟨pair.1, pair.2, rfl, by simpa [found] using read⟩

/-- The reader takes a byte string as a value, with the count of claimed bytes going from `claimed` to
`after`: it does so whatever follows, and finds every part of it too short. -/
structure Takes (reader : Reader α) (limit claimed : Nat) (front : Bytes) (value : α) (after : Nat) :
    Prop where
  whole : ∀ rest, reader limit ⟨front ++ rest, claimed⟩ = .ok (value, ⟨rest, after⟩)
  part : ∀ {short missing : Bytes}, front = short ++ missing → 0 < missing.length →
    ∃ additional, 1 ≤ additional ∧ additional ≤ missing.length ∧
      reader limit ⟨short, claimed⟩ = .error (.unexpectedEnd additional)

variable {limit claimed middle after : Nat}

/-- A reader that looks at no input takes nothing of it. -/
theorem takes_nothing {reader : Reader α} {value : α}
    (reads : ∀ rest, reader limit ⟨rest, claimed⟩ = .ok (value, ⟨rest, after⟩)) :
    reader.Takes limit claimed [] value after where
  whole := reads
  part {short missing} cut some := by
    rw [(List.append_eq_nil_iff.mp cut.symm).2] at some
    exact absurd some (Nat.lt_irrefl 0)

theorem done_takes (value : α) : (done value).Takes limit claimed [] value claimed :=
  takes_nothing fun _ => rfl

theorem takeByte_takes (byte : UInt8) : takeByte.Takes limit claimed [byte] byte claimed where
  whole _ := rfl
  part {short missing} cut some := by
    cases short with
    | nil => exact ⟨1, Nat.le_refl 1, some, rfl⟩
    | cons first short =>
      have none := (List.append_eq_nil_iff.mp (List.cons.inj cut).2.symm).2
      rw [none] at some
      exact absurd some (Nat.lt_irrefl 0)

/-- Bytes that are taken at once are all asked for at once. -/
theorem take_takes (limit claimed : Nat) (front : Bytes) :
    (take front.length).Takes limit claimed front front claimed where
  whole rest := by
    have enough : front.length ≤ (front ++ rest).length := by simp
    simp only [take, if_pos enough, List.take_left, List.drop_left]
  part {short missing} cut some := by
    have count : front.length = short.length + missing.length := by rw [cut, List.length_append]
    have lacking : ¬ front.length ≤ short.length := by omega
    refine ⟨front.length - short.length, by omega, by omega, ?_⟩
    rw [take, if_neg lacking]

/-- **Readers one after the other** take one byte string after the other. -/
theorem Takes.andThen {first : Reader α} {next : α → Reader β} {one : α} {two : β}
    {front back : Bytes} (here : first.Takes limit claimed front one middle)
    (there : (next one).Takes limit middle back two after) :
    (first.andThen next).Takes limit claimed (front ++ back) two after where
  whole rest := by
    rw [List.append_assoc]
    simp only [Reader.andThen, here.whole, there.whole]
  part {short missing} cut some := by
    obtain ⟨lacking, rfl, rfl⟩ | ⟨begun, rfl, rfl⟩ := List.append_eq_append_iff.mp cut
    · -- the cut is in what the second reader takes
      obtain ⟨additional, one, few, ends⟩ := there.part rfl some
      refine ⟨additional, one, few, ?_⟩
      simp only [Reader.andThen, here.whole, ends]
    · by_cases empty : begun = []
      · subst empty
        obtain ⟨additional, one, few, ends⟩ := there.part (List.nil_append back).symm some
        refine ⟨additional, one, few, ?_⟩
        have read := here.whole []
        rw [List.append_nil, List.append_nil] at read
        simp only [Reader.andThen, read, ends]
      · have begins := List.length_pos_iff.mpr empty
        obtain ⟨additional, one, few, ends⟩ := here.part rfl begins
        refine ⟨additional, one, by rw [List.length_append]; omega, ?_⟩
        simp only [Reader.andThen, ends]

/-- A last step that looks at no input. -/
theorem Takes.finish {first : Reader α} {next : α → Reader β} {one : α} {two : β} {front : Bytes}
    (here : first.Takes limit claimed front one middle)
    (there : (next one).Takes limit middle [] two after) :
    (first.andThen next).Takes limit claimed front two after := by
  have whole := here.andThen there
  rwa [List.append_nil] at whole

theorem takeNumber_takes (front : Bytes) :
    (takeNumber front.length).Takes limit claimed front (Bytes.ofLittleEndian front) claimed :=
  (take_takes limit claimed front).finish (done_takes _)

/-! ### Normalising readers -/

/-- What the reader takes as a value is what is written for it, which it would have taken just the same,
or longer. -/
def Normalises (reader : Reader α) (write : α → Bytes) : Prop :=
  ∀ ⦃limit : Nat⦄ ⦃start ending : Cursor⦄ ⦃value : α⦄, reader limit start = .ok (value, ending) →
    ∃ front, start.rest = front ++ ending.rest ∧
      reader.Takes limit start.claimed front value ending.claimed ∧
      reader.Takes limit start.claimed (write value) value ending.claimed ∧
      (write value).Shortens front

/-- A reader that looks at no input, and writes nothing. -/
theorem normalises_nothing {reader : Reader α} {write : α → Bytes}
    (reads : ∀ {limit start value ending}, reader limit start = .ok (value, ending) →
      ending.rest = start.rest ∧ write value = [] ∧
        ∀ rest, reader limit { start with rest := rest } = .ok (value, { ending with rest := rest })) :
    reader.Normalises write := by
  intro limit start ending value read
  obtain ⟨same, silent, again⟩ := reads read
  have taken : reader.Takes limit start.claimed [] value ending.claimed := takes_nothing again
  rw [silent]
  exact ⟨[], same.symm, taken, taken, .refl []⟩

theorem done_normalises {value : α} {write : α → Bytes} (silent : write value = []) :
    (done value).Normalises write := by
  refine normalises_nothing fun {limit start found ending} read => ?_
  cases read
  exact ⟨rfl, silent, fun _ => rfl⟩

theorem fail_normalises (error : DecodeError) (write : α → Bytes) :
    (fail error : Reader α).Normalises write := by
  intro limit start ending value read
  cases read

theorem claim_normalises (count : Nat) : (claim count).Normalises fun _ => [] := by
  refine normalises_nothing fun {limit start value ending} read => ?_
  unfold claim at read ⊢
  split at read
  · rename_i within
    cases read
    exact ⟨rfl, rfl, fun rest => if_pos within⟩
  · cases read

theorem giveBack_normalises (count : Nat) : (giveBack count).Normalises fun _ => [] := by
  refine normalises_nothing fun {limit start value ending} read => ?_
  cases read
  exact ⟨rfl, rfl, fun _ => rfl⟩

theorem takeByte_normalises : takeByte.Normalises fun byte => [byte] := by
  rintro limit ⟨input, claimed⟩ ending value read
  cases input with
  | nil => cases read
  | cons byte input =>
    cases read
    exact ⟨[value], rfl, takeByte_takes value, takeByte_takes value, .refl _⟩

theorem take_eq_ok {count limit : Nat} {start ending : Cursor} {value : Bytes}
    (read : take count limit start = .ok (value, ending)) :
    value.length = count ∧ start.rest = value ++ ending.rest ∧ ending.claimed = start.claimed := by
  unfold take at read
  split at read
  · rename_i enough
    cases read
    exact ⟨List.length_take_of_le enough, (List.take_append_drop count start.rest).symm, rfl⟩
  · cases read

theorem take_normalises (count : Nat) : (take count).Normalises id := by
  intro limit start ending value read
  obtain ⟨rfl, split, same⟩ := take_eq_ok read
  have taken := take_takes limit start.claimed value
  rw [same]
  exact ⟨value, split, taken, taken, .refl _⟩

/-- **Readers one after the other normalise** if what they write together is what they write one after
the other. -/
theorem Normalises.andThen {first : Reader α} {next : α → Reader β} {early : α → Bytes}
    {write : β → Bytes} (late : α → β → Bytes) (here : first.Normalises early)
    (there : ∀ one, (next one).Normalises (late one))
    (joins : ∀ {limit start middle one two ending}, first limit start = .ok (one, middle) →
      next one limit middle = .ok (two, ending) → write two = early one ++ late one two) :
    (first.andThen next).Normalises write := by
  intro limit start ending two read
  obtain ⟨one, middle, begun, ended⟩ := andThen_eq_ok read
  obtain ⟨front, split, takes, again, shortens⟩ := here begun
  obtain ⟨back, splitBack, takesBack, againBack, shortensBack⟩ := there one ended
  rw [joins begun ended]
  refine ⟨front ++ back, ?_, takes.andThen takesBack, again.andThen againBack,
    shortens.append shortensBack⟩
  rw [split, splitBack, List.append_assoc]

/-- A last step that looks at no input and changes the value. -/
theorem Normalises.finish {first : Reader α} {change : α → β} {early : α → Bytes} {write : β → Bytes}
    (here : first.Normalises early)
    (same : ∀ {limit start one ending}, first limit start = .ok (one, ending) →
      write (change one) = early one) :
    (first.andThen fun one => done (change one)).Normalises write := by
  refine here.andThen (fun _ _ => []) (fun _ => done_normalises rfl) fun begun ended => ?_
  cases ended
  rw [same begun, List.append_nil]

/-- A choice between normalising readers. -/
theorem Normalises.ite {first second : Reader α} {write : α → Bytes} {choice : Prop}
    [Decidable choice] (here : choice → first.Normalises write)
    (there : ¬ choice → second.Normalises write) :
    (if choice then first else second).Normalises write := by
  by_cases chosen : choice
  · rw [if_pos chosen]
    exact here chosen
  · rw [if_neg chosen]
    exact there chosen

/-! ### Numbers -/

/-- What is read of a number after its marker: nothing more, or the bytes of the width that the marker
announces. -/
structure IsWidths (content : UInt8 → Reader Nat) : Prop where
  one : ∀ {marker}, marker < 251 → content marker = done marker.toNat
  two : content 251 = takeNumber 2
  four : content 252 = takeNumber 4
  wider : ∀ {marker}, ¬ marker < 251 → marker ≠ 251 → marker ≠ 252 →
    (marker = 253 ∧ content marker = takeNumber 8) ∨ ∃ error, content marker = fail error

/-- A marker and as many bytes as it announces. -/
theorem marked_takes (limit claimed : Nat) {marker : UInt8} {content : UInt8 → Reader Nat}
    (body : Bytes) (announces : content marker = takeNumber body.length) :
    (takeByte.andThen content).Takes limit claimed (marker :: body) (Bytes.ofLittleEndian body)
      claimed := by
  refine (takeByte_takes marker).andThen ?_
  rw [announces]
  exact takeNumber_takes body

variable {content : UInt8 → Reader Nat}

theorem IsWidths.takes_tiny (widths : IsWidths content) (limit claimed : Nat) {marker : UInt8}
    (tiny : marker < 251) :
    (takeByte.andThen content).Takes limit claimed [marker] marker.toNat claimed := by
  refine (takeByte_takes marker).finish ?_
  rw [widths.one tiny]
  exact done_takes _

/-- **A number is taken from the width in which it is written**, if that one may be announced. -/
theorem IsWidths.takes (widths : IsWidths content) {value : Nat}
    (fits : value < 2 ^ 32 ∨ value < 2 ^ 64 ∧ content 253 = takeNumber 8) :
    (takeByte.andThen content).Takes limit claimed (number value) value claimed := by
  have wide (width : Nat) (marker : UInt8) (small : value < 256 ^ width)
      (announces : content marker = takeNumber width) :
      (takeByte.andThen content).Takes limit claimed (marker :: Bytes.littleEndian width value) value
        claimed := by
    have length := Bytes.length_littleEndian width value
    have taken := marked_takes limit claimed (Bytes.littleEndian width value)
      (announces.trans (congrArg takeNumber length.symm))
    rwa [Bytes.ofLittleEndian_littleEndian, Nat.mod_eq_of_lt small] at taken
  unfold number
  split
  · rename_i tiny
    have byte : (UInt8.ofNat value).toNat = value := by
      rw [UInt8.toNat_ofNat']
      omega
    have below : UInt8.ofNat value < 251 := by
      rw [UInt8.lt_iff_toNat_lt, byte]
      exact tiny
    have taken := widths.takes_tiny limit claimed below
    rwa [byte] at taken
  split
  · exact wide 2 251 ‹_› widths.two
  split
  · exact wide 4 252 ‹_› widths.four
  · obtain small | ⟨small, eight⟩ := fits
    · contradiction
    · exact wide 8 253 small eight

/-- What is written for a number is no longer than any other width of it. -/
theorem number_shortens {marker : UInt8} {body : Bytes}
    (announced : (marker = 251 ∧ body.length = 2) ∨ (marker = 252 ∧ body.length = 4) ∨
      (marker = 253 ∧ body.length = 8)) :
    (number (Bytes.ofLittleEndian body)).Shortens (marker :: body) := by
  have small := Bytes.ofLittleEndian_lt body
  have back := Bytes.littleEndian_ofLittleEndian body
  unfold Bytes.Shortens number
  obtain ⟨rfl, length⟩ | ⟨rfl, length⟩ | ⟨rfl, length⟩ := announced <;>
    rw [length] at small back <;> rw [List.length_cons, length] <;> split_ifs
  all_goals first
    | omega
    | exact .inl (congrArg _ back)
    | exact .inr (by simp)

theorem takeNumber_eq_ok {width limit value : Nat} {start ending : Cursor}
    (read : takeNumber width limit start = .ok (value, ending)) :
    ∃ body : Bytes, body.length = width ∧ start.rest = body ++ ending.rest ∧
      value = Bytes.ofLittleEndian body ∧ ending.claimed = start.claimed := by
  obtain ⟨body, middle, taken, ended⟩ := andThen_eq_ok read
  obtain ⟨length, split, same⟩ := take_eq_ok taken
  cases ended
  exact ⟨body, length, split, rfl, same⟩

/-- **Numbers normalise**: only their width is free. -/
theorem IsWidths.normalises (widths : IsWidths content) :
    (takeByte.andThen content).Normalises number := by
  rintro limit ⟨input, claimed⟩ ending value read
  obtain ⟨marker, middle, begun, ended⟩ := andThen_eq_ok read
  cases input with
  | nil => cases begun
  | cons first tail =>
    cases begun
    have wide {width : Nat} (announces : content marker = takeNumber width)
        (fits : marker = 251 ∧ width = 2 ∨ marker = 252 ∧ width = 4 ∨ marker = 253 ∧ width = 8) :
        ∃ front, marker :: tail = front ++ ending.rest ∧
          (takeByte.andThen content).Takes limit claimed front value ending.claimed ∧
          (takeByte.andThen content).Takes limit claimed (number value) value ending.claimed ∧
          (number value).Shortens front := by
      rw [announces] at ended
      obtain ⟨body, rfl, split, rfl, same⟩ := takeNumber_eq_ok ended
      have small := Bytes.ofLittleEndian_lt body
      rw [same]
      refine ⟨marker :: body, congrArg (marker :: ·) split, marked_takes limit claimed body announces, widths.takes ?_,
        number_shortens fits⟩
      obtain ⟨-, length⟩ | ⟨-, length⟩ | ⟨rfl, length⟩ := fits <;> rw [length] at small announces
      · exact .inl (Nat.lt_trans small (by decide))
      · exact .inl small
      · exact .inr ⟨small, announces⟩
    by_cases tiny : marker < 251
    · rw [widths.one tiny] at ended
      cases ended
      have taken := widths.takes_tiny limit claimed tiny
      have written : number marker.toNat = [marker] := by
        have below : marker.toNat < 251 := UInt8.lt_iff_toNat_lt.mp tiny
        rw [number, if_pos below, UInt8.ofNat_toNat]
      rw [written]
      exact ⟨[marker], rfl, taken, taken, .refl _⟩
    by_cases two : marker = 251
    · exact wide (two ▸ widths.two) (.inl ⟨two, rfl⟩)
    by_cases four : marker = 252
    · exact wide (four ▸ widths.four) (.inr (.inl ⟨four, rfl⟩))
    obtain ⟨eight, announces⟩ | ⟨error, fails⟩ := widths.wider tiny two four
    · exact wide announces (.inr (.inr ⟨eight, rfl⟩))
    · rw [fails] at ended
      cases ended

theorem shortNumber_normalises : shortNumber.Normalises number := by
  refine IsWidths.normalises ⟨fun tiny => if_pos tiny, rfl, rfl, fun tiny two four => .inr ?_⟩
  rw [if_neg tiny, if_neg two, if_neg four]
  split_ifs <;> exact ⟨_, rfl⟩

/-- What is read of a 64-bit number after its marker, if so many bytes were at hand at its start. -/
def longContent (available : Nat) (marker : UInt8) : Reader Nat :=
  if marker < 251 then done marker.toNat
  else if marker = 251 then takeNumber 2
  else if marker = 252 then takeNumber 4
  else if marker = 253 then takeNumber 8
  else if marker = 254 then fail (.invalidWidth (widthShown available) .bits128)
  else fail (.invalidWidth (widthShown available) .reserved)

theorem longContent_isWidths (available : Nat) : IsWidths (longContent available) := by
  refine ⟨fun tiny => if_pos tiny, rfl, rfl, fun tiny two four => ?_⟩
  unfold longContent
  rw [if_neg tiny, if_neg two, if_neg four]
  split_ifs with eight
  · exact .inl ⟨eight, rfl⟩
  · exact .inr ⟨_, rfl⟩
  · exact .inr ⟨_, rfl⟩

theorem longNumber_eq (limit : Nat) (start : Cursor) :
    longNumber limit start = takeByte.andThen (longContent start.rest.length) limit start := rfl

/-- What is at hand matters only to the error. -/
theorem longContent_eq_ok {limit available value : Nat} {marker : UInt8} {start ending : Cursor}
    (read : longContent available marker limit start = .ok (value, ending)) (other : Nat) :
    longContent other marker limit start = .ok (value, ending) := by
  unfold longContent at read ⊢
  split_ifs at read ⊢
  all_goals first
    | exact read
    | cases read

/-- A 64-bit number is taken if it is whatever may be at hand. -/
theorem longNumber_takes_of {front : Bytes} {value : Nat}
    (takes : ∀ available, (takeByte.andThen (longContent available)).Takes limit claimed front value after) :
    longNumber.Takes limit claimed front value after where
  whole rest := (takes _).whole rest
  part cut some := (takes _).part cut some

theorem longNumber_normalises : longNumber.Normalises number := by
  intro limit start ending value read
  rw [longNumber_eq] at read
  have each (available : Nat) :
      takeByte.andThen (longContent available) limit start = .ok (value, ending) := by
    obtain ⟨marker, middle, begun, ended⟩ := andThen_eq_ok read
    simp only [Reader.andThen, begun]
    exact longContent_eq_ok ended available
  obtain ⟨front, split, -, -, shortens⟩ := (longContent_isWidths 0).normalises (each 0)
  refine ⟨front, split, longNumber_takes_of fun available => ?_, longNumber_takes_of fun available => ?_,
    shortens⟩
  · obtain ⟨other, splitOther, takes, -⟩ := (longContent_isWidths available).normalises (each available)
    rwa [List.append_cancel_right (split.symm.trans splitOther)]
  · obtain ⟨other, -, -, again, -⟩ := (longContent_isWidths available).normalises (each available)
    exact again

theorem longNumber_lt {limit value : Nat} {start ending : Cursor}
    (read : longNumber limit start = .ok (value, ending)) : value < 2 ^ 64 := by
  rw [longNumber_eq] at read
  obtain ⟨marker, middle, -, ended⟩ := andThen_eq_ok read
  have wide {width : Nat} (few : width ≤ 8)
      (found : takeNumber width limit middle = .ok (value, ending)) : value < 2 ^ 64 := by
    obtain ⟨body, rfl, -, rfl, -⟩ := takeNumber_eq_ok found
    exact Nat.lt_of_lt_of_le (Bytes.ofLittleEndian_lt body)
      (Nat.pow_le_pow_right (by decide : 0 < 256) few)
  unfold longContent at ended
  split_ifs at ended
  · cases ended
    exact Nat.lt_trans marker.toNat_lt (by decide)
  · exact wide (by decide) ended
  · exact wide (by decide) ended
  · exact wide (by decide) ended
  · cases ended
  · cases ended

theorem length_lt {limit value : Nat} {start ending : Cursor}
    (read : length limit start = .ok (value, ending)) : value < 2 ^ 64 := by
  obtain ⟨-, middle, -, ended⟩ := andThen_eq_ok read
  exact longNumber_lt ended

theorem length_normalises : length.Normalises number :=
  (claim_normalises 8).andThen (fun _ => number) (fun _ => longNumber_normalises) fun _ _ => rfl

end Reader

end Wire

end PeerMesh
