/-
**The ledger of a value: how the count of claimed bytes moves while the value is read.**

A `Ledger` lists every change of the count in order; `Ledger.counts` are the counts it passes
through, and `Ledger.peak` is the largest of them. A reader *keeps* a ledger on some input
(`Reader.Keeps`) if it takes exactly that input and moves the count exactly so, unless the count
would pass the limit on the way: then it fails with `limitExceeded`.

* `Keeps.andThen` — readers one after the other keep their ledgers one after the other; every
  composed layout is an instance of it.
* `longNumber_keeps` — a 64-bit number is read back from whichever of its four widths it was written
  in, and moves nothing by itself.
* `Codec.Accounts` and its lemmas `pair_accounts`, `sequence_accounts`, … — a layout reads back what it
  has written, keeping the ledger of the value.
-/

import Mathlib.Algebra.Ring.Nat
import PeerMesh.Wire.Codec

namespace PeerMesh.Wire

/-- One change of the count of claimed bytes. -/
inductive Movement where
  | claim (count : Nat)
  | giveBack (count : Nat)
  deriving DecidableEq, Repr, Inhabited

/-- The count after a change. -/
def Movement.apply : Movement → Nat → Nat
  | .claim count, claimed => claimed + count
  | .giveBack count, claimed => claimed - count

/-- The changes of the count of claimed bytes, in order. -/
abbrev Ledger := List Movement

namespace Ledger

/-- The count after all changes. -/
def settle (ledger : Ledger) (claimed : Nat) : Nat :=
  ledger.foldl (fun count movement => movement.apply count) claimed

/-- The counts passed through, the first one included. -/
def counts : Ledger → (claimed : Nat) → List Nat
  | [], claimed => [claimed]
  | movement :: later, claimed => claimed :: counts later (movement.apply claimed)

/-- The largest count passed through. -/
def highest (ledger : Ledger) (claimed : Nat) : Nat := (ledger.counts claimed).foldr max 0

/-- The largest count passed through when nothing is claimed at first. -/
def peak (ledger : Ledger) : Nat := ledger.highest 0

@[simp] theorem settle_nil (claimed : Nat) : settle [] claimed = claimed := rfl

theorem settle_append (first second : Ledger) (claimed : Nat) :
    settle (first ++ second) claimed = settle second (settle first claimed) :=
  List.foldl_append

@[simp] theorem highest_nil (claimed : Nat) : highest [] claimed = claimed := by
  simp [highest, counts]

@[simp] theorem highest_cons (movement : Movement) (later : Ledger) (claimed : Nat) :
    highest (movement :: later) claimed = max claimed (later.highest (movement.apply claimed)) := rfl

theorem le_highest (ledger : Ledger) (claimed : Nat) : claimed ≤ ledger.highest claimed := by
  cases ledger with
  | nil => simp
  | cons movement later => exact Nat.le_max_left _ _

theorem settle_le_highest (ledger : Ledger) (claimed : Nat) :
    ledger.settle claimed ≤ ledger.highest claimed := by
  induction ledger generalizing claimed with
  | nil => simp
  | cons movement later ih => exact Nat.le_trans (ih _) (Nat.le_max_right _ _)

theorem highest_append (first second : Ledger) (claimed : Nat) :
    highest (first ++ second) claimed =
      max (first.highest claimed) (second.highest (first.settle claimed)) := by
  induction first generalizing claimed with
  | nil =>
    have := second.le_highest claimed
    simp only [List.nil_append, highest_nil, settle_nil]
    omega
  | cons movement later ih =>
    rw [List.cons_append, highest_cons, ih, highest_cons, Nat.max_assoc]
    rfl

/-- The ledger of a length and of the room that it announces. -/
def ofLength (room : Nat) : Ledger := [.claim 8, .claim room]

/-- **Claims alone add up**: the largest count is the last one. -/
theorem highest_claims (claims : List Nat) (claimed : Nat) :
    highest (claims.map .claim) claimed = claimed + claims.sum := by
  induction claims generalizing claimed with
  | nil => simp
  | cons count later ih =>
    simp only [List.map_cons, highest_cons, ih, Movement.apply, List.sum_cons]
    omega

end Ledger

/-! ### Readers that keep a ledger -/

/-- On the given input the reader yields the value and moves the count as the ledger says, unless the
count would pass the limit on the way. -/
def Reader.Keeps {α : Type} (reader : Reader α) (input : Bytes) (value : α) (ledger : Ledger) :
    Prop :=
  ∀ (limit : Nat) (rest : Bytes) (claimed : Nat), claimed ≤ limit →
    reader limit ⟨input ++ rest, claimed⟩ =
      if ledger.highest claimed ≤ limit then .ok (value, ⟨rest, ledger.settle claimed⟩)
      else .error .limitExceeded

namespace Reader

theorem claim_keeps (count : Nat) : (claim count).Keeps [] () [.claim count] := by
  intro limit rest claimed within
  have height : (Ledger.highest [.claim count] claimed ≤ limit) ↔ claimed + count ≤ limit := by
    simp only [Ledger.highest_cons, Ledger.highest_nil, Movement.apply]
    omega
  simp only [claim, height]
  rfl

theorem giveBack_keeps (count : Nat) : (giveBack count).Keeps [] () [.giveBack count] := by
  intro limit rest claimed within
  have height : Ledger.highest [.giveBack count] claimed ≤ limit := by
    simp only [Ledger.highest_cons, Ledger.highest_nil, Movement.apply]
    omega
  rw [if_pos height]
  rfl

theorem done_keeps {α : Type} (value : α) : (done value).Keeps [] value [] := by
  intro limit rest claimed within
  rw [Ledger.highest_nil, if_pos within]
  rfl

theorem takeByte_keeps (byte : UInt8) : takeByte.Keeps [byte] byte [] := by
  intro limit rest claimed within
  rw [Ledger.highest_nil, if_pos within]
  rfl

theorem take_keeps (input : Bytes) : (take input.length).Keeps input input [] := by
  intro limit rest claimed within
  have enough : input.length ≤ (input ++ rest).length := by simp
  rw [Ledger.highest_nil, if_pos within]
  simp only [take, if_pos enough, List.take_left, List.drop_left]
  rfl

/-- **Readers one after the other** keep their ledgers one after the other. -/
theorem Keeps.andThen {α β : Type} {first : Reader α} {next : α → Reader β} {one : α} {two : β}
    {front back : Bytes} {early late : Ledger} (here : first.Keeps front one early)
    (there : (next one).Keeps back two late) :
    (first.andThen next).Keeps (front ++ back) two (early ++ late) := by
  intro limit rest claimed within
  rw [Ledger.highest_append, Ledger.settle_append, List.append_assoc]
  simp only [Reader.andThen, here limit (back ++ rest) claimed within]
  by_cases low : early.highest claimed ≤ limit
  · have later := there limit rest _ (Nat.le_trans (early.settle_le_highest claimed) low)
    rw [if_pos low]
    simp only [later, Nat.max_le, low, true_and]
  · have high : ¬ max (early.highest claimed) (late.highest (early.settle claimed)) ≤ limit := by
      omega
    rw [if_neg low, if_neg high]

/-- A last step that neither reads nor claims. -/
theorem Keeps.finish {α β : Type} {first : Reader α} {next : α → Reader β} {one : α} {two : β}
    {input : Bytes} {ledger : Ledger} (here : first.Keeps input one ledger)
    (there : (next one).Keeps [] two []) : (first.andThen next).Keeps input two ledger := by
  have whole := here.andThen there
  rwa [List.append_nil, List.append_nil] at whole

theorem takeNumber_keeps {width value : Nat} (small : value < 256 ^ width) :
    (takeNumber width).Keeps (Bytes.littleEndian width value) value [] := by
  have taken := take_keeps (Bytes.littleEndian width value)
  rw [Bytes.length_littleEndian] at taken
  refine taken.finish ?_
  rw [Bytes.ofLittleEndian_littleEndian, Nat.mod_eq_of_lt small]
  exact done_keeps value

/-- **A 64-bit number is read back** from whichever width it was written in. -/
theorem longNumber_keeps {value : Nat} (small : value < 2 ^ 64) :
    longNumber.Keeps (number value) value [] := by
  intro limit rest claimed within
  unfold number longNumber
  split
  · rename_i tiny
    have byte : (UInt8.ofNat value).toNat = value := by
      rw [UInt8.toNat_ofNat']
      omega
    have below : UInt8.ofNat value < 251 := by
      rw [UInt8.lt_iff_toNat_lt, byte]
      exact tiny
    refine (takeByte_keeps (UInt8.ofNat value)).finish ?_ limit rest claimed within
    rw [if_pos below, byte]
    exact done_keeps value
  split
  · exact (takeByte_keeps 251).andThen (takeNumber_keeps ‹_›) limit rest claimed within
  split
  · exact (takeByte_keeps 252).andThen (takeNumber_keeps ‹_›) limit rest claimed within
  · exact (takeByte_keeps 253).andThen (takeNumber_keeps small) limit rest claimed within

theorem length_keeps {value : Nat} (small : value < 2 ^ 64) :
    length.Keeps (number value) value [.claim 8] :=
  (claim_keeps 8).andThen (longNumber_keeps small)

/-- A tag below 251 takes one byte. -/
theorem shortNumber_keeps {value : Nat} (tiny : value < 251) :
    shortNumber.Keeps (number value) value [] := by
  have byte : (UInt8.ofNat value).toNat = value := by
    rw [UInt8.toNat_ofNat']
    omega
  have below : UInt8.ofNat value < 251 := by
    rw [UInt8.lt_iff_toNat_lt, byte]
    exact tiny
  rw [number, if_pos tiny]
  refine (takeByte_keeps (UInt8.ofNat value)).finish ?_
  rw [if_pos below, byte]
  exact done_keeps value

end Reader

/-! ### Layouts that account for their values -/

/-- What the layout writes for the value is read back as the value, keeping the ledger. -/
def Codec.Accounts {α : Type} (codec : Codec α) (value : α) (ledger : Ledger) : Prop :=
  codec.read.Keeps (codec.write value) value ledger

namespace Codec

open Reader

theorem nothing_accounts : nothing.Accounts () [] := done_keeps ()

theorem byte_accounts (value : UInt8) : byte.Accounts value [.claim 1] :=
  (claim_keeps 1).andThen (takeByte_keeps value)

theorem flag_accounts (value : Bool) : flag.Accounts value [.claim 1] := by
  cases value with
  | false => exact Keeps.finish (byte_accounts 0) (done_keeps false)
  | true => exact Keeps.finish (byte_accounts 1) (done_keeps true)

theorem word_accounts (value : UInt64) : word.Accounts value [.claim 8] := by
  refine (length_keeps value.toNat_lt).finish ?_
  rw [UInt64.ofNat_toNat]
  exact done_keeps value

theorem bytes_accounts {value : Bytes} (small : value.length < 2 ^ 64) :
    bytes.Accounts value (.ofLength value.length) :=
  (length_keeps small).andThen ((claim_keeps value.length).andThen (take_keeps value))

theorem text_accounts {value : String} (small : (Utf8.encode value).length < 2 ^ 64) :
    text.Accounts value (.ofLength (Utf8.encode value).length) := by
  refine Keeps.finish (bytes_accounts small) ?_
  rw [Utf8.decode?_encode]
  exact done_keeps value

theorem pair_accounts {α β : Type} {first : Codec α} {second : Codec β} {value : α × β}
    {early late : Ledger} (one : first.Accounts value.1 early)
    (two : second.Accounts value.2 late) : (first.pair second).Accounts value (early ++ late) :=
  one.andThen (Keeps.finish two (done_keeps value))

/-- Another type with the same layout, if nothing of the value is lost. -/
theorem via_accounts {α β : Type} {codec : Codec α} {toLayout : β → α} {ofLayout : α → β} {value : β}
    {ledger : Ledger} (accounts : codec.Accounts (toLayout value) ledger)
    (back : ofLayout (toLayout value) = value) :
    (codec.via toLayout ofLayout).Accounts value ledger := by
  refine Keeps.finish accounts ?_
  rw [back]
  exact done_keeps value

theorem optional_accounts_none {α : Type} (typeName : String) (codec : Codec α) :
    (optional typeName codec).Accounts none [.claim 1] :=
  Keeps.finish (byte_accounts 0) (done_keeps none)

theorem optional_accounts_some {α : Type} (typeName : String) {codec : Codec α} {value : α}
    {ledger : Ledger} (accounts : codec.Accounts value ledger) :
    (optional typeName codec).Accounts (some value) (.claim 1 :: ledger) :=
  Keeps.andThen (byte_accounts 1) (Keeps.finish accounts (done_keeps (some value)))

theorem tagged_accounts {count : Nat} {β : Fin count → Type} (typeName : String)
    (alternative : (tag : Fin count) → Codec (β tag)) (tag : Fin count) {content : β tag}
    {ledger : Ledger} (few : count ≤ 251)
    (accounts : (alternative tag).Accounts content ledger) :
    (tagged typeName alternative).Accounts ⟨tag, content⟩ (.claim 4 :: ledger) := by
  have marker := shortNumber_keeps (Nat.lt_of_lt_of_le tag.2 few)
  refine (claim_keeps 4).andThen (marker.andThen ?_)
  rw [dif_pos tag.2]
  exact Keeps.finish accounts (done_keeps (Sigma.mk tag content))

/-- The ledger of items whose room is claimed already. -/
def itemsLedger {α : Type} (room : Nat) (ledger : α → Ledger) (items : List α) : Ledger :=
  items.flatMap fun item => .giveBack room :: ledger item

theorem readItems_keeps {α : Type} {room : Nat} {codec : Codec α} {ledger : α → Ledger}
    {items : List α} (each : ∀ item ∈ items, codec.Accounts item (ledger item)) :
    (readItems room codec.read items.length).Keeps (items.flatMap codec.write) items
      (itemsLedger room ledger items) := by
  induction items with
  | nil => exact done_keeps []
  | cons item items ih =>
    have later := ih fun other member => each other (List.mem_cons_of_mem _ member)
    exact (giveBack_keeps room).andThen
      (Keeps.andThen (each item List.mem_cons_self) (later.finish (done_keeps (item :: items))))

theorem sequence_accounts {α : Type} {room : Nat} {codec : Codec α} {ledger : α → Ledger}
    {items : List α} (small : items.length < 2 ^ 64)
    (each : ∀ item ∈ items, codec.Accounts item (ledger item)) :
    (sequence room codec).Accounts items
      (.ofLength (items.length * room) ++ itemsLedger room ledger items) :=
  (length_keeps small).andThen
    ((claim_keeps (items.length * room)).andThen (readItems_keeps each))

/-- **A layout that accounts for a value reads it back from the front of its own writing**, whatever
follows, exactly if the largest count stays within the limit. -/
theorem Accounts.readFront {α : Type} {codec : Codec α} {value : α} {ledger : Ledger}
    (accounts : codec.Accounts value ledger) (limit : Nat) (rest : Bytes) :
    codec.readFront limit (codec.write value ++ rest) =
      if ledger.peak ≤ limit then .ok (value, rest) else .error .limitExceeded := by
  unfold Codec.readFront
  rw [accounts limit rest 0 (Nat.zero_le limit), Ledger.peak]
  by_cases low : ledger.highest 0 ≤ limit
  · rw [if_pos low, if_pos low]
  · rw [if_neg low, if_neg low]

theorem Accounts.decode_write {α : Type} {codec : Codec α} {value : α} {ledger : Ledger}
    (accounts : codec.Accounts value ledger) (limit : Nat) :
    codec.decode limit (codec.write value) =
      if ledger.peak ≤ limit then .ok value else .error .limitExceeded := by
  have read := accounts.readFront limit []
  rw [List.append_nil] at read
  unfold Codec.decode
  rw [read]
  by_cases low : ledger.peak ≤ limit
  · rw [if_pos low, if_pos low]
  · rw [if_neg low, if_neg low]

/-- What was written can be read as nothing else. -/
theorem Accounts.eq_of_decode_write {α : Type} {codec : Codec α} {value other : α}
    {ledger : Ledger} (accounts : codec.Accounts value ledger) {limit : Nat}
    (read : codec.decode limit (codec.write value) = .ok other) : other = value := by
  rw [accounts.decode_write limit] at read
  split at read
  · exact (Except.ok.inj read).symm
  · cases read

/-- **What is read of a tagged value has the tag that was written**, whatever is read of its content. -/
theorem tag_of_decode_write {count : Nat} {β : Fin count → Type} {typeName : String}
    {alternative : (tag : Fin count) → Codec (β tag)} {value found : (tag : Fin count) × β tag}
    {limit : Nat} (few : count ≤ 251) (read : (tagged typeName alternative).decode limit
      ((tagged typeName alternative).write value) = .ok found) : found.1 = value.1 := by
  let layout := tagged typeName alternative
  have tiny : value.1.val < 251 := Nat.lt_of_lt_of_le value.1.2 few
  have opened : layout.read limit ⟨layout.write value, 0⟩ =
      if 0 + 4 ≤ limit then
        andThen (alternative value.1).read (fun content => done (Sigma.mk value.1 content)) limit
          ⟨(alternative value.1).write value.2, 0 + 4⟩
      else .error .limitExceeded := by
    show andThen (claim 4) _ limit ⟨number value.1 ++ (alternative value.1).write value.2, 0⟩ = _
    unfold andThen claim
    by_cases room : 0 + 4 ≤ limit
    · have marker := shortNumber_keeps tiny limit ((alternative value.1).write value.2) (0 + 4) room
      rw [Ledger.highest_nil, if_pos room] at marker
      simp only [if_pos room, marker, Ledger.settle_nil, dif_pos value.1.2]
    · simp only [if_neg room]
  unfold Codec.decode Codec.readFront at read
  rw [opened] at read
  by_cases room : 0 + 4 ≤ limit
  · rw [if_pos room] at read
    unfold andThen at read
    cases content : (alternative value.1).read limit ⟨(alternative value.1).write value.2, 0 + 4⟩ with
    | error error =>
      rw [content] at read
      cases read
    | ok back =>
      rw [content] at read
      obtain rfl := Except.ok.inj read
      rfl
  · rw [if_neg room] at read
    cases read

/-- Another type with the same layout is read by its layout. -/
theorem exists_layout_of_decode {α β : Type} {codec : Codec α} {toLayout : β → α} {ofLayout : α → β}
    {limit : Nat} {input : Bytes} {value : β}
    (read : (codec.via toLayout ofLayout).decode limit input = .ok value) :
    ∃ layout, codec.decode limit input = .ok layout ∧ ofLayout layout = value := by
  unfold Codec.decode Codec.readFront at read ⊢
  unfold via andThen done at read
  dsimp only at read
  cases back : codec.read limit ⟨input, 0⟩ with
  | error error =>
    rw [back] at read
    cases read
  | ok found =>
    rw [back] at read
    exact ⟨found.1, rfl, Except.ok.inj read⟩

end Codec

end PeerMesh.Wire
