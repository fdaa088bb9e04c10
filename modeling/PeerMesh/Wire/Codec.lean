/-
**Writing and reading payloads under a limit on claimed bytes.**

A `Codec` holds three views of one layout: how a value is written, how it is read, and what reading
it costs. Reading keeps a running count of *claimed* bytes. A number claims its full width before it
is read, whatever its written width, and a list claims room for all of its items at once and gives
the room of each item back just before reading that item. Reading fails as soon as the count would
pass the limit.

The cost of a value (`Cost`) is what its reading adds to the count in the end (`net`) and the most
that it adds on the way (`peak`). Layouts are built from a few parts:

* `byte`, `flag`, `word`, `text`, `bytes` — the scalars;
* `pair`, `optional`, `sequence`, `tagged` — values made of values;
* `via` — another type with the same layout.
-/

import PeerMesh.Bytes
import PeerMesh.Wire.Error

namespace PeerMesh.Wire

/-- The bytes still to be read, and the bytes claimed so far. -/
structure Cursor where
  rest : Bytes
  claimed : Nat
  deriving DecidableEq, Repr, Inhabited

/-- A reading step under a limit on claimed bytes. -/
abbrev Reader (α : Type) := (limit : Nat) → Cursor → Except DecodeError (α × Cursor)

/-- What reading a value adds to the count of claimed bytes: in the end, and at most on the way. -/
structure Cost where
  net : Nat
  peak : Nat
  deriving DecidableEq, Repr, Inhabited

namespace Cost

/-- Nothing is claimed. -/
def zero : Cost := ⟨0, 0⟩

/-- The given number of bytes is claimed. -/
def claim (count : Nat) : Cost := ⟨count, count⟩

/-- One cost after another. -/
def followedBy (first second : Cost) : Cost :=
  ⟨first.net + second.net, max first.peak (first.net + second.peak)⟩

end Cost

namespace Reader

/-- Claim bytes before reading them. -/
def claim (count : Nat) : Reader Unit := fun limit cursor =>
  if cursor.claimed + count ≤ limit then .ok ((), { cursor with claimed := cursor.claimed + count })
  else .error .limitExceeded

/-- Give claimed bytes back. -/
def giveBack (count : Nat) : Reader Unit := fun _ cursor =>
  .ok ((), { cursor with claimed := cursor.claimed - count })

/-- Take the given number of bytes at once. -/
def take (count : Nat) : Reader Bytes := fun _ cursor =>
  if count ≤ cursor.rest.length then
    .ok (cursor.rest.take count, { cursor with rest := cursor.rest.drop count })
  else .error (.unexpectedEnd (count - cursor.rest.length))

/-- Take one byte. -/
def takeByte : Reader UInt8 := fun _ cursor =>
  match cursor.rest with
  | [] => .error (.unexpectedEnd 1)
  | byte :: rest => .ok (byte, { cursor with rest := rest })

/-- One step after another. -/
def andThen {α β : Type} (first : Reader α) (next : α → Reader β) : Reader β :=
  fun limit cursor => match first limit cursor with
    | .ok (value, cursor) => next value limit cursor
    | .error error => .error error

/-- A value without reading. -/
def done {α : Type} (value : α) : Reader α := fun _ cursor => .ok (value, cursor)

/-- A failure without reading. -/
def fail {α : Type} (error : DecodeError) : Reader α := fun _ _ => .error error

/-- Take the given number of bytes as a number, low byte first. -/
def takeNumber (width : Nat) : Reader Nat :=
  andThen (take width) fun bytes => done (Bytes.ofLittleEndian bytes)

/-- A number of at most 32 bits, in the shortest of its written widths that was chosen. -/
def shortNumber : Reader Nat :=
  andThen takeByte fun marker =>
    if marker < 251 then done marker.toNat
    else if marker = 251 then takeNumber 2
    else if marker = 252 then takeNumber 4
    else if marker = 253 then fail (.invalidWidth .bits32 .bits64)
    else if marker = 254 then fail (.invalidWidth .bits32 .bits128)
    else fail (.invalidWidth .bits32 .reserved)

/-- The width named by the error on a number of at most 64 bits. With nine or more bytes at hand the
number is read by the route of the 32-bit numbers, which names its own width. -/
def widthShown (available : Nat) : IntegerWidth :=
  if 9 ≤ available then .bits32 else .bits64

/-- A number of at most 64 bits, in whichever written width was chosen. -/
def longNumber : Reader Nat := fun limit start =>
  andThen takeByte (fun marker =>
    if marker < 251 then done marker.toNat
    else if marker = 251 then takeNumber 2
    else if marker = 252 then takeNumber 4
    else if marker = 253 then takeNumber 8
    else if marker = 254 then fail (.invalidWidth (widthShown start.rest.length) .bits128)
    else fail (.invalidWidth (widthShown start.rest.length) .reserved)) limit start

/-- A length or any other number of 64 bits; it claims its full width. -/
def length : Reader Nat := andThen (claim 8) fun _ => longNumber

end Reader

/-- A number in the shortest of its written widths: one byte below 251, else a marker and 2, 4 or 8
bytes, low byte first. -/
def number (value : Nat) : Bytes :=
  if value < 251 then [UInt8.ofNat value]
  else if value < 2 ^ 16 then 251 :: Bytes.littleEndian 2 value
  else if value < 2 ^ 32 then 252 :: Bytes.littleEndian 4 value
  else 253 :: Bytes.littleEndian 8 value

/-- One layout: how values are written, read, and what reading them claims. -/
structure Codec (α : Type) where
  write : α → Bytes
  read : Reader α
  cost : α → Cost

namespace Codec

/-- Nothing at all. -/
def nothing : Codec Unit where
  write _ := []
  read := .done ()
  cost _ := .zero

/-- One byte. -/
def byte : Codec UInt8 where
  write value := [value]
  read := .andThen (.claim 1) fun _ => .takeByte
  cost _ := .claim 1

/-- A truth value, as a byte that is zero or one. -/
def flag : Codec Bool where
  write value := [if value then 1 else 0]
  read := .andThen byte.read fun found =>
    if found = 0 then .done false else if found = 1 then .done true else .fail (.invalidFlag found)
  cost _ := .claim 1

/-- A 64-bit number. -/
def word : Codec UInt64 where
  write value := number value.toNat
  read := .andThen .length fun value => .done (UInt64.ofNat value)
  cost _ := .claim 8

/-- A byte string after its length. -/
def bytes : Codec Bytes where
  write value := number value.length ++ value
  read := .andThen .length fun count => .andThen (.claim count) fun _ => .take count
  cost value := (Cost.claim 8).followedBy (.claim value.length)

/-- A text, as the byte string that encodes it. -/
def text : Codec String where
  write value := bytes.write (Utf8.encode value)
  read := .andThen bytes.read fun found =>
    match Utf8.decode? found with
    | some value => .done value
    | none => .fail (.invalidText ((Utf8.fault? found).getD ⟨0, none⟩))
  cost value := bytes.cost (Utf8.encode value)

/-- Two values, one after the other. -/
def pair {α β : Type} (first : Codec α) (second : Codec β) : Codec (α × β) where
  write value := first.write value.1 ++ second.write value.2
  read := .andThen first.read fun one => .andThen second.read fun two => .done (one, two)
  cost value := (first.cost value.1).followedBy (second.cost value.2)

/-- Another type with the same layout. -/
def via {α β : Type} (codec : Codec α) (toLayout : β → α) (ofLayout : α → β) : Codec β where
  write value := codec.write (toLayout value)
  read := .andThen codec.read fun found => .done (ofLayout found)
  cost value := codec.cost (toLayout value)

/-- A value that may be missing, after a byte that says whether it is there. -/
def optional {α : Type} (typeName : String) (codec : Codec α) : Codec (Option α) where
  write
    | none => [0]
    | some value => 1 :: codec.write value
  read := .andThen byte.read fun tag =>
    if tag = 0 then .done none
    else if tag = 1 then .andThen codec.read fun value => .done (some value)
    else .fail (.unexpectedVariant typeName 2 tag.toNat)
  cost
    | none => .claim 1
    | some value => (Cost.claim 1).followedBy (codec.cost value)

/-- Read the given number of items, giving back the room of each before reading it. -/
def readItems {α : Type} (room : Nat) (read : Reader α) : (count : Nat) → Reader (List α)
  | 0 => .done []
  | count + 1 =>
    .andThen (.giveBack room) fun _ => .andThen read fun item =>
      .andThen (readItems room read count) fun items => .done (item :: items)

/-- The cost of items whose room is claimed already and given back one by one. The counts are
relative to the start, with the room of all these items still claimed and not counted. -/
def costItems {α : Type} (room : Nat) (cost : α → Cost) : List α → Cost
  | [] => .zero
  | item :: items =>
    let later := costItems room cost items
    ⟨(cost item).net + later.net,
      max (items.length * room + (cost item).peak) ((cost item).net + later.peak)⟩

/-- Items after their number; `room` bytes are claimed for each of them in advance. -/
def sequence {α : Type} (room : Nat) (codec : Codec α) : Codec (List α) where
  write items := number items.length ++ items.flatMap codec.write
  read := .andThen .length fun count => .andThen (.claim (count * room)) fun _ =>
    readItems room codec.read count
  cost items :=
    let later := costItems room codec.cost items
    ⟨8 + later.net, max (8 + items.length * room) (8 + later.peak)⟩

/-- One of several alternatives, after a number that says which. -/
def tagged {count : Nat} {β : Fin count → Type} (typeName : String)
    (alternative : (tag : Fin count) → Codec (β tag)) : Codec ((tag : Fin count) × β tag) where
  write value := number value.1 ++ (alternative value.1).write value.2
  read := .andThen (.claim 4) fun _ => .andThen .shortNumber fun tag =>
    if inRange : tag < count then
      .andThen (alternative ⟨tag, inRange⟩).read fun content => .done ⟨⟨tag, inRange⟩, content⟩
    else .fail (.unexpectedVariant typeName count tag)
  cost value := (Cost.claim 4).followedBy ((alternative value.1).cost value.2)

/-- Read a value from the front of a byte string, claiming at most `limit` bytes; what follows it is
returned with it. -/
def readFront {α : Type} (codec : Codec α) (limit : Nat) (input : Bytes) :
    Except DecodeError (α × Bytes) :=
  match codec.read limit ⟨input, 0⟩ with
  | .ok (value, cursor) => .ok (value, cursor.rest)
  | .error error => .error error

/-- Read a value from the front of a byte string, ignoring what follows it. -/
def decode {α : Type} (codec : Codec α) (limit : Nat) (input : Bytes) : Except DecodeError α :=
  match codec.readFront limit input with
  | .ok (value, _) => .ok value
  | .error error => .error error

end Codec

end PeerMesh.Wire
