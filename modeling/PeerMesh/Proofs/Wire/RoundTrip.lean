/-
**Every payload is read back from its own writing, exactly if its claims stay within the limit.**

For each type of payload, `ledger` says what its reading claims and gives back, in order, and
`lengths` lists the lengths that are written in it:

* a tag of alternatives claims 4, a number or a length 8, a byte, a truth value or an option 1;
* after a length the room of everything counted is claimed: 1 for a byte, `nodeIdRoom` for an id,
  `gossipEntryRoom` for an entry, and the room of an id or entry is given back just before it.

`PayloadType` gathers the nine types. `PayloadType.readFront_write`: with lengths below `2 ^ 64`,
reading what was written gives the value and leaves what follows, whatever follows, if the peak of the
ledger is within the limit; otherwise the limit is exceeded.
-/

import PeerMesh.Proofs.Wire.Ledger
import PeerMesh.Wire.Payload

namespace PeerMesh

open Wire

/-- The number of bytes of a text. -/
def textLength (text : String) : Nat := (Utf8.encode text).length

/-- Lengths that can be written as 64-bit numbers. -/
def AreWords (lengths : List Nat) : Prop := ∀ length ∈ lengths, length < 2 ^ 64

instance (lengths : List Nat) : Decidable (AreWords lengths) :=
  inferInstanceAs (Decidable (∀ length ∈ lengths, length < 2 ^ 64))

theorem AreWords.mono {few many : List Nat} (words : AreWords many) (part : few ⊆ many) :
    AreWords few :=
  fun length member => words length (part member)

theorem AreWords.text {text : String} {lengths : List Nat} (words : AreWords lengths)
    (member : textLength text ∈ lengths) : Codec.text.Accounts text (Ledger.ofLength (textLength text)) :=
  Codec.text_accounts (words _ member)

/-! ### Names and places -/

theorem NodeId.codec_accounts {id : NodeId} (small : textLength id.name < 2 ^ 64) :
    NodeId.codec.Accounts id (Ledger.ofLength (textLength id.name)) :=
  Codec.via_accounts (Codec.text_accounts small) rfl

theorem Address.codec_accounts {address : Address} (small : textLength address.text < 2 ^ 64) :
    Address.codec.Accounts address (Ledger.ofLength (textLength address.text)) :=
  Codec.via_accounts (Codec.text_accounts small) rfl

namespace Scope

/-- The lengths written in a scope. -/
def lengths : Scope → List Nat
  | .unscoped | .all => []
  | .named domain => [textLength domain]

/-- The ledger of a scope. -/
def ledger : Scope → Ledger
  | .unscoped | .all => [.claim 4]
  | .named domain => .claim 4 :: Ledger.ofLength (textLength domain)

theorem codec_accounts {scope : Scope} (words : AreWords scope.lengths) :
    codec.Accounts scope scope.ledger := by
  cases scope with
  | unscoped =>
    exact Codec.via_accounts (Codec.tagged_accounts "DomainScope" alternatives 0
      (by decide) Codec.nothing_accounts) rfl
  | all =>
    exact Codec.via_accounts (Codec.tagged_accounts "DomainScope" alternatives 1
      (by decide) Codec.nothing_accounts) rfl
  | named domain =>
    exact Codec.via_accounts (Codec.tagged_accounts "DomainScope" alternatives 2
      (by decide) (words.text List.mem_cons_self)) rfl

end Scope

/-! ### Discovery -/

namespace Announce

/-- The lengths written in an announcement. -/
def lengths (announce : Announce) : List Nat := [textLength announce.address.text]

/-- The ledger of an announcement. -/
def ledger (announce : Announce) : Ledger := Ledger.ofLength (textLength announce.address.text)

theorem codec_accounts {announce : Announce} (words : AreWords announce.lengths) :
    codec.Accounts announce announce.ledger :=
  Codec.via_accounts (Address.codec_accounts (words _ List.mem_cons_self)) rfl

theorem peak_ledger (announce : Announce) :
    announce.ledger.peak = 8 + textLength announce.address.text := by
  refine (Ledger.highest_claims [8, textLength announce.address.text] 0).trans ?_
  rw [List.sum_cons, List.sum_singleton, Nat.zero_add]

end Announce

namespace ForceResync

/-- The lengths written in a request to announce. -/
def lengths (request : ForceResync) : List Nat :=
  match request.targets with
  | none => []
  | some ids => ids.length :: ids.map fun id => textLength id.name

/-- The ledger of a request to announce. -/
def ledger (request : ForceResync) : Ledger :=
  match request.targets with
  | none => [.claim 1]
  | some ids => .claim 1 :: Ledger.ofLength (ids.length * nodeIdRoom) ++
      Codec.itemsLedger nodeIdRoom (fun id => Ledger.ofLength (textLength id.name)) ids

theorem codec_accounts {request : ForceResync} (words : AreWords request.lengths) :
    codec.Accounts request request.ledger := by
  obtain ⟨targets⟩ := request
  cases targets with
  | none => exact Codec.via_accounts (Codec.optional_accounts_none _ _) rfl
  | some ids =>
    have each : ∀ id ∈ ids, NodeId.codec.Accounts id (Ledger.ofLength (textLength id.name)) :=
      fun id member => NodeId.codec_accounts
        (words _ (List.mem_cons_of_mem _ (List.mem_map_of_mem member)))
    exact Codec.via_accounts (Codec.optional_accounts_some _
      (Codec.sequence_accounts (words _ List.mem_cons_self) each)) rfl

end ForceResync

/-! ### Failure detection -/

namespace GossipEntry

/-- The lengths written in an entry. -/
def lengths (entry : GossipEntry) : List Nat :=
  [textLength entry.id.name, textLength entry.address.text]

/-- The ledger of an entry. -/
def ledger (entry : GossipEntry) : Ledger :=
  Ledger.ofLength (textLength entry.id.name) ++ (Ledger.ofLength (textLength entry.address.text) ++ [.claim 8])

theorem codec_accounts {entry : GossipEntry} (words : AreWords entry.lengths) :
    codec.Accounts entry entry.ledger := by
  have id := NodeId.codec_accounts (words (textLength entry.id.name) (by simp [lengths]))
  have address := Address.codec_accounts
    (words (textLength entry.address.text) (by simp [lengths]))
  exact Codec.via_accounts (Codec.pair_accounts id
    (Codec.pair_accounts address (Codec.word_accounts entry.version))) rfl

end GossipEntry

namespace SyncRequest

/-- The lengths written in a request. -/
def lengths : SyncRequest → List Nat
  | .ping => []
  | .healthCheck target address => [textLength target.name, textLength address.text]

/-- The ledger of a request. -/
def ledger : SyncRequest → Ledger
  | .ping => [.claim 4]
  | .healthCheck target address =>
    .claim 4 :: (Ledger.ofLength (textLength target.name) ++ Ledger.ofLength (textLength address.text))

theorem codec_accounts {request : SyncRequest} (words : AreWords request.lengths) :
    codec.Accounts request request.ledger := by
  cases request with
  | ping =>
    exact Codec.via_accounts (Codec.tagged_accounts "SyncRequest" alternatives 0
      (by decide) Codec.nothing_accounts) rfl
  | healthCheck target address =>
    have name := NodeId.codec_accounts (words (textLength target.name) (by simp [lengths]))
    have place := Address.codec_accounts (words (textLength address.text) (by simp [lengths]))
    have content : (alternatives 1).Accounts (target, address) _ := Codec.pair_accounts name place
    exact Codec.via_accounts (Codec.tagged_accounts "SyncRequest" alternatives 1
      (by decide) content) rfl

end SyncRequest

namespace SyncReply

/-- The ledger of a reply. -/
def ledger : SyncReply → Ledger
  | .pong => [.claim 4]
  | .reachable _ => [.claim 4, .claim 1]

theorem codec_accounts (reply : SyncReply) : codec.Accounts reply reply.ledger := by
  cases reply with
  | pong =>
    exact Codec.via_accounts (Codec.tagged_accounts "SyncReply" alternatives 0
      (by decide) Codec.nothing_accounts) rfl
  | reachable answered =>
    exact Codec.via_accounts (Codec.tagged_accounts "SyncReply" alternatives 1
      (by decide) (Codec.flag_accounts answered)) rfl

end SyncReply

namespace Digest

/-- The lengths written in a digest. -/
def lengths (digest : Digest) : List Nat :=
  digest.entries.length :: digest.entries.flatMap GossipEntry.lengths

/-- The ledger of a digest. -/
def ledger (digest : Digest) : Ledger :=
  [.claim 1] ++ ([.claim 8] ++ (Ledger.ofLength (digest.entries.length * gossipEntryRoom) ++
    Codec.itemsLedger gossipEntryRoom GossipEntry.ledger digest.entries))

theorem codec_accounts {digest : Digest} (words : AreWords digest.lengths) :
    codec.Accounts digest digest.ledger := by
  have each : ∀ entry ∈ digest.entries, GossipEntry.codec.Accounts entry entry.ledger := by
    intro entry member
    refine GossipEntry.codec_accounts (words.mono fun length inside => ?_)
    exact List.mem_cons_of_mem _ (List.mem_flatMap.mpr ⟨entry, member, inside⟩)
  exact Codec.via_accounts (Codec.pair_accounts (Codec.byte_accounts digest.version)
    (Codec.pair_accounts (Codec.word_accounts digest.heartbeat)
      (Codec.sequence_accounts (words _ List.mem_cons_self) each))) rfl

end Digest

namespace ControlMessage

/-- The lengths written in a control message. -/
def lengths : ControlMessage → List Nat
  | .notification digest | .gossip digest => digest.lengths
  | .request question => question.lengths
  | .event name data => [textLength name, data.length]

/-- The ledger of a control message. -/
def ledger : ControlMessage → Ledger
  | .notification digest | .gossip digest => .claim 4 :: digest.ledger
  | .request question => .claim 4 :: question.ledger
  | .event name data => .claim 4 :: (Ledger.ofLength (textLength name) ++ Ledger.ofLength data.length)

theorem codec_accounts {message : ControlMessage} (words : AreWords message.lengths) :
    codec.Accounts message message.ledger := by
  cases message with
  | notification digest =>
    exact Codec.via_accounts (Codec.tagged_accounts "ControlMessage" alternatives 0
      (by decide) (Digest.codec_accounts words)) rfl
  | gossip digest =>
    exact Codec.via_accounts (Codec.tagged_accounts "ControlMessage" alternatives 1
      (by decide) (Digest.codec_accounts words)) rfl
  | request question =>
    exact Codec.via_accounts (Codec.tagged_accounts "ControlMessage" alternatives 2
      (by decide) (SyncRequest.codec_accounts words)) rfl
  | event name data =>
    have content : (Codec.text.pair Codec.bytes).Accounts (name, data) _ :=
      Codec.pair_accounts (words.text List.mem_cons_self)
        (Codec.bytes_accounts (words _ (by simp [lengths])))
    exact Codec.via_accounts (Codec.tagged_accounts "ControlMessage" alternatives 3
      (by decide) content) rfl

/-- A request is read as a request, whatever it asks. -/
theorem exists_request_of_decode {question : SyncRequest} {limit : Nat} {message : ControlMessage}
    (read : codec.decode limit (codec.write (.request question)) = .ok message) :
    ∃ other, message = .request other := by
  obtain ⟨⟨tag, content⟩, found, rfl⟩ := Codec.exists_layout_of_decode read
  obtain rfl : tag = 2 := Codec.tag_of_decode_write (by decide) found
  exact ⟨content, rfl⟩

end ControlMessage

/-! ### Events and frames -/

namespace Event

/-- The lengths written in an event. -/
def lengths (event : Event) : List Nat :=
  event.scope.lengths ++ [textLength event.kind, event.data.length, textLength event.origin.name,
    textLength event.originAddress.text]

/-- The ledger of an event. -/
def ledger (event : Event) : Ledger :=
  event.scope.ledger ++ (Ledger.ofLength (textLength event.kind) ++ (Ledger.ofLength event.data.length ++
    (Ledger.ofLength (textLength event.origin.name) ++ Ledger.ofLength (textLength event.originAddress.text))))

theorem codec_accounts {event : Event} (words : AreWords event.lengths) :
    codec.Accounts event event.ledger := by
  have scope := Scope.codec_accounts (words.mono (List.subset_append_left _ _))
  have data := Codec.bytes_accounts (words event.data.length (by simp [lengths]))
  have origin := NodeId.codec_accounts (words (textLength event.origin.name) (by simp [lengths]))
  have place := Address.codec_accounts
    (words (textLength event.originAddress.text) (by simp [lengths]))
  exact Codec.via_accounts (Codec.pair_accounts scope
    (Codec.pair_accounts (words.text (by simp [lengths]))
      (Codec.pair_accounts data (Codec.pair_accounts origin place)))) rfl

end Event

namespace Frame

/-- The lengths written in a frame. -/
def lengths : Frame → List Nat
  | .request _ _ event => event.lengths
  | .reply _ none => []
  | .reply _ (some data) => [data.length]

/-- The ledger of a frame. -/
def ledger : Frame → Ledger
  | .request _ _ event => [.claim 4, .claim 8, .claim 1] ++ event.ledger
  | .reply _ none => [.claim 4, .claim 8, .claim 1]
  | .reply _ (some data) => [.claim 4, .claim 8, .claim 1] ++ Ledger.ofLength data.length

theorem codec_accounts {frame : Frame} (words : AreWords frame.lengths) :
    codec.Accounts frame frame.ledger := by
  cases frame with
  | request id expectsReply event =>
    have content : (alternatives 0).Accounts (id, expectsReply, event) _ :=
      Codec.pair_accounts (Codec.word_accounts id)
        (Codec.pair_accounts (Codec.flag_accounts expectsReply) (Event.codec_accounts words))
    exact Codec.via_accounts (Codec.tagged_accounts "WireFrame" alternatives 0
      (by decide) content) rfl
  | reply id data =>
    cases data with
    | none =>
      have content : (alternatives 1).Accounts (id, none) _ :=
        Codec.pair_accounts (Codec.word_accounts id) (Codec.optional_accounts_none _ _)
      exact Codec.via_accounts (Codec.tagged_accounts "WireFrame" alternatives 1
      (by decide) content) rfl
    | some data =>
      have content : (alternatives 1).Accounts (id, some data) _ :=
        Codec.pair_accounts (Codec.word_accounts id) (Codec.optional_accounts_some _
          (Codec.bytes_accounts (words _ List.mem_cons_self)))
      exact Codec.via_accounts (Codec.tagged_accounts "WireFrame" alternatives 1
      (by decide) content) rfl

end Frame

/-! ### All types of payloads -/

/-- The types of payloads. -/
inductive PayloadType where
  | scope
  | announce
  | forceResync
  | gossipEntry
  | syncRequest
  | syncReply
  | controlMessage
  | event
  | frame
  deriving DecidableEq, Repr, Inhabited

namespace PayloadType

/-- The values of a type. -/
abbrev Value : PayloadType → Type
  | .scope => Scope
  | .announce => Announce
  | .forceResync => ForceResync
  | .gossipEntry => GossipEntry
  | .syncRequest => SyncRequest
  | .syncReply => SyncReply
  | .controlMessage => ControlMessage
  | .event => Event
  | .frame => Frame

/-- The layout of a type. -/
def codec : (type : PayloadType) → Codec type.Value
  | .scope => Scope.codec
  | .announce => Announce.codec
  | .forceResync => ForceResync.codec
  | .gossipEntry => GossipEntry.codec
  | .syncRequest => SyncRequest.codec
  | .syncReply => SyncReply.codec
  | .controlMessage => ControlMessage.codec
  | .event => Event.codec
  | .frame => Frame.codec

/-- The lengths written in a value. -/
def lengths : (type : PayloadType) → type.Value → List Nat
  | .scope => Scope.lengths
  | .announce => Announce.lengths
  | .forceResync => ForceResync.lengths
  | .gossipEntry => GossipEntry.lengths
  | .syncRequest => SyncRequest.lengths
  | .syncReply => fun _ => []
  | .controlMessage => ControlMessage.lengths
  | .event => Event.lengths
  | .frame => Frame.lengths

/-- The ledger of a value. -/
def ledger : (type : PayloadType) → type.Value → Ledger
  | .scope => Scope.ledger
  | .announce => Announce.ledger
  | .forceResync => ForceResync.ledger
  | .gossipEntry => GossipEntry.ledger
  | .syncRequest => SyncRequest.ledger
  | .syncReply => SyncReply.ledger
  | .controlMessage => ControlMessage.ledger
  | .event => Event.ledger
  | .frame => Frame.ledger

/-- Every layout reads back what it has written, keeping the ledger of the value. -/
theorem codec_accounts (type : PayloadType) {value : type.Value}
    (words : AreWords (type.lengths value)) : type.codec.Accounts value (type.ledger value) :=
  match type with
  | .scope => Scope.codec_accounts words
  | .announce => Announce.codec_accounts words
  | .forceResync => ForceResync.codec_accounts words
  | .gossipEntry => GossipEntry.codec_accounts words
  | .syncRequest => SyncRequest.codec_accounts words
  | .syncReply => SyncReply.codec_accounts value
  | .controlMessage => ControlMessage.codec_accounts words
  | .event => Event.codec_accounts words
  | .frame => Frame.codec_accounts words

/-- **Every payload is read back from its own writing**, whatever follows it, exactly if its claims
stay within the limit all the way. -/
theorem readFront_write (type : PayloadType) (value : type.Value)
    (words : AreWords (type.lengths value)) (limit : Nat) (rest : Bytes) :
    type.codec.readFront limit (type.codec.write value ++ rest) =
      if (type.ledger value).peak ≤ limit then .ok (value, rest) else .error .limitExceeded :=
  (type.codec_accounts words).readFront limit rest

/-- A digest of two entries, as gossip. -/
def gossipOfTwo : ControlMessage :=
  .gossip ⟨1, 300, [⟨⟨"a"⟩, ⟨"mem:1"⟩, 7⟩, ⟨⟨"b"⟩, ⟨"mem:2"⟩, 70000⟩]⟩

/-- A digest of two entries is read back under a limit of 133 bytes and not under one of 132, although
its room for two entries is given back while they are read. -/
theorem readFront_write_gossipOfTwo :
    AreWords (lengths .controlMessage gossipOfTwo) ∧
      (codec .controlMessage).readFront 133 ((codec .controlMessage).write gossipOfTwo ++ [9]) =
        .ok (gossipOfTwo, [9]) ∧
      (codec .controlMessage).readFront 132 ((codec .controlMessage).write gossipOfTwo ++ [9]) =
        .error .limitExceeded := by
  have words : AreWords (lengths .controlMessage gossipOfTwo) := by decide
  refine ⟨words, ?_, ?_⟩
  · exact (readFront_write .controlMessage gossipOfTwo words 133 [9]).trans (if_pos (by decide))
  · exact (readFront_write .controlMessage gossipOfTwo words 132 [9]).trans (if_neg (by decide))

end PayloadType

end PeerMesh
