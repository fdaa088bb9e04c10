/-
**What an event tells a channel, and what the channel makes of it.**

* `Event.TellsOnly` — an event tells of no peers but given ones: the one who announces itself, or the
  sender and the entries of a digest. An event that calls for anything else tells too much.
* `Channel.Learns` — from one state of a channel to a later one only its detector and its
  announcements change, and only given peers are new in its view.
* `react_honest` — a channel that handles an event learns only of the peers that the event tells of,
  and answers nobody else, and only by making itself known.
* `react_forgets` — whoever leaves is forgotten.
-/

import PeerMesh.Channel.Protocol
import PeerMesh.Proofs.Consumer.Deliveries
import PeerMesh.Proofs.View.Peers
import PeerMesh.Proofs.Wire.RoundTrip

namespace PeerMesh

theorem ProtocolKind.ofText?_text (kind : ProtocolKind) : ofText? kind.text = some kind := by
  cases kind <;> decide

/-! ### What events tell -/

namespace Event

/-- The event tells of no peers but the given ones, and calls for nothing beyond. -/
def TellsOnly (known : NodeId → Address → Prop) (event : Event) : Prop :=
  match ProtocolKind.ofText? event.kind with
  | some .publish | some .discover => ∀ announce,
    Announce.codec.decode maxFrameSize event.data = .ok announce →
      known event.origin announce.address
  | some .control => ∀ message,
    ControlMessage.codec.decode maxFrameSize event.data = .ok message →
      ∃ digest, (message = .notification digest ∨ message = .gossip digest) ∧
        known event.origin event.originAddress ∧
        ∀ entry ∈ digest.entries, known entry.id entry.address
  | some .resync | some .shutdown | some .leave | none => True

variable {known others : NodeId → Address → Prop} {event : Event}

theorem TellsOnly.and (tells : event.TellsOnly known) (also : event.TellsOnly others) :
    event.TellsOnly fun id address => known id address ∧ others id address := by
  unfold TellsOnly at tells also ⊢
  cases found : ProtocolKind.ofText? event.kind with
  | none => trivial
  | some kind =>
    rw [found] at tells also
    cases kind with
    | publish | discover => exact fun announce read => ⟨tells announce read, also announce read⟩
    | control =>
      intro message read
      obtain ⟨digest, form, sender, entries⟩ := tells message read
      obtain ⟨same, form', sender', entries'⟩ := also message read
      have digests : same = digest := by
        rcases form with rfl | rfl <;> rcases form' with eq | eq <;> cases eq <;> rfl
      rw [digests] at entries'
      exact ⟨digest, form, ⟨sender, sender'⟩, fun entry member =>
        ⟨entries entry member, entries' entry member⟩⟩
    | resync | shutdown | leave => trivial

theorem TellsOnly.mono (tells : event.TellsOnly known)
    (more : ∀ id address, known id address → others id address) : event.TellsOnly others := by
  unfold TellsOnly at tells ⊢
  cases found : ProtocolKind.ofText? event.kind with
  | none => trivial
  | some kind =>
    rw [found] at tells
    cases kind with
    | publish | discover => exact fun announce read => more _ _ (tells announce read)
    | control =>
      intro message read
      obtain ⟨digest, form, sender, entries⟩ := tells message read
      exact ⟨digest, form, more _ _ sender, fun entry member => more _ _ (entries entry member)⟩
    | resync | shutdown | leave => trivial

/-- An event by which a node makes itself known tells of this node. -/
theorem tellsOnly_of_announce {kind : ProtocolKind} (announces : kind = .publish ∨ kind = .discover)
    (scope : Scope) {origin : NodeId} {address : Address} (small : textLength address.text < 2 ^ 64)
    (isKnown : known origin address) :
    TellsOnly known ⟨scope, kind.text, Announce.codec.write ⟨address⟩, origin, address⟩ := by
  have reads : ∀ announce,
      Announce.codec.decode maxFrameSize (Announce.codec.write ⟨address⟩) = .ok announce →
        known origin announce.address := by
    intro announce read
    have words : AreWords (Announce.lengths ⟨address⟩) :=
      fun length member => by rw [List.mem_singleton.mp member]; exact small
    rw [(Announce.codec_accounts words).eq_of_decode_write read]
    exact isKnown
  unfold TellsOnly
  rw [ProtocolKind.ofText?_text]
  rcases announces with rfl | rfl <;> exact reads

/-- A digest tells of its sender and its entries. -/
theorem tellsOnly_of_digest {message : ControlMessage} {digest : Digest}
    (form : message = .notification digest ∨ message = .gossip digest)
    (words : AreWords digest.lengths) (scope : Scope) {origin : NodeId} {address : Address}
    (sender : known origin address) (entries : ∀ entry ∈ digest.entries, known entry.id entry.address) :
    TellsOnly known ⟨scope, ProtocolKind.control.text, ControlMessage.codec.write message, origin,
      address⟩ := by
  unfold TellsOnly
  rw [ProtocolKind.ofText?_text]
  intro other read
  have small : AreWords message.lengths := by
    rcases form with rfl | rfl <;> exact words
  rw [(ControlMessage.codec_accounts small).eq_of_decode_write read]
  exact ⟨digest, form, sender, entries⟩

/-- An event by which a node goes, or asks others to announce themselves, tells of nobody. -/
theorem tellsOnly_of_quiet {kind : ProtocolKind}
    (quiet : kind = .resync ∨ kind = .shutdown ∨ kind = .leave) (scope : Scope) (data : Bytes)
    (origin : NodeId) (address : Address) :
    TellsOnly known ⟨scope, kind.text, data, origin, address⟩ := by
  unfold TellsOnly
  rw [ProtocolKind.ofText?_text]
  rcases quiet with rfl | rfl | rfl <;> trivial

end Event

/-! ### What channels learn -/

namespace Channel

/-- What the traffic between channels does not change about one of them. -/
def atRest (channel : Channel) : Channel :=
  { channel with
    detector := .new channel.settings channel.selfId (.running 0)
    consumer := channel.consumer.atRest
    announcing := none
    isLinked := false }

/-- From one state of a channel to a later one only the detector and the announcements change, nobody
watches the view, and only the given peers are new in it, filed under their ids. -/
structure Learns (before : Channel) (known : NodeId → Address → Prop) (after : Channel) : Prop where
  atRest : after.atRest = before.atRest
  consumer : after.consumer = before.consumer
  scheduler : after.detector.scheduler = before.detector.scheduler
  round : after.detector.round = before.detector.round
  unwatched : after.detector.watched.registered = []
  known : ∀ key id address, after.view.Files key id address →
    before.view.Files key id address ∨ (key = id ∧ known id address)

variable {channel later : Channel} {known : NodeId → Address → Prop}

theorem Learns.nothing (unwatched : channel.detector.watched.registered = [])
    (known : NodeId → Address → Prop) : channel.Learns known channel :=
  ⟨rfl, rfl, rfl, rfl, unwatched, fun _ _ _ => .inl⟩

theorem Learns.trans {last : Channel} (first : channel.Learns known later)
    (second : later.Learns known last) : channel.Learns known last := by
  refine ⟨second.atRest.trans first.atRest, second.consumer.trans first.consumer,
    second.scheduler.trans first.scheduler, second.round.trans first.round, second.unwatched,
    fun key id address files => ?_⟩
  rcases second.known key id address files with earlier | new
  · exact first.known key id address earlier
  · exact .inr new

/-- A channel learns what its view learns. -/
theorem learns_of_watched {watched : Watched} {told : List (NodeId × Address)}
    (learns : channel.detector.watched.Learns told watched)
    (tells : ∀ peer ∈ told, known peer.1 peer.2) :
    channel.Learns known (channel.mapWatched fun _ => watched) := by
  refine ⟨?_, rfl, rfl, rfl, learns.unwatched, fun key id address files => ?_⟩
  · have owner : watched.view.selfId = channel.selfId := learns.view.sameOwner
    unfold atRest
    show ({ channel with
      detector := .new channel.settings watched.view.selfId (.running 0)
      consumer := channel.consumer.atRest
      announcing := none
      isLinked := false } : Channel) = _
    rw [owner]
  · exact (learns.view.known key id address files).imp_right fun new =>
      ⟨new.1, tells (id, address) new.2⟩

theorem run_learns {α : Type} (unwatched : channel.detector.watched.registered = []) (time : Nat)
    {operation : View → Reading → Outcome α} {told : List (NodeId × Address)}
    (learns : ∀ now, channel.view.Learns told (operation channel.view now).view)
    (tells : ∀ peer ∈ told, known peer.1 peer.2) :
    channel.Learns known (channel.run time operation).2 :=
  learns_of_watched (Watched.run_learns unwatched time learns) tells

theorem resync_learns (unwatched : channel.detector.watched.registered = []) (time : Nat) :
    channel.Learns known (channel.resync time) := by
  unfold resync
  split
  · exact ⟨rfl, rfl, rfl, rfl, unwatched, fun _ _ _ => .inl⟩
  · exact .nothing unwatched known

/-- What a channel says of itself does not change with what it learns. -/
theorem Learns.introduction (learns : channel.Learns known later) :
    later.introduction = channel.introduction := by
  show later.atRest.introduction = channel.atRest.introduction
  rw [learns.atRest]

/-! ### Handling an event -/

/-- Handling an event, a channel learns only of given peers, answers only given peers, and does so only
by making itself known. -/
structure HonestConsequence (channel : Channel) (known : NodeId → Address → Prop)
    (consequence : Consequence) : Prop where
  learns : channel.Learns known consequence.channel
  replies : ∀ address reply, (address, reply) ∈ consequence.replies →
    (∃ id, known id address) ∧ channel.introduction = .ok reply
  deliversNothing : consequence.delivered = none
  inquiresNothing : consequence.inquiry = none

theorem quiet_honest (learns : channel.Learns known later) :
    HonestConsequence channel known later.quiet :=
  ⟨learns, fun _ _ member => absurd member List.not_mem_nil, rfl, rfl⟩

theorem welcome_honest (learns : channel.Learns known later) {id : NodeId} {address : Address}
    (isKnown : known id address) : HonestConsequence channel known (later.welcome id address) := by
  refine ⟨learns, fun place reply member => ?_, rfl, rfl⟩
  have sent : (place, reply) ∈
      (later.introduction.toOption.map fun event => (address, event)).toList := member
  rw [learns.introduction] at sent
  cases introduced : channel.introduction with
  | error error =>
    rw [introduced] at sent
    cases sent
  | ok event =>
    rw [introduced] at sent
    obtain ⟨rfl, rfl⟩ := Prod.mk.inj (List.mem_singleton.mp sent)
    exact ⟨⟨id, isKnown⟩, rfl⟩

theorem onAnnounced_honest (unwatched : channel.detector.watched.registered = []) (time : Nat)
    {id : NodeId} {address : Address} (isKnown : known id address) :
    HonestConsequence channel known (channel.onAnnounced time id address) := by
  have tells : ∀ peer ∈ [(id, address)], known peer.1 peer.2 := by
    intro peer member
    rw [List.mem_singleton.mp member]
    exact isKnown
  have added : channel.Learns known
      (channel.run time fun view now => view.addHost now address id).2 :=
    run_learns unwatched time (fun now => channel.view.addHost_learns now address id) tells
  unfold onAnnounced
  dsimp only
  split
  · exact quiet_honest added
  · exact welcome_honest added isKnown
  · split
    · exact quiet_honest added
    · refine welcome_honest (added.trans ?_) isKnown
      exact run_learns added.unwatched time
        (fun now => View.heartbeat_learns _ now address id) tells

theorem onDiscover_honest (unwatched : channel.detector.watched.registered = []) (time : Nat)
    {event : Event} (tells : ∀ announce,
      Announce.codec.decode maxFrameSize event.data = .ok announce →
        known event.origin announce.address) :
    HonestConsequence channel known (channel.onDiscover time event) := by
  unfold onDiscover
  split
  · exact quiet_honest (.nothing unwatched known)
  · rename_i announce read
    have added : channel.Learns known
        (channel.run time fun view now => view.addHost now announce.address event.origin).2 := by
      refine run_learns unwatched time
        (fun now => channel.view.addHost_learns now announce.address event.origin) ?_
      intro peer member
      rw [List.mem_singleton.mp member]
      exact tells announce read
    dsimp only
    split
    · exact ⟨added, fun _ _ member => absurd member List.not_mem_nil, rfl, rfl⟩
    · exact quiet_honest added
    · exact quiet_honest added

theorem onResync_honest (unwatched : channel.detector.watched.registered = []) (time : Nat)
    (event : Event) : HonestConsequence channel known (channel.onResync time event) := by
  unfold onResync
  split
  · exact quiet_honest (.nothing unwatched known)
  · split
    · exact quiet_honest (resync_learns unwatched time)
    · exact quiet_honest (.nothing unwatched known)

theorem onLeave_honest (unwatched : channel.detector.watched.registered = []) (time : Nat)
    (event : Event) : HonestConsequence channel known (channel.onLeave time event) := by
  have removed (_ : Reading) : channel.view.Learns [] (channel.view.removeLeaving event.origin).view :=
    channel.view.removeLeaving_learns event.origin
  exact quiet_honest (run_learns unwatched time removed
    fun _ member => absurd member List.not_mem_nil)

theorem onControl_honest (unwatched : channel.detector.watched.registered = []) (time : Nat)
    {event : Event} (tells : ∀ message,
      ControlMessage.codec.decode maxFrameSize event.data = .ok message →
        ∃ digest, (message = .notification digest ∨ message = .gossip digest) ∧
          known event.origin event.originAddress ∧
          ∀ entry ∈ digest.entries, known entry.id entry.address) :
    HonestConsequence channel known (channel.onControl time event) := by
  have merged (digest : Digest) (sender : known event.origin event.originAddress)
      (entries : ∀ entry ∈ digest.entries, known entry.id entry.address) :
      channel.Learns known (channel.mapWatched fun watched =>
        watched.merge time event.originAddress event.origin digest) := by
    refine learns_of_watched
      (Watched.merge_learns unwatched time event.originAddress event.origin digest) ?_
    intro peer member
    rcases List.mem_cons.mp member with rfl | listed
    · exact sender
    · obtain ⟨entry, inside, rfl⟩ := List.mem_map.mp listed
      exact entries entry inside
  unfold onControl hearControl Watched.receive
  cases read : ControlMessage.codec.decode maxFrameSize event.data with
  | error error => exact quiet_honest (.nothing unwatched known)
  | ok message =>
    obtain ⟨digest, form, sender, entries⟩ := tells message read
    rcases form with rfl | rfl
    · exact quiet_honest (merged digest sender entries)
    · exact quiet_honest (merged digest sender entries)

/-- **A channel that handles an event learns only what the event tells**, and makes itself known only to
those of whom it was told. -/
theorem react_honest (unwatched : channel.detector.watched.registered = []) (time : Nat)
    {event : Event} (tells : event.TellsOnly known) :
    HonestConsequence channel known (channel.react time event) := by
  unfold Event.TellsOnly at tells
  unfold react
  cases found : ProtocolKind.ofText? event.kind with
  | none => exact quiet_honest (.nothing unwatched known)
  | some kind =>
    rw [found] at tells
    cases kind with
    | publish =>
      show HonestConsequence channel known (channel.onPublish time event)
      unfold onPublish
      split
      · exact quiet_honest (.nothing unwatched known)
      · rename_i announce read
        exact onAnnounced_honest unwatched time (tells announce read)
    | discover => exact onDiscover_honest unwatched time tells
    | resync => exact onResync_honest unwatched time event
    | shutdown | leave => exact onLeave_honest unwatched time event
    | control => exact onControl_honest unwatched time tells

/-- **Whoever leaves is forgotten.** -/
theorem react_forgets (unwatched : channel.detector.watched.registered = []) (time : Nat)
    {event : Event} (leaves : event.kind = ProtocolKind.leave.text) (id : NodeId) (address : Address) :
    ¬ (channel.react time event).channel.view.Files event.origin id address := by
  have reaction : (channel.react time event).channel.view =
      (channel.view.removeLeaving event.origin).view := by
    unfold react
    rw [leaves, ProtocolKind.ofText?_text]
    show ((channel.detector.watched.run time fun view _ =>
      view.removeLeaving event.origin).2).view = _
    rw [Watched.run_of_unwatched unwatched]
    rfl
  rw [reaction]
  exact View.removeLeaving_forgets channel.view event.origin id address

end Channel

end PeerMesh
