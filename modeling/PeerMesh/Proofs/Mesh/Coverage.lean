/-
**What the rounds of a detector tell of its view.**

Others are told about the peers in gossip rounds, each of which goes to some of the peers, and in broadcast
rounds. A `Station.Passage` is such a round, or something else that happens in between, with the messages that
were sent in it and whether each was accepted.

* `View.IsBatching` — batches that tell of every live peer once; `View.Tidy.isBatching_entryBatches`.
* `Station.recorded_gossip`, `Station.recorded_autoBroadcast` — the rounds of a station that takes down what it
  sends are those of the station.
* `Station.Passage.Gossips`, `Station.Passage.Broadcasts` — what a round that takes place has done.
* `Station.KeepsBooks` — nobody but its rounds touches the ledger of a detector. This is so of rigs
  (`Station.keepsBooks_rig`) and of the channels of a mesh (`Station.keepsBooks_mesh`).
* `Detector.Sees` — what is done to a view, and what is heard. **`Station.areAside_rig`**,
  **`Station.areAside_mesh`** — it leaves the books alone.
* **`Station.rounds_cover_the_view`** — every round of a run takes place exactly if it should, tells of the
  whole view, and has a number of its own.
-/

import PeerMesh.Detector.Report
import PeerMesh.Proofs.Detector.Course
import PeerMesh.Proofs.Detector.Recorded
import PeerMesh.Proofs.Mesh.Migration
import PeerMesh.Proofs.Mesh.Rounds

namespace PeerMesh

/-! ### Batches -/

/-- There is something in every piece of a list. -/
theorem ne_nil_of_mem_pieces {α : Type} {length : Nat} {items piece : List α}
    (member : piece ∈ pieces length items) : piece ≠ [] := by
  have within : ∀ (fuel : Nat) (items : List α),
      piece ∈ piecesWithin (max length 1) fuel items → piece ≠ [] := by
    intro fuel
    induction fuel with
    | zero => exact fun _ member => absurd member List.not_mem_nil
    | succ fuel ih =>
      intro items member
      cases items with
      | nil => exact absurd member List.not_mem_nil
      | cons item rest =>
        rcases List.mem_cons.mp member with rfl | later
        · simp [List.take_eq_nil_iff]
        · exact ih _ later
  exact within items.length items member

namespace View

variable {selfId : NodeId} {view : View}

theorem Tidy.nodes_distinct (tidy : view.Tidy selfId) : (view.nodes.map Record.id).Nodup := by
  unfold nodes
  rw [List.map_map]
  exact tidy.distinct

/-- Batches of limited size that together tell of every live peer once. -/
structure IsBatching (view : View) (size : Nat) (batches : List (List GossipEntry)) : Prop where
  short : ∀ batch ∈ batches, batch.length ≤ max 1 size
  once : (batches.flatten.map GossipEntry.id).Nodup
  /-- A peer is told of with its address and its version. -/
  whole : ∀ entry, entry ∈ batches.flatten ↔
    (view.get? entry.id).map GossipEntry.ofRecord = some entry
  /-- An empty batch is the only one, and there is one only if there is nobody. -/
  empty : [] ∈ batches ↔ view.nodeCount = 0
  alone : view.nodeCount = 0 → batches = [[]]

theorem length_entries (view : View) : view.entries.length = view.nodeCount := by
  unfold entries nodes members Table.values
  rw [List.length_map, List.length_map, List.length_map]
  rfl

/-- What is told of a tidy view is what is known of its peers. -/
theorem Tidy.mem_entries_iff (tidy : view.Tidy selfId) (entry : GossipEntry) :
    entry ∈ view.entries ↔ (view.get? entry.id).map GossipEntry.ofRecord = some entry := by
  constructor
  · intro member
    obtain ⟨record, among, rfl⟩ := List.mem_map.mp member
    show (view.get? record.id).map _ = _
    rw [view.get?_of_mem_nodes tidy among]
    rfl
  · intro known
    obtain ⟨record, found, rfl⟩ := Option.map_eq_some_iff.mp known
    obtain ⟨filed, live, rfl⟩ := Option.map_eq_some_iff.mp found
    exact List.mem_map_of_mem (List.mem_map_of_mem ((view.live.mem_values_iff filed).mpr ⟨_, live⟩))

/-- **The batches of a round tell of every live peer once.** -/
theorem Tidy.isBatching_entryBatches (tidy : view.Tidy selfId) (size : Nat) :
    view.IsBatching size (view.entryBatches size) where
  short := by
    intro batch member
    unfold entryBatches at member
    split at member
    · rw [List.mem_singleton.mp member]
      exact Nat.zero_le _
    · rw [Nat.max_comm]
      exact length_le_of_mem_pieces member
  once := by
    rw [flatten_entryBatches]
    unfold entries
    rw [List.map_map]
    exact tidy.nodes_distinct
  whole := by
    intro entry
    rw [flatten_entryBatches]
    exact tidy.mem_entries_iff entry
  empty := by
    rw [← length_entries, List.length_eq_zero_iff]
    unfold entryBatches
    split
    · rename_i nobody
      simp [nobody]
    · rename_i somebody
      exact ⟨fun member => absurd rfl (ne_nil_of_mem_pieces member), fun nobody => absurd nobody somebody⟩
  alone := by
    intro nobody
    rw [← length_entries, List.length_eq_zero_iff] at nobody
    unfold entryBatches
    rw [nobody]

end View

/-! ### When rounds take place -/

/-- A gossip round takes place if gossip is enabled and there is somebody to gossip to. -/
def Detector.MayGossip (detector : Detector) : Prop :=
  detector.settings.gossipEnabled = true ∧
    0 < min detector.settings.gossipNodeCount detector.view.normalNodes.length

/-- A broadcast round takes place if it is enabled and there are not too many peers. -/
def Detector.MayBroadcast (detector : Detector) : Prop :=
  detector.settings.autoBroadcastEnabled = true ∧ detector.settings.autoBroadcastThreshold ≠ 0 ∧
    detector.view.nodeCount ≤ detector.settings.autoBroadcastThreshold

theorem gossipRound?_eq_none_iff {draw : Draw} (fair : draw.IsFair) (detector : Detector) :
    gossipRound? detector.settings draw detector.view detector.heartbeat = none ↔ ¬ detector.MayGossip := by
  have chosen := (fair detector.settings.gossipNodeCount detector.view.normalNodes).2
  unfold gossipRound? Detector.MayGossip
  rw [← chosen, List.length_pos_iff]
  simp

theorem broadcastRound?_eq_none_iff (detector : Detector) :
    broadcastRound? detector.settings detector.view detector.heartbeat = none ↔
      ¬ detector.MayBroadcast := by
  unfold broadcastRound? Detector.MayBroadcast
  simp

/-! ### Rounds -/

/-- How far a detector has counted its rounds, and the gossip that was accepted. -/
def Detector.ledger (detector : Detector) : UInt64 × Nat :=
  (detector.heartbeat, detector.counts.gossipSent)

namespace Station

variable {σ : Type} (station : Station σ)

/-- Something that a detector does to tell others of its view, or that happens in between. -/
inductive Deed (σ : Type) where
  | gossip
  | broadcast
  | meanwhile (change : σ → σ)

/-- A deed from its beginning to its end. -/
structure Passage (σ : Type) where
  deed : Deed σ
  before : σ
  attempts : List Attempt
  after : σ

/-- Do something, and take down what is sent. -/
def pass (deed : Deed σ) (state : σ) : Passage σ :=
  match deed with
  | .gossip => ⟨deed, state, (station.recorded.gossip (state, [])).2, station.gossip state⟩
  | .broadcast =>
    ⟨deed, state, (station.recorded.autoBroadcast (state, [])).2, station.autoBroadcast state⟩
  | .meanwhile change => ⟨deed, state, [], change state⟩

theorem before_pass (deed : Deed σ) (state : σ) : (station.pass deed state).before = state := by
  cases deed <;> rfl

/-- Do one thing after another. -/
def passages : List (Deed σ) → σ → List (Passage σ)
  | [], _ => []
  | deed :: rest, state => station.pass deed state :: passages rest (station.pass deed state).after

/-- Something holds of a state, and the ledger is the given one. -/
def Shows (station : Station σ) (holds : σ → Prop) (ledger : UInt64 × Nat) (state : σ) : Prop :=
  holds state ∧ (station.detector state).ledger = ledger

/-- As long as something holds of the states of a station, its view is tidy, and nobody else touches its
ledger while it sends. -/
structure KeepsBooks (station : Station σ) (selfId : NodeId) (holds : σ → Prop) : Prop where
  tidy : ∀ state, holds state → (station.detector state).view.Tidy selfId
  update : ∀ change state, holds state → (∀ detector, (change detector).watched = detector.watched) →
    station.Shows holds (change (station.detector state)).ledger (station.update change state)
  send : ∀ ledger state address message, station.Shows holds ledger state →
    station.Shows holds ledger (station.send state address message).2
  broadcast : ∀ ledger state message, station.Shows holds ledger state →
    station.Shows holds ledger (station.broadcast state message).2

namespace Passage

variable {station : Station σ}

/-- A gossip round has told some of the peers of all peers. -/
structure Gossips (station : Station σ) (passage : Passage σ) (peers : List Record)
    (batches : List (List GossipEntry)) : Prop where
  among : peers ⊆ (station.detector passage.before).view.normalNodes
  distinct : (peers.map Record.id).Nodup
  enough : peers.length = min (station.detector passage.before).settings.gossipNodeCount
    (station.detector passage.before).view.normalNodes.length
  whole : (station.detector passage.before).view.IsBatching
    (station.detector passage.before).settings.batchSize batches
  sent : passage.attempts.map Attempt.sending = peers.flatMap fun peer => batches.map fun batch =>
    (some peer.address, .gossip ⟨protocolVersion, (station.detector passage.after).heartbeat, batch⟩)
  number : (station.detector passage.after).heartbeat = (station.detector passage.before).heartbeat + 1
  counted : (station.detector passage.after).counts.gossipSent =
    (station.detector passage.before).counts.gossipSent + passage.attempts.countP Attempt.succeeded

/-- A broadcast round has told everybody of all peers, unless a broadcast has failed. -/
structure Broadcasts (station : Station σ) (passage : Passage σ)
    (batches : List (List GossipEntry)) : Prop where
  whole : (station.detector passage.before).view.IsBatching
    (station.detector passage.before).settings.batchSize batches
  sent : Attempt.AreUpToFailure passage.attempts (batches.map fun batch =>
    (none, .notification ⟨protocolVersion, (station.detector passage.after).heartbeat, batch⟩))
  number : (station.detector passage.after).heartbeat = (station.detector passage.before).heartbeat + 1
  counted : (station.detector passage.after).counts.gossipSent =
    (station.detector passage.before).counts.gossipSent

/-- Nothing was sent, and nothing has changed. -/
def IsSkipped (passage : Passage σ) : Prop := passage.attempts = [] ∧ passage.after = passage.before

/-- A round takes place exactly if it should. -/
def Covers (station : Station σ) (passage : Passage σ) : Prop :=
  match passage.deed with
  | .gossip =>
    ((station.detector passage.before).MayGossip → ∃ peers batches, passage.Gossips station peers batches) ∧
      (¬ (station.detector passage.before).MayGossip → passage.IsSkipped)
  | .broadcast =>
    ((station.detector passage.before).MayBroadcast → ∃ batches, passage.Broadcasts station batches) ∧
      (¬ (station.detector passage.before).MayBroadcast → passage.IsSkipped)
  | .meanwhile _ => passage.attempts = []

end Passage

/-! ### What a round does -/

/-- A gossip round that takes place. -/
theorem gossip_of_round (state : σ) {number : UInt64} {messages : List (Address × ControlMessage)}
    (round : gossipRound? (station.detector state).settings station.draw (station.detector state).view
      (station.detector state).heartbeat = some (number, messages)) :
    station.gossip state =
      let told := sendAll station.send messages (station.update ({ · with heartbeat := number }) state)
      station.update (·.tally fun counts => { counts with gossipSent := counts.gossipSent + told.1 })
        told.2 := by
  unfold gossip
  dsimp only
  rw [round]

/-- A gossip round that does not take place. -/
theorem gossip_of_none (state : σ)
    (none : gossipRound? (station.detector state).settings station.draw (station.detector state).view
      (station.detector state).heartbeat = none) : station.gossip state = state := by
  unfold gossip
  dsimp only
  rw [none]

/-- A broadcast round that takes place. -/
theorem autoBroadcast_of_round (state : σ) {number : UInt64} {messages : List ControlMessage}
    (round : broadcastRound? (station.detector state).settings (station.detector state).view
      (station.detector state).heartbeat = some (number, messages)) :
    station.autoBroadcast state = broadcastAll station.broadcast messages
      (station.update ({ · with heartbeat := number }) state) := by
  unfold autoBroadcast
  dsimp only
  rw [round]

/-- A broadcast round that does not take place. -/
theorem autoBroadcast_of_none (state : σ)
    (none : broadcastRound? (station.detector state).settings (station.detector state).view
      (station.detector state).heartbeat = none) : station.autoBroadcast state = state := by
  unfold autoBroadcast
  dsimp only
  rw [none]

/-- A gossip round that is taken down goes as it would otherwise, and sends all its messages. -/
theorem recorded_gossip (state : σ) {number : UInt64} {messages : List (Address × ControlMessage)}
    (round : gossipRound? (station.detector state).settings station.draw (station.detector state).view
      (station.detector state).heartbeat = some (number, messages)) :
    ∃ attempts, station.recorded.gossip (state, []) = (station.gossip state, attempts) ∧
      attempts.map Attempt.sending = messages.map (fun message => (some message.1, message.2)) ∧
      (sendAll station.send messages (station.update ({ · with heartbeat := number }) state)).1 =
        attempts.countP Attempt.succeeded := by
  obtain ⟨attempts, taken, sendings, accepted⟩ := station.sendAll_recorded messages
    (station.update ({ · with heartbeat := number }) state) []
  refine ⟨attempts, ?_, sendings, accepted⟩
  rw [station.recorded.gossip_of_round (state, []) round, station.gossip_of_round state round]
  have told : sendAll station.recorded.send messages
      (station.recorded.update ({ · with heartbeat := number }) (state, [])) = _ := taken
  rw [told]
  rfl

/-- A broadcast round that is taken down goes as it would otherwise. -/
theorem recorded_autoBroadcast (state : σ) {number : UInt64} {messages : List ControlMessage}
    (round : broadcastRound? (station.detector state).settings (station.detector state).view
      (station.detector state).heartbeat = some (number, messages)) :
    ∃ attempts, station.recorded.autoBroadcast (state, []) = (station.autoBroadcast state, attempts) ∧
      Attempt.AreUpToFailure attempts (messages.map fun message => (none, message)) := by
  rw [station.recorded.autoBroadcast_of_round (state, []) round, station.autoBroadcast_of_round state round]
  exact station.broadcastAll_recorded messages _ []

variable {station} {selfId : NodeId} {holds : σ → Prop} {state : σ}

namespace KeepsBooks

variable (books : station.KeepsBooks selfId holds) (held : holds state)
include books held

/-- **A gossip round that takes place covers the view.** -/
theorem gossips (fair : Draw.IsFair station.draw) (may : (station.detector state).MayGossip) :
    holds (station.gossip state) ∧ ∃ peers batches,
      (station.pass .gossip state).Gossips station peers batches := by
  obtain ⟨⟨number, messages⟩, round⟩ := Option.ne_none_iff_exists'.mp
    (mt (gossipRound?_eq_none_iff fair _).mp (not_not.mpr may))
  obtain ⟨isNext, toBeSent⟩ := gossipRound_eq round
  obtain ⟨attempts, noted, sendings, accepted⟩ := station.recorded_gossip state round
  let begun := station.update ({ · with heartbeat := number }) state
  let told := sendAll station.send messages begun
  have kept : station.Shows holds (number, (station.detector state).counts.gossipSent) told.2 :=
    sendAll_keeps messages (fun message _ between => books.send _ between message.1 message.2)
      (books.update ({ · with heartbeat := number }) state held fun _ => rfl)
  have ends : station.Shows holds (number, (station.detector state).counts.gossipSent + told.1)
      (station.gossip state) := by
    rw [station.gossip_of_round state round]
    obtain ⟨still, ledger⟩ := books.update (·.tally fun counts =>
      { counts with gossipSent := counts.gossipSent + told.1 }) told.2 kept.1 fun _ => rfl
    refine ⟨still, ledger.trans ?_⟩
    exact congrArg (fun ledger : UInt64 × Nat => (ledger.1, ledger.2 + told.1)) kept.2
  have numbered : (station.detector (station.gossip state)).heartbeat = number := congrArg Prod.fst ends.2
  have tidy := books.tidy state held
  obtain ⟨⟨rest, same⟩, enough⟩ := fair (station.detector state).settings.gossipNodeCount
    (station.detector state).view.normalNodes
  refine ⟨ends.1, _, _, fair.subset _ _, ?_, enough, tidy.isBatching_entryBatches _, ?_,
    numbered.trans isNext, ?_⟩
  · have normal : ((station.detector state).view.normalNodes.map Record.id).Nodup :=
      tidy.nodes_distinct.sublist (List.filter_sublist.map _)
    have all := (same.map Record.id).nodup_iff.mpr normal
    rw [List.map_append] at all
    exact all.of_append_left
  · show (station.recorded.gossip (state, [])).2.map Attempt.sending = List.flatMap (fun peer : Record =>
      List.map (fun batch => (some peer.address, ControlMessage.gossip ⟨protocolVersion,
        (station.detector (station.gossip state)).heartbeat, batch⟩)) _) _
    rw [noted, sendings, toBeSent, numbered, List.map_flatMap]
    simp only [View.digests, List.map_map, Function.comp_def]
    rfl
  · show _ = _ + List.countP _ (station.recorded.gossip (state, [])).2
    rw [noted, ← accepted]
    exact congrArg Prod.snd ends.2

/-- **A broadcast round that takes place covers the view**, unless a broadcast fails. -/
theorem broadcasts (may : (station.detector state).MayBroadcast) :
    holds (station.autoBroadcast state) ∧ ∃ batches,
      (station.pass .broadcast state).Broadcasts station batches := by
  obtain ⟨⟨number, messages⟩, round⟩ := Option.ne_none_iff_exists'.mp
    (mt (broadcastRound?_eq_none_iff _).mp (not_not.mpr may))
  obtain ⟨isNext, toBeSent⟩ := broadcastRound_eq round
  obtain ⟨attempts, noted, upTo⟩ := station.recorded_autoBroadcast state round
  have ends : station.Shows holds (number, (station.detector state).counts.gossipSent)
      (station.autoBroadcast state) := by
    rw [station.autoBroadcast_of_round state round]
    exact broadcastAll_keeps messages (fun message _ between => books.broadcast _ between message)
      (books.update ({ · with heartbeat := number }) state held fun _ => rfl)
  have numbered : (station.detector (station.autoBroadcast state)).heartbeat = number :=
    congrArg Prod.fst ends.2
  refine ⟨ends.1, (station.detector state).view.entryBatches (station.detector state).settings.batchSize,
    (books.tidy state held).isBatching_entryBatches _, ?_, numbered.trans isNext, congrArg Prod.snd ends.2⟩
  show Attempt.AreUpToFailure (station.recorded.autoBroadcast (state, [])).2 (List.map (fun batch =>
    (none, ControlMessage.notification ⟨protocolVersion,
      (station.detector (station.autoBroadcast state)).heartbeat, batch⟩)) _)
  rw [noted, numbered]
  rw [toBeSent] at upTo
  simpa only [View.digests, List.map_map, Function.comp_def] using upTo

/-- **Every deed covers the view or leaves it alone.** -/
theorem covers (fair : Draw.IsFair station.draw) (deed : Deed σ)
    (aside : ∀ change, deed = .meanwhile change →
      station.Shows holds (station.detector state).ledger (change state)) :
    holds (station.pass deed state).after ∧ (station.pass deed state).Covers station := by
  cases deed with
  | gossip =>
    by_cases may : (station.detector state).MayGossip
    · obtain ⟨still, covered⟩ := books.gossips held fair may
      exact ⟨still, fun _ => covered, fun mayNot => absurd may mayNot⟩
    · have none := (gossipRound?_eq_none_iff fair _).mpr may
      have same := station.gossip_of_none state none
      refine ⟨(congrArg holds same).mpr held, fun might => absurd might may, fun _ => ⟨?_, same⟩⟩
      exact congrArg Prod.snd (station.recorded.gossip_of_none (state, []) none)
  | broadcast =>
    by_cases may : (station.detector state).MayBroadcast
    · obtain ⟨still, covered⟩ := books.broadcasts held may
      exact ⟨still, fun _ => covered, fun mayNot => absurd may mayNot⟩
    · have none := (broadcastRound?_eq_none_iff _).mpr may
      have same := station.autoBroadcast_of_none state none
      refine ⟨(congrArg holds same).mpr held, fun might => absurd might may, fun _ => ⟨?_, same⟩⟩
      exact congrArg Prod.snd (station.recorded.autoBroadcast_of_none (state, []) none)
  | meanwhile change => exact ⟨(aside change rfl).1, rfl⟩

end KeepsBooks

/-! ### Runs -/

/-- The numbers that were told, one for each message. -/
def Passage.numbers (passage : Passage σ) : List UInt64 :=
  passage.attempts.filterMap fun attempt => attempt.message.digest?.map Digest.heartbeat

/-- What a digest tells has its number. -/
theorem Passage.number_of_sendings {passage : Passage σ} {number : UInt64}
    (numbered : ∀ sending ∈ passage.attempts.map Attempt.sending,
      ∃ digest, sending.2.digest? = some digest ∧ digest.heartbeat = number) :
    ∀ told ∈ passage.numbers, told = number := by
  intro told among
  obtain ⟨attempt, member, same⟩ := List.mem_filterMap.mp among
  obtain ⟨digest, inside, own⟩ := numbered attempt.sending (List.mem_map_of_mem member)
  have inside : attempt.message.digest? = some digest := inside
  rw [inside] at same
  exact (Option.some.inj same).symm.trans own

/-- **All messages of a round have its number**, which is the next one. Without a message no number is
used. -/
theorem KeepsBooks.number (books : station.KeepsBooks selfId holds) (held : holds state)
    (fair : Draw.IsFair station.draw) (deed : Deed σ)
    (aside : ∀ change, deed = .meanwhile change →
      station.Shows holds (station.detector state).ledger (change state)) :
    let before := (station.detector state).heartbeat
    let after := (station.detector (station.pass deed state).after).heartbeat
    (after = before ∧ (station.pass deed state).numbers = []) ∨
      (after = before + 1 ∧ ∀ told ∈ (station.pass deed state).numbers, told = after) := by
  intro before after
  have skipped (skipped : (station.pass deed state).attempts = [] ∧
      (station.detector (station.pass deed state).after).heartbeat = before) :
      after = before ∧ (station.pass deed state).numbers = [] := by
    refine ⟨skipped.2, ?_⟩
    unfold Passage.numbers
    rw [skipped.1]
    rfl
  obtain ⟨_, covers⟩ := books.covers held fair deed aside
  cases deed with
  | gossip =>
    by_cases may : (station.detector state).MayGossip
    · obtain ⟨peers, batches, gossips⟩ := covers.1 may
      refine .inr ⟨gossips.number, Passage.number_of_sendings fun sending among => ?_⟩
      rw [gossips.sent] at among
      obtain ⟨peer, _, toPeer⟩ := List.mem_flatMap.mp among
      obtain ⟨batch, _, rfl⟩ := List.mem_map.mp toPeer
      exact ⟨_, rfl, rfl⟩
    · obtain ⟨nothing, same⟩ := covers.2 may
      exact .inl (skipped ⟨nothing, congrArg (fun state => (station.detector state).heartbeat) same⟩)
  | broadcast =>
    by_cases may : (station.detector state).MayBroadcast
    · obtain ⟨batches, broadcasts⟩ := covers.1 may
      refine .inr ⟨broadcasts.number, Passage.number_of_sendings fun sending among => ?_⟩
      obtain ⟨batch, _, rfl⟩ := List.mem_map.mp (broadcasts.sent.inOrder.subset among)
      exact ⟨_, rfl, rfl⟩
    · obtain ⟨nothing, same⟩ := covers.2 may
      exact .inl (skipped ⟨nothing, congrArg (fun state => (station.detector state).heartbeat) same⟩)
  | meanwhile change => exact .inl (skipped ⟨covers, congrArg Prod.fst (aside change rfl).2⟩)

/-- What happens between the rounds of a run leaves the books alone. -/
def AreAside (station : Station σ) (holds : σ → Prop) (deeds : List (Deed σ)) : Prop :=
  ∀ change, .meanwhile change ∈ deeds → ∀ state, holds state →
    station.Shows holds (station.detector state).ledger (change state)

/-- A rig keeps its books, whomever it is in contact with. -/
theorem keepsBooks_rig (draw : Draw) (selfId : NodeId) :
    (Rig.stationWith draw).KeepsBooks selfId fun rig => rig.detector.view.Sound selfId where
  tidy _ sound := sound.toTidy
  update change rig sound same := by
    refine ⟨?_, rfl⟩
    show (change rig.detector).watched.view.Sound selfId
    rw [same]
    exact sound
  send ledger rig address message shows := by
    show Shows _ _ _ (rig.send address message).2
    unfold Rig.send
    split <;> exact shows
  broadcast ledger rig message shows := by
    show Shows _ _ _ (rig.broadcast message).2
    unfold Rig.broadcast
    split <;> exact shows

/-- A channel whose detector is left alone still shows its books. -/
theorem shows_of_detector {draw : Draw} {n : Nat} {selfId : NodeId} {ledger : UInt64 × Nat} {mesh later : Mesh}
    (count : later.channels.length = mesh.channels.length)
    (same : (later.channel n).detector = (mesh.channel n).detector)
    (shows : (Mesh.stationWith draw n).Shows (fun mesh =>
      n < mesh.channels.length ∧ (mesh.channel n).view.Sound selfId) ledger mesh) :
    (Mesh.stationWith draw n).Shows (fun mesh =>
      n < mesh.channels.length ∧ (mesh.channel n).view.Sound selfId) ledger later := by
  obtain ⟨⟨there, sound⟩, ledger⟩ := shows
  refine ⟨⟨count.symm ▸ there, ?_⟩, (congrArg Detector.ledger same).trans ledger⟩
  show (later.channel n).detector.view.Sound selfId
  rw [same]
  exact sound

/-- A channel keeps its books, whoever else is there. -/
theorem keepsBooks_mesh (draw : Draw) (n : Nat) (selfId : NodeId) :
    (Mesh.stationWith draw n).KeepsBooks selfId fun mesh =>
      n < mesh.channels.length ∧ (mesh.channel n).view.Sound selfId where
  tidy _ sound := sound.2.toTidy
  update change mesh kept same := by
    have changed : ((Mesh.stationWith draw n).update change mesh).channel n =
        { mesh.channel n with detector := change (mesh.channel n).detector } := Mesh.channel_modify kept.1 _
    refine ⟨⟨(List.length_modify ..).symm ▸ kept.1, ?_⟩, ?_⟩
    · rw [changed]
      show (change (mesh.channel n).detector).watched.view.Sound selfId
      rw [same]
      exact kept.2
    · exact congrArg (fun channel => channel.detector.ledger) changed
  send ledger mesh address message shows := by
    have same : ((Mesh.tell n mesh address message).2.channel n).detector = (mesh.channel n).detector := by
      unfold Mesh.tell
      split
      · rfl
      · exact (mesh.post_sends n address _).detectors n
    exact shows_of_detector (mesh.tell_chore n address message).keeps.count same shows
  broadcast ledger mesh message shows := by
    have same : ((Mesh.tellDomain n mesh message).2.channel n).detector = (mesh.channel n).detector := by
      unfold Mesh.tellDomain
      dsimp only
      split
      · rfl
      · exact (mesh.post_broadcasts n _).detectors n
    exact shows_of_detector (mesh.tellDomain_chore n message).keeps.count same shows

/-! ### What happens between rounds -/

end Station

/-- Only what a detector watches has changed, and happenings have led to its view. -/
def Detector.Sees (before after : Detector) : Prop :=
  ∃ watched, after = { before with watched := watched } ∧ before.view.Becomes watched.view

namespace Detector

variable {before after : Detector} {selfId : NodeId}

theorem Sees.refl (detector : Detector) : detector.Sees detector := ⟨detector.watched, rfl, .refl _⟩

theorem Sees.sound (sees : before.Sees after) (sound : before.view.Sound selfId) : after.view.Sound selfId := by
  obtain ⟨watched, rfl, happenings, same⟩ := sees
  show watched.view.Sound selfId
  rw [same]
  exact sound.undergoAll happenings

theorem Sees.ledger (sees : before.Sees after) : after.ledger = before.ledger := by
  obtain ⟨watched, rfl, -⟩ := sees
  rfl

/-- **A step on the view**, with all that watchers make of it. -/
theorem perform_sees (detector : Detector) (time : Nat) (step : ViewStep) :
    detector.Sees (detector.perform time step).2 :=
  ⟨_, rfl, detector.watched.perform_becomes time step⟩

/-- **A control message that arrives.** -/
theorem receive_sees (detector : Detector) (time : Nat) (event : Event) :
    detector.Sees { detector with watched := (detector.watched.receive time event).2 } :=
  ⟨_, rfl, detector.watched.receive_becomes time event⟩

end Detector

/-- A change of one channel of a mesh by which its detector sees something. -/
theorem Mesh.modifyGet_sees {α : Type} (mesh : Mesh) (m n : Nat) (change : Channel → α × Channel)
    (sees : ∀ channel : Channel, channel.detector.Sees (change channel).2.detector) :
    (mesh.modifyGet m change).2.channels.length = mesh.channels.length ∧
      (mesh.channel n).detector.Sees ((mesh.modifyGet m change).2.channel n).detector := by
  refine ⟨List.length_modify _ _ _, ?_⟩
  rcases mesh.channel_modify_cases m (fun _ => (change (mesh.channel m)).2) n with same | ⟨rfl, changed⟩
  · rw [show (mesh.modifyGet m change).2.channel n = _ from same]
    exact .refl _
  · rw [show (mesh.modifyGet n change).2.channel n = _ from changed]
    exact sees _

namespace Station

variable {σ : Type} {station : Station σ} {selfId : NodeId} {holds : σ → Prop}

/-- **What the detector of a rig sees leaves its books alone.** -/
theorem areAside_rig (draw : Draw) (selfId : NodeId) {deeds : List (Deed Rig)}
    (sees : ∀ change, .meanwhile change ∈ deeds → ∀ rig : Rig, rig.detector.Sees (change rig).detector) :
    (Rig.stationWith draw).AreAside (fun rig => rig.detector.view.Sound selfId) deeds := by
  intro change among rig sound
  have seen := sees change among rig
  exact ⟨seen.sound sound, seen.ledger⟩

/-- **What the detector of a channel sees leaves its books alone.** -/
theorem areAside_mesh (draw : Draw) (n : Nat) (selfId : NodeId) {deeds : List (Deed Mesh)}
    (sees : ∀ change, .meanwhile change ∈ deeds → ∀ mesh : Mesh,
      (change mesh).channels.length = mesh.channels.length ∧
        (mesh.channel n).detector.Sees ((change mesh).channel n).detector) :
    (Mesh.stationWith draw n).AreAside (fun mesh =>
      n < mesh.channels.length ∧ (mesh.channel n).view.Sound selfId) deeds := by
  rintro change among mesh ⟨there, sound⟩
  obtain ⟨count, seen⟩ := sees change among mesh
  exact ⟨⟨count.symm ▸ there, seen.sound sound⟩, seen.ledger⟩

/-- A step that somebody makes on the view of any channel, and a control message that any channel hears. -/
theorem areAside_steps_and_hearings (draw : Draw) (n : Nat) (selfId : NodeId) {deeds : List (Deed Mesh)}
    (each : ∀ change, .meanwhile change ∈ deeds → ∃ m,
      (∃ step, change = fun mesh => (mesh.carryOut (.view m step)).2) ∨
        ∃ event, change = fun mesh => (mesh.modifyGet m (·.hearControl mesh.time event)).2) :
    (Mesh.stationWith draw n).AreAside (fun mesh =>
      n < mesh.channels.length ∧ (mesh.channel n).view.Sound selfId) deeds := by
  refine areAside_mesh draw n selfId fun change among mesh => ?_
  obtain ⟨m, ⟨step, rfl⟩ | ⟨event, rfl⟩⟩ := each change among
  · let performed (old : Channel) := old.detector.perform mesh.time step
    exact mesh.modifyGet_sees m n (fun old => ((performed old).1, { old with detector := (performed old).2 }))
      fun channel => channel.detector.perform_sees mesh.time step
  · exact mesh.modifyGet_sees m n (·.hearControl mesh.time event)
      fun channel => channel.detector.receive_sees mesh.time event

/-- **Rounds cover the view**, in every run. A gossip round that takes place sends batches of the whole view to
as many normal peers as there should and can be, a broadcast round does so up to the first failure, and a round
that does not take place sends nothing and leaves everything as it is. All messages of a round have the next
number, and no number is used in two rounds: they rise from round to round as long as there are higher ones. -/
theorem rounds_cover_the_view (books : station.KeepsBooks selfId holds) (fair : Draw.IsFair station.draw)
    (deeds : List (Deed σ)) : ∀ {start : σ}, holds start → station.AreAside holds deeds →
      (∀ passage ∈ station.passages deeds start, passage.Covers station) ∧
      ((∀ passage ∈ station.passages deeds start,
          (station.detector passage.before).heartbeat.toNat + 1 < 2 ^ 64) →
        (∀ passage ∈ station.passages deeds start, ∀ told ∈ passage.numbers,
          (station.detector start).heartbeat < told) ∧
        (station.passages deeds start).Pairwise fun earlier later =>
          ∀ first ∈ earlier.numbers, ∀ second ∈ later.numbers, first < second) := by
  induction deeds with
  | nil =>
    exact fun _ _ => ⟨fun _ none => absurd none List.not_mem_nil, fun _ =>
      ⟨fun _ none => absurd none List.not_mem_nil, .nil⟩⟩
  | cons deed rest ih =>
    intro start held asides
    have aside (change : σ → σ) (same : deed = .meanwhile change) :=
      asides change (same ▸ List.mem_cons_self) start held
    obtain ⟨still, covers⟩ := books.covers held fair deed aside
    obtain ⟨coverAll, rising⟩ := ih still fun change among => asides change (List.mem_cons_of_mem _ among)
    refine ⟨List.forall_mem_cons.mpr ⟨covers, coverAll⟩, fun fits => ?_⟩
    obtain ⟨fitsNow, fitsLater⟩ := List.forall_mem_cons.mp fits
    obtain ⟨above, ordered⟩ := rising fitsLater
    have fitsHere : (station.detector start).heartbeat.toNat + 1 < 2 ^ 64 := by
      rw [station.before_pass] at fitsNow
      exact fitsNow
    have higher : (station.detector start).heartbeat < (station.detector start).heartbeat + 1 := by
      rw [UInt64.lt_iff_toNat_lt, UInt64.toNat_add]
      show _ < (_ + 1) % 2 ^ 64
      rw [Nat.mod_eq_of_lt fitsHere]
      exact Nat.lt_succ_self _
    rcases books.number held fair deed aside with ⟨same, nothing⟩ | ⟨next, numbered⟩
    · refine ⟨List.forall_mem_cons.mpr ⟨?_, ?_⟩, List.pairwise_cons.mpr ⟨?_, ordered⟩⟩
      · rw [nothing]
        exact fun _ none => absurd none List.not_mem_nil
      · rw [← same]
        exact above
      · rw [nothing]
        exact fun _ _ _ none => absurd none List.not_mem_nil
    · rw [next] at above numbered
      refine ⟨List.forall_mem_cons.mpr ⟨fun told among => ?_, fun later member told among => ?_⟩,
        List.pairwise_cons.mpr ⟨fun later member first among second amongLater => ?_, ordered⟩⟩
      · exact numbered told among ▸ higher
      · exact UInt64.lt_trans higher (above later member told among)
      · exact numbered first among ▸ above later member second amongLater

/-- A node knows of three peers, one of which refuses all messages. It gossips to all of them, in two batches
each. Then the one that refuses is declared dead, and the others are told by a broadcast, which fails, and by
gossip in one batch. -/
theorem rounds_cover_three_peers :
    let settings := { Settings.standard with
      batchSize := 2, gossipNodeCount := 5, autoBroadcastEnabled := true, autoBroadcastThreshold := 2 }
    let watched := Watched.ofView ((View.new ⟨"a"⟩).performAll [(1, .heartbeat ⟨"mem:2"⟩ ⟨"b"⟩),
      (1, .observe ⟨"mem:3"⟩ ⟨"c"⟩ 4), (1, .heartbeat ⟨"mem:4"⟩ ⟨"d"⟩)]) (.manual 1)
    let rig : Rig := { Rig.new settings ⟨"a"⟩ (.manual 1) true with
      detector := { Detector.new settings ⟨"a"⟩ (.manual 1) with watched := watched }
      contacts := Table.empty.insert ⟨"mem:3"⟩ { Contact.standard with accepts := false }
      broadcastError := some .timeout }
    let deeds : List (Deed Rig) :=
      [.gossip, .meanwhile fun rig => (rig.perform (.removeDead ⟨"c"⟩)).2, .broadcast, .gossip]
    let passages := (Rig.stationWith Draw.first).passages deeds rig
    (∀ passage ∈ passages, passage.Covers (Rig.stationWith Draw.first)) ∧
      passages.map Passage.numbers = [[1, 1, 1, 1, 1, 1], [], [2], [3, 3]] ∧
      passages.map (fun passage => passage.after.detector.counts.gossipSent) = [4, 4, 4, 6] ∧
      passages.Pairwise fun earlier later =>
        ∀ first ∈ earlier.numbers, ∀ second ∈ later.numbers, first < second := by
  intro settings watched rig deeds passages
  have sound : rig.detector.view.Sound ⟨"a"⟩ := View.sound_performAll ⟨"a"⟩ _
  have asides : (Rig.stationWith Draw.first).AreAside (fun rig => rig.detector.view.Sound ⟨"a"⟩) deeds := by
    refine areAside_rig Draw.first ⟨"a"⟩ fun change among rig => ?_
    obtain rfl : change = fun rig => (rig.perform (.removeDead ⟨"c"⟩)).2 := by simpa [deeds] using among
    exact rig.detector.perform_sees rig.time _
  obtain ⟨covers, rising⟩ := rounds_cover_the_view (keepsBooks_rig Draw.first ⟨"a"⟩) Draw.first_isFair deeds
    sound asides
  have small : passages.map (fun passage => passage.before.detector.heartbeat) = [0, 1, 1, 2] := by
    decide +kernel
  refine ⟨covers, by decide +kernel, by decide +kernel, (rising fun passage among => ?_).2⟩
  have fits : ∀ number ∈ [(0 : UInt64), 1, 1, 2], number.toNat + 1 < 2 ^ 64 := by simp
  exact fits _ (small ▸ List.mem_map_of_mem among)

end Station

end PeerMesh
