/-
**A gossip round, as its receivers take it in.**

A sender cuts what it knows into batches, and every batch comes in a digest of its own that also speaks for
the sender.

* `flatten_pieces`, `View.mem_digests_iff` — the digests of a round tell of all peers of the sender.
* `mem_gossipRound_iff` — everybody who is told anything is told all digests.
* `Watched.merge_of_passive` — what a digest does to a view with passive watchers.
* **`Watched.batches_are_transparent`** — whatever order the digests of a round come in, and however often
  each of them, a receiver none of whose watchers acts on the view knows afterwards what one digest with all
  entries would have told it.
* `Watched.order_matters_to_listener` — a watcher that acts on the view makes the order matter.
-/

import PeerMesh.Proofs.Detector.Passive
import PeerMesh.Proofs.View.Greetings

namespace PeerMesh

/-! ### Batches -/

/-- The pieces of a list make it up. -/
theorem flatten_pieces {α : Type} (length : Nat) (items : List α) : (pieces length items).flatten = items := by
  have within (fuel : Nat) : ∀ items : List α, items.length ≤ fuel →
      (piecesWithin (max length 1) fuel items).flatten = items := by
    induction fuel with
    | zero =>
      intro items short
      exact (List.eq_nil_of_length_eq_zero (Nat.le_zero.mp short)).symm
    | succ fuel ih =>
      intro items short
      cases items with
      | nil => rfl
      | cons item rest =>
        have shorter : ((item :: rest).drop (max length 1)).length ≤ fuel := by
          rw [List.length_drop]
          omega
        show _ ++ (piecesWithin (max length 1) fuel _).flatten = _
        rw [ih _ shorter, List.take_append_drop]
  exact within items.length items (Nat.le_refl _)

/-- The pieces of a list are short. -/
theorem length_le_of_mem_pieces {α : Type} {length : Nat} {items piece : List α}
    (member : piece ∈ pieces length items) : piece.length ≤ max length 1 := by
  have within : ∀ (fuel : Nat) (items : List α),
      piece ∈ piecesWithin (max length 1) fuel items → piece.length ≤ max length 1 := by
    intro fuel
    induction fuel with
    | zero => exact fun _ member => absurd member List.not_mem_nil
    | succ fuel ih =>
      intro items member
      cases items with
      | nil => exact absurd member List.not_mem_nil
      | cons item rest =>
        rcases List.mem_cons.mp member with rfl | later
        · exact List.length_take_le _ _
        · exact ih _ later
  exact within items.length items member

namespace View

theorem flatten_entryBatches (view : View) (batchSize : Nat) :
    (view.entryBatches batchSize).flatten = view.entries := by
  unfold entryBatches
  split
  · rename_i nobody
    rw [nobody]
    rfl
  · exact flatten_pieces batchSize view.entries

/-- Also a sender that knows nobody sends a digest. -/
theorem digests_ne_nil (view : View) (batchSize : Nat) (number : UInt64) :
    view.digests batchSize number ≠ [] := by
  refine mt List.map_eq_nil_iff.mp fun empty => ?_
  have nobody := view.flatten_entryBatches batchSize
  rw [empty] at nobody
  unfold entryBatches at empty
  rw [← nobody] at empty
  cases empty

/-- The digests of a round tell of all peers of the sender. -/
theorem mem_digests_iff (view : View) (batchSize : Nat) (number : UInt64) (entry : GossipEntry) :
    (∃ digest ∈ view.digests batchSize number, entry ∈ digest.entries) ↔ entry ∈ view.entries := by
  rw [← view.flatten_entryBatches batchSize, List.mem_flatten]
  simp [digests]

/-- The digests of a round are short and tell only of the peers of the view. -/
theorem mem_digests {view : View} {batchSize : Nat} {number : UInt64} {digest : Digest}
    (member : digest ∈ view.digests batchSize number) :
    digest.entries.length ≤ max batchSize 1 ∧ digest.entries ⊆ view.entries := by
  refine ⟨?_, fun entry inside => (view.mem_digests_iff batchSize number entry).mp ⟨digest, member, inside⟩⟩
  obtain ⟨entries, batch, rfl⟩ := List.mem_map.mp member
  unfold entryBatches at batch
  split at batch
  · rw [List.mem_singleton.mp batch]
    exact Nat.zero_le _
  · exact length_le_of_mem_pieces batch

/-- The digests of a round have its number. -/
theorem number_of_mem_digests {view : View} {batchSize : Nat} {number : UInt64} {digest : Digest}
    (member : digest ∈ view.digests batchSize number) :
    digest.version = protocolVersion ∧ digest.heartbeat = number := by
  obtain ⟨entries, _, rfl⟩ := List.mem_map.mp member
  exact ⟨rfl, rfl⟩

/-- The records of a tidy view are found under their ids. -/
theorem get?_of_mem_nodes {view : View} {selfId : NodeId} (tidy : view.Tidy selfId) {record : Record}
    (member : record ∈ view.nodes) : view.get? record.id = some record := by
  obtain ⟨filed, among, rfl⟩ := List.mem_map.mp member
  obtain ⟨id, found⟩ := (view.live.mem_values_iff filed).mp among
  rw [(tidy.liveFiled id filed found).named]
  unfold get?
  rw [found]
  rfl

/-- Of each peer there is one entry. -/
theorem eq_of_mem_entries {view : View} {selfId : NodeId} (tidy : view.Tidy selfId)
    {first second : GossipEntry} (member : first ∈ view.entries) (other : second ∈ view.entries)
    (samePeer : first.id = second.id) : first = second := by
  obtain ⟨record, among, rfl⟩ := List.mem_map.mp member
  obtain ⟨next, amongToo, rfl⟩ := List.mem_map.mp other
  have found := view.get?_of_mem_nodes tidy among
  have samePeer : record.id = next.id := samePeer
  rw [samePeer, view.get?_of_mem_nodes tidy amongToo] at found
  rw [Option.some.inj found]

end View

/-! ### What a round sends -/

/-- A gossip round sends all its digests, with the next number, to each of the chosen peers. -/
theorem gossipRound_eq {settings : Settings} {draw : Draw} {view : View} {count number : UInt64}
    {messages : List (Address × ControlMessage)}
    (round : gossipRound? settings draw view count = some (number, messages)) :
    number = count + 1 ∧
      messages = (draw settings.gossipNodeCount view.normalNodes).flatMap fun peer =>
        (view.digests settings.batchSize number).map fun digest => (peer.address, .gossip digest) := by
  unfold gossipRound? at round
  dsimp only at round
  split at round
  · obtain ⟨rfl, rfl⟩ := Prod.mk.inj (Option.some.inj round)
    simp only [List.map_map, Function.comp_def, and_self]
  · cases round

/-- A broadcast round sends all its digests, with the next number. -/
theorem broadcastRound_eq {settings : Settings} {view : View} {count number : UInt64}
    {messages : List ControlMessage}
    (round : broadcastRound? settings view count = some (number, messages)) :
    number = count + 1 ∧ messages = (view.digests settings.batchSize number).map .notification := by
  unfold broadcastRound? at round
  dsimp only at round
  split at round
  · obtain ⟨rfl, rfl⟩ := Prod.mk.inj (Option.some.inj round)
    exact ⟨rfl, rfl⟩
  · cases round

/-- Everybody who is told anything in a gossip round is told all its digests. -/
theorem mem_gossipRound_iff {settings : Settings} {draw : Draw} {view : View} {count number : UInt64}
    {messages : List (Address × ControlMessage)}
    (round : gossipRound? settings draw view count = some (number, messages)) {place : Address}
    (told : ∃ message, (place, message) ∈ messages) (digest : Digest) :
    (place, .gossip digest) ∈ messages ↔ digest ∈ view.digests settings.batchSize number := by
  obtain ⟨_, rfl⟩ := gossipRound_eq round
  obtain ⟨message, inside⟩ := told
  simp only [List.mem_flatMap, List.mem_map, Prod.mk.injEq, ControlMessage.gossip.injEq] at inside ⊢
  obtain ⟨chosen, among, _, _, same, _⟩ := inside
  constructor
  · rintro ⟨_, _, _, member, _, rfl⟩
    exact member
  · exact fun member => ⟨chosen, among, digest, member, same, rfl⟩

section

variable {σ : Type} {keeps : σ → Prop}

/-- What each message keeps, all of them keep. -/
theorem sendAll_keeps {send : σ → Address → ControlMessage → Bool × σ}
    (messages : List (Address × ControlMessage))
    (each : ∀ message ∈ messages, ∀ state, keeps state → keeps (send state message.1 message.2).2)
    {state : σ} (kept : keeps state) : keeps (sendAll send messages state).2 := by
  unfold sendAll
  exact List.foldlRecOn (motive := fun sent : Nat × σ => keeps sent.2) messages _ kept
    fun sent kept message member => each message member sent.2 kept

/-- What each broadcast keeps, all of them keep. -/
theorem broadcastAll_keeps {broadcast : σ → ControlMessage → Except TransportError Unit × σ}
    (messages : List ControlMessage)
    (each : ∀ message ∈ messages, ∀ state, keeps state → keeps (broadcast state message).2) :
    ∀ {state : σ}, keeps state → keeps (broadcastAll broadcast messages state) := by
  induction messages with
  | nil => exact fun kept => kept
  | cons message rest ih =>
    intro state kept
    have first := each message List.mem_cons_self state kept
    unfold broadcastAll
    cases told : broadcast state message with
    | mk answer after =>
      rw [told] at first
      cases answer with
      | ok done => exact ih (fun other member => each other (List.mem_cons_of_mem _ member)) first
      | error error => exact first

end

/-! ### Digests and passive watchers -/

namespace Watched

variable {watched later : Watched}

theorem OnlySaw.mapView (saw : watched.OnlySaw later) (change : View → View) :
    (watched.mapView change).OnlySaw (later.mapView change) := by
  obtain ⟨sightings, rfl⟩ := saw
  exact ⟨sightings, rfl⟩

theorem OnlySaw.now (saw : watched.OnlySaw later) : later.now = watched.now := by
  obtain ⟨_, rfl⟩ := saw
  rfl

theorem OnlySaw.view (saw : watched.OnlySaw later) : later.view = watched.view := by
  obtain ⟨_, rfl⟩ := saw
  rfl

theorem isPassive_ofView (view : View) (clock : Timepiece) : (ofView view clock).IsPassive :=
  fun _ member => absurd member List.not_mem_nil

theorem hearSender_of_passive (passive : watched.IsPassive) (time : Nat) (address : Address)
    (sender : NodeId) (number : UInt64) :
    (watched.mapView (·.greet (watched.now time) address sender number)).OnlySaw
      (watched.hearSender time address sender number) := by
  obtain ⟨answer, sightings, saw⟩ := run_of_passive passive time fun view now =>
    view.heartbeat now address sender
  unfold hearSender mapView View.greet
  dsimp only
  rw [answer, saw]
  cases (watched.view.heartbeat (watched.now time) address sender).answer <;> exact ⟨sightings, rfl⟩

theorem hearEntry_of_passive (passive : watched.IsPassive) (time : Nat) (sender : NodeId)
    (entry : GossipEntry) :
    (watched.mapView (View.takeIn (watched.now time) sender · entry)).OnlySaw
      (hearEntry time sender watched entry) := by
  unfold hearEntry mapView View.takeIn
  by_cases spared : entry.id = watched.view.selfId ∨ entry.id = sender
  · simp only [if_pos spared]
    exact ⟨watched.sightings, rfl⟩
  · simp only [if_neg spared]
    exact (run_of_passive passive time fun view now =>
      view.observe now entry.address entry.id entry.version).2

/-- What is done to a view with passive watchers, one thing after another, is done to the view alone. -/
theorem foldl_of_passive {α : Type} {step : Watched → α → Watched} {change : View → α → View}
    {now : Nat → Reading}
    (follows : ∀ (watched : Watched) (item : α), watched.IsPassive → watched.now = now →
      (watched.mapView (change · item)).OnlySaw (step watched item))
    (items : List α) : ∀ {watched : Watched}, watched.IsPassive → watched.now = now →
      (watched.mapView (items.foldl change)).OnlySaw (items.foldl step watched) := by
  induction items with
  | nil => exact fun {watched} _ _ => ⟨watched.sightings, rfl⟩
  | cons item rest ih =>
    intro watched passive same
    have first := follows watched item passive same
    exact (first.mapView (rest.foldl change)).trans (ih (first.isPassive passive) (first.now.trans same))

/-- A digest on a view with passive watchers is what it is without them. -/
theorem merge_of_passive (passive : watched.IsPassive) (time : Nat) (address : Address) (sender : NodeId)
    (digest : Digest) :
    (watched.mapView (·.absorb (watched.now time) address sender digest)).OnlySaw
      (watched.merge time address sender digest) := by
  unfold merge View.absorb
  split
  · have first := hearSender_of_passive passive time address sender digest.heartbeat
    refine (first.mapView (digest.entries.foldl (View.takeIn (watched.now time) sender))).trans
      (foldl_of_passive (fun between entry still same => ?_) digest.entries (first.isPassive passive)
        first.now)
    have unmoved : between.now = watched.now := same
    rw [← unmoved]
    exact hearEntry_of_passive still time sender entry
  · exact ⟨watched.sightings, rfl⟩

/-- **The receivers of a gossip round do not see into how many digests it was cut.** Whatever order its
digests come in, and however often each of them, a receiver none of whose watchers acts on the view agrees
with one that was told everything at once. No digest ever makes it a peer of itself, and what a digest makes
of the record of its sender is up to where it came from and to its number alone. -/
theorem batches_are_transparent {sender : View} {senderId : NodeId} (tidy : sender.Tidy senderId)
    {settings : Settings} {draw : Draw} {count number : UInt64}
    {messages : List (Address × ControlMessage)}
    (round : gossipRound? settings draw sender count = some (number, messages)) {place : Address}
    (told : ∃ message, (place, message) ∈ messages) {order : List Digest}
    (same : ∀ digest, digest ∈ order ↔ (place, .gossip digest) ∈ messages) {receiver : Watched}
    (passive : receiver.IsPassive) (isOpen : receiver.view.closed = false)
    (another : receiver.view.selfId ≠ senderId) (time : Nat) (address : Address) :
    let whole : Digest := ⟨protocolVersion, number, sender.entries⟩
    View.Agrees (order.foldl (·.merge time address senderId ·) receiver).view
        (receiver.merge time address senderId whole).view ∧
      (∀ origin digest, (receiver.merge time address origin digest).view.get? receiver.view.selfId =
        receiver.view.get? receiver.view.selfId) ∧
      ∀ entries,
        (receiver.merge time address senderId ⟨protocolVersion, number, entries⟩).view.get? senderId =
          some (View.greeted (receiver.now time) address senderId number
            (receiver.view.get? senderId)) := by
  intro whole
  have merged (origin : NodeId) (digest : Digest) :=
    (merge_of_passive passive time address origin digest).view
  have accepted : receiver.view.refusal? senderId = none := by
    simp [View.refusal?, isOpen, Ne.symm another]
  refine ⟨?_, fun origin digest => ?_, fun entries => ?_⟩
  · have mergedAll : (order.foldl (·.merge time address senderId ·) receiver).view =
        order.foldl (View.absorb (receiver.now time) address senderId) receiver.view := by
      refine (foldl_of_passive (fun between digest still same => ?_) order passive rfl).view
      show (between.mapView (·.absorb (receiver.now time) address senderId digest)).OnlySaw _
      rw [← same]
      exact merge_of_passive still time address senderId digest
    rw [mergedAll, merged]
    have digests (digest : Digest) : digest ∈ order ↔
        digest ∈ sender.digests settings.batchSize number :=
      (same digest).trans (mem_gossipRound_iff round told digest)
    refine View.agrees_of_absorbAll accepted ?_ (fun digest member =>
      View.number_of_mem_digests ((digests digest).mp member)) (fun entry => ?_) ?_
    · rintro rfl
      obtain ⟨digest, member⟩ := List.exists_mem_of_ne_nil _
        (sender.digests_ne_nil settings.batchSize number)
      exact List.not_mem_nil ((digests digest).mpr member)
    · simp only [digests]
      exact sender.mem_digests_iff settings.batchSize number entry
    · exact fun first member second other samePeer =>
        congrArg GossipEntry.address (View.eq_of_mem_entries tidy member other samePeer)
  · rw [merged]
    exact receiver.view.get?_absorb_selfId (receiver.now time) address origin digest
  · rw [merged]
    exact View.get?_absorb_sender accepted entries

/-- Two batches, the second of which comes first and twice, tell a node of itself, of a peer that it takes
for dead and of one that is new to it. Their sender has moved. -/
theorem batches_of_three_peers :
    let sender := (View.new ⟨"s"⟩).performAll [(1, .heartbeat ⟨"mem:1"⟩ ⟨"r"⟩),
      (1, .observe ⟨"mem:2"⟩ ⟨"b"⟩ 4), (1, .heartbeat ⟨"mem:3"⟩ ⟨"c"⟩)]
    let settings := { Settings.standard with batchSize := 2, gossipNodeCount := 1 }
    let early : Digest := ⟨protocolVersion, 7, [⟨⟨"r"⟩, ⟨"mem:1"⟩, 0⟩, ⟨⟨"b"⟩, ⟨"mem:2"⟩, 4⟩]⟩
    let late : Digest := ⟨protocolVersion, 7, [⟨⟨"c"⟩, ⟨"mem:3"⟩, 0⟩]⟩
    let receiver := ofView ((View.new ⟨"r"⟩).performAll [(2, .heartbeat ⟨"mem:2"⟩ ⟨"b"⟩),
      (2, .removeDead ⟨"b"⟩), (2, .heartbeat ⟨"mem:9"⟩ ⟨"s"⟩)]) (.manual 8)
    let after := [late, early, late].foldl (·.merge 0 ⟨"mem:4"⟩ ⟨"s"⟩ ·) receiver
    let whole := receiver.merge 0 ⟨"mem:4"⟩ ⟨"s"⟩ ⟨protocolVersion, 7, sender.entries⟩
    let messages : List (Address × ControlMessage) :=
      [(⟨"mem:1"⟩, .gossip early), (⟨"mem:1"⟩, .gossip late)]
    gossipRound? settings Draw.first sender 6 = some (7, messages) ∧
      after.view.Agrees whole.view ∧
      whole.view.nodes.map Record.id = [⟨"s"⟩, ⟨"b"⟩, ⟨"c"⟩] ∧
      whole.view.get? ⟨"s"⟩ = some ⟨⟨"s"⟩, ⟨"mem:4"⟩, .normal, 8, 1, 7⟩ := by
  intro sender settings early late receiver after whole messages
  have round : gossipRound? settings Draw.first sender 6 = some (7, messages) := rfl
  have same : ∀ digest, digest ∈ [late, early, late] ↔ (⟨"mem:1"⟩, .gossip digest) ∈ messages := by
    intro digest
    simp only [messages, List.mem_cons, List.not_mem_nil, Prod.mk.injEq, ControlMessage.gossip.injEq]
    grind
  have tidy : sender.Tidy ⟨"s"⟩ := (View.sound_performAll ⟨"s"⟩ _).toTidy
  have passive : receiver.IsPassive := isPassive_ofView _ _
  have isOpen : receiver.view.closed = false := by decide +kernel
  have another : receiver.view.selfId ≠ ⟨"s"⟩ := by decide +kernel
  have peers : whole.view.nodes.map Record.id = [⟨"s"⟩, ⟨"b"⟩, ⟨"c"⟩] := by decide +kernel
  have moved : View.greeted (receiver.now 0) ⟨"mem:4"⟩ ⟨"s"⟩ 7 (receiver.view.get? ⟨"s"⟩) =
      ⟨⟨"s"⟩, ⟨"mem:4"⟩, .normal, 8, 1, 7⟩ := by
    decide +kernel
  -- what follows is true of any two such views, and is slow to check on these two
  clear_value receiver sender
  obtain ⟨agrees, _, ofSender⟩ := batches_are_transparent tidy round ⟨_, List.mem_cons_self⟩ same passive
    isOpen another 0 ⟨"mem:4"⟩
  exact ⟨round, agrees, peers, (ofSender sender.entries).trans (congrArg some moved)⟩

/-- **A listener that acts on the view sees into how many digests a round was cut.** Its view drops `b` as
soon as `a` is up, so `b` stays live exactly if it comes after `a`: of the two digests of this round either
order leaves another view, and only one of them leaves that of the whole. -/
theorem order_matters_to_listener :
    let sender := (View.new ⟨"s"⟩).performAll [(1, .heartbeat ⟨"mem:1"⟩ ⟨"r"⟩),
      (1, .observe ⟨"mem:5"⟩ ⟨"a"⟩ 0), (1, .observe ⟨"mem:6"⟩ ⟨"b"⟩ 0)]
    let settings := { Settings.standard with batchSize := 2, gossipNodeCount := 1 }
    let early : Digest := ⟨protocolVersion, 7, [⟨⟨"r"⟩, ⟨"mem:1"⟩, 0⟩, ⟨⟨"a"⟩, ⟨"mem:5"⟩, 0⟩]⟩
    let late : Digest := ⟨protocolVersion, 7, [⟨⟨"b"⟩, ⟨"mem:6"⟩, 0⟩]⟩
    let receiver := ((ofView (View.new ⟨"r"⟩) (.manual 8)).listen
      ⟨false, fun _ => false, some ⟨.up, ⟨"a"⟩, .removeLeaving ⟨"b"⟩⟩⟩).2
    let told (order : List Digest) := (order.foldl (·.merge 0 ⟨"mem:4"⟩ ⟨"s"⟩ ·) receiver).view
    gossipRound? settings Draw.first sender 6 =
        some (7, [(⟨"mem:1"⟩, .gossip early), (⟨"mem:1"⟩, .gossip late)]) ∧
      receiver.view.closed = false ∧ receiver.view.selfId ≠ ⟨"s"⟩ ∧
      (told [⟨protocolVersion, 7, sender.entries⟩]).nodes.map Record.id = [⟨"s"⟩, ⟨"a"⟩, ⟨"b"⟩] ∧
      (told [early, late]).nodes.map Record.id = [⟨"s"⟩, ⟨"a"⟩, ⟨"b"⟩] ∧
      (told [late, early]).nodes.map Record.id = [⟨"s"⟩, ⟨"a"⟩] := by
  refine ⟨rfl, ?_, ?_, ?_, ?_, ?_⟩ <;> decide +kernel

end Watched

end PeerMesh
