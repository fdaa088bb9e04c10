/-
**Nobody knows a newer version of a node than the node itself.**

A heartbeat number is given out by its node alone, before it is told, and never goes down. Whatever is known
or under way of a node was told by it at some time, so its number was never greater than the one it has now.

* `Cluster.IsHonest` — all views, all watchers and all messages are within the numbers of the nodes.
* `Cluster.Follows` — a later honest cluster, in which no number has gone down.
* `Leads.follows` — everything that can happen leads to a cluster that follows.
* **`nobody_knows_newer`** — the versions that are known of a node, or under way, are no greater than its
  number, and the numbers that it has told are at least one.
-/

import PeerMesh.Proofs.Cluster.Basic
import PeerMesh.Proofs.Detector.Batches
import PeerMesh.Proofs.Detector.Grounds

namespace PeerMesh

variable {limit : NodeId → UInt64}

/-! ### Rounds and limits -/

/-- The digests of a view within a limit are within it. -/
theorem View.IsWithin.digest {view : View} (within : view.IsWithin limit) {batchSize : Nat}
    {number : UInt64} {sender : NodeId} (least : 1 ≤ number) (own : number ≤ limit sender)
    {digest : Digest} (member : digest ∈ view.digests batchSize number) :
    digest.IsWithin limit sender := by
  have numbered : digest.heartbeat = number := (View.number_of_mem_digests member).2
  refine ⟨fun entry inside => ?_, numbered.symm ▸ least, numbered.symm ▸ own⟩
  obtain ⟨record, known, rfl⟩ := List.mem_map.mp ((View.mem_digests member).2 inside)
  obtain ⟨filed, among, rfl⟩ := List.mem_map.mp known
  obtain ⟨id, found⟩ := (view.live.mem_values_iff filed).mp among
  obtain ⟨named, bounded⟩ := within.live id filed found
  show filed.record.version ≤ limit filed.record.id
  rw [named]
  exact bounded

/-- What a control round does to a detector keeps its view within a limit. -/
theorem Detector.IsRoutine.isWithin {time : Nat} {change : Detector → Detector}
    (routine : Detector.IsRoutine time change) {detector : Detector}
    (within : detector.watched.IsWithin limit) :
    (change detector).heartbeat = detector.heartbeat ∧ (change detector).watched.IsWithin limit := by
  cases routine with
  | aging => exact ⟨rfl, within.view.age _ _, within.reactions⟩
  | counting change sameDeaths => exact ⟨rfl, within⟩
  | conclusion probing =>
    have concluded := within.run time (fun view now => view.conclude now probing.probe probing.affirmed)
      (within.view.conclude _ probing.probe probing.affirmed)
    unfold Detector.conclude Detector.run
    dsimp only
    split <;> exact ⟨rfl, concluded⟩
  | eviction =>
    exact ⟨rfl, within.run time (fun view now => view.cleanup now detector.settings.gracePeriod)
      (within.view.cleanup _ _)⟩

namespace Cluster

variable {first cluster later : Cluster} {id : NodeId}

/-! ### What holds of every cluster -/

/-- Nobody knows, intends or tells more than the nodes have told. -/
structure IsHonest (cluster : Cluster) : Prop where
  nodes : ∀ id detector, cluster.nodes.get? id = some detector →
    detector.watched.IsWithin cluster.counter
  letters : ∀ letter ∈ cluster.letters, letter.message.IsWithin cluster.counter letter.origin

/-- A later honest cluster, in which no number has gone down. -/
structure Follows (cluster later : Cluster) : Prop where
  honest : later.IsHonest
  grows : ∀ id, cluster.counter id ≤ later.counter id

theorem Follows.trans {last : Cluster} (follows : cluster.Follows later) (next : later.Follows last) :
    cluster.Follows last :=
  ⟨next.honest, fun id => UInt64.le_trans (follows.grows id) (next.grows id)⟩

theorem IsHonest.follows (honest : cluster.IsHonest) : cluster.Follows cluster :=
  ⟨honest, fun _ => UInt64.le_refl _⟩

/-- A new message tells no more than the nodes have told. -/
theorem IsHonest.post (honest : cluster.IsHonest) {message : ControlMessage}
    (told : message.IsWithin cluster.counter id) : cluster.Follows (cluster.post id message) := by
  refine ⟨⟨honest.nodes, fun letter member => ?_⟩, fun _ => UInt64.le_refl _⟩
  rcases List.mem_cons.mp member with rfl | earlier
  · exact told
  · exact honest.letters letter earlier

theorem counter_modify (cluster : Cluster) (id other : NodeId) (change : Detector → Detector) :
    (cluster.modify id change).counter other =
      if other = id then ((cluster.nodes.get? id).map fun detector => (change detector).heartbeat).getD 0
      else cluster.counter other := by
  show (Option.map _ ((cluster.nodes.modify id change).get? other)).getD 0 = _
  rw [Table.get?_modify]
  split
  · rw [Option.map_map]
    rfl
  · rfl

/-- A node changes. Its number does not go down, and its view stays within the numbers of before. -/
theorem IsHonest.modify (honest : cluster.IsHonest) {change : Detector → Detector}
    (changes : ∀ detector, cluster.nodes.get? id = some detector →
      detector.heartbeat ≤ (change detector).heartbeat ∧
        (change detector).watched.IsWithin cluster.counter) :
    cluster.Follows (cluster.modify id change) := by
  have grows (other : NodeId) : cluster.counter other ≤ (cluster.modify id change).counter other := by
    rw [counter_modify]
    by_cases same : other = id
    · subst same
      rw [if_pos rfl, counter]
      cases found : cluster.nodes.get? other with
      | none => exact UInt64.le_refl _
      | some detector => exact (changes detector found).1
    · rw [if_neg same]
      exact UInt64.le_refl _
  refine ⟨⟨fun other detector found => ?_, fun letter member => ?_⟩, grows⟩
  · have entry : (cluster.nodes.modify id change).get? other = some detector := found
    rw [Table.get?_modify] at entry
    split at entry
    · obtain ⟨earlier, was, rfl⟩ := Option.map_eq_some_iff.mp entry
      exact (changes earlier was).2.mono grows
    · exact (honest.nodes other detector entry).mono grows
  · exact (honest.letters letter member).mono grows

/-- **A node gives out its next number.** What it tells in a round of this number is no more than the nodes
have told by then. -/
theorem IsHonest.count (honest : cluster.IsHonest) {detector : Detector}
    (node : cluster.nodes.get? id = some detector) (fits : detector.heartbeat.toNat + 1 < 2 ^ 64) :
    let number := detector.heartbeat + 1
    let counted := cluster.modify id ({ · with heartbeat := number })
    cluster.Follows counted ∧ ∀ batchSize, ∀ digest ∈ detector.view.digests batchSize number,
      digest.IsWithin counted.counter id := by
  intro number counted
  have next : number.toNat = detector.heartbeat.toNat + 1 := by
    rw [UInt64.toNat_add]
    exact Nat.mod_eq_of_lt fits
  have higher : detector.heartbeat ≤ number := by
    rw [UInt64.le_iff_toNat_le, next]
    exact Nat.le_succ _
  have least : 1 ≤ number := by
    rw [UInt64.le_iff_toNat_le, next]
    exact Nat.le_add_left _ _
  have own : counted.counter id = number := by
    rw [counter_modify, if_pos rfl, node]
    rfl
  have follows : cluster.Follows counted := by
    refine honest.modify fun other found => ?_
    obtain rfl := Option.some.inj (node.symm.trans found)
    exact ⟨higher, honest.nodes id detector node⟩
  refine ⟨follows, fun batchSize digest member => ?_⟩
  exact ((honest.nodes id detector node).view.mono follows.grows).digest least
    (own.symm ▸ UInt64.le_refl _) member

/-! ### Rounds -/

variable {around : Surroundings}
  (meanwhile : ∀ cluster : Cluster, cluster.IsHonest → cluster.Follows (around.meanwhile cluster))

include meanwhile in
/-- A message is sent, and something happens meanwhile. -/
theorem Follows.tell (follows : first.Follows cluster) {message : ControlMessage}
    (told : message.IsWithin cluster.counter id) :
    first.Follows (around.meanwhile (cluster.post id message)) :=
  have posted := follows.honest.post told
  follows.trans (posted.trans (meanwhile _ posted.honest))

/-- What a round does to the detector of its node. -/
theorem Follows.routine (follows : first.Follows cluster) (time : Nat) {change : Detector → Detector}
    (routine : Detector.IsRoutine time change) : first.Follows (cluster.modify id change) := by
  refine follows.trans (follows.honest.modify fun detector found => ?_)
  obtain ⟨same, within⟩ := routine.isWithin (follows.honest.nodes id detector found)
  exact ⟨same ▸ UInt64.le_refl _, within⟩

include meanwhile in
/-- Messages that tell no more than the nodes have told are sent one after another. -/
theorem Follows.sendAll (follows : first.Follows cluster) {messages : List (Address × ControlMessage)}
    (told : ∀ message ∈ messages, message.2.IsWithin cluster.counter id) :
    first.Follows (PeerMesh.sendAll (around.station id).send messages cluster).2 := by
  refine follows.trans (sendAll_keeps messages (fun message member state follows => ?_)
    follows.honest.follows)
  exact follows.tell meanwhile ((told message member).mono follows.grows)

include meanwhile in
theorem Follows.broadcastAll (follows : first.Follows cluster) {messages : List ControlMessage}
    (told : ∀ message ∈ messages, message.IsWithin cluster.counter id) :
    first.Follows (PeerMesh.broadcastAll (around.station id).broadcast messages cluster) := by
  refine follows.trans (broadcastAll_keeps messages (fun message member state follows => ?_)
    follows.honest.follows)
  exact follows.tell meanwhile ((told message member).mono follows.grows)

include meanwhile in
theorem IsHonest.beginRound (honest : cluster.IsHonest) (id : NodeId) :
    cluster.Follows ((around.station id).beginRound cluster).2 :=
  Station.beginRound_keeps (fun _ _ routine follows => follows.routine _ routine)
    (fun _ _ _ follows => follows.tell meanwhile trivial) honest.follows

theorem IsHonest.hear (honest : cluster.IsHonest) (around : Surroundings) (id : NodeId) (round : Round)
    (awaited : Awaited) : cluster.Follows ((around.station id).hear round awaited cluster).2 :=
  Station.hear_keeps (fun _ _ routine follows => follows.routine _ routine) round awaited honest.follows

include meanwhile in
/-- **A gossip round tells no more than the nodes have told.** -/
theorem IsHonest.gossip (honest : cluster.IsHonest) {detector : Detector}
    (node : cluster.nodes.get? id = some detector) (fits : detector.heartbeat.toNat + 1 < 2 ^ 64) :
    cluster.Follows ((around.station id).gossip cluster) := by
  unfold Station.gossip
  rw [station_detector node]
  dsimp only
  split
  · exact honest.follows
  · rename_i number messages round
    obtain ⟨rfl, rfl⟩ := gossipRound_eq round
    obtain ⟨counted, within⟩ := honest.count node fits
    refine (counted.sendAll meanwhile fun message member => ?_).routine (around.time cluster)
      (.counting _ fun _ => rfl)
    obtain ⟨peer, _, told⟩ := List.mem_flatMap.mp member
    obtain ⟨digest, digests, rfl⟩ := List.mem_map.mp told
    exact within _ digest digests

include meanwhile in
/-- **A broadcast round tells no more than the nodes have told.** -/
theorem IsHonest.autoBroadcast (honest : cluster.IsHonest) {detector : Detector}
    (node : cluster.nodes.get? id = some detector) (fits : detector.heartbeat.toNat + 1 < 2 ^ 64) :
    cluster.Follows ((around.station id).autoBroadcast cluster) := by
  unfold Station.autoBroadcast
  rw [station_detector node]
  dsimp only
  split
  · exact honest.follows
  · rename_i number messages round
    obtain ⟨rfl, rfl⟩ := broadcastRound_eq round
    obtain ⟨counted, within⟩ := honest.count node fits
    refine counted.broadcastAll meanwhile fun message member => ?_
    obtain ⟨digest, digests, rfl⟩ := List.mem_map.mp member
    exact within _ digest digests

include meanwhile in
theorem IsHonest.sendControl (honest : cluster.IsHonest) (id : NodeId) (ids : List NodeId) (kind : String)
    (data : Bytes) : cluster.Follows ((around.station id).sendControl ids kind data cluster).2 := by
  unfold Station.sendControl PeerMesh.sendControl
  refine List.foldlRecOn (motive := fun sent : Nat × Cluster => cluster.Follows sent.2) _ _ honest.follows
    fun sent follows batch _ => ?_
  refine follows.sendAll meanwhile fun message member => ?_
  obtain ⟨address, _, rfl⟩ := List.mem_map.mp member
  exact trivial

/-! ### Runs -/

/-- **Everything that can happen leads to a cluster that follows.** -/
theorem Leads.follows (leads : cluster.Leads later) : cluster.IsHonest → cluster.Follows later := by
  induction leads with
  | nothing cluster => exact IsHonest.follows
  | onward _ _ before after => exact fun honest => (before honest).trans (after (before honest).honest)
  | gossip _ node fits meanwhile => exact fun honest => honest.gossip meanwhile node fits
  | autoBroadcast _ node fits meanwhile => exact fun honest => honest.autoBroadcast meanwhile node fits
  | beginRound _ _ id meanwhile => exact fun honest => honest.beginRound meanwhile id
  | hear around _ id round awaited => exact fun honest => honest.hear around id round awaited
  | sendControl _ _ id ids kind data meanwhile =>
    exact fun honest => honest.sendControl meanwhile id ids kind data
  | ask _ id request => exact fun honest => honest.post trivial
  | operate cluster id time quiet =>
    refine fun honest => honest.modify fun detector found => ⟨UInt64.le_refl _, ?_⟩
    refine (honest.nodes id detector found).perform time fun other version told => ?_
    rw [quiet] at told
    cases told
  | tend cluster id tends =>
    refine fun honest => honest.modify fun detector found => ⟨?_, ?_⟩
    · rw [tends.heartbeat]
      exact UInt64.le_refl _
    · have within := honest.nodes id detector found
      refine ⟨(tends.view detector).symm ▸ within.view, fun watcher member reaction pending => ?_⟩
      rcases tends.watchers detector watcher member with known | quiet
      · exact within.reactions watcher known reaction pending
      · intro other version told
        rw [quiet reaction pending] at told
        cases told
  | @deliver cluster letter sent id time event origin reads =>
    refine fun honest => honest.modify fun detector found => ⟨UInt64.le_refl _, ?_⟩
    refine (honest.nodes id detector found).receive time reads ?_
    rw [origin]
    exact honest.letters letter sent

theorem IsNew.honest (new : cluster.IsNew) : cluster.IsHonest := by
  refine ⟨fun id detector found => ⟨?_, fun watcher member reaction pending other version told => ?_⟩,
    fun letter member => ?_⟩
  · have view : detector.watched.view = .new id := new.views id detector found
    rw [view]
    exact View.new_isWithin id _
  · rw [new.watchers id detector found watcher member reaction pending] at told
    cases told
  · rw [new.silent] at member
    cases member

/-- **Nobody knows a newer version of a node than the node itself.** Whatever may have happened since the
cluster was new, the version of a live peer or of a tombstone is no greater than the heartbeat number that
the node of this id has by now, and so are the versions that were ever sent. The heartbeat numbers that a
node has sent are from one to its own by now. -/
theorem nobody_knows_newer (new : first.IsNew) (leads : first.Leads cluster) :
    (∀ id detector, cluster.nodes.get? id = some detector → ∀ peer,
      (∀ record, detector.view.get? peer = some record → record.version ≤ cluster.counter peer) ∧
      ∀ tombstone, detector.view.dead.get? peer = some tombstone →
        tombstone.member.record.version ≤ cluster.counter peer) ∧
    ∀ letter ∈ cluster.letters, ∀ digest,
      letter.message = .gossip digest ∨ letter.message = .notification digest →
        (∀ entry ∈ digest.entries, entry.version ≤ cluster.counter entry.id) ∧
        1 ≤ digest.heartbeat ∧ digest.heartbeat ≤ cluster.counter letter.origin := by
  have honest := (leads.follows new.honest).honest
  refine ⟨fun id detector found peer => ⟨fun record known => ?_, fun tombstone known => ?_⟩,
    fun letter member digest carried => ?_⟩
  · obtain ⟨filed, live, rfl⟩ := Option.map_eq_some_iff.mp known
    exact ((honest.nodes id detector found).view.live peer filed live).bounded
  · exact ((honest.nodes id detector found).view.dead peer tombstone known).bounded
  · have told := honest.letters letter member
    have within : digest.IsWithin cluster.counter letter.origin := by
      rcases carried with gossip | notification
      · rw [gossip] at told
        exact told
      · rw [notification] at told
        exact told
    exact ⟨within.entries, within.least, within.number⟩

/-- Every message is accepted, no question is answered, and nothing else happens. -/
def undisturbed : Surroundings where
  time := fun _ => 0
  draw := Draw.first
  reply := fun _ _ _ => (.ok none, 0)
  accepts := fun _ _ _ => true
  broadcasts := fun _ _ => .ok ()
  meanwhile := fun cluster => cluster

/-- Two nodes that do not know each other. -/
def twoStrangers : Cluster where
  nodes := (Table.empty.insert ⟨"a"⟩ (.new .standard ⟨"a"⟩ (.manual 5))).insert ⟨"b"⟩
    (.new .standard ⟨"b"⟩ (.manual 7))
  letters := []

/-- What the first of two nodes sends in its first round, when it knows the second one. -/
def greeting : ControlMessage := .gossip ⟨protocolVersion, 1, [⟨⟨"b"⟩, ⟨"mem:2"⟩, 0⟩]⟩

/-- One of two nodes is told of the other, gossips, and is heard. -/
def acquainted : Cluster :=
  let discovered := twoStrangers.modify ⟨"a"⟩ fun detector => (detector.perform 0 (.addHost ⟨"mem:2"⟩ ⟨"b"⟩)).2
  let gossiped := (undisturbed.station ⟨"a"⟩).gossip discovered
  gossiped.modify ⟨"b"⟩ fun detector => { detector with watched := (detector.watched.receive 0
    ⟨.unscoped, "", ControlMessage.codec.write greeting, ⟨"a"⟩, ⟨"mem:1"⟩⟩).2 }

theorem twoStrangers_isNew : twoStrangers.IsNew := by
  have either {id : NodeId} {detector : Detector} (found : twoStrangers.nodes.get? id = some detector) :
      ∃ reading, detector = .new .standard id (.manual reading) := by
    unfold twoStrangers at found
    simp only [Table.get?_insert, Table.get?_empty] at found
    split at found
    · rename_i second
      exact ⟨7, by rw [second, Option.some.inj found]⟩
    · split at found
      · rename_i first
        exact ⟨5, by rw [first, Option.some.inj found]⟩
      · cases found
  refine ⟨fun id detector found => ?_, fun id detector found => ?_, fun id detector found => ?_, rfl⟩
  all_goals obtain ⟨reading, rfl⟩ := either found
  · rfl
  · rfl
  · exact fun watcher member => absurd member List.not_mem_nil

theorem twoStrangers_lead : twoStrangers.Leads acquainted := by
  let discovered := twoStrangers.modify ⟨"a"⟩ fun detector => (detector.perform 0 (.addHost ⟨"mem:2"⟩ ⟨"b"⟩)).2
  have operated : twoStrangers.Leads discovered := .operate twoStrangers ⟨"a"⟩ 0 rfl
  have gossiped : discovered.Leads ((undisturbed.station ⟨"a"⟩).gossip discovered) :=
    .gossip (fun cluster => .nothing cluster) rfl (by decide)
  have letters : ((undisturbed.station ⟨"a"⟩).gossip discovered).letters = [⟨⟨"a"⟩, greeting⟩] := rfl
  have sent : (⟨⟨"a"⟩, greeting⟩ : Letter) ∈ ((undisturbed.station ⟨"a"⟩).gossip discovered).letters := by
    rw [letters]
    exact List.mem_cons_self
  have reads : ControlMessage.codec.decode maxFrameSize (ControlMessage.codec.write greeting) =
      .ok greeting := rfl
  exact (operated.onward gossiped).onward (.deliver sent ⟨"b"⟩ 0 rfl reads)

/-- The second node knows the first one by its number, and was told of nothing else. -/
theorem acquainted_knows :
    twoStrangers.IsNew ∧ twoStrangers.Leads acquainted ∧ acquainted.counter ⟨"a"⟩ = 1 ∧
      acquainted.letters.map Letter.origin = [⟨"a"⟩] ∧
      ∃ detector record, acquainted.nodes.get? ⟨"b"⟩ = some detector ∧
        detector.view.get? ⟨"a"⟩ = some record ∧ record.version = 1 ∧
        record.version ≤ acquainted.counter ⟨"a"⟩ := by
  have bounded := nobody_knows_newer twoStrangers_isNew twoStrangers_lead
  have node : acquainted.nodes.get? ⟨"b"⟩ = some ((acquainted.nodes.get? ⟨"b"⟩).getD default) := rfl
  have known : ((acquainted.nodes.get? ⟨"b"⟩).getD default).view.get? ⟨"a"⟩ =
      some ⟨⟨"a"⟩, ⟨"mem:1"⟩, .normal, 7, 1, 1⟩ := by
    decide +kernel
  refine ⟨twoStrangers_isNew, twoStrangers_lead, by decide +kernel, by decide +kernel, _, _, node, known, rfl, ?_⟩
  exact (bounded.1 ⟨"b"⟩ _ node ⟨"a"⟩).1 _ known

end Cluster

end PeerMesh
