/-
**The rounds of a firm channel keep a mesh orderly.**

A detector asks the peers of its view and tells others of them. All of them are members of the
channel's domain if the channel is firm, and then whoever is asked or told learns of members of its own
domain.

* `Detector.IsHarmless` — a change of a detector by which no peer is new.
* `Orderly.beginRound`, `Orderly.gossip`, `Orderly.autoBroadcast` — the three kinds of rounds.
* `Orderly.turn`, `Orderly.hear` — the scheduler does what it waits for, with peers chosen by any fair
  draw.
-/

import PeerMesh.Proofs.Detector.Batches
import PeerMesh.Proofs.Detector.Grounds
import PeerMesh.Proofs.Mesh.Questions

namespace PeerMesh

/-! ### What rounds are made of -/

/-- Only some of the given items are ever chosen, and as many as are wanted if there are enough. -/
def Draw.IsFair (draw : Draw) : Prop :=
  ∀ {α : Type} (count : Nat) (items : List α), Draw.isFair count items (draw count items)

theorem Draw.IsFair.subset {draw : Draw} (fair : draw.IsFair) {α : Type} (count : Nat)
    (items : List α) : draw count items ⊆ items := by
  obtain ⟨⟨rest, same⟩, _⟩ := fair count items
  exact List.Subset.trans (List.subset_append_left _ _) same.subset

theorem Draw.first_isFair : Draw.IsFair Draw.first := by
  intro α count items
  refine ⟨⟨items.drop count, ?_⟩, List.length_take⟩
  show List.Perm (items.take count ++ items.drop count) items
  rw [List.take_append_drop]

namespace Detector

/-- A change of a detector that leaves its settings alone, and by which no peer is new in its view. -/
def IsHarmless (change : Detector → Detector) : Prop :=
  ∀ detector : Detector, detector.watched.registered = [] →
    (change detector).settings = detector.settings ∧
      detector.watched.Learns [] (change detector).watched

/-- The view is left alone. -/
theorem isHarmless_of_watched {change : Detector → Detector}
    (settings : ∀ detector, (change detector).settings = detector.settings)
    (watched : ∀ detector, (change detector).watched = detector.watched) : IsHarmless change := by
  intro detector unwatched
  rw [settings, watched]
  exact ⟨rfl, .nothing unwatched []⟩

theorem tally_isHarmless (change : Metrics → Metrics) : IsHarmless (·.tally change) :=
  isHarmless_of_watched (fun _ => rfl) fun _ => rfl

theorem number_isHarmless (heartbeat : UInt64) : IsHarmless ({ · with heartbeat := heartbeat }) :=
  isHarmless_of_watched (fun _ => rfl) fun _ => rfl

theorem age_isHarmless (time : Nat) : IsHarmless (·.age time) :=
  fun detector unwatched => ⟨rfl, unwatched, detector.watched.view.age_learns _ _⟩

theorem evict_isHarmless (time : Nat) : IsHarmless (·.evict time) := by
  intro detector unwatched
  have evicted : detector.watched.Learns [] (detector.watched.run time fun view now =>
      view.cleanup now detector.settings.gracePeriod).2 :=
    Watched.run_learns unwatched time fun now =>
      detector.watched.view.cleanup_learns now detector.settings.gracePeriod
  exact ⟨rfl, evicted⟩

theorem conclude_isHarmless (time : Nat) (probing : Probing) : IsHarmless (·.conclude time probing) := by
  intro detector unwatched
  have concluded : detector.watched.Learns [] (detector.watched.run time fun view now =>
      view.conclude now probing.probe probing.affirmed).2 :=
    Watched.run_learns unwatched time fun now =>
      detector.watched.view.conclude_learns now probing.probe probing.affirmed
  unfold Detector.conclude
  dsimp only
  split
  · exact ⟨rfl, concluded⟩
  · exact ⟨rfl, concluded⟩

end Detector

/-- A channel whose queue is open, and whose detector is changed without a new peer, stays in order. -/
theorem Channel.Orderly.redetect {channel : Channel} {firm : Prop} {known : NodeId → Address → Prop}
    (orderly : channel.Orderly firm known) (isOpen : channel.IsOpen)
    {change : Detector → Detector} (harmless : Detector.IsHarmless change) :
    ({ channel with detector := change channel.detector } : Channel).atRest = channel.atRest ∧
      ({ channel with detector := change channel.detector } : Channel).Orderly firm known := by
  obtain ⟨settings, learns⟩ := harmless channel.detector orderly.unwatched
  refine ⟨?_, learns.unwatched, fun idle => absurd isOpen idle,
    fun new => absurd isOpen (orderly.blank new).1, orderly.honest, fun _ key id address files => ?_,
    orderly.unattended⟩
  · show ({ channel with
      detector := .new (change channel.detector).settings (change channel.detector).watched.view.selfId
        (.running 0)
      consumer := channel.consumer.atRest
      announcing := none
      isLinked := false } : Channel) = _
    rw [settings, learns.view.sameOwner]
    rfl
  · rcases learns.view.known key id address files with earlier | ⟨_, told⟩
    · exact orderly.informed isOpen key id address earlier
    · cases told

namespace Mesh

variable {roster : Roster} {firm : Nat → Prop} {mesh : Mesh} {n : Nat} {self : Channel}

namespace Orderly

theorem update (orderly : mesh.Orderly roster firm) (listed : roster.channels[n]? = some self)
    (isOpen : self.IsOpen) (draw : Draw) {change : Detector → Detector}
    (harmless : Detector.IsHarmless change) :
    ((stationWith draw n).update change mesh).Orderly roster firm := by
  refine orderly.modify n fun channel there => ?_
  have same := orderly.there there
  rw [listed] at same
  obtain rfl := Option.some.inj same
  exact (orderly.each n channel there).redetect (Channel.isOpen_atRest.mp isOpen) harmless

/-- **All peers of a firm channel are members of its domain.** -/
theorem member_of_live (orderly : mesh.Orderly roster firm) (listed : roster.channels[n]? = some self)
    (isOpen : self.IsOpen) (isFirm : firm n) {member : Member}
    (live : member ∈ (mesh.channel n).view.members) :
    roster.IsMember self.domain member.record.id member.record.address := by
  obtain ⟨channel, there, rfl⟩ := orderly.exists_channel listed
  rw [channel_eq there] at live
  obtain ⟨key, found⟩ := (Table.mem_values_iff _ _).mp live
  obtain ⟨_, isMember | ⟨notFirm, _⟩⟩ :=
    (orderly.each n channel there).informed (Channel.isOpen_atRest.mp isOpen) key _ _ ⟨member, found, rfl, rfl⟩
  · exact isMember
  · exact absurd isFirm notFirm

theorem record_of_live (orderly : mesh.Orderly roster firm) (listed : roster.channels[n]? = some self)
    (isOpen : self.IsOpen) (isFirm : firm n) {record : Record}
    (live : record ∈ (mesh.channel n).view.nodes) :
    roster.IsMember self.domain record.id record.address := by
  obtain ⟨member, inside, rfl⟩ := List.mem_map.mp live
  exact orderly.member_of_live listed isOpen isFirm inside

/-! ### Control rounds -/

/-- A question that may be asked of a member of a domain. -/
def Fits (roster : Roster) (domain : String) (question : Question) : Prop :=
  (∃ id, roster.IsMember domain id question.address) ∧
    question.request.IsAbout (roster.IsMember domain)

theorem askAll (wired : roster.Wired) (listed : roster.channels[n]? = some self) (draw : Draw)
    (entries : List (Nat × Question)) (fits : ∀ entry ∈ entries, Fits roster self.domain entry.2) :
    ∀ asked : Probing × List Awaited × Mesh, asked.2.2.Orderly roster firm →
      (entries.foldl (stationWith draw n).askNext asked).2.2.Orderly roster firm := by
  induction entries with
  | nil => exact fun _ orderly => orderly
  | cons entry rest ih =>
    rintro ⟨probing, awaited, mesh⟩ orderly
    refine ih (fun other member => fits other (List.mem_cons_of_mem _ member)) _ ?_
    obtain ⟨⟨id, isMember⟩, about⟩ := fits entry List.mem_cons_self
    have answered := fun timeout => orderly.ask wired listed isMember about timeout
    unfold Station.askNext
    dsimp only
    split
    · exact answered _
    · exact answered _

theorem probe (wired : roster.Wired) (listed : roster.channels[n]? = some self)
    (isOpen : self.IsOpen) (isFirm : firm n) {draw : Draw} (fair : draw.IsFair)
    {suspect : Member}
    (isMember : roster.IsMember self.domain suspect.record.id suspect.record.address)
    (begun : Round × Mesh) (orderly : begun.2.Orderly roster firm) :
    ((stationWith draw n).probe begun suspect).2.Orderly roster firm := by
  obtain ⟨round, mesh⟩ := begun
  have counted := orderly.update listed isOpen draw
    (Detector.tally_isHarmless fun counts => { counts with probes := counts.probes + 1 })
  unfold Station.probe
  dsimp only
  let tallied := (stationWith draw n).update
    (·.tally fun counts => { counts with probes := counts.probes + 1 }) mesh
  let delegates := draw ((stationWith draw n).detector tallied).settings.delegateCount
    (((stationWith draw n).detector tallied).view.delegatesFor suspect.record.id)
  have fits : ∀ entry ∈ (Probing.start ⟨suspect, delegates⟩).pending,
      Fits roster self.domain entry.2 := by
    intro entry member
    obtain ⟨⟨question, place⟩, numbered, rfl⟩ := List.mem_map.mp member
    have asked : question ∈ Probe.questions ⟨suspect, delegates⟩ := List.fst_mem_of_mem_zipIdx numbered
    rcases List.mem_cons.mp asked with rfl | other
    · exact ⟨⟨_, isMember⟩, trivial⟩
    · obtain ⟨delegate, chosen, rfl⟩ := List.mem_map.mp other
      have normal := (List.mem_filter.mp (fair.subset _ _ chosen)).1
      exact ⟨⟨_, counted.record_of_live listed isOpen isFirm (List.mem_filter.mp normal).1⟩,
        isMember⟩
  have asked := askAll wired listed draw _ fits (Probing.start ⟨suspect, delegates⟩, [], tallied)
    counted
  split
  · exact asked.update listed isOpen draw (Detector.conclude_isHarmless _ _)
  · exact asked

theorem settle (orderly : mesh.Orderly roster firm) (listed : roster.channels[n]? = some self)
    (isOpen : self.IsOpen) (draw : Draw) (round : Round) :
    ((stationWith draw n).settle round mesh).2.Orderly roster firm := by
  unfold Station.settle
  split
  · exact orderly.update listed isOpen draw (Detector.evict_isHarmless _)
  · exact orderly

/-- **A control round begins in order.** -/
theorem beginRound (orderly : mesh.Orderly roster firm) (wired : roster.Wired)
    (listed : roster.channels[n]? = some self) (isOpen : self.IsOpen) (isFirm : firm n)
    {draw : Draw} (fair : draw.IsFair) :
    ((stationWith draw n).beginRound mesh).2.Orderly roster firm := by
  have aged := orderly.update listed isOpen draw (Detector.age_isHarmless mesh.time)
  have probeAll : ∀ (suspects : List Member), (∀ suspect ∈ suspects,
      roster.IsMember self.domain suspect.record.id suspect.record.address) →
        ∀ begun : Round × Mesh, begun.2.Orderly roster firm →
          (suspects.foldl (stationWith draw n).probe begun).2.Orderly roster firm := by
    intro suspects
    induction suspects with
    | nil => exact fun _ _ orderly => orderly
    | cons suspect rest ih =>
      intro members begun orderly
      exact ih (fun other member => members other (List.mem_cons_of_mem _ member)) _
        (probe wired listed isOpen isFirm fair (members suspect List.mem_cons_self) begun orderly)
  unfold Station.beginRound
  dsimp only
  refine settle (probeAll _ (fun suspect member => ?_) (⟨[], []⟩, _) aged) listed isOpen draw _
  exact aged.member_of_live listed isOpen isFirm (List.mem_filter.mp member).1

/-- **A reply to a question of a round is heard in order.** -/
theorem hearReply (orderly : mesh.Orderly roster firm) (listed : roster.channels[n]? = some self)
    (isOpen : self.IsOpen) (draw : Draw) (round : Round) (awaited : Awaited) :
    ((stationWith draw n).hear round awaited mesh).2.Orderly roster firm := by
  have concludeAll : ∀ (finished : List Probing) (mesh : Mesh), mesh.Orderly roster firm →
      (finished.foldl (fun mesh probing => (stationWith draw n).conclude probing mesh) mesh).Orderly
        roster firm := by
    intro finished
    induction finished with
    | nil => exact fun _ orderly => orderly
    | cons probing rest ih =>
      exact fun mesh orderly => ih _
        (orderly.update listed isOpen draw (Detector.conclude_isHarmless _ probing))
  exact settle (concludeAll _ mesh orderly) listed isOpen draw _

/-! ### Telling others -/

/-- A digest of members of the channel's domain, as a control message. -/
structure IsDigestOf (roster : Roster) (domain : String) (message : ControlMessage) : Prop where
  digest : ∃ digest, (message = .notification digest ∨ message = .gossip digest) ∧
    AreWords digest.lengths ∧ ∀ entry ∈ digest.entries, roster.IsMember domain entry.id entry.address

/-- The digests of a firm channel are of members of its domain. -/
theorem digests_are (orderly : mesh.Orderly roster firm) (wired : roster.Wired)
    (listed : roster.channels[n]? = some self) (isOpen : self.IsOpen) (isFirm : firm n)
    {heartbeat : UInt64} {digest : Digest}
    (told : digest ∈ (mesh.channel n).view.digests (mesh.channel n).settings.batchSize heartbeat) :
    AreWords digest.lengths ∧
      ∀ entry ∈ digest.entries, roster.IsMember self.domain entry.id entry.address := by
  obtain ⟨short, part⟩ := View.mem_digests told
  have members : ∀ entry ∈ digest.entries,
      roster.IsMember self.domain entry.id entry.address := by
    intro entry member
    obtain ⟨record, live, rfl⟩ := List.mem_map.mp (part member)
    exact orderly.record_of_live listed isOpen isFirm live
  have settings : (mesh.channel n).settings = self.settings := by
    obtain ⟨channel, there, rfl⟩ := orderly.exists_channel listed
    rw [channel_eq there]
    rfl
  refine ⟨fun length member => ?_, members⟩
  rcases List.mem_cons.mp member with rfl | inEntry
  · have small := (wired.at listed).smallBatch
    rw [settings] at short
    omega
  · obtain ⟨entry, inside, part⟩ := List.mem_flatMap.mp inEntry
    obtain ⟨other, known, named, _, located⟩ := members entry inside
    have small := wired.each other known
    rcases List.mem_cons.mp part with rfl | second
    · rw [← named]
      exact small.smallId
    · rw [List.mem_singleton.mp second]
      exact (small.numbered entry.address located).1

/-- The event by which a channel tells of members of its domain tells of nobody else. -/
theorem controlEvent_tells (listed : roster.channels[n]? = some self) {message : ControlMessage}
    (digest : IsDigestOf roster self.domain message) {scope : Scope} {event : Event}
    (tells : self.controlEvent scope message = .ok event) :
    event.TellsOnly (roster.IsMember self.domain) ∧ event.scope = scope := by
  obtain ⟨digest, form, words, entries⟩ := digest
  unfold Channel.controlEvent Channel.protocolEvent Channel.event at tells
  split at tells
  · cases tells
  · rename_i address reached
    obtain rfl := Except.ok.inj tells
    exact ⟨Event.tellsOnly_of_digest form words scope (Roster.isMember_self listed reached) entries,
      rfl⟩

theorem tell (orderly : mesh.Orderly roster firm) (wired : roster.Wired)
    (listed : roster.channels[n]? = some self) {id : NodeId} {address : Address}
    (isMember : roster.IsMember self.domain id address) {message : ControlMessage}
    (digest : IsDigestOf roster self.domain message) :
    (Mesh.tell n mesh address message).2.Orderly roster firm := by
  unfold Mesh.tell
  rw [orderly.controlEvent_eq listed]
  split
  · exact orderly
  · rename_i event tells
    exact orderly.post wired listed
      ⟨self.domain, id, isMember, (controlEvent_tells listed digest tells).1⟩

theorem tellDomain (orderly : mesh.Orderly roster firm) (wired : roster.Wired)
    (listed : roster.channels[n]? = some self) {message : ControlMessage}
    (digest : IsDigestOf roster self.domain message) :
    (Mesh.tellDomain n mesh message).2.Orderly roster firm := by
  have domain : (mesh.channel n).domain = self.domain := by
    obtain ⟨channel, there, rfl⟩ := orderly.exists_channel listed
    rw [channel_eq there]
    rfl
  unfold Mesh.tellDomain
  dsimp only
  rw [orderly.controlEvent_eq listed, domain]
  split
  · exact orderly
  · rename_i event tells
    obtain ⟨known, scope⟩ := controlEvent_tells listed digest tells
    refine orderly.post wired listed fun addressed admitted => ?_
    rw [scope] at admitted
    rw [← show self.domain = addressed from eq_of_beq admitted]
    exact known

/-- **A gossip round tells members of the domain of members of the domain.** -/
theorem gossip (orderly : mesh.Orderly roster firm) (wired : roster.Wired)
    (listed : roster.channels[n]? = some self) (isOpen : self.IsOpen) (isFirm : firm n)
    {draw : Draw} (fair : draw.IsFair) :
    ((stationWith draw n).gossip mesh).Orderly roster firm := by
  unfold Station.gossip
  dsimp only
  split
  · exact orderly
  · rename_i heartbeat messages round
    have numbered := orderly.update listed isOpen draw (Detector.number_isHarmless heartbeat)
    refine update ?_ listed isOpen draw (Detector.tally_isHarmless _)
    refine sendAll_keeps messages (fun message member state kept => ?_) numbered
    obtain ⟨rfl, rfl⟩ := gossipRound_eq round
    obtain ⟨peer, chosen, told⟩ := List.mem_flatMap.mp member
    obtain ⟨digest, digests, rfl⟩ := List.mem_map.mp told
    have normal := (List.mem_filter.mp (fair.subset _ _ chosen)).1
    obtain ⟨words, members⟩ := orderly.digests_are wired listed isOpen isFirm digests
    exact tell kept wired listed (orderly.record_of_live listed isOpen isFirm normal)
      ⟨digest, .inr rfl, words, members⟩

/-- **A broadcast round tells the domain of members of the domain.** -/
theorem autoBroadcast (orderly : mesh.Orderly roster firm) (wired : roster.Wired)
    (listed : roster.channels[n]? = some self) (isOpen : self.IsOpen) (isFirm : firm n)
    (draw : Draw) : ((stationWith draw n).autoBroadcast mesh).Orderly roster firm := by
  unfold Station.autoBroadcast
  dsimp only
  split
  · exact orderly
  · rename_i heartbeat messages round
    have numbered := orderly.update listed isOpen draw (Detector.number_isHarmless heartbeat)
    refine broadcastAll_keeps messages (fun message member state kept => ?_) numbered
    obtain ⟨rfl, rfl⟩ := broadcastRound_eq round
    obtain ⟨digest, digests, rfl⟩ := List.mem_map.mp member
    obtain ⟨words, members⟩ := orderly.digests_are wired listed isOpen isFirm digests
    exact tellDomain kept wired listed ⟨digest, .inl rfl, words, members⟩

/-! ### The scheduler -/

/-- The scheduler and the round of a channel are its own business. -/
theorem reschedule (orderly : mesh.Orderly roster firm) (listed : roster.channels[n]? = some self)
    (isOpen : self.IsOpen) (draw : Draw) (scheduler : Detector → Scheduler)
    (round : Detector → Option Round) :
    ((stationWith draw n).update (fun detector =>
      { detector with scheduler := scheduler detector, round := round detector }) mesh).Orderly
        roster firm :=
  orderly.update listed isOpen draw
    (Detector.isHarmless_of_watched (fun _ => rfl) fun _ => rfl)

/-- The scheduler goes on after a round that has begun in order. -/
theorem resume (orderly : mesh.Orderly roster firm) (listed : roster.channels[n]? = some self)
    (isOpen : self.IsOpen) (draw : Draw) (table : Timetable) (round? : Option Round) :
    ((stationWith draw n).resume table round? mesh).Orderly roster firm :=
  orderly.reschedule listed isOpen draw (fun _ => if round?.isSome then .busy table else .idle table)
    fun _ => round?

/-- **A round begins in order.** -/
theorem beginScheduled (orderly : mesh.Orderly roster firm) (wired : roster.Wired)
    (listed : roster.channels[n]? = some self) (isOpen : self.IsOpen) (isFirm : firm n) {draw : Draw}
    (fair : draw.IsFair) (table : Timetable) (kind : RoundKind) :
    ((stationWith draw n).beginScheduled table kind mesh).Orderly roster firm := by
  unfold Station.beginScheduled
  cases kind with
  | control => exact (orderly.beginRound wired listed isOpen isFirm fair).resume listed isOpen draw _ _
  | gossip => exact (orderly.gossip wired listed isOpen isFirm fair).resume listed isOpen draw _ _
  | broadcast => exact (orderly.autoBroadcast wired listed isOpen isFirm draw).resume listed isOpen draw _ _

/-- The queue of a channel whose detector has something to do is open. -/
theorem isOpen_of_busy (orderly : mesh.Orderly roster firm)
    (busy : (mesh.channel n).detector.scheduler ≠ .off ∨ (mesh.channel n).detector.round ≠ none) :
    ∃ self, roster.channels[n]? = some self ∧ self.IsOpen := by
  cases found : mesh.channels[n]? with
  | none =>
    rw [channel_default found] at busy
    rcases busy with scheduled | round
    · exact absurd rfl scheduled
    · exact absurd rfl round
  | some channel =>
    rw [channel_eq found] at busy
    refine ⟨channel.atRest, orderly.there found, ?_⟩
    rw [Channel.isOpen_atRest]
    by_cases isOpen : channel.IsOpen
    · exact isOpen
    · obtain ⟨off, ended⟩ := (orderly.each n channel found).idle isOpen
      rcases busy with scheduled | round
      · exact absurd off scheduled
      · exact absurd ended round

end Orderly

/-- Whether the scheduler of a channel lets a round begin. -/
def beginsRound (mesh : Mesh) (n : Nat) : Bool :=
  match (mesh.channel n).detector.scheduler with
  | .idle table => (table.due? mesh.time).isSome
  | .off | .delayed _ | .busy _ | .failed => false

namespace Orderly

theorem beginsRound_of_due {table : Timetable} {kind : RoundKind}
    (scheduled : (mesh.channel n).detector.scheduler = .idle table)
    (due : table.due? mesh.time = some kind) : mesh.beginsRound n = true := by
  unfold Mesh.beginsRound
  rw [scheduled]
  show (table.due? mesh.time).isSome = true
  rw [due]
  rfl

/-- **The scheduler takes its turn in order**, if a channel that begins a round is firm. -/
theorem turn (orderly : mesh.Orderly roster firm) (wired : roster.Wired)
    (isFirm : mesh.beginsRound n = true → firm n) {draw : Draw} (fair : draw.IsFair) :
    ((stationWith draw n).turn mesh).Orderly roster firm := by
  refine Station.turn_cases orderly (fun moment scheduled => ?_) fun table kind scheduled due => ?_
  · have own : (mesh.channel n).detector.scheduler = .delayed moment := scheduled
    obtain ⟨self, listed, isOpen⟩ := orderly.isOpen_of_busy (n := n)
      (.inl (by rw [own]; exact Scheduler.noConfusion))
    exact orderly.reschedule listed isOpen draw _ Detector.round
  · have own : (mesh.channel n).detector.scheduler = .idle table := scheduled
    obtain ⟨self, listed, isOpen⟩ := orderly.isOpen_of_busy (n := n)
      (.inl (by rw [own]; exact Scheduler.noConfusion))
    exact orderly.beginScheduled wired listed isOpen (isFirm (beginsRound_of_due own due)) fair _ kind

/-- **A reply that is due is heard in order.** -/
theorem hearScheduled (orderly : mesh.Orderly roster firm) (draw : Draw) :
    ((stationWith draw n).hearScheduled mesh).Orderly roster firm := by
  unfold Station.hearScheduled
  split
  · exact orderly
  · rename_i round under
    have own : (mesh.channel n).detector.round = some round := under
    obtain ⟨self, listed, isOpen⟩ := orderly.isOpen_of_busy (n := n)
      (.inr (by rw [own]; exact Option.some_ne_none round))
    split
    · exact orderly
    · rename_i awaited arrived
      exact (orderly.hearReply listed isOpen draw round awaited).reschedule listed isOpen draw _ _

end Orderly

end Mesh

end PeerMesh
