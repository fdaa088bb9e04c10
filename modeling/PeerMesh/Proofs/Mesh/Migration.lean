/-
**What comes of moving to another domain.**

* `View.changesOf_clear` — when a view forgets everybody, every peer leaves, once.
* `Mesh.Broadcasts` — a channel has broadcast an event, which has reached whoever it could.
* `Mesh.Migrates` — a channel has taken leave of its domain, has forgotten everybody and begins to announce itself
  in another one. `changeDomain_moves` — this is what moving brings about.
* **`changeDomain_migrates`** — after any history, and whatever comes afterwards. `returnee_stays_known`: who may be
  known after a move.
-/

import PeerMesh.Proofs.Channel.Welcome
import PeerMesh.Proofs.Mesh.Departure
import PeerMesh.Proofs.Mesh.Domains
import PeerMesh.Proofs.Mesh.Registration
import PeerMesh.Proofs.Mesh.Welcome

namespace PeerMesh

namespace View

variable {view : View} {selfId : NodeId}

/-- When everybody is forgotten, every peer leaves, once. -/
theorem changesOf_clear (sound : view.Sound selfId) (id : NodeId) :
    changesOf id view.clear.notices = if view.isLive id then [.left] else [] := by
  have tells := clear_tells sound id
  have leaves : ∀ change ∈ changesOf id view.clear.notices, change = .left := by
    intro change among
    obtain ⟨notice, told, rfl⟩ := List.mem_map.mp among
    obtain ⟨record, -, rfl⟩ := List.mem_map.mp (List.mem_filter.mp told).1
    rfl
  generalize changesOf id view.clear.notices = changes at tells leaves
  match changes with
  | [] =>
    have gone : view.isLive id = false := Option.some.inj tells
    rw [gone]
    rfl
  | first :: rest =>
    obtain rfl := leaves first List.mem_cons_self
    cases live : view.isLive id with
    | false =>
      rw [live] at tells
      cases tells
    | true =>
      cases rest with
      | nil => rfl
      | cons second rest =>
        -- whoever has left cannot leave once more
        obtain rfl := leaves second (List.mem_cons_of_mem _ List.mem_cons_self)
        rw [live] at tells
        cases tells

end View

/-- Who watches a channel, and what its watchers make of another view, is a matter of its detector. -/
theorem Channel.informed_of_detector {channel later : Channel} (same : later.detector = channel.detector) (time : Nat)
    (view : View) (notices : List Notice) :
    (later.informed time view notices).detector = (channel.informed time view notices).detector := by
  unfold Channel.informed Channel.mapWatched
  dsimp only
  rw [same]

namespace Mesh

variable {mesh later : Mesh} {n : Nat} {domain : String} {event : Event} {own : Address}

/-! ### To take leave -/

/-- From one mesh to a later one a channel has broadcast an event, which has reached some parties, and nobody has
taken notice yet. -/
structure Broadcasts (n : Nat) (event : Event) (before after : Mesh) : Prop where
  time : after.time = before.time
  detectors : ∀ m, (after.channel m).detector = (before.channel m).detector
  log : ∃ parties : List Party, after.log = parties.map (fun party => (before.time, .reached party false event)) ++
    (before.time, .posted n (.broadcast event)) :: before.log

/-- **An event that is broadcast** is broadcast once, whether it gets through or not. -/
theorem post_broadcasts (mesh : Mesh) (n : Nat) (event : Event) :
    mesh.Broadcasts n event (mesh.post n (.broadcast event)).2 := by
  let posted := mesh.note (.posted n (.broadcast event))
  have nobody : mesh.Broadcasts n event posted := ⟨rfl, fun _ => rfl, [], rfl⟩
  have arrives (parties : List Party) : mesh.Broadcasts n event (parties.foldl (arrive event) posted) := by
    have keeps : (parties.foldl (arrive event) posted).time = mesh.time ∧
        ∀ m, ((parties.foldl (arrive event) posted).channel m).detector = (mesh.channel m).detector :=
      List.foldlRecOn (motive := fun between : Mesh => between.time = mesh.time ∧
        ∀ m, (between.channel m).detector = (mesh.channel m).detector) parties _ ⟨rfl, fun _ => rfl⟩
        fun between same party _ => ⟨(log_arrive event between party).1.trans same.1, fun m =>
          (field_arrive Channel.detector event between party m fun _ _ => rfl).trans (same.2 m)⟩
    refine ⟨keeps.1, keeps.2, parties.reverse, ?_⟩
    rw [log_arriveAll, List.map_reverse]
    rfl
  unfold post spread
  dsimp only
  split
  · split
    · exact arrives _
    · exact nobody
  · exact nobody

/-- **A channel takes leave once**, of the domain in which it has been. -/
theorem takeLeave_broadcasts (reached : (mesh.channel n).address = some own) :
    mesh.Broadcasts n (parting (mesh.channel n) .leave own) (mesh.takeLeave n) := by
  unfold takeLeave
  rw [farewell_eq reached .leave]
  split
  · obtain ⟨time, detectors, log⟩ := (mesh.unregister n).2.post_broadcasts n (parting (mesh.channel n) .leave own)
    exact ⟨time, detectors, log⟩
  · exact mesh.post_broadcasts n _

/-! ### To be elsewhere -/

/-- A channel that is called upon to announce itself begins at once, in place of what it still had to announce. -/
theorem resync_announces (there : n < mesh.channels.length) (started : (mesh.channel n).phase = .started)
    (announces : (mesh.channel n).settings.publishAttempts ≠ 0) :
    (mesh.resync n).channel n =
        { mesh.channel n with announcing := some ⟨(mesh.channel n).settings.publishAttempts, mesh.time⟩ } ∧
      .announce n ∈ (mesh.resync n).agenda := by
  unfold Mesh.resync
  rw [if_pos started]
  refine ⟨(channel_modify there _).trans ?_, List.mem_append_right _ (List.mem_singleton_self _)⟩
  unfold Channel.resync
  rw [if_pos ⟨started, announces⟩]

/-- **A channel that resettles** has told its watchers that everybody has left. -/
theorem resettle_detector (there : n < mesh.channels.length) (reached : (mesh.channel n).address = some own)
    (domain : String) :
    ((mesh.resettle n domain).channel n).detector =
      ((mesh.channel n).informed mesh.time (mesh.channel n).view.clear.view
        (mesh.channel n).view.clear.notices).detector := by
  have leaves := takeLeave_broadcasts reached
  have leftThere : n < (mesh.takeLeave n).channels.length := (mesh.takeLeave_count n).symm ▸ there
  have same : ((mesh.takeLeave n).channel n).detector = (mesh.channel n).detector := leaves.detectors n
  have view : ((mesh.takeLeave n).channel n).view = (mesh.channel n).view := congrArg Detector.view same
  have inside : (((mesh.takeLeave n).settleIn n domain).channel n).detector =
      (((mesh.takeLeave n).channel n).informed (mesh.takeLeave n).time ((mesh.takeLeave n).channel n).view.clear.view
        ((mesh.takeLeave n).channel n).view.clear.notices).detector := by
    unfold settleIn
    rw [channel_modify leftThere]
    rfl
  rw [field_resettle Channel.detector mesh n domain fun _ _ => rfl, inside, Channel.informed_of_detector same, view,
    leaves.time]

/-- **A channel has moved to another domain.** -/
structure Migrates (n : Nat) (domain : String) (before after : Mesh) : Prop where
  /-- It has said once that it leaves, to its old domain, whoever that has reached. -/
  leaves : ∃ (own : Address) (parties : List Party), (before.channel n).address = some own ∧
    after.log = parties.map (fun party =>
        (before.time, .reached party false (parting (before.channel n) .leave own))) ++
      (before.time, .posted n (.broadcast (parting (before.channel n) .leave own))) :: before.log
  /-- Of every peer, watchers that do not react to it have heard once that it has left. -/
  told : (before.channel n).detector.watched.IsUnmovedBy (before.channel n).view.clear.notices →
    (before.channel n).detector.watched.Hears (before.channel n).view.clear.notices
      (after.channel n).detector.watched
  each : ∀ id, changesOf id (before.channel n).view.clear.notices =
    if (before.channel n).view.isLive id then [.left] else []
  /-- Nobody is known any more, unless a watcher reacts. -/
  forgets : (before.channel n).detector.watched.IsUnmovedBy (before.channel n).view.clear.notices →
    ∀ id, (after.channel n).view.isLive id = false ∧ (after.channel n).view.isDead id = false
  /-- Its events are for the new domain, and it heeds those for it. -/
  moves : (after.channel n).domain = domain ∧ (after.channel n).consumer.domain = domain
  listed : n ∈ before.registry → after.registry.count n = 1
  /-- It begins at once to announce itself anew, in place of what it still had to announce. -/
  announces : (after.channel n).phase = .started ∧ after.time = before.time ∧
    (after.channel n).settings = (before.channel n).settings ∧ (after.channel n).settings.publishAttempts ≠ 0 ∧
    (after.channel n).announcing = some ⟨(after.channel n).settings.publishAttempts, after.time⟩ ∧
    .announce n ∈ after.agenda

/-- A channel that moves is in the registry once if it was in it. -/
theorem changeDomain_listed (booked : mesh.IsBooked) (started : (mesh.channel n).phase = .started)
    (differs : (mesh.channel n).domain ≠ domain) (isIn : n ∈ mesh.registry) :
    (mesh.changeDomain n domain).2.registry.count n = 1 := by
  rw [(changeDomain_books started differs).1, if_pos (booked.linked n isIn), List.count_append,
    List.count_singleton_self, List.count_eq_zero.mpr (by simp)]

/-- **A started channel that moves to another domain** migrates. -/
theorem changeDomain_moves (booked : mesh.IsBooked) (started : (mesh.channel n).phase = .started)
    (settled : (mesh.channel n).IsSettled) (sound : (mesh.channel n).view.Sound (mesh.channel n).selfId)
    (differs : (mesh.channel n).domain ≠ domain) : mesh.Migrates n domain (mesh.changeDomain n domain).2 := by
  have there := there_of_phase started (by decide)
  obtain ⟨own, reached⟩ := Option.ne_none_iff_exists'.mp fun none => settled.found ⟨started, none⟩
  have leaves := takeLeave_broadcasts reached
  have listed := changeDomain_listed booked started differs
  have seat := changeDomain_seat there started differs none
  rw [changeDomain_eq started differs] at listed seat ⊢
  let back := mesh.resettle n domain
  obtain ⟨count, backTime, backLog⟩ := mesh.resettle_rest n domain
  have backSeat := resettle_seat there domain
  have isStarted : (back.channel n).phase = .started := (congrArg Channel.Seat.phase backSeat).trans started
  have settings : (back.channel n).settings = (mesh.channel n).settings := congrArg Channel.Seat.settings backSeat
  have attempts : (back.channel n).settings.publishAttempts ≠ 0 := settings ▸ settled.announces
  obtain ⟨isFinal, ready⟩ := resync_announces (count.symm ▸ there) isStarted attempts
  have detector : ((back.resync n).channel n).detector =
      ((mesh.channel n).informed mesh.time (mesh.channel n).view.clear.view
        (mesh.channel n).view.clear.notices).detector :=
    (congrArg Channel.detector isFinal).trans (resettle_detector there reached domain)
  refine ⟨?_, fun unmoved => ?_, View.changesOf_clear sound, fun unmoved id => ?_,
    ⟨congrArg Channel.Seat.domain seat, congrArg Channel.Seat.heeded seat⟩, listed, ?_⟩
  · obtain ⟨parties, log⟩ := leaves.log
    exact ⟨own, parties, reached, ((resync_alters back n).log.trans backLog).trans log⟩
  · show (mesh.channel n).detector.watched.Hears _ ((back.resync n).channel n).detector.watched
    rw [detector]
    exact (Channel.informed_of_unmoved unmoved mesh.time _).2
  · have known : ((back.resync n).channel n).view = (mesh.channel n).view.clear.view :=
      (congrArg Detector.view detector).trans (Channel.informed_of_unmoved unmoved mesh.time _).1
    show ((back.resync n).channel n).view.isLive id = false ∧ ((back.resync n).channel n).view.isDead id = false
    rw [known]
    exact ⟨rfl, rfl⟩
  · show ((back.resync n).channel n).phase = .started ∧ (back.resync n).time = mesh.time ∧
      ((back.resync n).channel n).settings = (mesh.channel n).settings ∧
      ((back.resync n).channel n).settings.publishAttempts ≠ 0 ∧
      ((back.resync n).channel n).announcing =
        some ⟨((back.resync n).channel n).settings.publishAttempts, (back.resync n).time⟩ ∧
      .announce n ∈ (back.resync n).agenda
    rw [isFinal, resync_time]
    exact ⟨isStarted, backTime.trans leaves.time, settings, attempts, rfl, ready⟩

/-- A channel that is told to be where it is does nothing. -/
theorem changeDomain_of_same (started : (mesh.channel n).phase = .started) (same : (mesh.channel n).domain = domain) :
    mesh.changeDomain n domain = (.ok (), mesh) := by
  have passes : (mesh.channel n).gate = .ok () := by
    unfold Channel.gate
    rw [started]
  unfold Mesh.changeDomain
  dsimp only
  rw [passes]
  dsimp only
  rw [if_pos same]

/-- **Moving to another domain**, after any history: a channel that is told to be where it is does nothing, and
otherwise it migrates. Whatever comes afterwards, it heeds the domain that its events are for, and this is the new one
until it is told to move again. -/
theorem changeDomain_migrates {host : Socket.Host} {history : List Incident}
    (admits : (empty host).AdmitsAll history)
    (started : (((empty host).undergoAll history).channel n).phase = .started) (domain : String) :
    let mesh := (empty host).undergoAll history
    let moved := mesh.changeDomain n domain
    ((mesh.channel n).domain = domain → moved = (.ok (), mesh)) ∧
      ((mesh.channel n).domain ≠ domain → moved.1 = .ok () ∧ mesh.Migrates n domain moved.2 ∧
        ∀ instants, let later := moved.2.liveAll instants
          (later.channel n).consumer.domain = (later.channel n).domain ∧
            ((∀ instant ∈ instants, ¬ IsTold n instant) → moved.2.StaysIn n domain instants later)) := by
  intro mesh moved
  refine ⟨changeDomain_of_same started, fun differs => ?_⟩
  have booked : mesh.IsBooked := undergoAll_isBooked history _ (empty_isBooked host) admits
  have settled : (mesh.channel n).IsSettled := isSettled_of_history host history n
  have sound : (mesh.channel n).view.Sound (mesh.channel n).selfId := (undergoAll_hasCome admits n).sound
  have migrates : mesh.Migrates n domain moved.2 := changeDomain_moves booked started settled sound differs
  have there : n < moved.2.channels.length :=
    (mesh.changeDomain_count n domain).symm ▸ there_of_phase started (by decide)
  have stillSettled : (moved.2.channel n).IsSettled :=
    (mesh.brief_lived (.order (.changeDomain n domain)) rfl).settled settled
  refine ⟨?_, migrates, fun instants => ⟨?_, fun untold => ?_⟩⟩
  · show (mesh.changeDomain n domain).1 = .ok ()
    rw [changeDomain_eq started differs]
  · have lived : moved.2.IsLived (moved.2.liveAll instants) := ⟨instants, rfl⟩
    exact (lived.settled stillSettled).heeds
  · have stays := staysIn_liveAll there stillSettled untold
    rwa [migrates.moves.1] at stays

/-- A channel of the registry knows a peer, and something has happened to it since. -/
def settler (meanwhile : List Incident) : List Incident :=
  [.provide "a" (dweller "a" 8) true, .order (.view 0 (.addHost ⟨"mem:7"⟩ ⟨"p"⟩))] ++ meanwhile

/-- The channel forgets its peer, announces itself in its new domain, and says there that it goes. -/
theorem changeDomain_migrates_settler :
    let mesh := (empty default).undergoAll (settler [])
    let moved := mesh.changeDomain 0 "second"
    let instants := [.happens (.move (.announce 0)) rfl, .happens (.order (.close 0)) rfl]
    (empty default).AdmitsAll (settler []) ∧ (mesh.channel 0).phase = .started ∧
      (mesh.channel 0).domain ≠ "second" ∧ 0 ∈ mesh.registry ∧ (mesh.channel 0).view.isLive ⟨"p"⟩ = true ∧
      mesh.Migrates 0 "second" moved.2 ∧ moved.2.StaysIn 0 "second" instants (moved.2.liveAll instants) := by
  intro mesh moved instants
  have admits : (empty default).AdmitsAll (settler []) := by decide +kernel
  have started : (mesh.channel 0).phase = .started := by decide +kernel
  have differs : (mesh.channel 0).domain ≠ "second" := by decide +kernel
  obtain ⟨-, migrates, stays⟩ := (changeDomain_migrates admits started "second").2 differs
  refine ⟨admits, started, differs, by decide +kernel, by decide +kernel, migrates, (stays instants).2 ?_⟩
  simp [instants, IsTold]

/-- What a channel has broadcast, latest first. -/
def broadcastsOf (mesh : Mesh) (n : Nat) : List (String × Scope) :=
  mesh.log.filterMap fun
    | (_, .posted m (.broadcast event)) => if m = n then some (event.kind, event.scope) else none
    | _ => none

/-- **A peer may be known after a move**, if a watcher takes it in anew that is told that it has left; and an event
that was queued before goes out for the old domain. -/
theorem returnee_stays_known :
    let fond := (empty default).undergoAll (settler
      [.adjust 0 (.watch ⟨false, fun _ => false, some ⟨.left, ⟨"p"⟩, .addHost ⟨"mem:7"⟩ ⟨"p"⟩⟩⟩)])
    let busy := (empty default).undergoAll (settler [.queue 0 .ownDomain "note" []])
    (∀ mesh ∈ [fond, busy], (mesh.channel 0).phase = .started ∧ (mesh.channel 0).domain ≠ "second" ∧
        (mesh.channel 0).view.isLive ⟨"p"⟩ = true) ∧
      ((fond.changeDomain 0 "second").2.channel 0).view.isLive ⟨"p"⟩ = true ∧
      ((busy.changeDomain 0 "second").2.undergo (.move (.dispatch 0))).broadcastsOf 0 =
        [("note", .named "first"), (ProtocolKind.leave.text, .named "first")] := by
  decide +kernel

end Mesh

end PeerMesh
