/-
**What a detector keeps as long as it declares nobody dead.**

Peers leave a view when they say that they go, and when they are declared dead. Whatever else a detector
does, it keeps its peers, and nobody is tombstoned by it.

* `View.Retains` — from one view to a later one everybody who was live is live, and nobody is tombstoned
  who was not. Every operation that admits peers is of this kind, and so is the end of a probe that
  declares nobody dead.
* `Watched.Retains` — the same for views that nobody watches.
* `receive_retains` — a control message that arrives removes nobody.
* `Detector.Endures` — if nobody is declared dead, the view retains its peers; `IsRoutine.endures` says so
  of whatever a round does to its detector.
-/

import PeerMesh.Proofs.Detector.Grounds
import PeerMesh.Proofs.Detector.Signs
import PeerMesh.Proofs.View.Notices
import PeerMesh.Proofs.View.Peers

namespace PeerMesh

/-! ### Views -/

namespace View

/-- From one view of a node to a later one nobody has gone, and nobody was tombstoned. -/
structure Retains (before after : View) : Prop where
  sameOwner : after.selfId = before.selfId
  sameGate : after.closed = before.closed
  live : ∀ id, before.isLive id = true → after.isLive id = true
  dead : ∀ id, after.isDead id = true → before.isDead id = true

variable {view later last : View} {id : NodeId}

theorem Retains.refl (view : View) : view.Retains view := ⟨rfl, rfl, fun _ live => live, fun _ dead => dead⟩

theorem Retains.trans (first : view.Retains later) (second : later.Retains last) : view.Retains last :=
  ⟨second.sameOwner.trans first.sameOwner, second.sameGate.trans first.sameGate,
    fun id live => second.live id (first.live id live),
    fun id dead => first.dead id (second.dead id dead)⟩

theorem Retains.committed (retains : view.Retains later) : view.Retains later.committed :=
  ⟨retains.sameOwner, retains.sameGate, retains.live, retains.dead⟩

theorem enroll_retains (view : View) (record : Record) : view.Retains (view.enroll record) := by
  refine ⟨rfl, rfl, fun id live => ?_, fun _ dead => dead⟩
  rw [isLive_eq] at live ⊢
  rw [get?_enroll]
  split
  · rfl
  · exact live

theorem unbury_retains (view : View) (id : NodeId) : view.Retains (view.unbury id) := by
  refine ⟨rfl, rfl, fun _ live => live, fun other dead => ?_⟩
  have stays : ((view.dead.erase id).get? other).isSome = true := dead
  rw [Table.get?_erase] at stays
  split at stays
  · cases stays
  · exact stays

theorem modifyRecord_retains (view : View) (id : NodeId) (change : Record → Record) :
    view.Retains (view.modifyRecord id change) := by
  refine ⟨rfl, rfl, fun other live => ?_, fun _ dead => dead⟩
  rw [isLive_modifyRecord]
  exact live

theorem unlessRefused_retains {operation : Outcome Bool} (retains : view.Retains operation.view) :
    view.Retains (view.unlessRefused id operation).view := by
  unfold unlessRefused
  split
  · exact .refl view
  · exact retains

theorem addHost_retains (view : View) (now : Reading) (address : Address) (id : NodeId) :
    view.Retains (view.addHost now address id).view := by
  refine unlessRefused_retains ?_
  split
  · exact (Retains.refl view).committed
  · exact (view.enroll_retains _).committed

theorem heartbeat_retains (view : View) (now : Reading) (address : Address) (id : NodeId) :
    view.Retains (view.heartbeat now address id).view := by
  have risen := view.unbury_retains id
  refine unlessRefused_retains ?_
  dsimp only
  split
  · split
    · exact (risen.trans (modifyRecord_retains _ id _)).committed
    · exact (risen.trans (enroll_retains _ _)).committed
  · exact (risen.trans (enroll_retains _ _)).committed

theorem observe_retains (view : View) (now : Reading) (address : Address) (id : NodeId)
    (version : UInt64) : view.Retains (view.observe now address id version).view := by
  refine unlessRefused_retains ?_
  split
  · split
    · exact (Retains.refl view).committed
    · exact ((view.unbury_retains id).trans (enroll_retains _ _)).committed
  · split
    · dsimp only
      split
      · exact (view.modifyRecord_retains id _).committed
      · exact (Retains.refl view).committed
    · exact (view.enroll_retains _).committed

theorem age_retains (view : View) (now : Reading) (timeout : Duration) :
    view.Retains (view.age now timeout) := by
  refine ⟨rfl, rfl, fun id live => ?_, fun _ dead => dead⟩
  show ((view.live.mapValues _).get? id).isSome = true
  rw [Table.get?_mapValues, Option.isSome_map]
  exact live

theorem cleanup_retains (view : View) (now : Reading) (grace : Duration) :
    view.Retains (view.cleanup now grace).view := by
  have fewer (keep : NodeId → Tombstone → Bool) (id : NodeId)
      (dead : (view.dead.filter keep).contains id = true) : view.isDead id = true := by
    obtain ⟨tombstone, found⟩ := Option.isSome_iff_exists.mp dead
    show (view.dead.get? id).isSome = true
    rw [(Table.get?_of_filter found).1]
    rfl
  unfold cleanup
  dsimp only
  split
  · exact ⟨rfl, rfl, fun _ live => live, fewer _⟩
  · exact ⟨rfl, rfl, fun _ live => live, fewer _⟩

/-- **The end of a probe removes nobody unless it declares the suspect dead.** -/
theorem conclude_retains {now : Reading} {probe : Probe} {affirmed : Bool}
    (spared : (view.conclude now probe affirmed).answer = false) :
    view.Retains (view.conclude now probe affirmed).view := by
  unfold conclude at spared ⊢
  split
  · refine ⟨rfl, rfl, fun id live => ?_, fun id dead => ?_⟩
    · exact (contains_modify view.live probe.id id _).trans live
    · exact (contains_modify view.dead probe.id id _).symm.trans dead
  · rename_i notAffirmed
    rw [if_neg notAffirmed] at spared
    split
    · rename_i suspected
      rw [if_pos suspected] at spared
      unfold removeDead at spared ⊢
      split
      · rename_i member found
        rw [found] at spared
        cases spared
      · exact (Retains.refl view).committed
    · exact .refl view

/-- **Whoever is discovered is live afterwards**, if the view is not shut down, the id is that of another
node, and it is not tombstoned. -/
theorem isLive_addHost (notClosed : view.closed = false) (other : id ≠ view.selfId)
    (notDead : view.isDead id = false) (now : Reading) (address : Address) :
    (view.addHost now address id).view.isLive id = true := by
  have allowed : view.refusal? id = none := by
    unfold refusal?
    rw [notClosed, if_neg (by decide), if_neg other]
  unfold addHost unlessRefused
  rw [allowed, notDead, Bool.false_or]
  dsimp only
  split
  · assumption
  · show ((view.enroll (newRecord now address id 0)).isLive id) = true
    rw [isLive_eq, get?_enroll, newRecord_eq, if_pos rfl]
    rfl

/-- A discovery that is not refused answers something. -/
theorem exists_answer_addHost (notClosed : view.closed = false) (other : id ≠ view.selfId) (now : Reading)
    (address : Address) : ∃ isNew, (view.addHost now address id).answer = .ok isNew := by
  have allowed : view.refusal? id = none := by
    unfold refusal?
    rw [notClosed, if_neg (by decide), if_neg other]
  unfold addHost unlessRefused
  rw [allowed]
  exact ⟨_, rfl⟩

end View

/-! ### Views that nobody watches -/

namespace Watched

/-- If nobody watches the first view nobody watches the second, and everybody is retained. -/
def Retains (before after : Watched) : Prop :=
  before.registered = [] → after.registered = [] ∧ before.view.Retains after.view

variable {watched later last : Watched}

theorem Retains.refl (watched : Watched) : watched.Retains watched :=
  fun unwatched => ⟨unwatched, .refl _⟩

theorem Retains.trans (first : watched.Retains later) (second : later.Retains last) :
    watched.Retains last := by
  intro unwatched
  obtain ⟨stillUnwatched, begins⟩ := first unwatched
  obtain ⟨neverWatched, goesOn⟩ := second stillUnwatched
  exact ⟨neverWatched, begins.trans goesOn⟩

theorem run_retains {α : Type} (watched : Watched) (time : Nat) {operation : View → Reading → Outcome α}
    (retains : ∀ now, watched.view.Retains (operation watched.view now).view) :
    watched.Retains (watched.run time operation).2 := by
  intro unwatched
  rw [run_of_unwatched unwatched]
  exact ⟨unwatched, retains _⟩

theorem mapView_retains (watched : Watched) {change : View → View}
    (retains : watched.view.Retains (change watched.view)) : watched.Retains (watched.mapView change) :=
  fun unwatched => ⟨unwatched, retains⟩

/-- A digest that arrives removes nobody. -/
theorem merge_retains (watched : Watched) (time : Nat) (address : Address) (sender : NodeId)
    (digest : Digest) : watched.Retains (watched.merge time address sender digest) := by
  have heard : watched.Retains (watched.hearSender time address sender digest.heartbeat) := by
    have beat : watched.Retains
        (watched.run time fun view now => view.heartbeat now address sender).2 :=
      watched.run_retains time fun now => watched.view.heartbeat_retains now address sender
    unfold hearSender
    dsimp only
    split
    · exact beat.trans (mapView_retains _ (View.modifyRecord_retains _ sender _))
    · exact beat
  unfold merge
  split
  · refine List.foldlRecOn (motive := watched.Retains) _ _ heard fun between kept entry _ => ?_
    refine kept.trans ?_
    unfold hearEntry
    split
    · exact .refl between
    · exact run_retains between time fun now => between.view.observe_retains now _ _ _
  · exact .refl watched

/-- **A control message that arrives removes nobody.** -/
theorem receive_retains (watched : Watched) (time : Nat) (event : Event) :
    watched.Retains (watched.receive time event).2 := by
  unfold receive
  cases ControlMessage.codec.decode maxFrameSize event.data with
  | error error => exact .refl watched
  | ok message =>
    cases message with
    | notification digest | gossip digest => exact watched.merge_retains time _ _ digest
    | event kind data => exact .refl watched
    | request question =>
      dsimp only
      unfold receiveRequest
      cases question with
      | ping =>
        have beat : watched.Retains (watched.run time fun view now =>
            view.heartbeat now event.originAddress event.origin).2 :=
          watched.run_retains time fun now => watched.view.heartbeat_retains now _ _
        exact beat
      | healthCheck target address =>
        dsimp only
        split <;> exact .refl watched

end Watched

/-! ### Detectors -/

namespace Detector

/-- From one state of a detector to a later one everybody is retained, unless somebody is declared
dead. -/
structure Endures (before after : Detector) : Prop where
  deaths : before.counts.declaredDead ≤ after.counts.declaredDead
  watched : after.counts.declaredDead = before.counts.declaredDead → before.watched.Retains after.watched

variable {detector later last : Detector}

/-- Nobody is declared dead. -/
theorem endures_of_counts (counts : later.counts.declaredDead = detector.counts.declaredDead)
    (retains : detector.watched.Retains later.watched) : detector.Endures later :=
  ⟨Nat.le_of_eq counts.symm, fun _ => retains⟩

theorem Endures.refl (detector : Detector) : detector.Endures detector :=
  endures_of_counts rfl (.refl _)

theorem Endures.trans (first : detector.Endures later) (second : later.Endures last) :
    detector.Endures last := by
  have soon := first.deaths
  have late := second.deaths
  exact ⟨by omega, fun spared => (first.watched (by omega)).trans (second.watched (by omega))⟩

/-- The end of a probe. -/
theorem conclude_endures (detector : Detector) (time : Nat) (probing : Probing) :
    detector.Endures (detector.conclude time probing) := by
  unfold conclude
  dsimp only
  split
  · refine ⟨Nat.le_succ _, fun spared => ?_⟩
    have more : detector.counts.declaredDead + 1 = detector.counts.declaredDead := spared
    omega
  · rename_i spared
    have concluded : detector.watched.Retains (detector.watched.run time fun view now =>
        view.conclude now probing.probe probing.affirmed).2 := by
      intro unwatched
      rw [Watched.run_of_unwatched unwatched]
      exact ⟨unwatched, View.conclude_retains (Bool.eq_false_iff.mpr spared)⟩
    exact endures_of_counts rfl concluded

/-- **Whatever a round does to its detector, everybody is retained unless somebody is declared dead.** -/
theorem IsRoutine.endures {time : Nat} {change : Detector → Detector} (routine : IsRoutine time change)
    (detector : Detector) : detector.Endures (change detector) := by
  cases routine with
  | aging =>
    exact endures_of_counts rfl (detector.watched.mapView_retains (View.age_retains _ _ _))
  | counting change sameDeaths => exact endures_of_counts (sameDeaths _) (.refl _)
  | conclusion probing => exact detector.conclude_endures time probing
  | eviction =>
    have evicted : detector.watched.Retains (detector.watched.run time fun view now =>
        view.cleanup now detector.settings.gracePeriod).2 :=
      detector.watched.run_retains time fun now => View.cleanup_retains _ now _
    exact endures_of_counts rfl evicted

end Detector

end PeerMesh
