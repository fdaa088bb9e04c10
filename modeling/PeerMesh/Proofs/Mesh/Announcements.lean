/-
**The announcements of a channel, and the calls that bring them about.**

* `Announcing.series` — the announcements that a call brings about, up to a limit; `Announcing.schedule` — those of
  all calls, each series cut off by the next call.
* `Mesh.Ledger` — when a channel was called upon to announce itself, and when it came to its end; `Mesh.ledgerOf` —
  the ledger of a run of instants.
* `Mesh.Suits` — no announcement is overslept, and nobody else queues one. `Ledger.IsServed` — how far the last
  call has been answered; one lemma for each mark.
* **`announcements_on_schedule`** — a channel has announced itself exactly on schedule.
-/

import PeerMesh.Proofs.Mesh.Attempts
import PeerMesh.Proofs.Mesh.Instants
import PeerMesh.Proofs.Mesh.Isolation
import Mathlib.Data.List.Chain

namespace PeerMesh

namespace Announcing

variable {pause count begun limit : Nat}

/-- The moments before a limit at which a series of announcements is made. -/
def series (pause count begun limit : Nat) : List Nat :=
  ((List.range count).map (begun + · * pause)).filter (· < limit)

/-- The moments at which announcements are made, by the calls for them: each series lasts until the next call. -/
def schedule (pause count : Nat) : (calls : List Nat) → (limit : Nat) → List Nat
  | [], _ => []
  | call :: rest, limit => series pause count call (rest.headD limit) ++ schedule pause count rest limit

/-- Up to the limit are the first announcements of a series. -/
theorem series_eq {made : Nat} (atMost : made ≤ count) (before : ∀ i < made, begun + i * pause < limit)
    (left : made < count → limit ≤ begun + made * pause) :
    series pause count begun limit = (List.range made).map (begun + · * pause) := by
  obtain ⟨rest, rfl⟩ := Nat.exists_eq_add_of_le atMost
  have taken : ((List.range made).map (begun + · * pause)).filter (· < limit) =
      (List.range made).map (begun + · * pause) := by
    refine List.filter_eq_self.mpr fun moment among => ?_
    obtain ⟨i, early, rfl⟩ := List.mem_map.mp among
    exact decide_eq_true (before i (List.mem_range.mp early))
  have dropped : (((List.range rest).map (made + ·)).map (begun + · * pause)).filter (· < limit) = [] := by
    refine List.filter_eq_nil_iff.mpr fun moment among isBefore => ?_
    obtain ⟨_, late, rfl⟩ := List.mem_map.mp among
    obtain ⟨i, further, rfl⟩ := List.mem_map.mp late
    have limited := left (by have := List.mem_range.mp further; omega)
    have isEarly := of_decide_eq_true isBefore
    rw [Nat.add_mul] at isEarly
    omega
  unfold series
  rw [List.range_add, List.map_append, List.filter_append, taken, dropped, List.append_nil]

/-- Another call ends the series before it, and begins one of its own. -/
theorem schedule_concat (calls : List Nat) (call : Nat) :
    schedule pause count (calls ++ [call]) limit =
      schedule pause count calls call ++ series pause count call limit := by
  induction calls with
  | nil => simp [schedule]
  | cons first rest ih =>
    have next : (rest ++ [call]).headD limit = rest.headD call := by cases rest <;> rfl
    rw [List.cons_append, schedule, schedule, ih, next, List.append_assoc]

end Announcing

namespace Mesh

variable {mesh later : Mesh} {n : Nat}

/-- When a channel was called upon to announce itself, and when it came to its end. -/
structure Ledger where
  /-- Earliest first. -/
  calls : List Nat
  ending : Option Nat
  deriving DecidableEq, Repr

/-- What an instant is for a channel. -/
def markAt (mesh : Mesh) (n : Nat) : Instant → Option Mark
  | .happens incident _ => mesh.mark? n incident
  | .asks .. | .asksFromOutside .. | .schedules _ | .passes _ => none

/-- A mark is entered into the ledger. -/
def Ledger.enter (ledger : Ledger) (time : Nat) : Option Mark → Ledger
  | some .called => { ledger with calls := ledger.calls ++ [time] }
  | some .ended => { ledger with ending := some time }
  | some .announced | none => ledger

/-- The ledger goes on. -/
def ledgerFrom (n : Nat) (ledger : Ledger) : Mesh → List Instant → Ledger
  | _, [] => ledger
  | mesh, instant :: rest => ledgerFrom n (ledger.enter mesh.time (mesh.markAt n instant)) (mesh.live instant) rest

/-- The ledger of a run. -/
def ledgerOf (mesh : Mesh) (n : Nat) (instants : List Instant) : Ledger := ledgerFrom n ⟨[], none⟩ mesh instants

/-- No announcement is overslept, and nobody queues an event that looks like one. -/
def Suits (mesh : Mesh) (n : Nat) : Instant → Prop
  | .happens incident _ => ∀ event, mesh.Commissions n event incident → IsOther event
  | .passes span => ∀ announcing ∈ (mesh.channel n).announcing, mesh.time + span ≤ announcing.wakeAt
  | .asks .. | .asksFromOutside .. | .schedules _ => True

/-- Every instant of a run suits the announcements of a channel. -/
def SuitsAll (n : Nat) : Mesh → List Instant → Prop
  | _, [] => True
  | mesh, instant :: rest => mesh.Suits n instant ∧ (mesh.live instant).SuitsAll n rest

/-- No call falls on an announcement for which the call before it has called. -/
def Ledger.IsApart (pause count : Nat) (ledger : Ledger) : Prop :=
  ledger.calls.IsChain fun call next => ∀ i < count, call + i * pause ≠ next

/-- The moment up to which announcements are due. -/
def Ledger.stop (ledger : Ledger) (time : Nat) : Nat := ledger.ending.getD time

/-- **How far the last call has been answered**: what was announced, and what is still to be announced. -/
def Ledger.IsServed (pause count : Nat) (past : List Nat) (ledger : Ledger) (time : Nat)
    (announcing : Option Announcing) (announced : List Nat) : Prop :=
  ledger.calls = [] ∧ announcing = none ∧ announced = past ∨
    ∃ earlier call made, ledger.calls = earlier ++ [call] ∧ made ≤ count ∧
      announced = (Announcing.schedule pause count earlier call ++
        (List.range made).map (call + · * pause)).reverse ++ past ∧
      (∀ i < made, call + i * pause ≤ ledger.stop time) ∧
      (made < count → ledger.stop time ≤ call + made * pause) ∧
      announcing = if ledger.ending = none ∧ made < count then some ⟨count - made, call + made * pause⟩ else none

namespace Ledger

variable {pause count time : Nat} {past announced : List Nat} {ledger : Ledger} {announcing : Option Announcing}

/-- Time passes, but not past the next announcement. -/
theorem IsServed.pass (served : ledger.IsServed pause count past time announcing announced) {span : Nat}
    (awaited : ∀ one ∈ announcing, time + span ≤ one.wakeAt) :
    ledger.IsServed pause count past (time + span) announcing announced := by
  rcases served with none | ⟨earlier, call, made, calls, atMost, were, before, left, still⟩
  · exact .inl none
  · refine .inr ⟨earlier, call, made, calls, atMost, were, fun i early => ?_, fun more => ?_, still⟩
    · have was := before i early
      unfold stop at was ⊢
      cases ending : ledger.ending with
      | none =>
        rw [ending] at was
        exact Nat.le_add_right_of_le was
      | some moment =>
        rw [ending] at was
        exact was
    · have was := left more
      unfold stop at was ⊢
      cases ending : ledger.ending with
      | none =>
        rw [if_pos ⟨ending, more⟩] at still
        exact awaited _ still
      | some moment =>
        rw [ending] at was
        exact was

/-- The next announcement is made when its time has come. -/
theorem IsServed.announce (served : ledger.IsServed pause count past time announcing announced)
    {one : Announcing} (next : announcing = some one) (come : one.wakeAt ≤ time) :
    ledger.IsServed pause count past time (one.next time pause) (time :: announced) := by
  rcases served with ⟨-, none, -⟩ | ⟨earlier, call, made, calls, atMost, were, before, left, still⟩
  · exact nomatch next.symm.trans none
  · rw [next] at still
    have going : ledger.ending = none ∧ made < count := by
      by_contra stopped
      rw [if_neg stopped] at still
      cases still
    obtain ⟨lasts, more⟩ := going
    rw [if_pos ⟨lasts, more⟩] at still
    obtain rfl := Option.some.inj still
    have stop : ledger.stop time = time := by
      unfold Ledger.stop
      rw [lasts]
      rfl
    have now : call + made * pause = time := Nat.le_antisymm come (stop ▸ left more)
    have onwards : call + (made + 1) * pause = time + pause := by
      rw [Nat.add_mul, ← now]
      omega
    refine .inr ⟨earlier, call, made + 1, calls, more, ?_, fun i early => ?_, fun _ => ?_, ?_⟩
    · rw [were, List.range_succ, List.map_append, List.map_singleton, now]
      simp
    · rcases Nat.lt_succ_iff_lt_or_eq.mp early with was | rfl
      · exact before i was
      · rw [stop]
        exact now.le
    · rw [stop, onwards]
      exact Nat.le_add_right _ _
    · rw [onwards]
      unfold Announcing.next
      dsimp only
      by_cases last : count - made ≤ 1
      · rw [if_pos last, if_neg]
        omega
      · rw [if_neg last, if_pos ⟨lasts, by omega⟩]
        congr 2

/-- The channel is called upon anew, and not when an announcement is due. -/
theorem IsServed.call (served : ledger.IsServed pause count past time announcing announced)
    (lasts : ledger.ending = none) (apart : (ledger.enter time (some .called)).IsApart pause count) :
    (ledger.enter time (some .called)).IsServed pause count past time
      (if count ≠ 0 then some ⟨count, time⟩ else announcing) announced := by
  have stop : ledger.stop time = time := by
    unfold Ledger.stop
    rw [lasts]
    rfl
  -- whatever was announced before belongs to the earlier calls, none of whose announcements is due now
  have settled : announced = (Announcing.schedule pause count ledger.calls time).reverse ++ past := by
    rcases served with ⟨calls, -, were⟩ | ⟨earlier, call, made, calls, atMost, were, before, left, -⟩
    · rw [calls, were]
      rfl
    · have missed (i : Nat) (inSeries : i < count) : call + i * pause ≠ time := by
        have chain : (earlier ++ [call] ++ [time]).IsChain fun call next => ∀ i < count, call + i * pause ≠ next :=
          calls ▸ apart
        exact (List.isChain_append.mp chain).2.2 call (by simp) time (by simp) i inSeries
      rw [stop] at before left
      rw [calls, Announcing.schedule_concat, were, Announcing.series_eq atMost ?_ left]
      exact fun i early => Nat.lt_of_le_of_ne (before i early) (missed i (early.trans_le atMost))
  refine .inr ⟨ledger.calls, time, 0, rfl, Nat.zero_le _, ?_, fun i early => absurd early (Nat.not_lt_zero i), ?_, ?_⟩
  · rw [settled]
    simp
  · intro _
    show ledger.stop time ≤ _
    rw [stop]
    exact Nat.le_add_right _ _
  · by_cases any : count = 0
    · subst any
      rcases served with ⟨-, none, -⟩ | ⟨_, _, _, -, -, -, -, -, still⟩
      · simpa using none
      · simpa using still
    · have positive : 0 < count := Nat.pos_of_ne_zero any
      rw [if_pos any, if_pos ⟨lasts, positive⟩]
      simp

/-- The channel comes to its end. -/
theorem IsServed.finish (served : ledger.IsServed pause count past time announcing announced)
    (lasts : ledger.ending = none) :
    (ledger.enter time (some .ended)).IsServed pause count past time none announced := by
  have stop : (ledger.enter time (some .ended)).stop time = ledger.stop time := by
    unfold Ledger.stop
    rw [lasts]
    rfl
  rcases served with ⟨calls, -, were⟩ | ⟨earlier, call, made, calls, atMost, were, before, left, -⟩
  · exact .inl ⟨calls, rfl, were⟩
  · refine .inr ⟨earlier, call, made, calls, atMost, were, ?_, ?_, ?_⟩
    · rw [stop]
      exact before
    · rw [stop]
      exact left
    · exact (if_neg fun both => nomatch both.1).symm

/-- What was announced is on schedule. -/
theorem IsServed.on_schedule (served : ledger.IsServed pause count past time announcing announced)
    (pauses : 0 < pause) :
    ∃ limit, (limit = ledger.stop time ∨ limit = ledger.stop time + 1) ∧
      announced = (Announcing.schedule pause count ledger.calls limit).reverse ++ past := by
  rcases served with ⟨calls, -, were⟩ | ⟨earlier, call, made, calls, atMost, were, before, left, -⟩
  · exact ⟨_, .inl rfl, by rw [calls, were]; rfl⟩
  · have upTo {limit : Nat} (all : ∀ i < made, call + i * pause < limit)
        (rest : made < count → limit ≤ call + made * pause) :
        announced = (Announcing.schedule pause count ledger.calls limit).reverse ++ past := by
      rw [calls, Announcing.schedule_concat, Announcing.series_eq atMost all rest, were]
    by_cases last : ∃ i < made, call + i * pause = ledger.stop time
    · -- an announcement was made at the very moment at which the channel stops
      obtain ⟨i, early, now⟩ := last
      refine ⟨_, .inr rfl, upTo (fun i early => Nat.lt_succ_of_le (before i early)) fun _ => ?_⟩
      have further : i * pause + pause ≤ made * pause := by
        rw [← Nat.succ_mul]
        exact Nat.mul_le_mul_right _ early
      omega
    · refine ⟨_, .inl rfl, upTo (fun i early => Nat.lt_of_le_of_ne (before i early) fun now => ?_) left⟩
      exact last ⟨i, early, now⟩

end Ledger

/-! ### A run -/

/-- **The channel does what its ledger calls for.** -/
structure Reports (pause count : Nat) (past : List Nat) (n : Nat) (ledger : Ledger) (mesh : Mesh) : Prop where
  there : n < mesh.channels.length
  nothing : mesh.QueuesNone n
  found : ¬ (mesh.channel n).IsLost
  running : (mesh.channel n).announcing.isSome = true → (mesh.channel n).phase = .started
  pauses : mesh.pauseOf n = pause
  attempts : (mesh.channel n).settings.publishAttempts = count
  ending : ledger.ending.isSome = true → (mesh.channel n).phase = .closed
  served : ledger.IsServed pause count past mesh.time (mesh.channel n).announcing (mesh.announcedAt n)

variable {pause count : Nat} {past : List Nat} {ledger : Ledger}

/-- A channel that is not closed has not come to its end. -/
theorem Reports.lasts (reports : mesh.Reports pause count past n ledger) (open_ : (mesh.channel n).phase ≠ .closed) :
    ledger.ending = none := by
  rw [← Option.not_isSome_iff_eq_none]
  exact fun ended => open_ (reports.ending ended)

/-- **Whatever an instant is for the channel**, it is entered into the ledger and answered. -/
theorem Reports.turn (reports : mesh.Reports pause count past n ledger) {mark : Option Mark}
    (turns : mesh.Turns n mark later) (apart : (ledger.enter mesh.time mark).IsApart pause count) :
    later.Reports pause count past n (ledger.enter mesh.time mark) := by
  have pauses : later.pauseOf n = pause := by
    rw [← reports.pauses]
    unfold pauseOf
    rw [turns.settings]
  have attempts := (congrArg Settings.publishAttempts turns.settings).trans reports.attempts
  have log := turns.log
  have course := turns.course
  suffices rest : ((later.channel n).announcing.isSome = true → (later.channel n).phase = .started) ∧
      ((ledger.enter mesh.time mark).ending.isSome = true → (later.channel n).phase = .closed) ∧
      (ledger.enter mesh.time mark).IsServed pause count past mesh.time (later.channel n).announcing
        (later.announcedAt n) by
    obtain ⟨running, ending, served⟩ := rest
    exact ⟨turns.there reports.there, turns.queues, fun lost => reports.found (turns.lost lost), running, pauses,
      attempts, ending, turns.time ▸ served⟩
  cases mark with
  | none =>
    obtain ⟨phase, announcing⟩ := course
    rw [phase, announcing, log, if_neg (by decide)]
    exact ⟨reports.running, reports.ending, reports.served⟩
  | some mark =>
    cases mark with
    | called =>
      obtain ⟨open_, phase, announcing⟩ := course
      have lasts := reports.lasts open_
      have silent : later.announcedAt n = mesh.announcedAt n := log
      rw [phase, announcing, silent, reports.attempts]
      refine ⟨fun _ => rfl, fun ended => ?_, reports.served.call lasts apart⟩
      have stillLasts : (ledger.enter mesh.time (some .called)).ending = none := lasts
      rw [stillLasts] at ended
      cases ended
    | announced =>
      obtain ⟨phase, one, next, come, announcing⟩ := course
      have started := reports.running (next ▸ rfl)
      rw [phase, announcing, log, if_pos rfl, reports.pauses]
      exact ⟨fun _ => started, reports.ending, reports.served.announce next come⟩
    | ended =>
      obtain ⟨open_, phase, announcing⟩ := course
      rw [phase, announcing, log, if_neg (by decide)]
      exact ⟨fun some => (nomatch some), fun _ => rfl, reports.served.finish (reports.lasts open_)⟩

/-- An instant that is not time that passes. -/
theorem Reports.live_turns (reports : mesh.Reports pause count past n ledger) {instant : Instant}
    (suits : mesh.Suits n instant) (still : ∀ span, instant ≠ .passes span) :
    mesh.Turns n (mesh.markAt n instant) (mesh.live instant) := by
  cases instant with
  | happens incident brief =>
    exact undergo_turns reports.there reports.nothing reports.found reports.running brief suits
  | asks m address event => exact (mesh.request_chore m address event).bypasses.turns reports.there reports.nothing
  | asksFromOutside address event =>
    exact (requestFrom_chore (pingWithin_chore 1) mesh mesh.outsider.own address event).bypasses.turns
      reports.there reports.nothing
  | schedules agenda =>
    exact (mesh.chore_of_waiting agenda mesh.gate mesh.errands).bypasses.turns reports.there reports.nothing
  | passes span => exact absurd rfl (still span)

/-- **One instant.** -/
theorem Reports.live (reports : mesh.Reports pause count past n ledger) {instant : Instant}
    (suits : mesh.Suits n instant) (apart : (ledger.enter mesh.time (mesh.markAt n instant)).IsApart pause count) :
    (mesh.live instant).Reports pause count past n (ledger.enter mesh.time (mesh.markAt n instant)) := by
  cases instant with
  | passes span =>
    exact ⟨reports.there, reports.nothing, reports.found, reports.running, reports.pauses, reports.attempts,
      reports.ending, reports.served.pass suits⟩
  | happens | asks | asksFromOutside | schedules =>
    exact reports.turn (reports.live_turns suits fun _ same => nomatch same) apart

/-- Calls that are apart were so before. -/
theorem Ledger.IsApart.of_enter {mark : Option Mark} {time : Nat}
    (apart : (ledger.enter time mark).IsApart pause count) : ledger.IsApart pause count := by
  unfold Ledger.enter at apart
  split at apart
  · exact (List.isChain_append.mp apart).1
  · exact apart
  · exact apart
  · exact apart

theorem isApart_of_ledgerFrom {instants : List Instant} : ∀ {mesh : Mesh} {ledger : Ledger},
    (ledgerFrom n ledger mesh instants).IsApart pause count → ledger.IsApart pause count := by
  induction instants with
  | nil => exact fun apart => apart
  | cons instant rest ih => exact fun apart => (ih apart).of_enter

/-- **One instant after another.** -/
theorem Reports.liveAll {instants : List Instant} : ∀ {mesh : Mesh} {ledger : Ledger},
    mesh.Reports pause count past n ledger → mesh.SuitsAll n instants →
      (ledgerFrom n ledger mesh instants).IsApart pause count →
        (mesh.liveAll instants).Reports pause count past n (ledgerFrom n ledger mesh instants) := by
  induction instants with
  | nil => exact fun reports _ _ => reports
  | cons instant rest ih =>
    exact fun reports suits apart => ih (reports.live suits.1 (isApart_of_ledgerFrom apart)) suits.2 apart

/-- The announcements of a channel since an earlier mesh are those that its ledger calls for. -/
def IsOnSchedule (n : Nat) (span : Duration) (ledger : Ledger) (before after : Mesh) : Prop :=
  ∃ limit, (limit = ledger.stop after.time ∨ limit = ledger.stop after.time + 1) ∧
    after.announcedAt n =
      (Announcing.schedule span.ticks (before.channel n).settings.publishAttempts ledger.calls limit).reverse ++
        before.announcedAt n

/-- **An event calls upon a channel that is still there to announce itself** exactly if it asks all to, or it among
others, and the channel does not hear itself. -/
def IsMeantFor (n : Nat) (mesh : Mesh) : Prop :=
  (mesh.mark? n (.move (.deliver n)) = some .called ↔
    (mesh.channel n).phase = .started ∧ (mesh.channel n).isGone = false ∧ ∃ job consumer request,
      (mesh.channel n).consumer.takeDelivery? = some (job, consumer) ∧ job.task.listener = .protocol ∧
        ProtocolKind.ofText? job.task.event.kind = some .resync ∧
          ForceResync.codec.decode maxFrameSize job.task.event.data = .ok request ∧
            ∀ targets, request.targets = some targets → (mesh.channel n).selfId ∈ targets) ∧
  ∀ event, event.origin = (mesh.channel n).consumer.selfId →
    (mesh.channel n).consumer.accept event = (mesh.channel n).consumer

theorem isMeantFor (n : Nat) (mesh : Mesh) : mesh.IsMeantFor n := by
  refine ⟨?_, fun event own => if_neg fun wants => ?_⟩
  · have asked (request : ForceResync) : Channel.isAsked (mesh.channel n).selfId request = true ↔
        ∀ targets, request.targets = some targets → (mesh.channel n).selfId ∈ targets := by
      unfold Channel.isAsked
      cases request.targets with
      | none => simp
      | some targets => simp
    have marked : mesh.mark? n (.move (.deliver n)) = some .called ↔ mesh.isCalledUpon n = true := by
      unfold mark?
      simp
    rw [marked]
    unfold isCalledUpon Channel.heedsResync
    constructor
    · intro called
      obtain ⟨isThere, called⟩ := Bool.and_eq_true_iff.mp called
      obtain ⟨started, present⟩ := Bool.and_eq_true_iff.mp isThere
      split at called
      · cases called
      · rename_i job consumer takes
        obtain ⟨ours, heeds⟩ := Bool.and_eq_true_iff.mp called
        obtain ⟨kind, meant⟩ := Bool.and_eq_true_iff.mp heeds
        split at meant
        · cases meant
        · rename_i request reads
          exact ⟨of_decide_eq_true started, by simpa using present, job, consumer, request, takes,
            of_decide_eq_true ours, of_decide_eq_true kind, reads, (asked request).mp meant⟩
    · rintro ⟨started, present, job, consumer, request, takes, ours, kind, reads, meant⟩
      rw [takes, started, present]
      dsimp only
      rw [ours, kind, reads]
      dsimp only
      rw [(asked request).mpr meant]
      rfl
  · unfold Consumer.wants at wants
    simp [own] at wants

/-- **A channel announces itself exactly on schedule**: as often as its settings say after each call, until the next
call or the end, with a pause of as many milliseconds as are not shorter than the one in the settings. It matters
neither whether its announcements get through nor what else happens. The calls come at whole milliseconds, as all
that happens to a mesh does, and from there the timer rounds a pause as it rounds the moment at which it is over
(`Duration.ticks_of_deadline`). -/
theorem announcements_on_schedule {instants : List Instant} {span : Duration} (there : n < mesh.channels.length)
    (idle : (mesh.channel n).announcing = none) (nothing : mesh.QueuesNone n) (found : ¬ (mesh.channel n).IsLost)
    (least : (mesh.channel n).settings.publishIntervalMin = span)
    (most : (mesh.channel n).settings.publishIntervalMax = span) (lasts : 0 < span.nanos)
    (suits : mesh.SuitsAll n instants)
    (apart : (mesh.ledgerOf n instants).IsApart span.ticks (mesh.channel n).settings.publishAttempts) :
    mesh.IsOnSchedule n span (mesh.ledgerOf n instants) (mesh.liveAll instants) ∧
      ∀ between : Mesh, between.IsMeantFor n := by
  refine ⟨?_, isMeantFor n⟩
  have pauses : mesh.pauseOf n = span.ticks := by
    unfold pauseOf Duration.between
    dsimp only
    rw [least, most, if_pos (Nat.le_refl _)]
  have reports : mesh.Reports span.ticks (mesh.channel n).settings.publishAttempts (mesh.announcedAt n) n
      ⟨[], none⟩ :=
    ⟨there, nothing, found, fun some => absurd (idle ▸ some) (by decide), pauses, rfl, fun some => (nomatch some),
      .inl ⟨rfl, idle, rfl⟩⟩
  have positive : 0 < span.ticks := by
    unfold Duration.ticks Duration.nanosPerMilli
    omega
  exact (reports.liveAll suits apart).served.on_schedule positive

/-! ### A herald -/

/-- A channel that announces itself three times, with equal pauses, is created. -/
def herald (span : Duration) : Mesh :=
  let settings := { dweller "a" 8 with
    publishAttempts := 3
    publishIntervalMin := span
    publishIntervalMax := span }
  (empty default).undergo (.create "a" settings true)

/-- The herald announces itself if its time has come. -/
def heralds : Instant := .happens (.move (.announce 0)) rfl

/-- The herald is started, told to announce itself anew after a while, and closed. -/
def reign : List Instant :=
  [.happens (.order (.start 0)) rfl, heralds, .passes 50, .happens (.order (.resync 0)) rfl, heralds, .passes 100,
    heralds, .happens (.order (.close 0)) rfl]

/-- The herald is on schedule with pauses of a tenth of a second: two announcements are missing from its first
series, and one from its second. -/
theorem announcements_on_schedule_herald :
    let mesh := herald (.ofMillis 100)
    0 < mesh.channels.length ∧ mesh.SuitsAll 0 reign ∧ mesh.ledgerOf 0 reign = ⟨[0, 50], some 150⟩ ∧
      mesh.IsOnSchedule 0 (.ofMillis 100) (mesh.ledgerOf 0 reign) (mesh.liveAll reign) ∧
      (mesh.liveAll reign).announcedAt 0 = [150, 50, 0] := by
  intro mesh
  have there : 0 < mesh.channels.length := by decide +kernel
  have ledger : mesh.ledgerOf 0 reign = ⟨[0, 50], some 150⟩ := by decide +kernel
  have nothing : mesh.QueuesNone 0 := fun event queued => by cases queued
  have suits : mesh.SuitsAll 0 reign := by
    refine ⟨fun _ none => (nomatch none), fun _ none => (nomatch none), ?_, fun _ none => (nomatch none),
      fun _ none => (nomatch none), ?_, fun _ none => (nomatch none), fun _ none => (nomatch none), trivial⟩
    · unfold Suits
      decide +kernel
    · unfold Suits
      decide +kernel
  have apart : (mesh.ledgerOf 0 reign).IsApart (Duration.ofMillis 100).ticks
      (mesh.channel 0).settings.publishAttempts := by
    rw [ledger]
    exact .cons_cons (by decide +kernel) (.singleton 50)
  have found : ¬ (mesh.channel 0).IsLost := fun lost => absurd lost.1 (by decide +kernel)
  exact ⟨there, suits, ledger,
    (announcements_on_schedule there rfl nothing found rfl rfl (by decide +kernel) suits apart).1,
    by decide +kernel⟩

/-- **Pauses are whole milliseconds**: with pauses of a tenth of a millisecond the second announcement is not made
after one of them, but after ten. -/
theorem herald_takes_its_time :
    let span : Duration := ⟨100000⟩
    let mesh := herald span
    let after := mesh.liveAll [.happens (.order (.start 0)) rfl, heralds, .passes 1, heralds]
    (mesh.channel 0).settings.publishIntervalMin = span ∧ (mesh.channel 0).settings.publishIntervalMax = span ∧
      (mesh.channel 0).settings.publishAttempts = 3 ∧ (after.channel 0).phase = .started ∧ after.time = 1 ∧
      0 + 2 * span.nanos < after.time * Duration.nanosPerMilli ∧
      (after.announcedAt 0).map (· * Duration.nanosPerMilli) = [1000000, 0] ∧
      (after.announcedAt 0).map (· * Duration.nanosPerMilli) ≠
        ((List.range 3).map fun i => 0 + i * span.nanos).reverse := by
  decide +kernel

end Mesh

end PeerMesh
