/-
**When a channel is called upon to announce itself, when it does, and when it stops.**

* `Mesh.announcedAt` — the moments at which a channel has announced itself.
* `Mark` — the channel is called upon, announces itself, or comes to its end; `Mesh.mark?` says what an incident
  is for it.
* `Mesh.Turns` — what this does to its announcements. `Bypasses.turns` — whatever bypasses a channel that has nothing
  of the kind queued adds none. `start_turns`, `resync_turns`, `changeDomain_turns`, `deliver_turns` — it is called
  upon; `announce_turns` — it announces itself; `close_turns`, `closeAll_turns` — it comes to its end.
* **`undergo_turns`** — whatever happens in an instant.
-/

import PeerMesh.Proofs.Mesh.Seat

namespace PeerMesh

/-- What an incident can be for a channel that announces itself. -/
inductive Mark where
  /-- It is called upon to announce itself anew. -/
  | called
  /-- It announces itself. -/
  | announced
  /-- It comes to its end. -/
  | ended
  deriving DecidableEq, Repr

namespace Mesh

variable {mesh later last : Mesh} {n m : Nat}

/-- The moments at which a channel has announced itself, latest first. -/
def announcedAt (mesh : Mesh) (n : Nat) : List Nat :=
  (mesh.log.filter fun entry => entry.2.announces n).map Prod.fst

/-- An event that does not look like an announcement. -/
def IsOther (event : Event) : Prop := event.kind ≠ ProtocolKind.publish.text

/-- The channel has no event queued that looks like an announcement. -/
def QueuesNone (n : Nat) (mesh : Mesh) : Prop := ∀ event, .broadcast event ∈ (mesh.channel n).outbox → IsOther event

/-- What an incident is for a channel. -/
def mark? (mesh : Mesh) (n : Nat) : Incident → Option Mark
  | .order (.start m) =>
    if m = n ∧ (mesh.channel n).phase = .created then
      some (if (mesh.start n).1.isOk then .called else .ended)
    else none
  | .order (.resync m) => if m = n ∧ (mesh.channel n).phase = .started then some .called else none
  | .order (.changeDomain m domain) =>
    if m = n ∧ (mesh.channel n).phase = .started ∧ (mesh.channel n).domain ≠ domain then some .called else none
  | .move (.deliver m) => if m = n ∧ mesh.isCalledUpon n = true then some .called else none
  | .move (.announce m) => if m = n ∧ mesh.isDue n = true then some .announced else none
  | .order (.close m) => if m = n ∧ (mesh.channel n).phase = .started then some .ended else none
  | .order .closeAll => if n ∈ mesh.registry ∧ (mesh.channel n).phase = .started then some .ended else none
  | _ => none

/-- What an instant does to the announcements of a channel, by what it is for the channel. -/
def Course (n : Nat) (before after : Mesh) : Option Mark → Prop
  | none => (after.channel n).phase = (before.channel n).phase ∧
    (after.channel n).announcing = (before.channel n).announcing
  | some .called => (before.channel n).phase ≠ .closed ∧ (after.channel n).phase = .started ∧
    (after.channel n).announcing = if (before.channel n).settings.publishAttempts ≠ 0 then
      some ⟨(before.channel n).settings.publishAttempts, before.time⟩ else (before.channel n).announcing
  | some .announced => (after.channel n).phase = (before.channel n).phase ∧
    ∃ announcing, (before.channel n).announcing = some announcing ∧ announcing.wakeAt ≤ before.time ∧
      (after.channel n).announcing = announcing.next before.time (before.pauseOf n)
  | some .ended => (before.channel n).phase ≠ .closed ∧ (after.channel n).phase = .closed ∧
    (after.channel n).announcing = none

/-- **What an instant does to a channel.** -/
structure Turns (n : Nat) (mark : Option Mark) (before after : Mesh) : Prop where
  time : after.time = before.time
  count : before.channels.length ≤ after.channels.length
  settings : (after.channel n).settings = (before.channel n).settings
  lost : (after.channel n).IsLost → (before.channel n).IsLost
  queues : after.QueuesNone n
  course : Course n before after mark
  log : after.announcedAt n =
    if mark = some .announced then before.time :: before.announcedAt n else before.announcedAt n

variable {mark : Option Mark}

theorem Turns.there (turns : mesh.Turns n mark later) (there : n < mesh.channels.length) :
    n < later.channels.length := there.trans_le turns.count

/-- Something else goes before. -/
theorem Turns.after (first : mesh.Turns n none later) (second : later.Turns n mark last) :
    mesh.Turns n mark last := by
  obtain ⟨phase, announcing⟩ := first.course
  have log : later.announcedAt n = mesh.announcedAt n := first.log
  have pause : later.pauseOf n = mesh.pauseOf n := by
    unfold pauseOf
    rw [first.settings]
  have course := second.course
  refine ⟨second.time.trans first.time, first.count.trans second.count, second.settings.trans first.settings,
    first.lost ∘ second.lost, second.queues, ?_, ?_⟩
  · cases mark with
    | none => exact ⟨course.1.trans phase, course.2.trans announcing⟩
    | some mark =>
      cases mark with
      | called =>
        unfold Course at course ⊢
        rwa [phase, announcing, first.settings, first.time] at course
      | announced =>
        unfold Course at course ⊢
        rwa [phase, announcing, first.time, pause] at course
      | ended =>
        unfold Course at course ⊢
        rwa [phase] at course
  · rw [second.log, first.time, log]

/-- Something else comes after. -/
theorem Turns.before (first : mesh.Turns n mark later) (second : later.Turns n none last) :
    mesh.Turns n mark last := by
  obtain ⟨phase, announcing⟩ := second.course
  have log : last.announcedAt n = later.announcedAt n := second.log
  have course := first.course
  refine ⟨second.time.trans first.time, first.count.trans second.count, second.settings.trans first.settings,
    first.lost ∘ second.lost, second.queues, ?_, log.trans first.log⟩
  cases mark with
  | none => exact ⟨phase.trans course.1, announcing.trans course.2⟩
  | some mark =>
    cases mark with
    | called =>
      unfold Course at course ⊢
      rwa [phase, announcing]
    | announced =>
      unfold Course at course ⊢
      rwa [phase, announcing]
    | ended =>
      unfold Course at course ⊢
      rwa [phase, announcing]

/-- Whatever bypasses the course of a channel that knows where it is reached brings none of its announcements. -/
theorem Leaves.turns
    (leaves : mesh.Leaves (fun time seat => (time, seat.settings, seat.phase, seat.announcing)) IsOther n later)
    (lost : (later.channel n).IsLost → (mesh.channel n).IsLost) : mesh.Turns n none later := by
  obtain ⟨since, grows, voiced⟩ := leaves.log
  obtain ⟨time, seat⟩ := Prod.mk.inj leaves.same
  obtain ⟨settings, phase, announcing⟩ : _ ∧ _ ∧ _ := by simpa using seat
  refine ⟨time, leaves.count, settings, lost, leaves.queues, ⟨phase, announcing⟩, ?_⟩
  have none : since.filter (fun entry => entry.2.announces n) = [] := by
    refine List.filter_eq_nil_iff.mpr fun entry among announces => ?_
    obtain ⟨at_, occurrence⟩ := entry
    cases occurrence with
    | posted m outgoing =>
      cases outgoing with
      | broadcast event =>
        obtain ⟨rfl, publishes⟩ : m = n ∧ event.kind = ProtocolKind.publish.text := by
          simpa [Occurrence.announces] using announces
        exact (voiced _ among event rfl).elim (fun own => own.2 publishes) fun may => may publishes
      | send address event => cases announces
    | asked | reached | called | discovered | dispatched => cases announces
  unfold announcedAt
  rw [grows, List.filter_append, none]
  rfl

/-- **Whatever bypasses a channel** brings none of its announcements. -/
theorem Bypasses.turns (bypasses : mesh.Bypasses (fun time seat => (time, seat)) IsOther n later)
    (there : n < mesh.channels.length) (nothing : mesh.QueuesNone n) : mesh.Turns n none later := by
  have leaves := bypasses there nothing
  have seat := (Prod.mk.inj leaves.same).2
  have phase : (later.channel n).phase = (mesh.channel n).phase := congrArg Channel.Seat.phase seat
  have address : (later.channel n).address = (mesh.channel n).address := congrArg Channel.Seat.address seat
  refine Leaves.turns ⟨leaves.count, leaves.domain, ?_, leaves.queues, leaves.log⟩ fun lost =>
    ⟨phase.symm.trans lost.1, address.symm.trans lost.2⟩
  exact congrArg (fun pair => (pair.1, pair.2.settings, pair.2.phase, pair.2.announcing)) leaves.same

theorem Turns.refl (nothing : mesh.QueuesNone n) : mesh.Turns n none mesh :=
  ⟨rfl, Nat.le_refl _, rfl, id, nothing, ⟨rfl, rfl⟩, rfl⟩

/-- A channel changes and queues nothing. -/
theorem change_turns (there : n < mesh.channels.length) (nothing : mesh.QueuesNone n) {change : Channel → Channel}
    (settings : (change (mesh.channel n)).settings = (mesh.channel n).settings)
    (lost : (change (mesh.channel n)).IsLost → (mesh.channel n).IsLost)
    (outbox : (change (mesh.channel n)).outbox ⊆ (mesh.channel n).outbox) (silent : mark ≠ some .announced)
    (course : Course n mesh (mesh.modify n change) mark) : mesh.Turns n mark (mesh.modify n change) := by
  have changed := channel_modify there change
  refine ⟨rfl, (List.length_modify _ _ _).ge, by rw [changed, settings], ?_, fun event queued => ?_, course, ?_⟩
  · rw [changed]
    exact lost
  · rw [changed] at queued
    exact nothing event (outbox queued)
  · rw [if_neg silent]
    rfl

/-! ### A channel is called upon -/

theorem modify_resync_turns (there : n < mesh.channels.length) (nothing : mesh.QueuesNone n)
    (started : (mesh.channel n).phase = .started) :
    mesh.Turns n (some .called) (mesh.modify n (·.resync mesh.time)) := by
  have resyncs : (mesh.channel n).resync mesh.time = { mesh.channel n with
      announcing := if (mesh.channel n).settings.publishAttempts ≠ 0 then
        some ⟨(mesh.channel n).settings.publishAttempts, mesh.time⟩ else (mesh.channel n).announcing } := by
    unfold Channel.resync
    by_cases any : (mesh.channel n).settings.publishAttempts ≠ 0
    · rw [if_pos ⟨started, any⟩, if_pos any]
    · rw [if_neg fun both => any both.2, if_neg any]
  refine change_turns there nothing ?_ (fun lost => ?_) ?_ (by decide) ⟨?_, ?_, ?_⟩
  · rw [resyncs]
    rfl
  · rw [resyncs] at lost
    exact lost
  · rw [resyncs]
    exact List.Subset.refl _
  · rw [started]
    decide
  · rw [channel_modify there, resyncs]
    exact started
  · rw [channel_modify there, resyncs]

/-- **A started channel is told to announce itself.** -/
theorem resync_turns (there : n < mesh.channels.length) (nothing : mesh.QueuesNone n)
    (started : (mesh.channel n).phase = .started) : mesh.Turns n (some .called) (mesh.resync n) := by
  have called := modify_resync_turns there nothing started
  unfold Mesh.resync
  rw [if_pos started]
  exact called.before ((enqueueLast_chore _ _).bypasses.turns (called.there there) called.queues)

/-- **A started channel is delivered a call to announce itself.** -/
theorem deliver_turns (there : n < mesh.channels.length) (nothing : mesh.QueuesNone n)
    (called : mesh.isCalledUpon n = true) : mesh.Turns n (some .called) (mesh.deliver n) := by
  have started : (mesh.channel n).phase = .started := by
    unfold isCalledUpon at called
    exact of_decide_eq_true (Bool.and_eq_true_iff.mp (Bool.and_eq_true_iff.mp called).1).1
  have heeds : mesh.Heeds (fun m event => m = n → IsOther event) n (mesh.deliver n) := mesh.deliver_heeds called
  obtain ⟨between, before, after⟩ := heeds
  have takes : mesh.Turns n none between := before.bypasses.turns there nothing
  have heeded := modify_resync_turns (takes.there there) takes.queues (takes.course.1.trans started)
  rw [takes.time] at heeded
  exact takes.after (heeded.before (after.bypasses.turns (heeded.there (takes.there there)) heeded.queues))

/-- **A started channel moves to another domain.** -/
theorem changeDomain_turns (there : n < mesh.channels.length) (nothing : mesh.QueuesNone n)
    (started : (mesh.channel n).phase = .started) {domain : String} (differs : (mesh.channel n).domain ≠ domain) :
    mesh.Turns n (some .called) (mesh.changeDomain n domain).2 := by
  have migrates (mesh : Mesh) (there : n < mesh.channels.length) (nothing : mesh.QueuesNone n) :
      mesh.Turns n none (mesh.migrate n domain) := by
    have leaves : mesh.Turns n none (mesh.postAll n (farewell (mesh.channel n) .leave)) :=
      (farewell_chore mesh n rfl .leave (by decide)).bypasses.turns there nothing
    refine leaves.after (change_turns (leaves.there there) leaves.queues rfl id (List.Subset.refl _) (by decide)
      ⟨?_, ?_⟩)
    · rw [channel_modify (leaves.there there)]
      rfl
    · rw [channel_modify (leaves.there there)]
      rfl
  have settles : mesh.Turns n none (if (mesh.channel n).isLinked then
      ((mesh.unregister n).2.migrate n domain).register n else mesh.migrate n domain) := by
    split
    · have unlisted : mesh.Turns n none (mesh.unregister n).2 := (mesh.unregister_bypasses n).turns there nothing
      have moved := unlisted.after (migrates _ (unlisted.there there) unlisted.queues)
      exact moved.after ((register_bypasses _ n).turns (moved.there there) moved.queues)
    · exact migrates mesh there nothing
  rw [changeDomain_of_moves started differs]
  exact settles.after (resync_turns (settles.there there) settles.queues (settles.course.1.trans started))

/-! ### A channel starts and ends -/

/-- **A channel that was closed is taken apart.** -/
theorem teardown_turns {between : Mesh} (open_ : (mesh.channel n).phase ≠ .closed)
    (there : n < between.channels.length) (closed : (between.channel n).phase = .closed)
    (time : between.time = mesh.time) (count : mesh.channels.length ≤ between.channels.length)
    (settings : (between.channel n).settings = (mesh.channel n).settings)
    (announced : between.announcedAt n = mesh.announcedAt n) (nothing : between.QueuesNone n) :
    mesh.Turns n (some .ended) (between.teardown n) := by
  have alters := between.teardown_alters n
  have seat := teardown_seat there
  have phase : ((between.teardown n).channel n).phase = .closed := alters.phase.trans closed
  refine ⟨time, count.trans alters.count.ge, (congrArg Channel.Seat.settings seat).trans settings, fun lost => ?_,
    fun event queued => ?_, ⟨open_, phase, congrArg Channel.Seat.announcing seat⟩, ?_⟩
  · exact nomatch phase.symm.trans lost.1
  · exact nothing event (teardown_outbox there queued)
  · unfold announcedAt at announced ⊢
    rw [alters.log]
    exact announced

/-- A channel whose links are started is called upon to announce itself. -/
theorem startLinks_turns (there : n < mesh.channels.length) (nothing : mesh.QueuesNone n)
    (started : (mesh.channel n).phase = .started) (starts : mesh.startLinks n = (.ok (), later)) :
    mesh.Turns n (some .called) later := by
  have leaves : mesh.Leaves (fun time seat => (time, seat.settings, seat.phase, seat.announcing)) IsOther n
      (mesh.startLine n).2 := mesh.startLine_bypasses n (fun _ _ _ => rfl) there nothing
  unfold Mesh.startLinks at starts
  split at starts
  · cases starts
  rename_i between lines
  rw [lines] at leaves
  have lined : mesh.Turns n none between :=
    leaves.turns fun lost => absurd lost.2 (startLine_found there lines)
  have grouped : mesh.Turns n none (between.startGroup n).2 :=
    lined.after ((startGroup_bypasses _ n).turns (lined.there there) lined.queues)
  split at starts
  · cases starts
  · rename_i linked links
    rw [links] at grouped
    obtain rfl := (Prod.mk.inj starts).2
    have called := grouped.after
      (resync_turns (grouped.there there) grouped.queues (grouped.course.1.trans started))
    exact called.before ((change_bypasses _ n rfl rfl (List.Subset.refl _)).turns (called.there there) called.queues)

/-- All parts of a channel are started. -/
theorem startParts_turns (there : n < mesh.channels.length) (nothing : mesh.QueuesNone n)
    (started : (mesh.channel n).phase = .started) (starts : mesh.startParts n = (.ok (), later)) :
    mesh.Turns n (some .called) later := by
  have opened : mesh.Turns n none (mesh.modifyGet n Channel.openQueues).2 := (mesh.open_bypasses n).turns there nothing
  unfold Mesh.startParts at starts
  split at starts
  · cases starts
  · rename_i first opens
    rw [opens] at opened
    have enlisted : mesh.Turns n none (first.modifyGet n Channel.enlist).2 :=
      opened.after ((first.enlist_bypasses n).turns (opened.there there) opened.queues)
    split at starts
    · cases starts
    · rename_i second enlists
      rw [enlists] at enlisted
      exact enlisted.after
        (startLinks_turns (enlisted.there there) enlisted.queues (enlisted.course.1.trans started) starts)

/-- **A channel is started**, or else comes to its end. -/
theorem start_turns (there : n < mesh.channels.length) (nothing : mesh.QueuesNone n)
    (created : (mesh.channel n).phase = .created) :
    mesh.Turns n (some (if (mesh.start n).1.isOk then .called else .ended)) (mesh.start n).2 := by
  let begun := mesh.modify n ({ · with phase := .started })
  have channel : begun.channel n = { mesh.channel n with phase := .started } := channel_modify there _
  have started : (begun.channel n).phase = .started := by rw [channel]
  have begunThere : n < begun.channels.length := (List.length_modify _ _ _).symm ▸ there
  have stillNothing : begun.QueuesNone n := fun event queued => nothing event (by rwa [channel] at queued)
  have pristine : (mesh.channel n).phase ≠ .closed := by
    rw [created]
    decide
  unfold Mesh.start
  rw [created]
  dsimp only
  cases parts : begun.startParts n with
  | mk result later =>
    cases result with
    | ok done =>
      have called := startParts_turns begunThere stillNothing started parts
      have reached := startParts_found begunThere parts
      obtain ⟨-, phase, announcing⟩ := called.course
      rw [channel] at announcing
      refine ⟨called.time, (List.length_modify _ _ _).ge.trans called.count, ?_, fun lost => absurd lost.2 reached,
        called.queues, ⟨pristine, phase, announcing⟩, called.log⟩
      rw [called.settings, channel]
      rfl
    | error error =>
      have alters := begun.startParts_alters n
      have time := begun.startParts_time n
      have bypasses : begun.Bypasses (fun _ seat => seat.settings) IsOther n (begun.startParts n).2 :=
        begun.startParts_bypasses n (fun _ _ _ => rfl) fun _ _ _ => rfl
      have leaves := bypasses begunThere stillNothing
      rw [parts] at alters time leaves
      have laterThere : n < later.channels.length := alters.count.symm ▸ begunThere
      have closed := channel_modify laterThere ({ · with phase := .closed })
      refine teardown_turns pristine ?_ (by rw [closed]) time ?_ ?_ ?_ fun event queued => ?_
      · exact (List.length_modify _ _ _).symm ▸ laterThere
      · exact ((List.length_modify _ _ _).trans (alters.count.trans (List.length_modify _ _ _))).ge
      · rw [closed]
        show (later.channel n).settings = _
        rw [show (later.channel n).settings = _ from leaves.same, channel]
        rfl
      · show later.announcedAt n = _
        unfold announcedAt
        rw [alters.log]
        rfl
      · rw [closed] at queued
        exact leaves.queues event queued

/-- **A started channel is closed.** -/
theorem close_turns (there : n < mesh.channels.length) (nothing : mesh.QueuesNone n)
    (started : (mesh.channel n).phase = .started) : mesh.Turns n (some .ended) (mesh.close n) := by
  have channel : (mesh.modify n ({ · with phase := .closed })).channel n = { mesh.channel n with phase := .closed } :=
    channel_modify there _
  have closed : mesh.Turns n (some .ended) (mesh.shutDown n) := by
    have leaves : (mesh.modify n ({ · with phase := .closed })).Turns n none
        ((mesh.modify n ({ · with phase := .closed })).postAll n (farewell (mesh.channel n) .shutdown)) := by
      refine (farewell_chore _ n ?_ .shutdown (by decide)).bypasses.turns ((List.length_modify _ _ _).symm ▸ there) ?_
      · rw [channel]
      · intro event queued
        rw [channel] at queued
        exact nothing event queued
    refine teardown_turns (by rw [started]; decide) (leaves.there ((List.length_modify _ _ _).symm ▸ there)) ?_
      leaves.time ((List.length_modify _ _ _).ge.trans leaves.count) ?_ leaves.log leaves.queues
    · rw [leaves.course.1, channel]
    · rw [leaves.settings, channel]
      rfl
  rw [close_of_started started]
  split
  · exact closed.before ((unregister_bypasses _ n).turns (closed.there there) closed.queues)
  · exact closed

/-- Channels are closed, and a channel among them that is not started. -/
theorem closes_turns {numbers : List Nat} : ∀ {mesh : Mesh}, n < mesh.channels.length → mesh.QueuesNone n →
    (n ∈ numbers → (mesh.channel n).phase ≠ .started) → mesh.Turns n none (numbers.foldl close mesh) := by
  induction numbers with
  | nil => exact fun _ nothing _ => .refl nothing
  | cons m rest ih =>
    intro mesh there nothing idle
    have first : mesh.Turns n none (mesh.close m) := by
      by_cases own : n = m
      · subst own
        rw [close_of_not_started (idle List.mem_cons_self)]
        exact .refl nothing
      · exact (mesh.close_bypasses own).turns there nothing
    refine first.after (ih (first.there there) first.queues fun among => ?_)
    rw [first.course.1]
    exact idle (List.mem_cons_of_mem _ among)

/-- Channels are closed, and a started one among them. -/
theorem closes_turns_of_mem {numbers : List Nat} : ∀ {mesh : Mesh}, n < mesh.channels.length → mesh.QueuesNone n →
    n ∈ numbers → (mesh.channel n).phase = .started → mesh.Turns n (some .ended) (numbers.foldl close mesh) := by
  induction numbers with
  | nil => exact fun _ _ none => nomatch none
  | cons m rest ih =>
    intro mesh there nothing among started
    by_cases own : m = n
    · subst own
      have closed := close_turns there nothing started
      refine closed.before (closes_turns (closed.there there) closed.queues fun _ => ?_)
      rw [closed.course.2.1]
      decide
    · have untouched : mesh.Turns n none (mesh.close m) := (mesh.close_bypasses (Ne.symm own)).turns there nothing
      refine untouched.after (ih (untouched.there there) untouched.queues ?_ (untouched.course.1.trans started))
      exact (List.mem_cons.mp among).resolve_left (Ne.symm own)

/-- Nobody is registered any more. -/
theorem emptied_turns (nothing : mesh.QueuesNone n) : mesh.Turns n none { mesh with registry := [] } :=
  ⟨rfl, Nat.le_refl _, rfl, id, nothing, ⟨rfl, rfl⟩, rfl⟩

/-- **All registered channels are closed**, a started one among them. -/
theorem closeAll_turns (there : n < mesh.channels.length) (nothing : mesh.QueuesNone n)
    (listed : n ∈ mesh.registry) (started : (mesh.channel n).phase = .started) :
    mesh.Turns n (some .ended) mesh.closeAll :=
  (emptied_turns nothing).after (closes_turns_of_mem there nothing listed started)

/-- All registered channels are closed, and a channel is not started. -/
theorem closeAll_turns_of_idle (there : n < mesh.channels.length) (nothing : mesh.QueuesNone n)
    (idle : (mesh.channel n).phase ≠ .started) : mesh.Turns n none mesh.closeAll :=
  (emptied_turns nothing).after (closes_turns there nothing fun _ => idle)

/-! ### A channel announces itself -/

/-- A started channel that knows where it is reached can announce itself. -/
theorem announcement_of_found {channel : Channel} (started : channel.phase = .started) (found : ¬ channel.IsLost) :
    ∃ event, channel.announcement = .ok event ∧ event.kind = ProtocolKind.publish.text := by
  obtain ⟨address, reached⟩ := Option.ne_none_iff_exists'.mp fun none => found ⟨started, none⟩
  unfold Channel.announcement Channel.protocolEvent Channel.event
  rw [reached]
  exact ⟨_, rfl, rfl⟩

/-- **A channel whose time has come announces itself.** -/
theorem announce_turns (there : n < mesh.channels.length) (nothing : mesh.QueuesNone n)
    (started : (mesh.channel n).phase = .started) (found : ¬ (mesh.channel n).IsLost) (due : mesh.isDue n = true) :
    mesh.Turns n (some .announced) (mesh.announce n) := by
  obtain ⟨announcing, announces, come⟩ := due_of_isDue due
  obtain ⟨event, made, publishes⟩ := announcement_of_found started found
  let counted := mesh.modify n fun channel =>
    { channel with announcing := announcing.next mesh.time (mesh.pauseOf n) }
  let noted := counted.note (.posted n (.broadcast event))
  have channel : noted.channel n = { mesh.channel n with
      announcing := announcing.next mesh.time (mesh.pauseOf n) } := channel_modify there _
  have once : mesh.Turns n (some .announced) noted := by
    refine ⟨rfl, (List.length_modify _ _ _).ge, by rw [channel]; rfl, fun lost => ?_, fun other queued => ?_,
      ⟨by rw [channel], announcing, announces, come, by rw [channel]⟩, ?_⟩
    · rw [channel] at lost
      exact lost
    · rw [channel] at queued
      exact nothing other queued
    · rw [if_pos rfl]
      have isOne : (Occurrence.posted n (.broadcast event)).announces n = true := by
        simp [Occurrence.announces, publishes]
      show (((mesh.time, Occurrence.posted n (.broadcast event)) :: mesh.log).filter _).map Prod.fst = _
      rw [List.filter_cons]
      dsimp only
      rw [if_pos isOne]
      rfl
  have posted : mesh.Turns n (some .announced) (counted.postAll n [.broadcast event]) :=
    once.before ((spread_chore noted (counted.channel n).group event).bypasses.turns (once.there there) once.queues)
  have voiced : (mesh.channel n).announcement.toOption.map Outgoing.broadcast = some (.broadcast event) := by
    rw [made]
    rfl
  rcases announce_of_due announces come with same | same
  · rw [same, voiced]
    exact posted
  · rw [same, voiced]
    exact posted.before ((enqueueFirst_chore _ _).bypasses.turns (posted.there there) posted.queues)

/-! ### Whatever happens -/

/-- What does not concern a channel is nothing to it. -/
theorem mark?_of_untouched {incident : Incident} (untouched : ¬ mesh.Touches n incident) :
    mesh.mark? n incident = none := by
  unfold mark?
  split
  · exact if_neg fun both => untouched both.1
  · exact if_neg fun both => untouched both.1
  · exact if_neg fun both => untouched both.1
  · exact if_neg fun both => untouched both
  · exact if_neg fun both => untouched both.1
  · exact if_neg fun both => untouched both.1
  · exact if_neg fun both => untouched both.1
  · rfl

/-- **Whatever happens in an instant.** -/
theorem undergo_turns (there : n < mesh.channels.length) (nothing : mesh.QueuesNone n)
    (found : ¬ (mesh.channel n).IsLost)
    (running : (mesh.channel n).announcing.isSome = true → (mesh.channel n).phase = .started) {incident : Incident}
    (brief : incident.isBrief = true) (may : ∀ event, mesh.Commissions n event incident → IsOther event) :
    mesh.Turns n (mesh.mark? n incident) (mesh.undergo incident) := by
  by_cases touches : mesh.Touches n incident
  · unfold mark?
    unfold Touches at touches
    split at touches
    · subst touches
      dsimp only [undergo, carryOut, answering]
      split
      · rename_i created
        exact start_turns there nothing created.2
      · rename_i begun
        rw [start_of_begun fun created => begun ⟨rfl, created⟩]
        exact .refl nothing
    · subst touches
      dsimp only [undergo, carryOut]
      split
      · rename_i started
        exact close_turns there nothing started.2
      · rename_i notStarted
        rw [close_of_not_started fun started => notStarted ⟨rfl, started⟩]
        exact .refl nothing
    · subst touches
      dsimp only [undergo, carryOut]
      split
      · rename_i started
        exact resync_turns there nothing started.2
      · rename_i notStarted
        rw [resync_of_not_started fun started => notStarted ⟨rfl, started⟩]
        exact .refl nothing
    · subst touches
      dsimp only [undergo, carryOut, answering]
      split
      · rename_i moves
        exact changeDomain_turns there nothing moves.2.1 moves.2.2
      · rename_i stays
        rw [changeDomain_of_stays fun moves => stays ⟨rfl, moves⟩]
        exact .refl nothing
    · subst touches
      dsimp only [undergo, perform]
      split
      · rename_i due
        obtain ⟨announcing, announces, -⟩ := due_of_isDue due.2
        exact announce_turns there nothing (running (announces ▸ rfl)) found due.2
      · rename_i early
        rw [announce_of_idle (Bool.eq_false_iff.mpr fun due => early ⟨rfl, due⟩)]
        exact .refl nothing
    · dsimp only [undergo, carryOut]
      split
      · rename_i ends
        exact closeAll_turns there nothing ends.1 ends.2
      · rename_i notStarted
        exact closeAll_turns_of_idle there nothing fun started => notStarted ⟨touches, started⟩
    · obtain ⟨rfl, called⟩ := touches
      dsimp only [undergo, perform]
      rw [if_pos ⟨rfl, called⟩]
      exact deliver_turns there nothing called
    · cases brief
    · cases touches
  · rw [mark?_of_untouched touches]
    exact (undergo_bypasses there brief touches may).turns there nothing

end Mesh

end PeerMesh
