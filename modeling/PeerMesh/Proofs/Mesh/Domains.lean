/-
**The domain of a channel, and the events that carry it.**

* `Mesh.Lasts` — a trait of a channel that depends neither on its phase nor on where it is reached nor on what it
  has to announce. **`undergo_lasts`** — it lasts whatever happens in an instant, unless the channel moves.
* `Channel.IsSettled` — a channel heeds the domain that its events are for, and a started one knows where it is
  reached. `undergo_settled` — whatever happens; **`isSettled_of_history`** — every channel is settled.
* `Mesh.StaysIn` — in a run a channel has stayed in a domain, and what it has broadcast was for it, unless it was
  queued before or the caller named its scope. **`staysIn_liveAll`** — so it is unless the channel moves.
-/

import PeerMesh.Proofs.Mesh.Instants
import PeerMesh.Proofs.Mesh.Books

namespace PeerMesh

/-- Settings that a channel can work with let it announce itself. -/
theorem Settings.publishAttempts_ne_zero {settings : Settings} (valid : settings.validate = .ok ()) :
    settings.publishAttempts ≠ 0 := by
  have needed : ("publish_max_attempts", settings.publishAttempts) ∈ settings.neededCounts := by
    simp [Settings.neededCounts]
  exact (Settings.needs_of_validate valid).2.1 _ needed

/-- A channel heeds the domain that its events are for, knows where it is reached once it is started, and has to
announce itself. -/
structure Channel.IsSettled (channel : Channel) : Prop where
  heeds : channel.consumer.domain = channel.domain
  found : ¬ channel.IsLost
  announces : channel.settings.publishAttempts ≠ 0

namespace Mesh

variable {τ : Type} {trait : Nat → Channel.Seat → τ} {allowed : Event → Prop} {mesh later last : Mesh} {n m : Nat}

/-- The trait depends on what lasts: not on time, nor on phases, addresses and announcements. -/
def Lasts (trait : Nat → Channel.Seat → τ) : Prop := ∀ time since seat phase address announcing,
  trait since { seat with phase := phase, address := address, announcing := announcing } = trait time seat

/-! ### What the channel does itself -/

/-- The channel enters another phase. -/
theorem phase_lasts (lasts : Lasts trait) (mesh : Mesh) (n : Nat) (phase : Phase) :
    mesh.Bypasses trait allowed n (mesh.modify n ({ · with phase := phase })) :=
  mesh.change_bypasses n rfl
    (lasts mesh.time mesh.time (mesh.channel n).seat phase (mesh.channel n).address (mesh.channel n).announcing)
    (List.Subset.refl _)

theorem teardown_lasts (lasts : Lasts trait) (mesh : Mesh) (n : Nat) :
    mesh.Bypasses trait allowed n (mesh.teardown n) := by
  intro there queues
  have alters := mesh.teardown_alters n
  refine ⟨alters.count.ge, alters.domain, ?_, fun event queued => ?_, [], alters.log, fun _ none => nomatch none⟩
  · rw [teardown_seat there]
    exact lasts _ _ (mesh.channel n).seat (mesh.channel n).phase (mesh.channel n).address none
  · exact queues event (teardown_outbox there queued)

theorem start_lasts (lasts : Lasts trait) (mesh : Mesh) (n : Nat) :
    mesh.Bypasses trait allowed n (mesh.start n).2 := by
  have starts : mesh.Bypasses trait allowed n
      ((mesh.modify n ({ · with phase := .started })).startParts n).2 :=
    (phase_lasts lasts mesh n .started).trans (startParts_bypasses _ n
      (fun time seat address => lasts time time seat seat.phase address seat.announcing)
      fun time seat announcing => lasts time time seat seat.phase seat.address announcing)
  unfold Mesh.start
  split
  · exact .refl trait allowed n mesh
  · exact .refl trait allowed n mesh
  · split
    · rename_i starting
      rw [starting] at starts
      exact starts
    · rename_i starting
      rw [starting] at starts
      exact (starts.trans (phase_lasts lasts _ n .closed)).trans (teardown_lasts lasts _ n)

theorem close_lasts (lasts : Lasts trait) (mesh : Mesh) (n : Nat) : mesh.Bypasses trait allowed n (mesh.close n) := by
  by_cases started : (mesh.channel n).phase = .started
  · have domain : (mesh.channel n).domain = ((mesh.modify n ({ · with phase := .closed })).channel n).domain := by
      rw [channel_modify (there_of_phase started (by decide))]
    have closed : mesh.Bypasses trait allowed n (mesh.shutDown n) :=
      ((phase_lasts lasts mesh n .closed).trans (farewell_chore _ n domain .shutdown (by decide)).bypasses).trans
        (teardown_lasts lasts _ n)
    rw [close_of_started started]
    split
    · exact closed.trans (unregister_bypasses _ n)
    · exact closed
  · rw [close_of_not_started started]
    exact .refl trait allowed n mesh

theorem closeAll_lasts (lasts : Lasts trait) (mesh : Mesh) (n : Nat) :
    mesh.Bypasses trait allowed n mesh.closeAll := by
  refine mesh.closeAll_bypasses fun m _ between => ?_
  by_cases own : n = m
  · subst own
    exact close_lasts lasts between n
  · exact between.close_bypasses own

/-- To announce itself is nothing to a trait that does not depend on announcements, if the announcement is
allowed. -/
theorem ownAnnounce_bypasses (mesh : Mesh) (n : Nat)
    (anytime : ∀ time seat announcing, trait time { seat with announcing := announcing } = trait time seat)
    (may : ∀ event, (mesh.channel n).announcement = .ok event → allowed event) :
    mesh.Bypasses trait allowed n (mesh.announce n) := by
  cases isDue : mesh.isDue n with
  | false =>
    rw [announce_of_idle isDue]
    exact .refl trait allowed n mesh
  | true =>
    obtain ⟨announcing, announces, due⟩ := due_of_isDue isDue
    have counted (next : Option Announcing) :
        mesh.Bypasses trait allowed n (mesh.modify n fun channel => { channel with announcing := next }) :=
      mesh.change_bypasses n rfl (anytime _ (mesh.channel n).seat next) (List.Subset.refl _)
    have posts (counted : Mesh) : counted.Bypasses trait allowed n
        (counted.postAll n ((mesh.channel n).announcement.toOption.map .broadcast).toList) := by
      refine Chore.bypasses (postAll_chore counted fun one among => ?_)
      cases made : (mesh.channel n).announcement with
      | error error =>
        rw [made] at among
        cases among
      | ok event =>
        rw [made] at among
        obtain rfl := List.mem_singleton.mp among
        exact .inr fun _ => may event made
    rcases announce_of_due announces due with same | same
    · rw [same]
      exact (counted _).trans (posts _)
    · rw [same]
      exact ((counted _).trans (posts _)).trans (enqueueFirst_chore _ _).bypasses

/-- To be delivered an event is nothing to a trait that does not depend on announcements. -/
theorem ownDeliver_bypasses (mesh : Mesh) (n : Nat)
    (anytime : ∀ time seat announcing, trait time { seat with announcing := announcing } = trait time seat) :
    mesh.Bypasses trait allowed n (mesh.deliver n) := by
  cases called : mesh.isCalledUpon n with
  | false => exact (mesh.deliver_chore called).bypasses
  | true =>
    have heeds : mesh.Heeds (fun m event => m = n → allowed event) n (mesh.deliver n) := mesh.deliver_heeds called
    obtain ⟨between, before, after⟩ := heeds
    refine (before.bypasses.trans (between.change_bypasses n ?_ ?_ ?_)).trans after.bypasses
    all_goals
      unfold Channel.resync
      split
    · rfl
    · rfl
    · exact anytime _ (between.channel n).seat _
    · rfl
    · exact List.Subset.refl _
    · exact List.Subset.refl _

/-- **What lasts of a channel lasts whatever happens in an instant**, unless the channel moves to another domain. -/
theorem undergo_lasts (lasts : Lasts trait) (there : n < mesh.channels.length) {incident : Incident}
    (brief : incident.isBrief = true) (stays : ∀ domain, incident ≠ .order (.changeDomain n domain))
    (may : ∀ event, mesh.Commissions n event incident → allowed event)
    (announces : ∀ event, (mesh.channel n).announcement = .ok event → allowed event) :
    mesh.Bypasses trait allowed n (mesh.undergo incident) := by
  have anytime (time : Nat) (seat : Channel.Seat) (announcing : Option Announcing) :
      trait time { seat with announcing := announcing } = trait time seat :=
    lasts time time seat seat.phase seat.address announcing
  by_cases touches : mesh.Touches n incident
  · unfold Touches at touches
    split at touches
    · subst touches
      exact start_lasts lasts mesh _
    · subst touches
      exact close_lasts lasts mesh _
    · subst touches
      exact mesh.ownResync_bypasses _ anytime
    · subst touches
      exact absurd rfl (stays _)
    · subst touches
      exact mesh.ownAnnounce_bypasses _ anytime announces
    · exact closeAll_lasts lasts mesh n
    · obtain ⟨rfl, -⟩ := touches
      exact mesh.ownDeliver_bypasses _ anytime
    · cases brief
    · cases touches
  · exact undergo_bypasses there brief touches may

/-! ### The channel moves -/

theorem settleIn_channel (there : n < mesh.channels.length) (domain : String) :
    ((mesh.settleIn n domain).channel n).seat =
        { (mesh.channel n).seat with domain := domain, heeded := domain } ∧
      ((mesh.settleIn n domain).channel n).outbox = (mesh.channel n).outbox := by
  have settled : (mesh.settleIn n domain).channel n =
      let cleared := ((mesh.channel n).run mesh.time fun view _ => view.clear).2
      { cleared with domain := domain, consumer := cleared.consumer.changeDomain domain } := channel_modify there _
  have selfId : ((mesh.channel n).run mesh.time fun view _ => view.clear).2.selfId = (mesh.channel n).selfId :=
    Channel.selfId_of_frame ((mesh.channel n).run_frame mesh.time fun _ _ => rfl)
  rw [settled]
  refine ⟨?_, rfl⟩
  unfold Channel.seat
  exact congrArg (fun id => (⟨_, id, _, domain, domain, _, _⟩ : Channel.Seat)) selfId

theorem farewell_count (mesh : Mesh) (n : Nat) (kind : ProtocolKind) (channel : Channel) :
    (mesh.postAll n (farewell channel kind)).channels.length = mesh.channels.length := by
  have posts : mesh.Chore (fun _ _ => True) (mesh.postAll n (farewell channel kind)) := by
    refine mesh.postAll_chore fun one _ => ?_
    cases one with
    | broadcast event => exact .inr trivial
    | send address event => trivial
  exact posts.keeps.count

/-- A channel that is put into the registry is known to have been in it, and nothing else happens. -/
theorem register_rest (mesh : Mesh) (n : Nat) :
    (mesh.register n).channels = (mesh.modify n ({ · with isLinked := true })).channels ∧
      (mesh.register n).time = mesh.time ∧ (mesh.register n).log = mesh.log := by
  unfold Mesh.register
  dsimp only
  split <;> exact ⟨rfl, rfl, rfl⟩

theorem register_count (mesh : Mesh) (n : Nat) : (mesh.register n).channels.length = mesh.channels.length :=
  (congrArg List.length (mesh.register_rest n).1).trans (List.length_modify _ _ _)

/-- A channel leaves the registry, and tells its domain that it leaves. -/
def takeLeave (mesh : Mesh) (n : Nat) : Mesh :=
  (if (mesh.channel n).isLinked then (mesh.unregister n).2 else mesh).postAll n (farewell (mesh.channel n) .leave)

/-- A channel takes leave, settles in another domain, and returns to the registry if it was ever in it. -/
def resettle (mesh : Mesh) (n : Nat) (domain : String) : Mesh :=
  let inside := (mesh.takeLeave n).settleIn n domain
  if (mesh.channel n).isLinked then inside.register n else inside

/-- **A started channel that moves** resettles and announces itself. -/
theorem changeDomain_eq (started : (mesh.channel n).phase = .started) {domain : String}
    (differs : (mesh.channel n).domain ≠ domain) :
    mesh.changeDomain n domain = (.ok (), (mesh.resettle n domain).resync n) := by
  have passes : (mesh.channel n).gate = .ok () := by
    unfold Channel.gate
    rw [started]
  unfold Mesh.changeDomain resettle takeLeave
  dsimp only
  rw [passes]
  dsimp only
  rw [if_neg differs]

theorem takeLeave_bypasses (mesh : Mesh) (n : Nat) : mesh.Bypasses trait allowed n (mesh.takeLeave n) := by
  unfold takeLeave
  split
  · exact (mesh.unregister_bypasses n).trans (farewell_chore _ n rfl .leave (by decide)).bypasses
  · exact (farewell_chore mesh n rfl .leave (by decide)).bypasses

theorem takeLeave_count (mesh : Mesh) (n : Nat) : (mesh.takeLeave n).channels.length = mesh.channels.length := by
  refine (farewell_count _ n .leave _).trans ?_
  split <;> rfl

/-- Once a channel has taken leave nothing goes out and no time passes. -/
theorem resettle_rest (mesh : Mesh) (n : Nat) (domain : String) :
    (mesh.resettle n domain).channels.length = mesh.channels.length ∧
      (mesh.resettle n domain).time = (mesh.takeLeave n).time ∧
      (mesh.resettle n domain).log = (mesh.takeLeave n).log := by
  have count : ((mesh.takeLeave n).settleIn n domain).channels.length = mesh.channels.length :=
    (List.length_modify _ _ _).trans (mesh.takeLeave_count n)
  unfold resettle
  dsimp only
  split
  · obtain ⟨-, time, log⟩ := ((mesh.takeLeave n).settleIn n domain).register_rest n
    exact ⟨(register_count _ n).trans count, time, log⟩
  · exact ⟨count, rfl, rfl⟩

/-- What is not about the registry is not changed by returning to it. -/
theorem field_resettle {α : Type} (field : Channel → α) (mesh : Mesh) (n : Nat) (domain : String)
    (keeps : ∀ channel isLinked, field { channel with isLinked := isLinked } = field channel) :
    field ((mesh.resettle n domain).channel n) = field (((mesh.takeLeave n).settleIn n domain).channel n) := by
  unfold resettle
  dsimp only
  split
  · rw [channel_register]
    exact field_modify field _ n n fun channel => keeps channel true
  · rfl

/-- **The seat of a channel that resettles.** -/
theorem resettle_seat (there : n < mesh.channels.length) (domain : String) :
    ((mesh.resettle n domain).channel n).seat =
      { (mesh.channel n).seat with domain := domain, heeded := domain } := by
  have leaves : mesh.Bypasses (fun _ seat => seat) (fun _ => True) n (mesh.takeLeave n) := mesh.takeLeave_bypasses n
  have left : ((mesh.takeLeave n).channel n).seat = (mesh.channel n).seat := (leaves there fun _ _ => trivial).same
  have leftThere : n < (mesh.takeLeave n).channels.length := (mesh.takeLeave_count n).symm ▸ there
  rw [field_resettle Channel.seat mesh n domain fun _ _ => rfl, (settleIn_channel leftThere domain).1, left]

/-- **The seat of a channel that moves**, its announcements apart. -/
theorem changeDomain_seat (there : n < mesh.channels.length) (started : (mesh.channel n).phase = .started)
    {domain : String} (differs : (mesh.channel n).domain ≠ domain) (announcing : Option Announcing) :
    { ((mesh.changeDomain n domain).2.channel n).seat with announcing := announcing } =
      { (mesh.channel n).seat with domain := domain, heeded := domain, announcing := announcing } := by
  have resettledThere : n < (mesh.resettle n domain).channels.length := (mesh.resettle_rest n domain).1.symm ▸ there
  have announces : (mesh.resettle n domain).Bypasses
      (fun _ seat => ({ seat with announcing := announcing } : Channel.Seat)) (fun _ => True) n
      ((mesh.resettle n domain).resync n) := ownResync_bypasses _ n fun _ _ _ => rfl
  rw [changeDomain_eq started differs]
  refine (announces resettledThere fun _ _ => trivial).same.trans ?_
  rw [resettle_seat there]

/-! ### Where the channel is reached -/

/-- What leaves the phase and the address of a channel alone. -/
theorem Bypasses.found (bypasses : mesh.Bypasses (fun _ seat => (seat.phase, seat.address)) (fun _ => True) n later)
    (there : n < mesh.channels.length) (found : ¬ (mesh.channel n).IsLost) : ¬ (later.channel n).IsLost := by
  obtain ⟨phase, address⟩ := Prod.mk.inj (bypasses there fun _ _ => trivial).same
  exact fun lost => found ⟨phase.symm.trans lost.1, address.symm.trans lost.2⟩

theorem start_found (there : n < mesh.channels.length) (found : ¬ (mesh.channel n).IsLost) :
    ¬ ((mesh.start n).2.channel n).IsLost := by
  cases phase : (mesh.channel n).phase with
  | started | closed =>
    rw [start_of_begun (by rw [phase]; decide)]
    exact found
  | created =>
    let begun := mesh.modify n ({ · with phase := .started })
    have begunThere : n < begun.channels.length := (List.length_modify _ _ _).symm ▸ there
    unfold Mesh.start
    rw [phase]
    dsimp only
    cases parts : begun.startParts n with
    | mk result later =>
      cases result with
      | ok done => exact fun lost => startParts_found begunThere parts lost.2
      | error error =>
        have alters := begun.startParts_alters n
        rw [parts] at alters
        have laterThere : n < later.channels.length := alters.count.symm ▸ begunThere
        intro lost
        have closed := ((later.modify n ({ · with phase := .closed })).teardown_alters n).phase
        rw [channel_modify laterThere] at closed
        exact nomatch closed.symm.trans lost.1

theorem close_found (there : n < mesh.channels.length) (found : ¬ (mesh.channel n).IsLost) (m : Nat) :
    n < (mesh.close m).channels.length ∧ ¬ ((mesh.close m).channel n).IsLost := by
  by_cases own : n = m
  · subst own
    by_cases started : (mesh.channel n).phase = .started
    · have closes : mesh.Bypasses (fun _ _ => ()) (fun _ => True) n (mesh.close n) :=
        close_lasts (fun _ _ _ _ _ _ => rfl) mesh n
      refine ⟨there.trans_le (closes there fun _ _ => trivial).count, fun lost => ?_⟩
      have closed : ((mesh.close n).channel n).phase = .closed := by
        rw [close_of_started started]
        split
        · exact shutDown_phase started
        · exact shutDown_phase started
      exact nomatch closed.symm.trans lost.1
    · rw [close_of_not_started started]
      exact ⟨there, found⟩
  · have closes : mesh.Bypasses (fun _ seat => (seat.phase, seat.address)) (fun _ => True) n (mesh.close m) :=
      mesh.close_bypasses own
    exact ⟨there.trans_le (closes there fun _ _ => trivial).count, closes.found there found⟩

theorem closeAll_found (there : n < mesh.channels.length) (found : ¬ (mesh.channel n).IsLost) :
    ¬ (mesh.closeAll.channel n).IsLost := by
  have emptied : n < ({ mesh with registry := [] } : Mesh).channels.length ∧
      ¬ (({ mesh with registry := [] } : Mesh).channel n).IsLost := ⟨there, found⟩
  exact (List.foldlRecOn (motive := fun between : Mesh => n < between.channels.length ∧ ¬ (between.channel n).IsLost)
    mesh.registry close emptied fun _ known m _ => close_found known.1 known.2 m).2

/-- **A channel that knows where it is reached still does**, whatever happens in an instant. -/
theorem undergo_found (there : n < mesh.channels.length) (found : ¬ (mesh.channel n).IsLost) {incident : Incident}
    (brief : incident.isBrief = true) : ¬ ((mesh.undergo incident).channel n).IsLost := by
  by_cases touches : mesh.Touches n incident
  · unfold Touches at touches
    split at touches
    · subst touches
      exact start_found there found
    · subst touches
      exact (close_found there found _).2
    · subst touches
      exact (mesh.ownResync_bypasses _ fun _ _ _ => rfl).found there found
    · rename_i m domain
      subst touches
      by_cases moves : (mesh.channel m).phase = .started ∧ (mesh.channel m).domain ≠ domain
      · have seat := changeDomain_seat there moves.1 moves.2 none
        have phase : ((mesh.changeDomain m domain).2.channel m).phase = (mesh.channel m).phase :=
          congrArg Channel.Seat.phase seat
        have address : ((mesh.changeDomain m domain).2.channel m).address = (mesh.channel m).address :=
          congrArg Channel.Seat.address seat
        exact fun lost => found ⟨phase.symm.trans lost.1, address.symm.trans lost.2⟩
      · show ¬ ((mesh.changeDomain m domain).2.channel m).IsLost
        rw [changeDomain_of_stays moves]
        exact found
    · subst touches
      exact (mesh.ownAnnounce_bypasses _ (fun _ _ _ => rfl) fun _ _ => trivial).found there found
    · exact closeAll_found there found
    · obtain ⟨rfl, -⟩ := touches
      exact (mesh.ownDeliver_bypasses _ fun _ _ _ => rfl).found there found
    · cases brief
    · cases touches
  · exact (undergo_bypasses there brief touches fun _ _ => trivial).found there found

/-! ### Settled channels -/

/-- **A settled channel stays settled**, whatever happens in an instant. -/
theorem undergo_settled (there : n < mesh.channels.length) (settled : (mesh.channel n).IsSettled)
    {incident : Incident} (brief : incident.isBrief = true) : ((mesh.undergo incident).channel n).IsSettled := by
  have found := undergo_found there settled.found brief
  by_cases moves : ∃ domain, incident = .order (.changeDomain n domain)
  · obtain ⟨domain, rfl⟩ := moves
    by_cases moves : (mesh.channel n).phase = .started ∧ (mesh.channel n).domain ≠ domain
    · have seat := changeDomain_seat there moves.1 moves.2 none
      have settings : ((mesh.changeDomain n domain).2.channel n).settings = (mesh.channel n).settings :=
        congrArg Channel.Seat.settings seat
      exact ⟨(congrArg Channel.Seat.heeded seat).trans (congrArg Channel.Seat.domain seat).symm, found,
        fun none => settled.announces (settings ▸ none)⟩
    · show ((mesh.changeDomain n domain).2.channel n).IsSettled
      rw [changeDomain_of_stays moves]
      exact settled
  · have lasting : mesh.Bypasses (fun _ seat => (seat.settings, seat.domain, seat.heeded)) (fun _ => True) n
        (mesh.undergo incident) :=
      undergo_lasts (fun _ _ _ _ _ _ => rfl) there brief (fun domain same => moves ⟨domain, same⟩)
        (fun _ _ => trivial) fun _ _ => trivial
    obtain ⟨settings, domains⟩ := Prod.mk.inj (lasting there fun _ _ => trivial).same
    obtain ⟨domain, heeded⟩ := Prod.mk.inj domains
    exact ⟨heeded.trans (settled.heeds.trans domain.symm), found,
      fun none => settled.announces ((congrArg Settings.publishAttempts settings).symm.trans none)⟩

theorem isSettled_of_seat (same : (later.channel n).seat = (mesh.channel n).seat)
    (settled : (mesh.channel n).IsSettled) : (later.channel n).IsSettled := by
  have heeded : (later.channel n).consumer.domain = (mesh.channel n).consumer.domain :=
    congrArg Channel.Seat.heeded same
  have domain : (later.channel n).domain = (mesh.channel n).domain := congrArg Channel.Seat.domain same
  have phase : (later.channel n).phase = (mesh.channel n).phase := congrArg Channel.Seat.phase same
  have address : (later.channel n).address = (mesh.channel n).address := congrArg Channel.Seat.address same
  have settings : (later.channel n).settings = (mesh.channel n).settings := congrArg Channel.Seat.settings same
  exact ⟨heeded.trans (settled.heeds.trans domain.symm),
    fun lost => settled.found ⟨phase.symm.trans lost.1, address.symm.trans lost.2⟩,
    fun none => settled.announces (settings ▸ none)⟩

/-- Whoever asks, what is ready and how much time passes is nothing to the seat of a channel. -/
theorem live_rest (mesh : Mesh) (n : Nat) {instant : Instant}
    (rest : ∀ incident brief, instant ≠ .happens incident brief) :
    (mesh.live instant).channels.length = mesh.channels.length ∧
      ((mesh.live instant).channel n).seat = (mesh.channel n).seat := by
  cases instant with
  | happens incident brief => exact absurd rfl (rest incident brief)
  | asks m address event =>
    have keeps := (mesh.request_chore m address event).keeps
    exact ⟨keeps.count, Channel.seat_of_frame (keeps.frame n)⟩
  | asksFromOutside address event =>
    have asks : mesh.Chore (fun _ _ => True) (mesh.requestFrom ping mesh.outsider.own address event).2 :=
      requestFrom_chore (pingWithin_chore 1) mesh mesh.outsider.own address event
    exact ⟨asks.keeps.count, Channel.seat_of_frame (asks.keeps.frame n)⟩
  | schedules agenda => exact ⟨rfl, rfl⟩
  | passes span => exact ⟨rfl, rfl⟩

/-! ### Channels that come -/

theorem start_count (mesh : Mesh) (n : Nat) : (mesh.start n).2.channels.length = mesh.channels.length := by
  have begun : ((mesh.modify n ({ · with phase := .started })).startParts n).2.channels.length =
      mesh.channels.length := (startParts_alters _ n).count.trans (List.length_modify _ _ _)
  by_cases created : (mesh.channel n).phase = .created
  · rcases start_cases created with starts | ⟨error, fails⟩
    · rw [starts]
      exact begun
    · rw [fails]
      exact (teardown_alters _ n).count.trans ((List.length_modify _ _ _).trans begun)
  · rw [start_of_begun created]

theorem close_count (mesh : Mesh) (n : Nat) : (mesh.close n).channels.length = mesh.channels.length := by
  by_cases started : (mesh.channel n).phase = .started
  · have closed : (mesh.shutDown n).channels.length = mesh.channels.length :=
      (teardown_alters _ n).count.trans ((farewell_count _ n .shutdown _).trans (List.length_modify _ _ _))
    rw [close_of_started started]
    split <;> exact closed
  · rw [close_of_not_started started]

theorem changeDomain_count (mesh : Mesh) (n : Nat) (domain : String) :
    (mesh.changeDomain n domain).2.channels.length = mesh.channels.length := by
  by_cases moves : (mesh.channel n).phase = .started ∧ (mesh.channel n).domain ≠ domain
  · rw [changeDomain_eq moves.1 moves.2]
    exact (resync_alters _ n).count.trans (mesh.resettle_rest n domain).1
  · rw [changeDomain_of_stays moves]

/-- A brief order makes no channel. -/
theorem carryOut_count (mesh : Mesh) {order : Order} (brief : order.isBrief = true) :
    (mesh.carryOut order).2.channels.length = mesh.channels.length := by
  cases order with
  | start m => exact mesh.start_count m
  | close m => exact mesh.close_count m
  | changeDomain m domain => exact mesh.changeDomain_count m domain
  | closeAll =>
    exact List.foldlRecOn (motive := fun between : Mesh => between.channels.length = mesh.channels.length)
      mesh.registry close rfl fun between same m _ => (between.close_count m).trans same
  | register m => exact mesh.register_count m
  | unregister | setReachable | setUp => rfl
  | dispatchThenClose => cases brief
  | _ => exact (mesh.carryOut_traffic rfl (isApart_nobody mesh)).count

/-- What else happens makes no channel either. -/
theorem undergo_count (mesh : Mesh) {incident : Incident} (brief : incident.isBrief = true)
    (neither : ∀ label settings hasNetwork,
      incident ≠ .create label settings hasNetwork ∧ incident ≠ .provide label settings hasNetwork) :
    (mesh.undergo incident).channels.length = mesh.channels.length := by
  cases incident with
  | create label settings hasNetwork => exact absurd rfl (neither label settings hasNetwork).1
  | provide label settings hasNetwork => exact absurd rfl (neither label settings hasNetwork).2
  | order order => exact mesh.carryOut_count brief
  | queue m goal kind data => exact (mesh.dispatchFor_traffic m goal kind data (isApart_nobody mesh)).count
  | adjust m adjustment => exact List.length_modify _ _ _
  | move move => exact (mesh.perform_traffic move (isApart_nobody mesh)).count
  | turn m draw => exact (mesh.turn_traffic draw m (isApart_nobody mesh)).count
  | tidy => exact (mesh.tidy_traffic (isApart_nobody mesh)).count
  | pass span => rfl

theorem new_isSettled (label : String) {settings : Settings} (announces : settings.publishAttempts ≠ 0) (id : NodeId)
    (time : Nat) (group : GroupLink) (line : UnicastLink) :
    (Channel.new label settings id time group line).IsSettled :=
  ⟨rfl, fun lost => (nomatch lost.1), announces⟩

/-- A channel that is not there is settled. -/
theorem settled_of_absent (absent : mesh.channels.length ≤ n) : (mesh.channel n).IsSettled := by
  rw [channel_of_absent absent]
  exact new_isSettled _ (by decide) _ _ _ _

/-- A channel that comes is settled. -/
theorem create_settled (absent : mesh.channels.length ≤ n) (label : String) (settings : Settings)
    (hasNetwork : Bool) :
    ((mesh.create label settings hasNetwork).2.channel n).IsSettled := by
  have linked (kind : TransportKind) : (mesh.linkGroup settings kind).2.channels = mesh.channels := by
    cases kind <;> rfl
  unfold Mesh.create
  split
  · exact settled_of_absent absent
  · exact settled_of_absent absent
  · rename_i groupKind valid _
    dsimp only
    split
    · exact settled_of_absent (linked groupKind ▸ absent)
    · rename_i lineKind _
      unfold channel
      dsimp only
      rw [linked groupKind]
      rcases Nat.eq_or_lt_of_le absent with same | later
      · rw [← same, List.getElem?_concat_length]
        exact new_isSettled _ (Settings.publishAttempts_ne_zero valid) _ _ _ _
      · rw [List.getElem?_eq_none (by simp; omega)]
        exact new_isSettled _ (by decide) _ _ _ _

theorem modify_settled (settled : (mesh.channel n).IsSettled) (m : Nat) {change : Channel → Channel}
    (seat : ∀ channel, (change channel).seat = channel.seat) : ((mesh.modify m change).channel n).IsSettled :=
  isSettled_of_seat (field_modify Channel.seat mesh m n seat) settled

/-- A channel that the registry hands out is settled. -/
theorem provide_settled (absent : mesh.channels.length ≤ n) (label : String) (settings : Settings)
    (hasNetwork : Bool) : ((mesh.getOrCreate label settings hasNetwork).2.channel n).IsSettled := by
  have created := create_settled absent label settings hasNetwork
  unfold Mesh.getOrCreate
  split
  · exact settled_of_absent absent
  · split
    · rename_i creates
      rw [creates] at created
      exact created
    · rename_i m later creates
      rw [creates] at created
      have starts : ((later.undergo (.order (.start m))).channel n).IsSettled := by
        by_cases there : n < later.channels.length
        · exact undergo_settled there created rfl
        · exact settled_of_absent ((later.start_count m).symm ▸ Nat.le_of_not_lt there)
      change ((later.start m).2.channel n).IsSettled at starts
      split
      · rename_i done linkedMesh starting
        rw [starting] at starts
        have linked : ((linkedMesh.modify m ({ · with isLinked := true })).channel n).IsSettled :=
          modify_settled starts m fun _ => rfl
        unfold Mesh.register
        dsimp only
        split
        · exact linked
        · exact linked
      · rename_i starting
        rw [starting] at starts
        exact modify_settled starts m fun _ => rfl

/-- A settled channel stays settled, and one that comes is settled. -/
theorem live_settled (settled : (mesh.channel n).IsSettled) (instant : Instant) :
    ((mesh.live instant).channel n).IsSettled := by
  cases instant with
  | happens incident brief =>
    by_cases there : n < mesh.channels.length
    · exact undergo_settled there settled brief
    · have absent := Nat.le_of_not_lt there
      by_cases comes : ∃ label settings hasNetwork,
          incident = .create label settings hasNetwork ∨ incident = .provide label settings hasNetwork
      · obtain ⟨label, settings, hasNetwork, rfl | rfl⟩ := comes
        · exact create_settled absent label settings hasNetwork
        · exact provide_settled absent label settings hasNetwork
      · refine settled_of_absent ((undergo_count mesh brief fun label settings hasNetwork => ?_).symm ▸ absent)
        exact ⟨fun same => comes ⟨_, _, _, .inl same⟩, fun same => comes ⟨_, _, _, .inr same⟩⟩
  | asks | asksFromOutside | schedules | passes =>
    exact isSettled_of_seat (mesh.live_rest n fun _ _ same => by cases same).2 settled

/-- **A channel stays settled**, whatever it lives through. -/
theorem IsLived.settled (lived : mesh.IsLived later) (settled : (mesh.channel n).IsSettled) :
    (later.channel n).IsSettled := by
  obtain ⟨instants, rfl⟩ := lived
  exact List.foldlRecOn (motive := fun later : Mesh => (later.channel n).IsSettled) instants live
    settled fun _ settled instant _ => live_settled settled instant

/-- **Every channel of a mesh that has come of an empty one is settled.** -/
theorem isSettled_of_history (host : Socket.Host) (history : List Incident) (n : Nat) :
    (((empty host).undergoAll history).channel n).IsSettled := by
  have start : ((empty host).channel n).IsSettled := settled_of_absent (Nat.zero_le n)
  exact (undergoAll_lived history _).settled start

/-! ### A run in one domain -/

/-- A channel is told in which domain it is to be. -/
def IsTold (n : Nat) : Instant → Prop
  | .happens (.order (.changeDomain m _)) _ => m = n
  | _ => False

/-- A channel is told to queue an event of some scope, and not just for its own domain. -/
def Names (n : Nat) (scope : Scope) : Instant → Prop
  | .happens (.queue m (.domain name) _ _) _ => m = n ∧ scope = .named name
  | .happens (.queue m .allDomains _ _) _ => m = n ∧ scope = .all
  | _ => False

/-- An event that a channel is told to queue is for its own domain, or its scope is named. -/
theorem scope_of_commissions {incident : Incident} {event : Event} (commissions : mesh.Commissions n event incident)
    (brief : incident.isBrief = true) :
    event.scope = .named (mesh.channel n).domain ∨ Names n event.scope (.happens incident brief) := by
  cases incident with
  | queue m goal kind data =>
    obtain ⟨same, scope, -⟩ := commissions
    cases goal with
    | ownDomain => exact .inl (Option.some.inj scope).symm
    | domain name => exact .inr ⟨same, (Option.some.inj scope).symm⟩
    | allDomains => exact .inr ⟨same, (Option.some.inj scope).symm⟩
    | address address => cases scope
  | order order =>
    cases order with
    | dispatch | burst | dispatchThenClose => cases brief
    | _ => cases commissions
  | _ => cases commissions

/-- **What lasts of a channel lasts in every instant** in which it is not told to move. -/
theorem live_lasts (lasts : Lasts trait) (instant : Instant) (untold : ¬ IsTold n instant)
    (own : ∀ event : Event, event.scope = .named (mesh.channel n).domain → allowed event)
    (named : ∀ event : Event, Names n event.scope instant → allowed event) :
    mesh.Bypasses trait allowed n (mesh.live instant) := by
  intro there queues
  cases instant with
  | happens incident brief =>
    refine undergo_lasts lasts there brief (fun domain same => untold (same ▸ rfl)) (fun event commissions => ?_)
      (fun event announces => ?_) there queues
    · exact (scope_of_commissions commissions brief).elim (own event) (named event)
    · unfold Channel.announcement at announces
      split at announces
      · cases announces
      · exact own event (Channel.of_event announces).1
  | asks m address event => exact (mesh.request_chore m address event).bypasses there queues
  | asksFromOutside address event =>
    have asks : mesh.Chore (fun m event => m = n → allowed event)
        (mesh.requestFrom ping mesh.outsider.own address event).2 :=
      requestFrom_chore (pingWithin_chore 1) mesh mesh.outsider.own address event
    exact asks.bypasses there queues
  | schedules agenda => exact ⟨Nat.le_refl _, rfl, rfl, queues, [], rfl, fun _ none => nomatch none⟩
  | passes span =>
    have same := lasts mesh.time (mesh.time + span) (mesh.channel n).seat (mesh.channel n).phase
      (mesh.channel n).address (mesh.channel n).announcing
    exact ⟨Nat.le_refl _, rfl, same, queues, [], rfl, fun _ none => nomatch none⟩

/-- What lasts of a channel lasts as long as it is not told to move. -/
theorem liveAll_lasts (lasts : Lasts trait) (instants : List Instant) : ∀ mesh : Mesh,
    (∀ instant ∈ instants, ¬ IsTold n instant) →
    (∀ event : Event, event.scope = .named (mesh.channel n).domain → allowed event) →
    (∀ instant ∈ instants, ∀ event : Event, Names n event.scope instant → allowed event) →
      mesh.Bypasses trait allowed n (mesh.liveAll instants) := by
  induction instants with
  | nil => exact fun mesh _ _ _ => .refl trait allowed n mesh
  | cons instant rest ih =>
    intro mesh untold own named there queues
    have first := live_lasts lasts instant (untold instant List.mem_cons_self) own
      (named instant List.mem_cons_self) there queues
    have others := ih (mesh.live instant) (fun next among => untold next (List.mem_cons_of_mem _ among))
      (first.domain ▸ own) fun next among => named next (List.mem_cons_of_mem _ among)
    exact first.trans (others (there.trans_le first.count) first.queues)

/-- In a run a channel has stayed in a domain, for which it heeds events, and what it has broadcast was for it,
unless it was queued before or its scope was named. -/
structure StaysIn (n : Nat) (domain : String) (instants : List Instant) (before after : Mesh) : Prop where
  stays : (after.channel n).domain = domain
  heeds : (after.channel n).consumer.domain = domain
  log : ∃ since, after.log = since ++ before.log ∧ ∀ entry ∈ since, ∀ event,
    entry.2 = .posted n (.broadcast event) →
      event.scope = .named domain ∨ .broadcast event ∈ (before.channel n).outbox ∨
        ∃ instant ∈ instants, Names n event.scope instant

/-- **A channel stays in its domain** unless it is told to move. -/
theorem staysIn_liveAll (there : n < mesh.channels.length) (settled : (mesh.channel n).IsSettled)
    {instants : List Instant} (untold : ∀ instant ∈ instants, ¬ IsTold n instant) :
    mesh.StaysIn n (mesh.channel n).domain instants (mesh.liveAll instants) := by
  let allowed (event : Event) : Prop := event.scope = .named (mesh.channel n).domain ∨
    .broadcast event ∈ (mesh.channel n).outbox ∨ ∃ instant ∈ instants, Names n event.scope instant
  have bypasses : mesh.Bypasses (fun _ _ => ()) allowed n (mesh.liveAll instants) :=
    liveAll_lasts (fun _ _ _ _ _ _ => rfl) instants mesh untold (fun _ => .inl)
      fun instant among event names => .inr (.inr ⟨instant, among, names⟩)
  have leaves := bypasses there fun event queued => .inr (.inl queued)
  have lived : mesh.IsLived (mesh.liveAll instants) := ⟨instants, rfl⟩
  refine ⟨leaves.domain, (lived.settled settled).heeds.trans leaves.domain, ?_⟩
  obtain ⟨since, grows, voiced⟩ := leaves.log
  exact ⟨since, grows, fun entry among event posted => (voiced entry among event posted).elim
    (fun own => .inl own.1) id⟩

end Mesh

end PeerMesh
