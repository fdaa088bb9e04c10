/-
**Who is in the registry.**

A channel is put into the registry when it is registered or handed out (`Mesh.Enrols`), and once more whenever it
moves to another domain (`Mesh.Rejoins`), even if it was taken out in between. It is taken out when it is
unregistered or closed while it is started, or when all are closed (`Mesh.Strikes`).

* `Mesh.Records` — what an incident does to the registry, and to who was ever in it. `undergo_records`: every
  incident does just that.
* `IsListed` — something has put a channel into the registry, and nothing since has taken it out.
* **`registry_of_history`** — after any history exactly the listed channels are in the registry, each once, and
  whoever is handed out is started in the domain that was asked for.
* `rejoins_after_unregister` — a channel that has left the registry is back in it after it has moved.
-/

import PeerMesh.Proofs.History
import PeerMesh.Proofs.Mesh.Books

namespace PeerMesh

namespace Mesh

variable {mesh later : Mesh} {n : Nat} {domain : String}

/-! ### What an incident does to the registry -/

/-- The incident puts a channel into the registry: the channel is registered, or handed out. -/
inductive Enrols (mesh : Mesh) (n : Nat) : Incident → Prop where
  | register : mesh.Enrols n (.order (.register n))
  | provide {label : String} {settings : Settings} {hasNetwork : Bool} :
    (mesh.getOrCreate label settings hasNetwork).1 = .ok n → mesh.Enrols n (.provide label settings hasNetwork)

/-- A started channel moves to another domain. -/
inductive Rejoins (mesh : Mesh) (n : Nat) : Incident → Prop where
  | changeDomain {domain : String} : (mesh.channel n).phase = .started → (mesh.channel n).domain ≠ domain →
    mesh.Rejoins n (.order (.changeDomain n domain))

/-- The incident takes a channel out of the registry: the channel is unregistered, or closed while it is started,
or all are closed. -/
inductive Strikes (mesh : Mesh) (n : Nat) : Incident → Prop where
  | unregister : mesh.Strikes n (.order (.unregister n))
  | close : (mesh.channel n).phase = .started → mesh.Strikes n (.order (.close n))
  | dispatchThenClose {kind : String} {data : Bytes} : (mesh.channel n).phase = .started →
    mesh.Strikes n (.order (.dispatchThenClose n kind data))
  | closeAll : mesh.Strikes n (.order .closeAll)

/-- What an incident does to the registry, and to who was ever in it. -/
structure Records (incident : Incident) (before after : Mesh) : Prop where
  registry : ∀ n, n ∈ after.registry ↔
    (before.Enrols n incident ∨ before.Rejoins n incident ∧ (before.channel n).isLinked = true) ∨
      n ∈ before.registry ∧ ¬ before.Strikes n incident
  isLinked : ∀ n, (after.channel n).isLinked = true ↔
    before.Enrols n incident ∨ (before.channel n).isLinked = true
  nodup : after.registry.Nodup

/-- The incident has nothing to do with the registry. -/
theorem KeepsBooks.records (keeps : mesh.KeepsBooks later) (booked : mesh.IsBooked) {incident : Incident}
    (apart : ∀ n, ¬ mesh.Enrols n incident ∧ ¬ mesh.Rejoins n incident ∧ ¬ mesh.Strikes n incident) :
    mesh.Records incident later := by
  refine ⟨fun n => ?_, fun n => ?_, keeps.registry ▸ booked.nodup⟩
  · simp [keeps.registry, apart n]
  · simp [keeps.isLinked n, apart n]

theorem provide_records (booked : mesh.IsBooked) (label : String) (settings : Settings) (hasNetwork : Bool) :
    mesh.Records (.provide label settings hasNetwork) (mesh.getOrCreate label settings hasNetwork).2 := by
  have enrols (m : Nat) : mesh.Enrols m (.provide label settings hasNetwork) ↔
      (mesh.getOrCreate label settings hasNetwork).1 = .ok m :=
    ⟨fun | .provide handsOut => handsOut, .provide⟩
  have rejoins (m : Nat) : ¬ mesh.Rejoins m (.provide label settings hasNetwork) := nofun
  have strikes (m : Nat) : ¬ mesh.Strikes m (.provide label settings hasNetwork) := nofun
  rcases mesh.getOrCreate_cases label settings hasNetwork with
    ⟨n, isIn, _, reuses⟩ | ⟨n, started, makes, books, there, _⟩ | ⟨error, later, fails, books⟩
  · refine ⟨fun m => ?_, fun m => ?_, by rw [reuses]; exact booked.nodup⟩
    · simp only [enrols, rejoins, strikes, reuses, Except.ok.injEq]
      grind
    · simp only [enrols, reuses, Except.ok.injEq]
      grind [booked.linked n isIn]
  · have enrolsNew (m : Nat) : mesh.Enrols m (.provide label settings hasNetwork) ↔ m = n := by
      rw [enrols, makes]
      exact ⟨fun handsOut => (Except.ok.inj handsOut).symm, fun same => congrArg Except.ok same.symm⟩
    refine ⟨fun m => ?_, fun m => ?_, by rw [makes]; exact nodup_register (books.registry ▸ booked.nodup)⟩
    · rw [makes, mem_registry_register, books.registry, enrolsNew]
      simp [rejoins, strikes]
    · rw [makes, isLinked_register there, books.isLinked, enrolsNew]
  · refine ⟨fun m => ?_, fun m => ?_, by rw [fails]; exact books.registry ▸ booked.nodup⟩
    · simp [enrols, rejoins, strikes, fails, books.registry]
    · simp [enrols, fails, books.isLinked]

theorem register_records (booked : mesh.IsBooked) (there : n < mesh.channels.length) :
    mesh.Records (.order (.register n)) (mesh.register n) := by
  have enrols (m : Nat) : mesh.Enrols m (.order (.register n)) ↔ m = n :=
    ⟨fun | .register => rfl, fun same => same ▸ .register⟩
  have rejoins (m : Nat) : ¬ mesh.Rejoins m (.order (.register n)) := nofun
  have strikes (m : Nat) : ¬ mesh.Strikes m (.order (.register n)) := nofun
  refine ⟨fun m => ?_, fun m => ?_, nodup_register booked.nodup⟩
  · simp [mem_registry_register, enrols, rejoins, strikes]
  · simp [isLinked_register there, enrols]

theorem unregister_records (booked : mesh.IsBooked) (n : Nat) :
    mesh.Records (.order (.unregister n)) (mesh.unregister n).2 := by
  have enrols (m : Nat) : ¬ mesh.Enrols m (.order (.unregister n)) := nofun
  have rejoins (m : Nat) : ¬ mesh.Rejoins m (.order (.unregister n)) := nofun
  have strikes (m : Nat) : mesh.Strikes m (.order (.unregister n)) ↔ m = n :=
    ⟨fun | .unregister => rfl, fun same => same ▸ .unregister⟩
  refine ⟨fun m => ?_, fun m => ?_, booked.nodup.filter _⟩
  · simp [mem_registry_unregister, enrols, rejoins, strikes]
  · simp [enrols, Mesh.unregister, channel]

theorem changeDomain_records (booked : mesh.IsBooked) (n : Nat) (domain : String) :
    mesh.Records (.order (.changeDomain n domain)) (mesh.changeDomain n domain).2 := by
  have enrols (m : Nat) : ¬ mesh.Enrols m (.order (.changeDomain n domain)) := nofun
  have strikes (m : Nat) : ¬ mesh.Strikes m (.order (.changeDomain n domain)) := nofun
  have rejoins (m : Nat) : mesh.Rejoins m (.order (.changeDomain n domain)) ↔
      m = n ∧ (mesh.channel n).phase = .started ∧ (mesh.channel n).domain ≠ domain :=
    ⟨fun | .changeDomain started differs => ⟨rfl, started, differs⟩,
      fun | ⟨rfl, started, differs⟩ => .changeDomain started differs⟩
  by_cases moves : (mesh.channel n).phase = .started ∧ (mesh.channel n).domain ≠ domain
  · obtain ⟨registry, isLinked⟩ := changeDomain_books moves.1 moves.2
    refine ⟨fun m => ?_, fun m => ?_, ?_⟩
    · rw [registry]
      by_cases same : m = n
      · subst same
        cases linked : (mesh.channel m).isLinked with
        | true => simp [enrols, rejoins, strikes, moves]
        | false => simp [enrols, rejoins, strikes]
      · split <;> simp [enrols, rejoins, strikes, same]
    · simp [isLinked, enrols]
    · rw [registry]
      split
      · refine List.nodup_append.mpr ⟨booked.nodup.filter _, List.nodup_singleton n, ?_⟩
        intro old among new single
        rw [List.mem_singleton.mp single]
        exact of_decide_eq_true (List.mem_filter.mp among).2
      · exact booked.nodup
  · rw [changeDomain_of_stays moves]
    refine KeepsBooks.records (.refl mesh) booked fun m => ⟨enrols m, ?_, strikes m⟩
    rw [rejoins]
    exact fun both => moves both.2

theorem close_records (booked : mesh.IsBooked) (n : Nat) : mesh.Records (.order (.close n)) (mesh.close n) := by
  have enrols (m : Nat) : ¬ mesh.Enrols m (.order (.close n)) := nofun
  have rejoins (m : Nat) : ¬ mesh.Rejoins m (.order (.close n)) := nofun
  have strikes (m : Nat) : mesh.Strikes m (.order (.close n)) ↔ m = n ∧ (mesh.channel n).phase = .started :=
    ⟨fun | .close started => ⟨rfl, started⟩, fun | ⟨rfl, started⟩ => .close started⟩
  refine ⟨fun m => ?_, fun m => ?_, nodup_close booked.nodup⟩
  · rw [mem_registry_close booked, strikes]
    simp [enrols, rejoins]
  · simp [isLinked_close, enrols]

theorem closeAll_records (mesh : Mesh) : mesh.Records (.order .closeAll) mesh.closeAll := by
  have enrols (m : Nat) : ¬ mesh.Enrols m (.order .closeAll) := nofun
  have rejoins (m : Nat) : ¬ mesh.Rejoins m (.order .closeAll) := nofun
  obtain ⟨empty, isLinked⟩ := mesh.closeAll_books
  refine ⟨fun m => ?_, fun m => ?_, by rw [empty]; exact .nil⟩
  · simp [empty, enrols, rejoins, Strikes.closeAll]
  · simp [isLinked, enrols]

theorem KeepsBooks.isBooked (keeps : mesh.KeepsBooks later) (booked : mesh.IsBooked) : later.IsBooked := by
  refine ⟨keeps.registry ▸ booked.nodup, fun n isIn => ?_⟩
  rw [keeps.registry] at isIn
  rw [keeps.isLinked]
  exact booked.linked n isIn

/-- An event that is queued before the channel is closed has nothing to do with the registry. -/
theorem dispatchThenClose_records (booked : mesh.IsBooked) (n : Nat) (kind : String) (data : Bytes) :
    mesh.Records (.order (.dispatchThenClose n kind data)) (mesh.carryOut (.dispatchThenClose n kind data)).2 := by
  let queued := (mesh.dispatchFor n .ownDomain kind data).2
  have queues : mesh.Traffic Nobody queued := mesh.dispatchFor_traffic n .ownDomain kind data
  have books := queues.keepsBooks
  have phase : (queued.channel n).phase = (mesh.channel n).phase :=
    congrArg Channel.Standing.phase (queues.standing n)
  have settles : (queued.close n).KeepsBooks (queued.close n).settle := Traffic.keepsBooks (settle_traffic _)
  have enrols (m : Nat) : ¬ mesh.Enrols m (.order (.dispatchThenClose n kind data)) := nofun
  have rejoins (m : Nat) : ¬ mesh.Rejoins m (.order (.dispatchThenClose n kind data)) := nofun
  have strikes (m : Nat) : mesh.Strikes m (.order (.dispatchThenClose n kind data)) ↔
      m = n ∧ (mesh.channel n).phase = .started :=
    ⟨fun | .dispatchThenClose started => ⟨rfl, started⟩, fun | ⟨rfl, started⟩ => .dispatchThenClose started⟩
  rw [carryOut_dispatchThenClose]
  refine ⟨fun m => ?_, fun m => ?_, settles.registry ▸ nodup_close (books.registry ▸ booked.nodup)⟩
  · rw [settles.registry, mem_registry_close (books.isBooked booked), books.registry, strikes, phase]
    simp [enrols, rejoins]
  · rw [settles.isLinked, isLinked_close, books.isLinked]
    simp [enrols]

/-- **What an order does to the registry.** -/
theorem carryOut_records (booked : mesh.IsBooked) {order : Order}
    (there : ∀ n, order.channel? = some n → n < mesh.channels.length) :
    mesh.Records (.order order) (mesh.carryOut order).2 := by
  cases traffic : order.isTraffic with
  | true =>
    have apart (n : Nat) : ¬ mesh.Enrols n (.order order) ∧ ¬ mesh.Rejoins n (.order order) ∧
        ¬ mesh.Strikes n (.order order) := by
      refine ⟨?_, ?_, ?_⟩ <;> (intro touched; cases touched <;> cases traffic)
    exact (Traffic.keepsBooks (mesh.carryOut_traffic traffic)).records booked apart
  | false =>
    cases order with
    | start n => exact (mesh.start_keepsBooks n).records booked fun _ => ⟨nofun, nofun, nofun⟩
    | close n => exact close_records booked n
    | changeDomain n domain => exact changeDomain_records booked n domain
    | dispatchThenClose n kind data => exact dispatchThenClose_records booked n kind data
    | register n => exact register_records booked (there n rfl)
    | unregister n => exact unregister_records booked n
    | closeAll => exact mesh.closeAll_records
    | setReachable address value =>
      have keeps : mesh.KeepsBooks { mesh with network := mesh.network.setReachable address value } :=
        keepsBooks_of_same rfl rfl
      exact keeps.records booked fun _ => ⟨nofun, nofun, nofun⟩
    | setUp manner joinsGroup =>
      have keeps : mesh.KeepsBooks (mesh.setUp manner joinsGroup).2 := keepsBooks_of_same rfl rfl
      exact keeps.records booked fun _ => ⟨nofun, nofun, nofun⟩
    | _ => cases traffic

/-- **What an incident does to the registry.** -/
theorem undergo_records (booked : mesh.IsBooked) {incident : Incident} (admits : mesh.Admits incident) :
    mesh.Records incident (mesh.undergo incident) := by
  cases incident with
  | create label settings hasNetwork =>
    exact (mesh.create_keepsBooks label settings hasNetwork).records booked fun _ => ⟨nofun, nofun, nofun⟩
  | provide label settings hasNetwork => exact provide_records booked label settings hasNetwork
  | order given => exact carryOut_records booked fun _ names => admits.there names
  | queue n goal kind data =>
    exact (Traffic.keepsBooks (mesh.dispatchFor_traffic n goal kind data)).records booked
      fun _ => ⟨nofun, nofun, nofun⟩
  | adjust n adjustment =>
    have same := congrArg Channel.Standing.isLinked (Channel.adjust_standing (mesh.channel n) adjustment)
    exact (mesh.modify_keepsBooks n same).records booked fun _ => ⟨nofun, nofun, nofun⟩
  | move move =>
    exact (Traffic.keepsBooks (mesh.perform_traffic move)).records booked fun _ => ⟨nofun, nofun, nofun⟩
  | turn n draw =>
    exact (Traffic.keepsBooks (mesh.turn_traffic draw n)).records booked fun _ => ⟨nofun, nofun, nofun⟩
  | tidy => exact (Traffic.keepsBooks mesh.tidy_traffic).records booked fun _ => ⟨nofun, nofun, nofun⟩
  | pass span =>
    have keeps : mesh.KeepsBooks { mesh with time := mesh.time + span } := keepsBooks_of_same rfl rfl
    exact keeps.records booked fun _ => ⟨nofun, nofun, nofun⟩

theorem Records.isBooked {incident : Incident} (records : mesh.Records incident later) (booked : mesh.IsBooked) :
    later.IsBooked := by
  refine ⟨records.nodup, fun n isIn => (records.isLinked n).mpr ?_⟩
  rcases (records.registry n).mp isIn with (enrols | ⟨_, linked⟩) | ⟨wasIn, _⟩
  · exact .inl enrols
  · exact .inr linked
  · exact .inr (booked.linked n wasIn)

/-! ### What a history does to the registry -/

theorem undergoAll_isBooked (history : List Incident) : ∀ mesh : Mesh, mesh.IsBooked → mesh.AdmitsAll history →
    (mesh.undergoAll history).IsBooked := by
  induction history with
  | nil => exact fun mesh booked _ => booked
  | cons incident rest ih =>
    exact fun mesh booked admits => ih _ ((undergo_records booked admits.1).isBooked booked) admits.2

theorem empty_isBooked (host : Socket.Host) : (empty host).IsBooked := ⟨.nil, fun _ isIn => nomatch isIn⟩

/-- What the next incident of a history does to the registry. -/
theorem records_of_admitsAll {host : Socket.Host} {earlier later : List Incident} {incident : Incident}
    (admits : (empty host).AdmitsAll (earlier ++ incident :: later)) :
    ((empty host).undergoAll earlier).Records incident ((empty host).undergoAll (earlier ++ [incident])) := by
  obtain ⟨admitsEarlier, admitsNext, _⟩ := (admitsAll_append earlier (incident :: later) _).mp admits
  rw [undergoAll_append]
  exact undergo_records (undergoAll_isBooked earlier _ (empty_isBooked host) admitsEarlier) admitsNext

/-- The channel was put into the registry at some time. -/
def WasEnrolled (host : Socket.Host) (n : Nat) (history : List Incident) : Prop :=
  ∃ earlier incident later, history = earlier ++ incident :: later ∧
    ((empty host).undergoAll earlier).Enrols n incident

/-- Something has put the channel into the registry, if only by moving it after it was in the registry once, and
nothing since has taken it out. -/
def IsListed (host : Socket.Host) (n : Nat) (history : List Incident) : Prop :=
  ∃ earlier incident later, history = earlier ++ incident :: later ∧
    (((empty host).undergoAll earlier).Enrols n incident ∨
      ((empty host).undergoAll earlier).Rejoins n incident ∧ WasEnrolled host n earlier) ∧
    ∀ between next rest, later = between ++ next :: rest →
      ¬ ((empty host).undergoAll (earlier ++ incident :: between)).Strikes n next

variable {host : Socket.Host} {history : List Incident}

theorem isLinked_iff_wasEnrolled (admits : (empty host).AdmitsAll history) :
    (((empty host).undergoAll history).channel n).isLinked = true ↔ WasEnrolled host n history := by
  have last := holds_iff_last (fun history => (((empty host).undergoAll history).channel n).isLinked = true)
    (fun earlier incident => ((empty host).undergoAll earlier).Enrols n incident) (fun _ _ => False) history
    (fun linked => by cases linked) fun earlier incident later same => by
      subst same
      simp [(records_of_admitsAll admits).isLinked]
  simpa [WasEnrolled] using last

theorem mem_registry_iff_isListed (admits : (empty host).AdmitsAll history) :
    n ∈ ((empty host).undergoAll history).registry ↔ IsListed host n history := by
  refine holds_iff_last (fun history => n ∈ ((empty host).undergoAll history).registry)
    (fun earlier incident => ((empty host).undergoAll earlier).Enrols n incident ∨
      ((empty host).undergoAll earlier).Rejoins n incident ∧ WasEnrolled host n earlier)
    (fun earlier incident => ((empty host).undergoAll earlier).Strikes n incident)
    history (fun isIn => by cases isIn) fun earlier incident later same => ?_
  subst same
  rw [(records_of_admitsAll admits).registry,
    isLinked_iff_wasEnrolled ((admitsAll_append earlier (incident :: later) _).mp admits).1]

theorem started_of_getOrCreate {label : String} {settings : Settings} {hasNetwork : Bool}
    (handsOut : mesh.getOrCreate label settings hasNetwork = (.ok n, later)) :
    (later.channel n).phase = .started ∧ (later.channel n).domain = settings.domain := by
  rcases mesh.getOrCreate_cases label settings hasNetwork with
    ⟨m, _, isReusable, reuses⟩ | ⟨m, started, makes, _, there, isStarted, inDomain⟩ | ⟨error, last, fails, _⟩
  · rw [reuses] at handsOut
    cases handsOut
    simpa [isReusableFor] using isReusable
  · rw [makes] at handsOut
    cases handsOut
    rw [channel_register, channel_modify there]
    exact ⟨isStarted, inDomain⟩
  · rw [fails] at handsOut
    cases handsOut

/-- **The registry after any history**: exactly the listed channels are in it, each once, and whoever is handed out
is started in the domain that was asked for. -/
theorem registry_of_history (admits : (empty host).AdmitsAll history) :
    let mesh := (empty host).undergoAll history
    mesh.registry.Nodup ∧ (∀ n, n ∈ mesh.registry ↔ IsListed host n history) ∧
      ∀ label settings hasNetwork n later, mesh.getOrCreate label settings hasNetwork = (.ok n, later) →
        (later.channel n).phase = .started ∧ (later.channel n).domain = settings.domain :=
  ⟨(undergoAll_isBooked history _ (empty_isBooked host) admits).nodup, fun _ => mem_registry_iff_isListed admits,
    fun _ _ _ _ _ => started_of_getOrCreate⟩

/-- The registry after a channel was handed out, unregistered, and moved. -/
theorem listed_after_leaving :
    let history := [.provide "left" (dweller "left" 8) true, .order (.unregister 0),
      .order (.changeDomain 0 "second")]
    (empty default).AdmitsAll history ∧ ((empty default).undergoAll history).registry = [0] ∧
      IsListed default 0 history := by
  intro history
  have admits : (empty default).AdmitsAll history := by decide +kernel
  have registry : ((empty default).undergoAll history).registry = [0] := by decide +kernel
  have isIn : 0 ∈ ((empty default).undergoAll history).registry := by simp [registry]
  exact ⟨admits, registry, ((registry_of_history admits).2.1 0).mp isIn⟩

/-- **A channel that has left the registry is back in it** as soon as it has moved to another domain. -/
theorem rejoins_after_unregister (started : (mesh.channel n).phase = .started)
    (linked : (mesh.channel n).isLinked = true) (differs : (mesh.channel n).domain ≠ domain) :
    n ∈ ((mesh.unregister n).2.changeDomain n domain).2.registry := by
  have isLinked : ((mesh.unregister n).2.channel n).isLinked = true := linked
  have isStarted : ((mesh.unregister n).2.channel n).phase = .started := started
  have stillDiffers : ((mesh.unregister n).2.channel n).domain ≠ domain := differs
  rw [(changeDomain_books isStarted stillDiffers).1, if_pos isLinked]
  simp

end Mesh

end PeerMesh
