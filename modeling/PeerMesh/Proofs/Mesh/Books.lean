/-
**What is done to the registry.**

* `Mesh.KeepsBooks` — the registry is left alone, and so is who was ever in it. Traffic does so, and starting
  channels or taking them apart.
* `mem_registry_register`, `mem_registry_unregister`, `registry_close`, `closeAll_books` — what registering,
  unregistering and closing do to it.
* `Mesh.IsBooked` — whoever is in the registry is there once, and is known to have been put there.
* `changeDomain_books` — what moving to another domain does to it.
* `getOrCreate_cases` — the registry hands out a channel that it has, or a new one that it takes, or none.
-/

import PeerMesh.Proofs.Mesh.Closing

namespace PeerMesh

namespace Mesh

variable {mesh later last : Mesh} {n m : Nat} {domain : String}

/-! ### What does not touch the registry -/

/-- The registry and who was ever in it are the same. -/
structure KeepsBooks (before after : Mesh) : Prop where
  registry : after.registry = before.registry
  isLinked : ∀ n, (after.channel n).isLinked = (before.channel n).isLinked

theorem KeepsBooks.refl (mesh : Mesh) : mesh.KeepsBooks mesh := ⟨rfl, fun _ => rfl⟩

theorem KeepsBooks.trans (first : mesh.KeepsBooks later) (second : later.KeepsBooks last) : mesh.KeepsBooks last :=
  ⟨second.registry.trans first.registry, fun n => (second.isLinked n).trans (first.isLinked n)⟩

theorem keepsBooks_of_same (registry : later.registry = mesh.registry) (channels : later.channels = mesh.channels) :
    mesh.KeepsBooks later :=
  ⟨registry, fun n => by rw [channel, channel, channels]⟩

theorem Traffic.keepsBooks (traffic : mesh.Traffic Nobody later) : mesh.KeepsBooks later :=
  ⟨(traffic (isApart_nobody mesh)).registry, fun n => congrArg Channel.Standing.isLinked (traffic.standing n)⟩

theorem Alters.keepsBooks (alters : mesh.Alters n later) : mesh.KeepsBooks later := by
  refine ⟨alters.registry, fun m => ?_⟩
  by_cases same : m = n
  · rw [same]
    exact alters.isLinked
  · rw [alters.others m same]

theorem modify_keepsBooks (mesh : Mesh) (n : Nat) {change : Channel → Channel}
    (same : (change (mesh.channel n)).isLinked = (mesh.channel n).isLinked) :
    mesh.KeepsBooks (mesh.modify n change) := by
  refine ⟨rfl, fun m => ?_⟩
  rcases mesh.channel_modify_cases n change m with unchanged | ⟨rfl, changed⟩
  · rw [unchanged]
  · rw [changed, same]

theorem create_keepsBooks (mesh : Mesh) (label : String) (settings : Settings) (hasNetwork : Bool) :
    mesh.KeepsBooks (mesh.create label settings hasNetwork).2 := by
  have linked (kind : TransportKind) : mesh.KeepsBooks (mesh.linkGroup settings kind).2 := by
    cases kind <;> exact keepsBooks_of_same rfl rfl
  cases creates : mesh.create label settings hasNetwork with
  | mk result later =>
    cases result with
    | error error =>
      unfold Mesh.create at creates
      split at creates
      · cases creates
        exact .refl mesh
      · cases creates
        exact .refl mesh
      · dsimp only at creates
        split at creates
        · cases creates
          exact linked _
        · cases creates
    | ok number =>
      obtain ⟨rfl, registry, made, channels, _, _, unlinked⟩ := create_ok creates
      refine ⟨registry, fun m => ?_⟩
      rw [channel_of_append channels]
      split
      · rename_i same
        rw [same, channel_of_absent (Nat.le_refl _), unlinked]
        rfl
      · rfl

theorem start_keepsBooks (mesh : Mesh) (n : Nat) : mesh.KeepsBooks (mesh.start n).2 := by
  cases phase : (mesh.channel n).phase with
  | started | closed =>
    unfold Mesh.start
    rw [phase]
    exact .refl mesh
  | created =>
    let begun := mesh.modify n ({ · with phase := .started })
    have parts : mesh.KeepsBooks (begun.startParts n).2 :=
      (mesh.modify_keepsBooks n rfl).trans (begun.startParts_alters n).keepsBooks
    rcases start_cases phase with starts | ⟨error, fails⟩
    · rw [starts]
      exact parts
    · rw [fails]
      exact (parts.trans (modify_keepsBooks _ n rfl)).trans (teardown_alters _ n).keepsBooks

/-! ### What touches the registry -/

theorem mem_registry_unregister : m ∈ (mesh.unregister n).2.registry ↔ m ∈ mesh.registry ∧ m ≠ n := by
  simp [Mesh.unregister]

theorem mem_registry_register : m ∈ (mesh.register n).registry ↔ m = n ∨ m ∈ mesh.registry := by
  unfold Mesh.register
  dsimp only
  split
  · rename_i isIn
    exact ⟨.inr, fun either => either.elim (fun same => same ▸ isIn) id⟩
  · simp [or_comm]

theorem nodup_register (nodup : mesh.registry.Nodup) : (mesh.register n).registry.Nodup := by
  unfold Mesh.register
  dsimp only
  split
  · exact nodup
  · rename_i isOut
    refine List.nodup_append.mpr ⟨nodup, List.nodup_singleton n, fun old among new single same => isOut ?_⟩
    rw [← List.mem_singleton.mp single, ← same]
    exact among

theorem channel_register (mesh : Mesh) (n m : Nat) :
    (mesh.register n).channel m = (mesh.modify n ({ · with isLinked := true })).channel m := by
  unfold Mesh.register
  dsimp only
  split <;> rfl

theorem isLinked_register (there : n < mesh.channels.length) :
    ((mesh.register n).channel m).isLinked = true ↔ m = n ∨ (mesh.channel m).isLinked = true := by
  rw [channel_register]
  by_cases same : m = n
  · subst same
    rw [channel_modify there]
    simp
  · rw [channel_modify_ne same]
    simp [same]

theorem shutDown_keepsBooks (mesh : Mesh) (n : Nat) : mesh.KeepsBooks (mesh.shutDown n) :=
  ((mesh.modify_keepsBooks n rfl).trans (Traffic.keepsBooks (postAll_traffic _ id _))).trans
    (teardown_alters _ n).keepsBooks

/-- **A channel that is closed leaves the registry** if it was started and ever in it. -/
theorem registry_close (mesh : Mesh) (n : Nat) :
    (mesh.close n).registry =
      if (mesh.channel n).phase = .started ∧ (mesh.channel n).isLinked then mesh.registry.filter (· ≠ n)
      else mesh.registry := by
  have same := (mesh.shutDown_keepsBooks n).registry
  by_cases started : (mesh.channel n).phase = .started
  · rw [close_of_started started, ← same]
    cases linked : (mesh.channel n).isLinked with
    | true => simp [started, Mesh.unregister]
    | false => simp
  · rw [close_of_not_started started, if_neg fun both => started both.1]

theorem isLinked_close (mesh : Mesh) (n m : Nat) :
    ((mesh.close n).channel m).isLinked = (mesh.channel m).isLinked := by
  by_cases started : (mesh.channel n).phase = .started
  · rw [close_of_started started]
    split <;> simp [(mesh.shutDown_keepsBooks n).isLinked m]
  · rw [close_of_not_started started]

/-- Whoever is in the registry is there once, and is known to have been put there. -/
structure IsBooked (mesh : Mesh) : Prop where
  nodup : mesh.registry.Nodup
  linked : ∀ n ∈ mesh.registry, (mesh.channel n).isLinked = true

theorem mem_registry_close (booked : mesh.IsBooked) :
    m ∈ (mesh.close n).registry ↔ m ∈ mesh.registry ∧ ¬ (m = n ∧ (mesh.channel n).phase = .started) := by
  rw [registry_close]
  split
  · rename_i both
    simp [both.1]
  · rename_i notBoth
    refine ⟨fun isIn => ⟨isIn, ?_⟩, And.left⟩
    rintro ⟨rfl, started⟩
    exact notBoth ⟨started, booked.linked m isIn⟩

theorem nodup_close (nodup : mesh.registry.Nodup) : (mesh.close n).registry.Nodup := by
  rw [registry_close]
  split
  · exact nodup.filter _
  · exact nodup

theorem closeAll_books (mesh : Mesh) :
    mesh.closeAll.registry = [] ∧ ∀ m, (mesh.closeAll.channel m).isLinked = (mesh.channel m).isLinked := by
  refine List.foldlRecOn (motive := fun later : Mesh =>
    later.registry = [] ∧ ∀ m, (later.channel m).isLinked = (mesh.channel m).isLinked) mesh.registry _
    ⟨rfl, fun _ => rfl⟩ fun between same n _ => ?_
  obtain ⟨empty, isLinked⟩ := same
  refine ⟨?_, fun m => (between.isLinked_close n m).trans (isLinked m)⟩
  rw [registry_close, empty]
  split <;> rfl

/-! ### Moving to another domain -/

theorem isLinked_register_of_linked (linked : (mesh.channel n).isLinked = true) (m : Nat) :
    ((mesh.register n).channel m).isLinked = (mesh.channel m).isLinked := by
  rw [channel_register]
  exact (mesh.modify_keepsBooks n linked.symm).isLinked m

theorem migrate_keepsBooks (mesh : Mesh) (n : Nat) (domain : String) : mesh.KeepsBooks (mesh.migrate n domain) :=
  (Traffic.keepsBooks (mesh.postAll_traffic id _)).trans (modify_keepsBooks _ n rfl)

/-- **A channel that was ever in the registry is back in it** when it has moved. -/
theorem changeDomain_books (started : (mesh.channel n).phase = .started)
    (differs : (mesh.channel n).domain ≠ domain) :
    (mesh.changeDomain n domain).2.registry =
        (if (mesh.channel n).isLinked then mesh.registry.filter (· ≠ n) ++ [n] else mesh.registry) ∧
      ∀ m, ((mesh.changeDomain n domain).2.channel m).isLinked = (mesh.channel m).isLinked := by
  rw [changeDomain_of_moves started differs]
  cases linked : (mesh.channel n).isLinked with
  | false =>
    have keeps := (mesh.migrate_keepsBooks n domain).trans (resync_alters _ n).keepsBooks
    exact ⟨keeps.registry, keeps.isLinked⟩
  | true =>
    let moved := (mesh.unregister n).2.migrate n domain
    have keeps : (mesh.unregister n).2.KeepsBooks moved := migrate_keepsBooks _ n domain
    have announced := (resync_alters (moved.register n) n).keepsBooks
    have isOut : n ∉ moved.registry := by
      rw [keeps.registry, mem_registry_unregister]
      exact fun both => both.2 rfl
    have stillLinked : (moved.channel n).isLinked = true := (keeps.isLinked n).trans linked
    refine ⟨announced.registry.trans ?_, fun m => (announced.isLinked m).trans
      ((isLinked_register_of_linked stillLinked m).trans (keeps.isLinked m))⟩
    unfold Mesh.register
    dsimp only
    rw [if_neg isOut, keeps.registry]
    rfl

/-! ### Channels that are handed out -/

theorem start_ok (there : n < mesh.channels.length) (starts : mesh.start n = (.ok (), later)) :
    (later.channel n).phase = .started ∧ (later.channel n).domain = (mesh.channel n).domain ∧
      later.channels.length = mesh.channels.length := by
  cases phase : (mesh.channel n).phase with
  | started =>
    unfold Mesh.start at starts
    rw [phase] at starts
    cases starts
    exact ⟨phase, rfl, rfl⟩
  | closed =>
    rw [start_of_closed phase] at starts
    cases starts
  | created =>
    let begun := mesh.modify n ({ · with phase := .started })
    have alters := begun.startParts_alters n
    rcases start_cases phase with started | ⟨error, fails⟩
    · rw [started] at starts
      cases starts
      refine ⟨alters.phase.trans (channel_modify_phase there .started), alters.domain.trans ?_,
        alters.count.trans (List.length_modify _ _ _)⟩
      rw [channel_modify there]
    · rw [fails] at starts
      cases starts

/-- The registry hands out a channel that it has, or a new one that it takes, or none. -/
theorem getOrCreate_cases (mesh : Mesh) (label : String) (settings : Settings) (hasNetwork : Bool) :
    (∃ n ∈ mesh.registry, isReusableFor settings.domain (mesh.channel n) = true ∧
      mesh.getOrCreate label settings hasNetwork = (.ok n, mesh)) ∨
    (∃ (n : Nat) (started : Mesh), mesh.getOrCreate label settings hasNetwork = (.ok n, started.register n) ∧
      mesh.KeepsBooks started ∧ n < started.channels.length ∧ (started.channel n).phase = .started ∧
        (started.channel n).domain = settings.domain) ∨
    ∃ error later, mesh.getOrCreate label settings hasNetwork = (.error error, later) ∧ mesh.KeepsBooks later := by
  have created := mesh.create_keepsBooks label settings hasNetwork
  unfold Mesh.getOrCreate
  cases reuses : mesh.reusable? settings with
  | some n =>
    unfold Mesh.reusable? at reuses
    split at reuses
    · have found : mesh.registry.find? (fun n => isReusableFor settings.domain (mesh.channel n)) = some n := reuses
      have isReusable := List.find?_some found
      exact .inl ⟨n, List.mem_of_find?_eq_some found, isReusable, rfl⟩
    · cases reuses
  | none =>
    cases creates : mesh.create label settings hasNetwork with
    | mk result began =>
      rw [creates] at created
      cases result with
      | error error => exact .inr (.inr ⟨error, began, rfl, created⟩)
      | ok n =>
        obtain ⟨rfl, _, made, channels, _, domain, _⟩ := create_ok creates
        have there : mesh.channels.length < began.channels.length := by simp [channels]
        have isMade := (channel_of_append channels mesh.channels.length).trans (if_pos rfl)
        have books := created.trans (began.start_keepsBooks mesh.channels.length)
        cases starting : began.start mesh.channels.length with
        | mk outcome started =>
          rw [starting] at books
          cases outcome with
          | error error =>
            let dropped := started.modify mesh.channels.length ({ · with isHeld := false })
            have keeps : started.KeepsBooks dropped := started.modify_keepsBooks _ rfl
            exact .inr (.inr ⟨error, dropped, by simp [starting, dropped], books.trans keeps⟩)
          | ok done =>
            obtain ⟨isStarted, sameDomain, count⟩ := start_ok there starting
            refine .inr (.inl ⟨_, started, by simp [starting], books, ?_, isStarted, ?_⟩)
            · rw [count]
              exact there
            · rw [sameDomain, isMade]
              exact domain

end Mesh

end PeerMesh
