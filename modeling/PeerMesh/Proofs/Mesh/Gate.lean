/-
**What a channel does for others only while it is started.**

* `Undertaking` — something by which a channel reaches out; `Mesh.undertake` — it does so.
* `outboundEvent_isOk_iff` — when a channel can make events for others.
* `sendEach_nil` — a list of nobody is sent to without a look at the phase.
* **`undertake_gated`** — whatever a channel that is not started is to undertake, it refuses and nothing
  changes, unless it is to send to nobody one by one; and when sending one payload to each of some addresses
  comes to the same as sending it to all of them.
-/

import PeerMesh.Proofs.Mesh.Workings

namespace PeerMesh

/-- Something by which a channel reaches out to others. -/
inductive Undertaking where
  /-- Queue an event that goes out. -/
  | dispatch (goal : Goal) (kind : String) (data : Bytes)
  | forceResync (targets : Option (List NodeId))
  | changeDomain (domain : String)
  | send (address : Address) (kind : String) (data : Bytes) (timeout : Duration)
  | sendMany (addresses : List Address) (kind : String) (data : Bytes) (timeout : Duration)
  | sendEach (targets : List (Address × Bytes)) (kind : String) (timeout : Duration)
  | sendToNodes (ids : List NodeId) (kind : String) (data : Bytes) (timeout : Duration)
  | sendControl (ids : List NodeId) (kind : String) (data : Bytes)
  deriving Inhabited

/-- Nobody is to be sent anything, one by one. -/
def Undertaking.isVain : Undertaking → Bool
  | .sendEach [] _ _ => true
  | _ => false

namespace Channel

variable {channel : Channel}

/-- Events can be made for others exactly if the channel is started and is at an address. -/
theorem outboundEvent_isOk_iff (scope : Scope) (kind : String) (data : Bytes) :
    (∃ event, channel.outboundEvent scope kind data = .ok event) ↔
      channel.phase = .started ∧ channel.address.isSome = true := by
  unfold outboundEvent gate event
  cases channel.phase <;> cases channel.address <;> simp [bind, Except.bind]

end Channel

namespace Mesh

variable {mesh : Mesh} {n : Nat} {error : ChannelError}

/-- A channel reaches out. -/
def undertake (mesh : Mesh) (n : Nat) : Undertaking → Answer × Mesh
  | .dispatch goal kind data => answering (.ofExcept .count) (mesh.dispatchFor n goal kind data)
  | .forceResync targets => answering .ofDone (mesh.forceResync n targets)
  | .changeDomain domain => answering .ofDone (mesh.changeDomain n domain)
  | .send address kind data timeout =>
    answering (.ofExcept .response) (mesh.send n address kind data timeout)
  | .sendMany addresses kind data timeout =>
    answering (.ofExcept .responses) (mesh.sendMany n addresses kind data timeout)
  | .sendEach targets kind timeout => answering (.ofExcept .responses) (mesh.sendEach n targets kind timeout)
  | .sendToNodes ids kind data timeout =>
    answering (.ofExcept .responses) (mesh.sendToNodes n ids kind data timeout)
  | .sendControl ids kind data => answering (.ofExcept .count) (mesh.sendControl n ids kind data)

/-! ### Lists of addresses -/

/-- To nobody nothing is sent, whatever the phase, and what is due happens meanwhile. -/
theorem sendEach_nil (mesh : Mesh) (n : Nat) (kind : String) (timeout : Duration) :
    mesh.sendEach n [] kind timeout = (.ok [], mesh.settle) := rfl

/-- If no event can be made for the first address, none is sent. -/
theorem sendEach_of_error {targets : List (Address × Bytes)} {kind : String}
    (makes : ∀ data, (mesh.channel n).outboundEvent .unscoped kind data = .error error)
    (some : targets ≠ []) (timeout : Duration) : mesh.sendEach n targets kind timeout = (.error error, mesh) := by
  obtain ⟨⟨address, data⟩, rest, rfl⟩ := List.exists_cons_of_ne_nil some
  unfold Mesh.sendEach
  simp only [List.mapM_cons, makes]
  rfl

/-- If one event is made for every address, all of them are made. -/
theorem mapM_payload {make : Address × Bytes → Except ChannelError (Address × Event)} {data : Bytes}
    {event : Event} (makes : ∀ address, make (address, data) = .ok (address, event)) (addresses : List Address) :
    (addresses.map fun address => (address, data)).mapM make =
      .ok (addresses.map fun address => (address, event)) := by
  induction addresses with
  | nil => rfl
  | cons address rest ih =>
    rw [List.map_cons, List.mapM_cons, ih, makes]
    rfl

/-- Events with one payload are the same event, once for each address. -/
theorem sendEach_of_event {kind : String} {data : Bytes} {event : Event}
    (made : (mesh.channel n).outboundEvent .unscoped kind data = .ok event) (addresses : List Address)
    (timeout : Duration) :
    mesh.sendEach n (addresses.map fun address => (address, data)) kind timeout =
      mesh.sendMany n addresses kind data timeout := by
  unfold Mesh.sendEach Mesh.sendMany
  dsimp only
  rw [mapM_payload (fun address => ?_), made]
  dsimp only
  rw [made]
  rfl

theorem sendMany_of_error {kind : String} {data : Bytes}
    (makes : (mesh.channel n).outboundEvent .unscoped kind data = .error error) (addresses : List Address)
    (timeout : Duration) : mesh.sendMany n addresses kind data timeout = (.error error, mesh) := by
  unfold Mesh.sendMany
  rw [makes]

/-- Whether an event can be made does not depend on what it carries. -/
theorem outboundEvent_error {scope other : Scope} {kind another : String} {data more : Bytes}
    {channel : Channel} (fails : channel.outboundEvent scope kind data = .error error) :
    channel.outboundEvent other another more = .error error := by
  unfold Channel.outboundEvent Channel.event at fails ⊢
  cases gate : channel.gate with
  | error refusal =>
    rw [gate] at fails
    exact fails
  | ok _ =>
    rw [gate] at fails
    cases address : channel.address with
    | none =>
      rw [address] at fails
      exact fails
    | some place =>
      rw [address] at fails
      cases fails

/-- **One payload to each of some addresses is the same as one payload to all of them**, unless there is no
address and the channel can make no event. -/
theorem sendEach_eq_sendMany_iff (addresses : List Address) (kind : String) (data : Bytes)
    (timeout : Duration) :
    mesh.sendEach n (addresses.map fun address => (address, data)) kind timeout =
        mesh.sendMany n addresses kind data timeout ↔
      addresses ≠ [] ∨ (mesh.channel n).phase = .started ∧ (mesh.channel n).address.isSome = true := by
  rw [← Channel.outboundEvent_isOk_iff .unscoped kind data]
  cases made : (mesh.channel n).outboundEvent .unscoped kind data with
  | ok event => exact iff_of_true (sendEach_of_event made addresses timeout) (.inr ⟨event, rfl⟩)
  | error error =>
    have makesNone : ¬ ∃ event, Except.error error = Except.ok (ε := ChannelError) (α := Event) event := by
      rintro ⟨event, same⟩
      cases same
    rw [or_iff_left makesNone, sendMany_of_error made]
    cases addresses with
    | nil =>
      refine iff_of_false (fun same => ?_) (fun some => some rfl)
      rw [List.map_nil, sendEach_nil] at same
      cases (Prod.mk.inj same).1
    | cons address rest =>
      refine iff_of_true (sendEach_of_error (fun _ => outboundEvent_error made) ?_ timeout) ?_
      · exact List.cons_ne_nil _ _
      · exact List.cons_ne_nil _ _

/-! ### Everything that can be undertaken -/

/-- **A channel that is not started undertakes nothing.** -/
theorem undertake_of_refusal (refused : (mesh.channel n).phase.refusal? = some error)
    (undertaking : Undertaking) :
    mesh.undertake n undertaking =
      if undertaking.isVain then (.responses [], mesh.settle) else (.refused error, mesh) := by
  have makes := (mesh.channel n).outboundEvent_of_refusal refused
  have shut := Channel.gate_of_refusal refused
  cases undertaking with
  | dispatch goal kind data =>
    show answering _ (mesh.dispatchFor n goal kind data) = (.refused error, mesh)
    have fails : mesh.dispatchFor n goal kind data = (.error error, mesh) := by
      cases goal <;> simp only [dispatchFor, dispatch, dispatchTo, makes]
    rw [fails]
    rfl
  | forceResync targets =>
    show answering _ (mesh.forceResync n targets) = (.refused error, mesh)
    unfold Mesh.forceResync
    dsimp only
    rw [makes]
    rfl
  | changeDomain domain =>
    show answering _ (mesh.changeDomain n domain) = (.refused error, mesh)
    unfold Mesh.changeDomain
    dsimp only
    rw [shut]
    rfl
  | send address kind data timeout =>
    show answering _ (mesh.send n address kind data timeout) = (.refused error, mesh)
    unfold Mesh.send
    rw [makes]
    rfl
  | sendMany addresses kind data timeout =>
    show answering _ (mesh.sendMany n addresses kind data timeout) = (.refused error, mesh)
    rw [sendMany_of_error (makes .unscoped kind data)]
    rfl
  | sendEach targets kind timeout =>
    cases targets with
    | nil => rfl
    | cons target rest =>
      show answering _ (mesh.sendEach n (target :: rest) kind timeout) = (.refused error, mesh)
      rw [sendEach_of_error (fun data => makes .unscoped kind data) (List.cons_ne_nil _ _)]
      rfl
  | sendToNodes ids kind data timeout =>
    show answering _ (mesh.sendToNodes n ids kind data timeout) = (.refused error, mesh)
    unfold Mesh.sendToNodes
    rw [sendMany_of_error (makes .unscoped kind data)]
    rfl
  | sendControl ids kind data =>
    show answering _ (mesh.sendControl n ids kind data) = (.refused error, mesh)
    unfold Mesh.sendControl
    rw [shut]
    rfl

/-- **What a channel undertakes depends on its phase.** One that is not started refuses, says why, and leaves
everything as it is. Only a list of nobody that is sent to one by one is not looked at: it is answered, and what is
due happens meanwhile. For a channel that can make no event this is where sending one payload to each of some
addresses differs from sending it to all of them. -/
theorem undertake_gated (mesh : Mesh) (n : Nat) :
    (∀ error undertaking, (mesh.channel n).phase.refusal? = some error → mesh.undertake n undertaking =
      if undertaking.isVain then (.responses [], mesh.settle) else (.refused error, mesh)) ∧
    (∀ (addresses : List Address) (kind : String) (data : Bytes) (timeout : Duration),
      mesh.sendEach n (addresses.map fun address => (address, data)) kind timeout =
          mesh.sendMany n addresses kind data timeout ↔
        addresses ≠ [] ∨ (mesh.channel n).phase = .started ∧ (mesh.channel n).address.isSome = true) :=
  ⟨fun _ undertaking refused => undertake_of_refusal refused undertaking, sendEach_eq_sendMany_iff⟩

/-- One channel that was created and not started. -/
def beginner : Mesh := ((empty default).create "a" .standard true).2

/-- The channel refuses to send to a list of nobody, but not if it is to do so one by one. -/
theorem undertake_gated_beginner :
    (beginner.channel 0).phase.refusal? = some .notStarted ∧
      beginner.undertake 0 (.sendMany [] "chat" [] ⟨0⟩) = (.refused .notStarted, beginner) ∧
      beginner.undertake 0 (.sendEach [] "chat" ⟨0⟩) = (.responses [], beginner.settle) ∧
      beginner.sendEach 0 [] "chat" ⟨0⟩ ≠ beginner.sendMany 0 [] "chat" [] ⟨0⟩ := by
  have refused : (beginner.channel 0).phase.refusal? = some .notStarted := by decide +kernel
  obtain ⟨gated, agrees⟩ := undertake_gated beginner 0
  refine ⟨refused, gated _ (.sendMany [] "chat" [] ⟨0⟩) refused, gated _ (.sendEach [] "chat" ⟨0⟩) refused, ?_⟩
  intro same
  rcases (agrees [] "chat" [] ⟨0⟩).mp same with some | ⟨started, _⟩
  · exact some rfl
  · rw [started] at refused
    cases refused

end Mesh

end PeerMesh
