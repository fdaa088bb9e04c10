/-
**How a channel takes a node that makes itself known.**

* `View.Admits` — a node was heard of at an address: it is live there and not suspected, and everybody else
  is as before. `View.arrival` — what watchers are told of it: that it has come, if it was not live.
* `Channel.informed` — the channel with another view, of which its watchers were told.
* `onAnnounced_of_accepted`, `onDiscover_of_newcomer` — a node is admitted, and finders are to be told of it;
  only an announcement is answered.
* `react_of_refused`, `react_of_dead`, `onDiscover_of_known` — nothing is to happen, and the channel stays as
  it is.
-/

import PeerMesh.Proofs.Channel.Continuity
import PeerMesh.Proofs.View.Greetings
import PeerMesh.Proofs.View.Watchers

namespace PeerMesh

namespace View

variable {view after : View} {selfId id : NodeId} {now : Reading} {address : Address} {error : ViewError}

/-- Publishing the numbers of a sound view changes nothing. -/
theorem Sound.committed_eq (sound : view.Sound selfId) : view.committed = view := by
  obtain ⟨owner, live, dead, next, peers, gauges, closed⟩ := view
  obtain ⟨counted, gaugeLive, gaugeDead⟩ := (⟨sound.peersCounted, sound.gaugeLive, sound.gaugeDead⟩ :
    peers = live.size ∧ gauges.live = live.size ∧ gauges.dead = dead.size)
  unfold committed
  dsimp only
  rw [counted, ← gaugeLive, ← gaugeDead]

/-- What watchers are told of a node that is heard of at an address. -/
def arrival (view : View) (now : Reading) (address : Address) (id : NodeId) : List Notice :=
  if (view.get? id).isNone then [⟨.up, newRecord now address id 0⟩] else []

/-- From one view to the next a node was heard of at an address, and everybody else is as before. -/
structure Admits (before : View) (now : Reading) (address : Address) (id : NodeId) (after : View) : Prop where
  known : ∀ other, after.get? other =
    if other = id then some (heardFrom now address id (before.get? id)) else before.get? other
  dead : ∀ other, after.dead.get? other = before.dead.get? other
  gate : after.gate = before.gate
  sound : ∀ selfId, before.Sound selfId → after.Sound selfId

/-- **Whoever is admitted is live at the address**, and not suspected. -/
theorem Admits.live (admits : view.Admits now address id after) :
    ∃ record, after.get? id = some record ∧ record.address = address ∧ record.health = .normal := by
  obtain ⟨peer, earlier, touches, version, heard⟩ := Standing.heardFrom_eq now address id (view.get? id)
  refine ⟨heardFrom now address id (view.get? id), ?_, ?_, ?_⟩
  · rw [admits.known, if_pos rfl]
  · rw [heard]
  · rw [heard]

/-! ### Refusals -/

theorem exists_refusal (refuses : view.closed = true ∨ id = view.selfId) :
    ∃ error, view.refusal? id = some error := by
  unfold refusal?
  rcases refuses with closed | own
  · exact ⟨.closed, if_pos closed⟩
  · rw [if_pos own]
    split <;> exact ⟨_, rfl⟩

/-! ### Discoveries -/

theorem addHost_of_refused (refused : view.refusal? id = some error) (now : Reading) (address : Address) :
    view.addHost now address id = ⟨.error error, view, []⟩ := by
  unfold addHost unlessRefused
  rw [refused]

theorem addHost_of_known (accepted : view.refusal? id = none)
    (known : (view.isDead id || view.isLive id) = true) (now : Reading) (address : Address) :
    view.addHost now address id = ⟨.ok false, view.committed, []⟩ := by
  unfold addHost unlessRefused
  rw [accepted, if_pos known]

theorem addHost_of_newcomer (accepted : view.refusal? id = none)
    (unknown : (view.isDead id || view.isLive id) = false) (now : Reading) (address : Address) :
    view.addHost now address id = ⟨.ok true, (view.enroll (newRecord now address id 0)).committed,
      [⟨.up, newRecord now address id 0⟩]⟩ := by
  unfold addHost unlessRefused
  rw [accepted, if_neg (by rw [unknown]; decide)]
  rfl

theorem arrival_of_not_live (notLive : view.isLive id = false) (now : Reading) (address : Address) :
    view.arrival now address id = [⟨.up, newRecord now address id 0⟩] := by
  rw [isLive_eq] at notLive
  have nobody : (view.get? id).isNone = true := by simpa using notLive
  exact if_pos nobody

/-- A newcomer is admitted by a discovery. -/
theorem admits_newcomer (accepted : view.refusal? id = none)
    (unknown : (view.isDead id || view.isLive id) = false) (now : Reading) (address : Address) :
    view.Admits now address id (view.addHost now address id).view := by
  have sound (selfId : NodeId) (sound : view.Sound selfId) := sound.addHost now address id
  have nobody : view.get? id = none := by
    have notLive := (Bool.or_eq_false_iff.mp unknown).2
    rw [isLive_eq] at notLive
    simpa using notLive
  rw [addHost_of_newcomer accepted unknown] at sound ⊢
  refine ⟨fun other => ?_, fun _ => rfl, rfl, sound⟩
  show (view.enroll _).get? other = _
  rw [get?_enroll, newRecord_eq, nobody]
  rfl

/-- A node that is not tombstoned is admitted when it is heard of directly. -/
theorem admits_heartbeat (accepted : view.refusal? id = none) (notDead : view.isDead id = false) (now : Reading)
    (address : Address) : view.Admits now address id (view.heartbeat now address id).view := by
  obtain ⟨_, _, dead, gate, known⟩ := heartbeat_eq accepted now address
  refine ⟨known, fun other => ?_, gate, fun selfId sound => sound.heartbeat now address id⟩
  rw [dead]
  show (view.dead.erase id).get? other = _
  rw [Table.get?_erase]
  split
  · rename_i same
    have absent : (view.dead.get? id).isSome = false := notDead
    rw [same, Option.isSome_eq_false_iff.mp absent |> Option.isNone_iff_eq_none.mp]
  · rfl

end View

/-- What watchers make of notices keeps a view sound. -/
theorem Watched.tell_sound {watched : Watched} {selfId : NodeId} (sound : watched.view.Sound selfId)
    (time : Nat) (notices : List Notice) : (watched.tell time notices).view.Sound selfId := by
  have abides : watched.Abides (View.Sound selfId) fun _ => True := ⟨sound, fun _ _ _ _ => trivial⟩
  exact (abides.tellAll (fun watched step => Abides.performWithin
    (fun _ step _ sound => Kept.perform_sound sound time step) _ watched step) notices).view

namespace Channel

variable {channel : Channel} {selfId id : NodeId} {address : Address} {error : ViewError} {event : Event}

/-- What the clock of the channel's view shows. -/
def now (channel : Channel) (time : Nat) : Reading := channel.detector.watched.now time

/-- The channel with another view, of which its watchers were told. -/
def informed (channel : Channel) (time : Nat) (view : View) (notices : List Notice) : Channel :=
  channel.mapWatched fun watched => { watched with view := view }.tell time notices

theorem run_eq {α : Type} (channel : Channel) (time : Nat) (operation : View → Reading → Outcome α) :
    channel.run time operation =
      ((operation channel.view (channel.now time)).answer,
        channel.informed time (operation channel.view (channel.now time)).view
          (operation channel.view (channel.now time)).notices) := rfl

theorem informed_announcing (channel : Channel) (time : Nat) (view : View) (notices : List Notice) :
    (channel.informed time view notices).announcing = channel.announcing := rfl

/-- If the view is sound nothing changes when only its numbers are published. -/
theorem informed_committed (sound : channel.view.Sound selfId) (time : Nat) :
    channel.informed time channel.view.committed [] = channel := by
  rw [sound.committed_eq]
  rfl

/-- If no watcher reacts, the view is what they were told of, and all who attend have heard it. -/
theorem informed_of_unmoved {notices : List Notice} (unmoved : channel.detector.watched.IsUnmovedBy notices)
    (time : Nat) (view : View) :
    (channel.informed time view notices).view = view ∧
      channel.detector.watched.Hears notices (channel.informed time view notices).detector.watched := by
  let changed : Watched := { channel.detector.watched with view := view }
  have still : changed.IsUnmovedBy notices := unmoved
  obtain ⟨sightings, saw⟩ := Watched.tellAll_of_unmoved still (Watched.performWithin time changed.pendingReactions)
  have hears := Watched.hears_tellAll (Watched.performWithin time changed.pendingReactions) notices still
  exact ⟨congrArg Watched.view saw, hears.watchers, hears.registered, fun number attends =>
    hears.heard number ⟨attends.once, attends.listens⟩⟩

/-- Whatever watchers make of it, a channel introduces itself as before. -/
theorem introduction_informed {view : View} (sound : channel.view.Sound selfId) (still : view.Sound selfId)
    (time : Nat) (notices : List Notice) :
    (channel.informed time view notices).introduction = channel.introduction := by
  refine introduction_of rfl ?_
  have told : (channel.informed time view notices).view.Sound selfId :=
    { channel.detector.watched with view := view }.tell_sound still time notices
  exact told.owned.trans sound.owned.symm

/-! ### Announcements -/

theorem onAnnounced_of_refused (refused : channel.view.refusal? id = some error) (time : Nat)
    (address : Address) : channel.onAnnounced time id address = channel.quiet := by
  unfold onAnnounced
  rw [run_eq, View.addHost_of_refused refused]
  rfl

theorem onAnnounced_of_dead (sound : channel.view.Sound selfId) (accepted : channel.view.refusal? id = none)
    (dead : channel.view.isDead id = true) (time : Nat) (address : Address) :
    channel.onAnnounced time id address = channel.quiet := by
  have known : (channel.view.isDead id || channel.view.isLive id) = true := by rw [dead, Bool.true_or]
  unfold onAnnounced
  rw [run_eq, View.addHost_of_known accepted known]
  dsimp only
  rw [informed_committed sound, if_pos dead]

/-- **A node that announces itself is admitted, and answered**, unless it is tombstoned. -/
theorem onAnnounced_of_accepted (sound : channel.view.Sound selfId)
    (accepted : channel.view.refusal? id = none) (notDead : channel.view.isDead id = false) (time : Nat)
    (address : Address) :
    ∃ admitted, channel.view.Admits (channel.now time) address id admitted ∧
      channel.onAnnounced time id address =
        (channel.informed time admitted (channel.view.arrival (channel.now time) address id)).welcome
          id address := by
  unfold onAnnounced
  rw [run_eq]
  cases live : channel.view.isLive id with
  | false =>
    have unknown : (channel.view.isDead id || channel.view.isLive id) = false := by rw [notDead, live]; rfl
    refine ⟨_, View.admits_newcomer accepted unknown (channel.now time) address, ?_⟩
    rw [View.addHost_of_newcomer accepted unknown, View.arrival_of_not_live live]
  | true =>
    have known : (channel.view.isDead id || channel.view.isLive id) = true := by rw [live, Bool.or_true]
    obtain ⟨_, told, _⟩ := View.heartbeat_eq accepted (channel.now time) address
    refine ⟨_, View.admits_heartbeat accepted notDead (channel.now time) address, ?_⟩
    rw [View.addHost_of_known accepted known]
    dsimp only
    rw [informed_committed sound, if_neg (by rw [notDead]; decide), run_eq, told]
    rfl

/-! ### Introductions -/

theorem onDiscover_of_refused (refused : channel.view.refusal? event.origin = some error) (time : Nat) :
    channel.onDiscover time event = channel.quiet := by
  unfold onDiscover
  split
  · rfl
  · rw [run_eq, View.addHost_of_refused refused]
    rfl

theorem onDiscover_of_known (sound : channel.view.Sound selfId)
    (accepted : channel.view.refusal? event.origin = none)
    (known : (channel.view.isDead event.origin || channel.view.isLive event.origin) = true) (time : Nat) :
    channel.onDiscover time event = channel.quiet := by
  unfold onDiscover
  split
  · rfl
  · rw [run_eq, View.addHost_of_known accepted known]
    dsimp only
    rw [informed_committed sound]

/-- **A newcomer that makes itself known is admitted**, and not answered. -/
theorem onDiscover_of_newcomer (accepted : channel.view.refusal? event.origin = none)
    (unknown : (channel.view.isDead event.origin || channel.view.isLive event.origin) = false)
    (reads : Announce.codec.decode maxFrameSize event.data = .ok ⟨address⟩) (time : Nat) :
    ∃ admitted, channel.view.Admits (channel.now time) address event.origin admitted ∧
      channel.onDiscover time event =
        { (channel.informed time admitted
            (channel.view.arrival (channel.now time) address event.origin)).quiet with
          found := some (event.origin, address) } := by
  refine ⟨_, View.admits_newcomer accepted unknown (channel.now time) address, ?_⟩
  unfold onDiscover
  rw [reads]
  dsimp only
  rw [run_eq, View.addHost_of_newcomer accepted unknown,
    View.arrival_of_not_live (Bool.or_eq_false_iff.mp unknown).2]

/-! ### Both -/

theorem react_publish (publishes : event.kind = ProtocolKind.publish.text) (time : Nat) :
    channel.react time event = channel.onPublish time event := by
  unfold react
  rw [publishes, ProtocolKind.ofText?_text]

theorem react_discover (discovers : event.kind = ProtocolKind.discover.text) (time : Nat) :
    channel.react time event = channel.onDiscover time event := by
  unfold react
  rw [discovers, ProtocolKind.ofText?_text]

/-- What cannot be read changes nothing. -/
theorem react_of_illegible
    (makesKnown : event.kind = ProtocolKind.publish.text ∨ event.kind = ProtocolKind.discover.text)
    {problem : Wire.DecodeError} (illegible : Announce.codec.decode maxFrameSize event.data = .error problem)
    (time : Nat) : channel.react time event = channel.quiet := by
  rcases makesKnown with publishes | discovers
  · rw [react_publish publishes]
    unfold onPublish
    rw [illegible]
  · rw [react_discover discovers]
    unfold onDiscover
    rw [illegible]

/-- **Nobody is taken in whom the view refuses**, be it that it is shut down. -/
theorem react_of_refused
    (makesKnown : event.kind = ProtocolKind.publish.text ∨ event.kind = ProtocolKind.discover.text)
    (refused : channel.view.refusal? event.origin = some error) (time : Nat) :
    channel.react time event = channel.quiet := by
  rcases makesKnown with publishes | discovers
  · rw [react_publish publishes]
    unfold onPublish
    split
    · rfl
    · exact onAnnounced_of_refused refused time _
  · rw [react_discover discovers]
    exact onDiscover_of_refused refused time

/-- **A tombstone is not lifted** by anything by which its node makes itself known. -/
theorem react_of_dead
    (makesKnown : event.kind = ProtocolKind.publish.text ∨ event.kind = ProtocolKind.discover.text)
    (sound : channel.view.Sound selfId) (dead : channel.view.isDead event.origin = true) (time : Nat) :
    channel.react time event = channel.quiet := by
  cases refused : channel.view.refusal? event.origin with
  | some error => exact react_of_refused makesKnown refused time
  | none =>
    rcases makesKnown with publishes | discovers
    · rw [react_publish publishes]
      unfold onPublish
      split
      · rfl
      · exact onAnnounced_of_dead sound refused dead time _
    · rw [react_discover discovers]
      exact onDiscover_of_known sound refused (by rw [dead, Bool.true_or]) time

/-- **To a peer no introduction is news.** -/
theorem react_of_live (discovers : event.kind = ProtocolKind.discover.text) (sound : channel.view.Sound selfId)
    (live : channel.view.isLive event.origin = true) (time : Nat) :
    channel.react time event = channel.quiet := by
  cases refused : channel.view.refusal? event.origin with
  | some error => exact react_of_refused (.inr discovers) refused time
  | none =>
    rw [react_discover discovers]
    exact onDiscover_of_known sound refused (by rw [live, Bool.or_true]) time

end Channel

end PeerMesh
