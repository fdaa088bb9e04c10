/-
**Requests that are made at once do not disturb each other.**

* `Mesh.Resembles` — two meshes share the machine and the network, and their channels have the same frames.
* **`request_resembles`** — then whoever is asked does the same in both, and so does whoever is pinged before the
  answer. `askAll_eq` — so of many requests each comes to what it alone would have come to.
* `send_eq`, `sendAll_eq` — a send to one target, and sends to many.
* `Mesh.IsFanOut` — what a channel comes back with that has sent to several targets at once.
  **`sends_independently`** — sending different payloads, one payload, or one payload to peers by their ids; and over
  connections as well, as long as there are permits for all.
-/

import PeerMesh.Proofs.Mesh.Gate
import PeerMesh.Proofs.Mesh.Incidents
import PeerMesh.Proofs.Mesh.Isolation
import PeerMesh.Proofs.Mesh.Routine
import PeerMesh.Proofs.Transport.Permits

namespace PeerMesh

/-- What a control message calls for depends on whose view it is. -/
theorem Watched.receive_followUp {watched other : Watched} (same : other.view.selfId = watched.view.selfId)
    (time now : Nat) (event : Event) : (other.receive now event).1 = (watched.receive time event).1 := by
  unfold receive
  cases ControlMessage.codec.decode maxFrameSize event.data with
  | error error => rfl
  | ok message =>
    cases message with
    | request request =>
      cases request with
      | ping => rfl
      | healthCheck target address =>
        unfold receiveRequest
        dsimp only
        rw [same]
        split <;> rfl
    | notification | gossip | event => rfl

namespace Channel

variable {channel later : Channel}

theorem event_of_frame (same : later.frame = channel.frame) (scope : Scope) (kind : String) (data : Bytes) :
    later.event scope kind data = channel.event scope kind data := by
  have address : later.address = channel.address := by
    show later.frame.address = channel.frame.address
    rw [same]
  unfold event
  rw [address, selfId_of_frame same]

theorem controlEvent_of_frame (same : later.frame = channel.frame) (scope : Scope) (message : ControlMessage) :
    later.controlEvent scope message = channel.controlEvent scope message :=
  event_of_frame same scope _ _

end Channel

/-- How an exchange ends depends neither on its number nor on earlier partners, if nobody answers. -/
theorem Client.exchange_of_bare {client other : Client} (same : other.bare = client.bare)
    (resolve : Address → Option Socket.Endpoint) (host : Socket.Host) (address : Address) (event : Event)
    (expectsReply : Bool) :
    (other.exchange resolve (fun _ => host.connect none) address event expectsReply).1 =
      (client.exchange resolve (fun _ => host.connect none) address event expectsReply).1 := by
  have own : other.address = client.address := by
    show other.bare.address = client.bare.address
    rw [same]
  have lost : other.lost = client.lost := by
    show other.bare.lost = client.bare.lost
    rw [same]
  unfold exchange
  rw [own, lost]
  cases client.address with
  | none => rfl
  | some _ =>
    cases resolve address with
    | none => rfl
    | some endpoint =>
      dsimp only
      split
      · rfl
      · cases connects : host.connect (none : Option FarSide) with
        | error failure => rfl
        | ok far =>
          unfold Socket.Host.connect at connects
          cases fails : host.connectFailure <;> rw [fails] at connects <;> cases connects

namespace Mesh

variable {mesh later mesh' later' : Mesh} {n : Nat}

/-- The machine and the network are the same, and the channels have the same frames. -/
structure Resembles (mesh later : Mesh) : Prop where
  host : later.host = mesh.host
  network : later.network = mesh.network
  frame : ∀ n, (later.channel n).frame = (mesh.channel n).frame

theorem Resembles.refl (mesh : Mesh) : mesh.Resembles mesh := ⟨rfl, rfl, fun _ => rfl⟩

/-- Chores on both sides keep the resemblance. -/
theorem Resembles.chores (resembles : mesh.Resembles later) (one : mesh.Chore (fun _ _ => True) mesh')
    (other : later.Chore (fun _ _ => True) later') : mesh'.Resembles later' where
  host := other.keeps.host.trans (resembles.host.trans one.keeps.host.symm)
  network := other.keeps.network.trans (resembles.network.trans one.keeps.network.symm)
  frame n := (other.keeps.frame n).trans ((resembles.frame n).trans (one.keeps.frame n).symm)

/-! ### One request -/

section

variable {pinger : Pinger}
  (chores : ∀ (mesh : Mesh) (k : Nat) (address : Address), mesh.Chore (fun _ _ => True) (pinger mesh k address).2)
  (pings : ∀ {mesh later : Mesh}, mesh.Resembles later → ∀ (k : Nat) (address : Address),
    (pinger later k address).1 = (pinger mesh k address).1)

include pings

theorem answerControl_resembles (resembles : mesh.Resembles later) (n : Nat) (event : Event) :
    (later.answerControl pinger n event).1 = (mesh.answerControl pinger n event).1 := by
  have gone : (later.channel n).isGone = (mesh.channel n).isGone := by
    show (later.channel n).frame.isGone = (mesh.channel n).frame.isGone
    rw [resembles.frame]
  have followUp : (later.modifyGet n (·.hearControl later.time event)).1 =
      (mesh.modifyGet n (·.hearControl mesh.time event)).1 :=
    Watched.receive_followUp (Channel.selfId_of_frame (resembles.frame n)) _ _ event
  have heard (mesh : Mesh) : mesh.Chore (fun _ _ => True) (mesh.modifyGet n (·.hearControl mesh.time event)).2 :=
    mesh.change_chore n ((mesh.channel n).hearControl_frame mesh.time event) rfl
  have still := resembles.chores (heard mesh) (heard later)
  unfold answerControl
  rw [gone]
  split
  · rfl
  · dsimp only
    rw [followUp]
    split
    · rfl
    · rfl
    · rfl
    · exact congrArg (fun pinged : Reply × Nat => Behaviour.answers (.ofMillis pinged.2)
        (some (SyncReply.reachable (SyncRequest.ping.isAffirmedBy pinged.1)).bytes)) (pings still n _)

theorem answer_resembles (resembles : mesh.Resembles later) (event : Event) (party : Party) :
    (later.answer pinger event party).1 = (mesh.answer pinger event party).1 := by
  have noted (mesh : Mesh) : mesh.Chore (fun _ _ => True) (mesh.note (.reached party true event)) :=
    mesh.note_chore trivial
  unfold answer
  cases party with
  | outsider receiver => rfl
  | channel n =>
    dsimp only
    rw [Channel.replier?_of_frame (resembles.frame n) event]
    split
    · rfl
    · exact answerControl_resembles pings (resembles.chores (noted mesh) (noted later)) n event
    · rfl

theorem requestFrom_resembles (resembles : mesh.Resembles later) (own : Memory.UnicastEnd) (address : Address)
    (event : Event) :
    (later.requestFrom pinger own address event).1 = (mesh.requestFrom pinger own address event).1 := by
  unfold requestFrom
  rw [resembles.network]
  split
  · exact answer_resembles pings resembles event _
  · rfl

theorem requestWith_resembles (resembles : mesh.Resembles later) (n : Nat) (address : Address) (event : Event) :
    (later.requestWith pinger n address event).1 = (mesh.requestWith pinger n address event).1 := by
  have bare : (later.channel n).line.bare = (mesh.channel n).line.bare :=
    congrArg Channel.line (resembles.frame n)
  have asked (mesh : Mesh) : mesh.Chore (fun _ _ => True) (mesh.note (.asked n address event)) :=
    mesh.note_chore trivial
  have still := resembles.chores (asked mesh) (asked later)
  unfold requestWith
  dsimp only
  cases line : (mesh.channel n).line with
  | memory own =>
    cases other : (later.channel n).line with
    | memory another =>
      rw [line, other] at bare
      cases bare
      exact requestFrom_resembles pings still own address event
    | stream client =>
      rw [line, other] at bare
      cases bare
  | stream client =>
    cases other : (later.channel n).line with
    | memory another =>
      rw [line, other] at bare
      cases bare
    | stream another =>
      rw [line, other] at bare
      have same : ((later.note (.asked n address event)).stream n another address event true).1 =
          ((mesh.note (.asked n address event)).stream n client address event true).1 := by
        unfold stream
        dsimp only
        rw [show (later.note (.asked n address event)).host = (mesh.note (.asked n address event)).host from
          resembles.host]
        exact congrArg ExchangeEnd.result
          (Client.exchange_of_bare (UnicastLink.stream.inj bare) _ mesh.host address event true)
      dsimp only
      generalize (later.note (.asked n address event)).stream n another address event true = sent at same ⊢
      generalize (mesh.note (.asked n address event)).stream n client address event true = first at same ⊢
      obtain ⟨result, sent⟩ := sent
      obtain ⟨_, first⟩ := first
      cases same
      cases result <;> rfl

end

theorem pingWithin_resembles (depth : Nat) : ∀ {mesh later : Mesh}, mesh.Resembles later →
    ∀ (k : Nat) (address : Address), (pingWithin depth later k address).1 = (pingWithin depth mesh k address).1 := by
  induction depth with
  | zero => exact fun _ _ _ => rfl
  | succ depth ih =>
    intro mesh later resembles k address
    unfold pingWithin
    dsimp only
    rw [Channel.controlEvent_of_frame (resembles.frame k), Channel.settings_of_frame (resembles.frame k)]
    split
    · rfl
    · dsimp only
      rw [requestWith_resembles ih resembles k address]

/-- **Whoever is asked does the same**, whatever else was done before. -/
theorem request_resembles (resembles : mesh.Resembles later) (n : Nat) (address : Address) (event : Event) :
    (later.request n address event).1 = (mesh.request n address event).1 :=
  requestWith_resembles (pingWithin_resembles 1) resembles n address event

/-! ### Many requests -/

theorem askAll_cons (mesh : Mesh) (n : Nat) (target : Address × Event) (rest : List (Address × Event)) :
    (mesh.askAll n (target :: rest)).1 =
      (target.1, (mesh.request n target.1 target.2).1) ::
        ((mesh.request n target.1 target.2).2.askAll n rest).1 := by
  let ask (asked : List (Address × Behaviour) × Mesh) (target : Address × Event) :=
    (asked.1 ++ [(target.1, (asked.2.request n target.1 target.2).1)], (asked.2.request n target.1 target.2).2)
  have asks (mesh : Mesh) (targets : List (Address × Event)) :
      mesh.askAll n targets = targets.foldl ask ([], mesh) := rfl
  have gathers (targets : List (Address × Event)) : ∀ (asked : List (Address × Behaviour)) (mesh : Mesh),
      (targets.foldl ask (asked, mesh)).1 = asked ++ (mesh.askAll n targets).1 := by
    simp only [asks]
    induction targets with
    | nil => exact fun asked _ => (List.append_nil asked).symm
    | cons target rest ih =>
      intro asked mesh
      refine (ih _ _).trans ?_
      rw [List.append_assoc]
      exact congrArg (asked ++ ·) (ih [_] _).symm
  exact gathers rest [_] _

/-- **Each of many requests comes to what it alone would have come to.** -/
theorem askAll_eq (mesh : Mesh) (n : Nat) (targets : List (Address × Event)) :
    (mesh.askAll n targets).1 =
      targets.map fun target => (target.1, (mesh.request n target.1 target.2).1) := by
  have each : ∀ {later : Mesh}, mesh.Resembles later → (later.askAll n targets).1 =
      targets.map fun target => (target.1, (mesh.request n target.1 target.2).1) := by
    induction targets with
    | nil => exact fun _ => rfl
    | cons target rest ih =>
      intro later resembles
      rw [askAll_cons, ih (resembles.chores (.refl _ mesh) (later.request_chore n target.1 target.2)),
        request_resembles resembles, List.map_cons]
  exact each (.refl mesh)

/-- What a send to one target comes to. -/
theorem send_eq {kind : String} {data : Bytes} {event : Event}
    (made : (mesh.channel n).outboundEvent .unscoped kind data = .ok event) (address : Address)
    (timeout : Duration) :
    let lone := loneSend timeout (address, (mesh.request n address event).1)
    (mesh.send n address kind data timeout).1 = .ok lone.1 ∧
      (mesh.send n address kind data timeout).2.time = mesh.time + lone.2 := by
  have asked : (mesh.request n address event).2.time = mesh.time :=
    (mesh.request_chore n address event).keeps.time
  unfold send
  rw [made]
  dsimp only
  refine ⟨rfl, ?_⟩
  rw [runUntil_time, asked, Nat.max_eq_right (Nat.le_add_right _ _)]
  rfl

/-- What sends to many targets come to. -/
theorem sendAll_eq (mesh : Mesh) (n : Nat) (targets : List (Address × Event)) (timeout : Duration) :
    let lone := fun target : Address × Event =>
      loneSend timeout (target.1, (mesh.request n target.1 target.2).1)
    (mesh.sendAll n targets timeout).1 = targets.map (fun target => (lone target).1) ∧
      (mesh.sendAll n targets timeout).2.time =
        mesh.time + (targets.map fun target => (lone target).2).foldr max 0 := by
  have asked : (mesh.askAll n targets).2.time = mesh.time := (mesh.askAll_chore n targets).keeps.time
  have sent := sendMany_eq timeout (mesh.askAll n targets).1 (mesh.askAll n targets).2.time
  rw [askAll_eq, asked, List.map_map, List.map_map] at sent
  unfold sendAll
  dsimp only
  rw [runUntil_time, asked, askAll_eq, sent]
  exact ⟨rfl, Nat.max_eq_right (Nat.le_add_right _ _)⟩

/-! ### Several targets at once -/

/-- **What a channel comes back with that has sent to several targets at once.** -/
structure IsFanOut (mesh : Mesh) (n : Nat) (kind : String) (timeout : Duration)
    (targets : List (Address × Bytes)) (sent : Except ChannelError Responses × Mesh) : Prop where
  /-- There is one response for each target, in their order, each the one that a lone send brings. -/
  responses : ∃ responses, sent.1 = .ok responses ∧
    List.Forall₂ (fun target response => (mesh.send n target.1 kind target.2 timeout).1 = .ok response)
      targets responses
  /-- All is over when the slowest of the lone sends would be. -/
  ends : sent.2.time =
    (targets.map fun target => (mesh.send n target.1 kind target.2 timeout).2.time).foldr max mesh.time
  /-- This is within the timeout, in whole milliseconds. -/
  inTime : sent.2.time ≤ mesh.time + timeout.ticks

/-- What was sent to a target has failed because the target did not answer in time, refused the connection, or
could not be reached. -/
def LosesTouch (mesh : Mesh) (n : Nat) (address : Address) (event : Event) (timeout : Duration) : Prop :=
  ∃ error, ((mesh.request n address event).1.ending timeout).1 = .error error ∧
    (error = .timeout ∨ (∃ detail, error = .connectionRefused detail) ∨ ∃ detail, error = .unreachable detail)

/-- The latest of some moments and the first, if all are counted from the first. -/
theorem foldr_max_add (time : Nat) (delays : List Nat) :
    (delays.map (time + ·)).foldr max time = time + delays.foldr max 0 := by
  induction delays with
  | nil => rfl
  | cons delay rest ih =>
    simp only [List.map_cons, List.foldr_cons, ih]
    omega

/-- If an event is made for each target, all of them are made. -/
theorem mapM_events {kind : String} {event : Bytes → Event}
    (made : ∀ data, (mesh.channel n).outboundEvent .unscoped kind data = .ok (event data))
    (targets : List (Address × Bytes)) :
    (targets.mapM fun (address, data) => do
      return (address, ← (mesh.channel n).outboundEvent .unscoped kind data)) =
        (.ok (targets.map fun target => (target.1, event target.2)) :
          Except ChannelError (List (Address × Event))) := by
  induction targets with
  | nil => rfl
  | cons target rest ih =>
    rw [List.mapM_cons, ih]
    dsimp only
    rw [made]
    rfl

/-- Sending to several targets is a fan-out. -/
theorem sendAll_isFanOut {kind : String} {event : Bytes → Event}
    (made : ∀ data, (mesh.channel n).outboundEvent .unscoped kind data = .ok (event data))
    (targets : List (Address × Bytes)) (timeout : Duration) :
    let sent := mesh.sendAll n (targets.map fun target => (target.1, event target.2)) timeout
    mesh.IsFanOut n kind timeout targets (.ok sent.1, sent.2) := by
  intro sent
  obtain ⟨responses, time⟩ := mesh.sendAll_eq n (targets.map fun target => (target.1, event target.2)) timeout
  rw [List.map_map] at responses time
  refine ⟨⟨_, rfl, ?_⟩, ?_, ?_⟩
  · rw [responses, List.forall₂_map_right_iff]
    exact List.forall₂_same.mpr fun target _ => (send_eq (made target.2) target.1 timeout).1
  · have delays : (targets.map fun target => (mesh.send n target.1 kind target.2 timeout).2.time) =
        (targets.map fun target => (loneSend timeout (target.1, (mesh.request n target.1 (event target.2)).1)).2).map
          (mesh.time + ·) := by
      rw [List.map_map]
      exact List.map_congr_left fun target _ => (send_eq (made target.2) target.1 timeout).2
    rw [delays, foldr_max_add]
    exact time
  · refine time.trans_le (Nat.add_le_add_left (foldr_max_le fun delay among => ?_) _)
    obtain ⟨target, -, rfl⟩ := List.mem_map.mp among
    exact loneSend_le_timeout timeout _

/-- Exactly the peers have addresses. -/
theorem forall₂_addressOf (view : View) (ids : List NodeId) :
    List.Forall₂ (fun id address => view.addressOf? id = some address) (ids.filter view.isLive)
      (ids.filterMap view.addressOf?) := by
  have lives (id : NodeId) : view.isLive id = (view.addressOf? id).isSome := by
    unfold View.addressOf? View.get? View.isLive Table.contains
    simp
  induction ids with
  | nil => exact .nil
  | cons id rest ih =>
    have live := lives id
    cases known : view.addressOf? id with
    | none =>
      rw [known] at live
      rw [List.filter_cons_of_neg (by simp [live]), List.filterMap_cons_none known]
      exact ih
    | some address =>
      rw [known] at live
      rw [List.filter_cons_of_pos (by simp [live]), List.filterMap_cons_some known]
      exact .cons known ih

/-- **Sends to several targets at once are as good as lone sends**, whatever the targets do. -/
theorem sends_independently (mesh : Mesh) (n : Nat) (started : (mesh.channel n).phase = .started)
    (reached : (mesh.channel n).address.isSome = true) (kind : String) (timeout : Duration) :
    (∀ address data, ∃ event response, (mesh.channel n).outboundEvent .unscoped kind data = .ok event ∧
      (mesh.send n address kind data timeout).1 = .ok response ∧ response.source = address ∧
        (response.isSuspect = true ↔ mesh.LosesTouch n address event timeout)) ∧
    (∀ targets, mesh.IsFanOut n kind timeout targets (mesh.sendEach n targets kind timeout)) ∧
    (∀ addresses data, mesh.IsFanOut n kind timeout (addresses.map fun address => (address, data))
      (mesh.sendMany n addresses kind data timeout)) ∧
    (∀ ids data, ∃ addresses,
      List.Forall₂ (fun id address => (mesh.channel n).view.addressOf? id = some address)
        (ids.filter (mesh.channel n).view.isLive) addresses ∧
      mesh.sendToNodes n ids kind data timeout = mesh.sendMany n addresses kind data timeout) ∧
    ∀ (asked : List (Address × Behaviour)) (time : Nat),
      PeerMesh.sendMany timeout asked time =
        (asked.map fun target => (loneSend timeout target).1,
          time + (asked.map fun target => (loneSend timeout target).2).foldr max 0) ∧
      ∀ permits : PeerMesh.Permits, permits.IsStocked → permits.Serves timeout asked time := by
  obtain ⟨own, at_⟩ := Option.isSome_iff_exists.mp reached
  let event (data : Bytes) : Event := ⟨.unscoped, kind, data, (mesh.channel n).selfId, own⟩
  have made (data : Bytes) : (mesh.channel n).outboundEvent .unscoped kind data = .ok (event data) := by
    unfold Channel.outboundEvent Channel.gate Channel.event
    rw [started, at_]
    rfl
  refine ⟨fun address data => ⟨event data, _, made data, (send_eq (made data) address timeout).1, ?_, ?_⟩,
    fun targets => ?_, fun addresses data => ?_, fun ids data => ⟨_, forall₂_addressOf _ ids, rfl⟩,
    fun asked time => ⟨sendMany_eq timeout asked time, fun _ stocked => stocked.serves timeout asked time⟩⟩
  · exact Response.source_ofResult address _
  · refine (Response.isSuspect_ofResult_iff address _).trans ?_
    simp only [TransportError.isReachability_iff]
    rfl
  · have all := mapM_events made targets
    unfold Mesh.sendEach
    dsimp only
    rw [all]
    exact sendAll_isFanOut made targets timeout
  · have all := sendAll_isFanOut made (addresses.map fun address => (address, data)) timeout
    rw [List.map_map] at all
    unfold Mesh.sendMany
    rw [made]
    exact all

/-- A channel, and somebody else who takes his time to answer. -/
def tardy : Mesh :=
  (empty default).undergoAll [.create "a" (dweller "a" 8) true, .order (.start 0),
    .order (.setUp (.stall (.ofMillis 50)) false)]

/-- The channel sends to somebody who is late, to nobody, and to itself; and a client with four permits asks one
endpoint three times. -/
theorem sends_independently_tardy :
    let targets := [Memory.addressOf 3, ⟨"mem:9"⟩, Memory.addressOf 2]
    let asked : List (Address × Behaviour) := List.replicate 3 (⟨"127.0.0.1:4000"⟩, .answers (.ofMillis 15) none)
    let permits := PeerMesh.Permits.new 4
    (tardy.channel 0).phase = .started ∧ (tardy.channel 0).address.isSome = true ∧
      tardy.IsFanOut 0 "chat" (.ofMillis 20) (targets.map fun address => (address, []))
        (tardy.sendMany 0 targets "chat" [] (.ofMillis 20)) ∧
      permits.IsStocked ∧ permits.HasRoom asked 7 ∧ permits.Serves (.ofMillis 20) asked 7 := by
  intro targets asked permits
  have started : (tardy.channel 0).phase = .started := by decide +kernel
  have reached : (tardy.channel 0).address.isSome = true := by decide +kernel
  have stocked : permits.IsStocked := PeerMesh.Permits.stocked_new 4
  have room : permits.HasRoom asked 7 := PeerMesh.Permits.hasRoom_new (by decide) 7
  obtain ⟨-, -, many, -, served⟩ := sends_independently tardy 0 started reached "chat" (.ofMillis 20)
  exact ⟨started, reached, many targets [], stocked, room, (served asked 7).2 permits stocked⟩

/-- **A timeout of less than a millisecond takes a whole one**, and a fifth exchange with one endpoint waits for its
permit until the time for the answer is over. -/
theorem overdue_send :
    (let timeout : Duration := ⟨100000⟩
    let sent := tardy.sendMany 0 [Memory.addressOf 3] "chat" [] timeout
    sent.1 = .ok [.suspect (Memory.addressOf 3) .timeout] ∧
      ¬ sent.2.time * Duration.nanosPerMilli ≤ tardy.time * Duration.nanosPerMilli + timeout.nanos) ∧
    let target : Address × Behaviour := (⟨"127.0.0.1:4000"⟩, .answers (.ofMillis 50) (some []))
    let permits := PeerMesh.Permits.new (tardy.channel 0).settings.maxConnections
    let sent := permits.sendMany (.ofMillis 75) (List.replicate 5 target) 0
    sent.1.1[4]? = some (.suspect target.1 .timeout) ∧
      (loneSend (.ofMillis 75) target).1 = .ofResult target.1 (.ok (some [])) := by
  decide +kernel

end Mesh

end PeerMesh
