/-
**A control event for some nodes, in batches of any size.**

The addresses of the nodes are looked up batch by batch, each batch only when the ones before it were sent. As long
as the view stays as it is in between, this is as good as looking all of them up first.

* `sendMoments` — the states that are passed while messages are sent.
* `sendBatches_eq` — batches, each with its addresses looked up when its turn comes, against all messages at once.
* `Station.IsSteady` — the view stays as it is while messages are sent, and the address alone decides whether a
  message is accepted. `isSteady_rig`: so it is at a rig.
* `Station.sendAll_recorded_of_accepts` — what a steady station takes down of some messages.
* **`Station.sendControl_sends_each`** — the event is sent once to each live node of the list, in order, and those
  that accept it are counted, whatever the size of the batches.
-/

import PeerMesh.Detector.Rig
import PeerMesh.Proofs.Detector.Batches
import PeerMesh.Proofs.Detector.Recorded
import PeerMesh.Proofs.View.History

namespace PeerMesh

variable {σ : Type}

/-! ### Messages one after another -/

/-- The states before, between and after messages that are sent one after another. -/
def sendMoments (send : σ → Address → ControlMessage → Bool × σ) :
    List (Address × ControlMessage) → σ → List σ
  | [], state => [state]
  | message :: rest, state => state :: sendMoments send rest (send state message.1 message.2).2

section

variable {send : σ → Address → ControlMessage → Bool × σ}

theorem start_mem_sendMoments (messages : List (Address × ControlMessage)) (state : σ) :
    state ∈ sendMoments send messages state := by
  cases messages <;> exact List.mem_cons_self

/-- Some messages are sent, and then others. -/
theorem sendAll_append (first second : List (Address × ControlMessage)) : ∀ state : σ,
    sendAll send (first ++ second) state =
      let sent := sendAll send first state
      let others := sendAll send second sent.2
      (sent.1 + others.1, others.2) := by
  induction first with
  | nil => exact fun state => by simp [sendAll]
  | cons message rest ih =>
    intro state
    rw [List.cons_append, Station.sendAll_cons, Station.sendAll_cons]
    dsimp only
    rw [ih, Nat.add_assoc]

/-- While other messages are sent after some, no state is passed that is not passed while all are sent. -/
theorem mem_sendMoments_append {first second : List (Address × ControlMessage)} {moment : σ} : ∀ {state : σ},
    moment ∈ sendMoments send second (sendAll send first state).2 →
      moment ∈ sendMoments send (first ++ second) state := by
  induction first with
  | nil => exact fun passed => passed
  | cons message rest ih =>
    intro state passed
    rw [Station.sendAll_cons] at passed
    exact List.mem_cons_of_mem _ (ih passed)

/-- **Messages in batches are the messages all at once**, if every address is looked up as it was at the start. -/
theorem sendBatches_eq (send : σ → Address → ControlMessage → Bool × σ)
    (addressOf? : σ → NodeId → Option Address) (known : NodeId → Option Address) (message : ControlMessage)
    (batches : List (List NodeId)) :
    ∀ (before : Nat) (state : σ),
    (∀ moment ∈ sendMoments send ((batches.flatten.filterMap known).map fun address => (address, message)) state,
      addressOf? moment = known) →
    batches.foldl (fun told batch =>
        let targets := batch.filterMap (addressOf? told.2)
        let sent := sendAll send (targets.map fun address => (address, message)) told.2
        (told.1 + sent.1, sent.2)) (before, state) =
      let all := sendAll send ((batches.flatten.filterMap known).map fun address => (address, message)) state
      (before + all.1, all.2) := by
  induction batches with
  | nil => exact fun _ _ _ => rfl
  | cons batch rest ih =>
    intro before state steady
    rw [List.flatten_cons, List.filterMap_append, List.map_append] at steady ⊢
    have now : addressOf? state = known := steady state (start_mem_sendMoments _ state)
    rw [List.foldl_cons]
    dsimp only
    rw [now, ih _ _ fun moment passed => steady moment (mem_sendMoments_append passed), sendAll_append]
    dsimp only
    rw [Nat.add_assoc]

end

namespace Station

variable (station : Station σ)

/-! ### Steady stations -/

/-- While messages are sent the view stays as it is, and the address alone decides whether a message is accepted. -/
structure IsSteady (accepts : Address → Bool) (messages : List (Address × ControlMessage)) (state : σ) :
    Prop where
  view : ∀ moment ∈ sendMoments station.send messages state,
    (station.detector moment).view = (station.detector state).view
  accepts : ∀ moment ∈ sendMoments station.send messages state, ∀ address message,
    (station.send moment address message).1 = accepts address

/-- The same station, with a detector that cuts into batches of another size. -/
def withBatchSize (size : Nat) : Station σ :=
  { station with detector := fun state =>
      let detector := station.detector state
      { detector with settings := { detector.settings with batchSize := size } } }

variable {station} {accepts : Address → Bool}

/-- A station that takes down what it sends passes the states of the station. -/
theorem mem_sendMoments_of_recorded {messages : List (Address × ControlMessage)}
    {moment : σ × List Attempt} : ∀ {state : σ} {taken : List Attempt},
    moment ∈ sendMoments station.recorded.send messages (state, taken) →
      moment.1 ∈ sendMoments station.send messages state := by
  induction messages with
  | nil =>
    intro state taken passed
    obtain rfl := List.mem_singleton.mp passed
    exact List.mem_cons_self
  | cons message rest ih =>
    intro state taken passed
    rcases List.mem_cons.mp passed with rfl | later
    · exact List.mem_cons_self
    · exact List.mem_cons_of_mem _ (ih later)

/-- All messages are taken down, each with what its address decides. -/
theorem sendAll_recorded_of_accepts {messages : List (Address × ControlMessage)} : ∀ {state : σ},
    (∀ moment ∈ sendMoments station.send messages state, ∀ address message,
      (station.send moment address message).1 = accepts address) → ∀ taken : List Attempt,
    sendAll station.recorded.send messages (state, taken) =
      (messages.countP fun message => accepts message.1, (sendAll station.send messages state).2,
        taken ++ messages.map fun message => ⟨some message.1, message.2, accepts message.1⟩) := by
  induction messages with
  | nil => exact fun _ taken => by rw [List.map_nil, List.append_nil]; rfl
  | cons message rest ih =>
    intro state decides taken
    have first := decides state List.mem_cons_self message.1 message.2
    have noted : station.recorded.send (state, taken) message.1 message.2 =
        (accepts message.1, (station.send state message.1 message.2).2,
          taken ++ [⟨some message.1, message.2, accepts message.1⟩]) := by
      rw [← first]
      rfl
    rw [sendAll_cons, sendAll_cons, noted]
    dsimp only
    rw [ih fun moment passed => decides moment (List.mem_cons_of_mem _ passed), List.map_cons, List.countP_cons,
      List.append_assoc, Nat.add_comm]
    cases accepts message.1 <;> rfl

/-- What every send keeps holds of all states that are passed. -/
theorem sendMoments_keeps {send : σ → Address → ControlMessage → Bool × σ} {keeps : σ → Prop}
    (each : ∀ state address message, keeps state → keeps (send state address message).2)
    {messages : List (Address × ControlMessage)} : ∀ {state : σ}, keeps state →
      ∀ moment ∈ sendMoments send messages state, keeps moment := by
  induction messages with
  | nil => exact fun kept moment passed => List.mem_singleton.mp passed ▸ kept
  | cons message rest ih =>
    intro state kept moment passed
    rcases List.mem_cons.mp passed with rfl | later
    · exact kept
    · exact ih (each state message.1 message.2 kept) moment later

/-- A rig is steady, whatever is sent. -/
theorem isSteady_rig (draw : Draw) (messages : List (Address × ControlMessage)) (rig : Rig) :
    (Rig.stationWith draw).IsSteady (fun address => (rig.contactAt address).accepts) messages rig := by
  have same : ∀ moment ∈ sendMoments Rig.send messages rig,
      moment.detector = rig.detector ∧ moment.contacts = rig.contacts := by
    refine sendMoments_keeps (fun state address message kept => ?_) ⟨rfl, rfl⟩
    unfold Rig.send
    split <;> exact kept
  refine ⟨fun moment passed => congrArg Detector.view (same moment passed).1,
    fun moment passed address message => ?_⟩
  have contacts : (moment.contactAt address).accepts = (rig.contactAt address).accepts := by
    unfold Rig.contactAt
    rw [(same moment passed).2]
  rw [← contacts]
  show (moment.send address message).1 = _
  unfold Rig.send
  cases (moment.contactAt address).accepts <;> rfl

/-! ### Control events -/

/-- A control event for each live node of a list, in order. -/
def eventsFor (view : View) (ids : List NodeId) (kind : String) (data : Bytes) : List (Address × ControlMessage) :=
  (ids.filterMap view.addressOf?).map fun address => (address, .event kind data)

/-- A station cuts into batches of the size that is set. -/
theorem sendControl_eq_withBatchSize (ids : List NodeId) (kind : String) (data : Bytes) (state : σ) :
    station.sendControl ids kind data state =
      (station.withBatchSize (station.detector state).settings.batchSize).sendControl ids kind data state :=
  rfl

/-- A control event is sent to all addresses of the nodes, as they were known at the start. -/
theorem sendControl_eq_sendAll {ids : List NodeId} {kind : String} {data : Bytes} {state : σ}
    (steady : ∀ moment ∈ sendMoments station.send (eventsFor (station.detector state).view ids kind data) state,
      (station.detector moment).view = (station.detector state).view) :
    station.sendControl ids kind data state =
      sendAll station.send (eventsFor (station.detector state).view ids kind data) state := by
  let size := (station.detector state).settings.batchSize
  have batches := sendBatches_eq station.send (fun state => (station.detector state).view.addressOf?)
    (station.detector state).view.addressOf? (.event kind data) (pieces size ids) 0 state
  rw [flatten_pieces size ids] at batches
  dsimp only at batches
  rw [Nat.zero_add] at batches
  exact batches fun moment passed => congrArg View.addressOf? (steady moment passed)

theorem countP_eventsFor (view : View) (accepts : Address → Bool) (ids : List NodeId) (kind : String)
    (data : Bytes) : (eventsFor view ids kind data).countP (fun message => accepts message.1) =
      ids.countP fun id => (view.get? id).any fun record => accepts record.address := by
  unfold eventsFor
  rw [List.countP_map, List.countP_filterMap]
  refine List.countP_congr fun id _ => ?_
  show ((((view.get? id).map Record.address).map accepts).getD false) = true ↔ _
  cases view.get? id <;> rfl

theorem map_eventsFor (view : View) (accepts : Address → Bool) (ids : List NodeId) (kind : String)
    (data : Bytes) :
    (eventsFor view ids kind data).map (fun message => Attempt.mk (some message.1) message.2 (accepts message.1)) =
      ids.filterMap fun id => (view.get? id).map fun record =>
        ⟨some record.address, .event kind data, accepts record.address⟩ := by
  unfold eventsFor
  rw [List.map_map, List.map_filterMap]
  refine List.filterMap_congr fun id _ => ?_
  show ((view.get? id).map Record.address).map _ = _
  rw [Option.map_map]
  rfl

/-- **A control event is sent once to each live node of a list, in order, and who accepts it is counted**, whatever
the size of the batches. A node that is in the list more than once is a receiver each time. -/
theorem sendControl_sends_each {ids : List NodeId} {kind : String} {data : Bytes} {state : σ}
    (steady : station.IsSteady accepts (eventsFor (station.detector state).view ids kind data) state) :
    let view := (station.detector state).view
    let count := ids.countP fun id => (view.get? id).any fun record => accepts record.address
    let last := (sendAll station.send (eventsFor view ids kind data) state).2
    let attempts := ids.filterMap fun id => (view.get? id).map fun record =>
      ⟨some record.address, .event kind data, accepts record.address⟩
    station.sendControl ids kind data state = (count, last) ∧
      ∀ size, (station.withBatchSize size).sendControl ids kind data state = (count, last) ∧
        (station.withBatchSize size).recorded.sendControl ids kind data (state, []) = (count, last, attempts) := by
  intro view count last attempts
  have taken := sendAll_recorded_of_accepts steady.accepts []
  rw [countP_eventsFor, List.nil_append, map_eventsFor] at taken
  obtain ⟨_, goesOn, _⟩ := station.sendAll_recorded (eventsFor view ids kind data) state []
  have counted : (sendAll station.send (eventsFor view ids kind data) state).1 = count :=
    congrArg Prod.fst (goesOn.symm.trans taken)
  have plain (size : Nat) : (station.withBatchSize size).sendControl ids kind data state = (count, last) :=
    ((station.withBatchSize size).sendControl_eq_sendAll steady.view).trans (Prod.ext counted rfl)
  have noted (size : Nat) : (station.withBatchSize size).recorded.sendControl ids kind data (state, []) =
      (count, last, attempts) := by
    have asked : (station.withBatchSize size).recorded.sendControl ids kind data (state, []) =
        sendAll station.recorded.send (eventsFor view ids kind data) (state, []) :=
      (station.withBatchSize size).recorded.sendControl_eq_sendAll fun moment passed =>
        steady.view moment.1 (mem_sendMoments_of_recorded passed)
    exact asked.trans taken
  exact ⟨(station.sendControl_eq_withBatchSize ids kind data state).trans (plain _), fun size =>
    ⟨plain size, noted size⟩⟩

/-- A node knows of three peers, one of which refuses all messages. It tries to reach all of them, one of them twice,
and nobody whom it does not know. The size of the batches does not matter. -/
theorem sendControl_sends_three :
    let watched := Watched.ofView ((View.new ⟨"a"⟩).performAll [(1, .heartbeat ⟨"mem:1"⟩ ⟨"n1"⟩),
      (1, .heartbeat ⟨"mem:2"⟩ ⟨"n2"⟩), (1, .heartbeat ⟨"mem:3"⟩ ⟨"n3"⟩)]) (.manual 1)
    let rig : Rig := { Rig.new .standard ⟨"a"⟩ (.manual 1) true with
      detector := { Detector.new .standard ⟨"a"⟩ (.manual 1) with watched := watched }
      contacts := Table.empty.insert ⟨"mem:3"⟩ { Contact.standard with accepts := false } }
    let ids : List NodeId := [⟨"n1"⟩, ⟨"ghost"⟩, ⟨"n2"⟩, ⟨"n3"⟩, ⟨"n1"⟩]
    Rig.station.IsSteady (fun address => (rig.contactAt address).accepts)
        (eventsFor rig.detector.view ids "reload" [110]) rig ∧
      ∀ size, let told := (Rig.station.withBatchSize size).recorded.sendControl ids "reload" [110] (rig, [])
        told.1 = 3 ∧ told.2.2 = [⟨some ⟨"mem:1"⟩, .event "reload" [110], true⟩,
          ⟨some ⟨"mem:2"⟩, .event "reload" [110], true⟩, ⟨some ⟨"mem:3"⟩, .event "reload" [110], false⟩,
          ⟨some ⟨"mem:1"⟩, .event "reload" [110], true⟩] := by
  intro watched rig ids
  have steady := isSteady_rig Draw.first (eventsFor rig.detector.view ids "reload" [110]) rig
  refine ⟨steady, fun size => ?_⟩
  dsimp only
  rw [((sendControl_sends_each steady).2 size).2]
  exact ⟨by decide +kernel, by decide +kernel⟩

end Station

end PeerMesh
