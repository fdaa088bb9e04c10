/-
**What follows when a node makes itself known to a channel.**

* `Mesh.Sends` — a channel has sent events to an address: they have reached somebody at most, and nobody's
  view has changed.
* `Mesh.Acquaints` — a channel has admitted a node, its watchers were told that it has come if it was not
  live, every finder was told of it once, and some events were sent to it. `Sends.acquaints`: what brings
  that about.
* `follow_quiet`, `follow_welcome`, `follow_found` — what follows from an event that was handled.
* **`call_welcomes`** — an announcement is answered and an introduction is not; neither lifts a tombstone, and
  neither is heeded if the view is shut down. `stranger_stays_unknown`: what may come of an announcement.
-/

import PeerMesh.Proofs.Channel.Welcome
import PeerMesh.Proofs.Mesh.Meeting
import PeerMesh.Proofs.Mesh.Partition

namespace PeerMesh

namespace Mesh

variable {mesh later : Mesh} {n : Nat} {channel told : Channel} {id : NodeId} {address own : Address}
  {event : Event} {sent : List Event}

/-! ### Events that are sent -/

/-- From one mesh to a later one a channel has sent events to an address, which have reached somebody at
most. -/
structure Sends (n : Nat) (address : Address) (sent : List Event) (before after : Mesh) : Prop where
  time : after.time = before.time
  detectors : ∀ m, (after.channel m).detector = (before.channel m).detector
  finders : ∀ m, (after.channel m).finders = (before.channel m).finders
  log : ∃ reached, after.log = reached ++
      (sent.map fun event => (before.time, .posted n (.send address event))) ++ before.log ∧
    ∀ entry ∈ reached, ∃ party, ∃ event ∈ sent, entry.2 = .reached party false event

theorem Sends.nothing (mesh : Mesh) (n : Nat) (address : Address) : mesh.Sends n address [] mesh :=
  ⟨rfl, fun _ => rfl, fun _ => rfl, [], rfl, fun _ none => nomatch none⟩

/-- Whatever is not about the queue of a channel stays when an event arrives. -/
theorem field_arrive {α : Type} (field : Channel → α) (event : Event) (mesh : Mesh) (party : Party) (m : Nat)
    (keeps : ∀ channel consumer, field { channel with consumer := consumer } = field channel) :
    field ((mesh.arrive event party).channel m) = field (mesh.channel m) := by
  unfold arrive
  cases party with
  | outsider receiver => rfl
  | channel n =>
    let reached := mesh.note (.reached (.channel n) false event)
    have handed : field ((reached.modify n fun channel =>
        { channel with consumer := (reached.channel n).consumer.accept event }).channel m) =
          field (mesh.channel m) :=
      field_modify field reached n m fun channel => keeps channel _
    unfold hand
    dsimp only
    split
    · unfold Mesh.channel at handed ⊢
      rw [enqueue_channels]
      exact handed
    · exact handed

/-- **An event that is sent reaches somebody at most.** -/
theorem post_sends (mesh : Mesh) (n : Nat) (address : Address) (event : Event) :
    mesh.Sends n address [event] (mesh.post n (.send address event)).2 := by
  let posted := mesh.note (.posted n (.send address event))
  have nothing : mesh.Sends n address [event] posted :=
    ⟨rfl, fun _ => rfl, fun _ => rfl, [], rfl, fun _ none => nomatch none⟩
  unfold post
  dsimp only
  split
  · rename_i end' _
    unfold carry
    split
    · rename_i party _
      obtain ⟨time, log⟩ := log_arrive event posted party
      refine ⟨time, fun m => field_arrive Channel.detector event posted party m fun _ _ => rfl,
        fun m => field_arrive Channel.finders event posted party m fun _ _ => rfl,
        [(posted.time, .reached party false event)], log, fun entry among => ⟨party, event, ?_, ?_⟩⟩
      · exact List.mem_singleton_self event
      · rw [List.mem_singleton.mp among]
    · exact nothing
  · exact ⟨rfl, fun m => field_modify Channel.detector posted n m fun _ => rfl,
      fun m => field_modify Channel.finders posted n m fun _ => rfl, [], rfl, fun _ none => nomatch none⟩

theorem log_finishDelivery (mesh : Mesh) (n ticket : Nat) : (mesh.finishDelivery n ticket).log = mesh.log := by
  unfold finishDelivery enqueue
  split <;> rfl

/-! ### Acquaintances -/

/-- What the finders of a channel are told of a node, the last one first. -/
def findings (time n : Nat) (id : NodeId) (address : Address) (finders : Nat) : List (Nat × Occurrence) :=
  ((List.range finders).map fun finder => (time, .discovered n finder id address)).reverse

theorem mem_findings {time finders : Nat} {entry : Nat × Occurrence}
    (among : entry ∈ findings time n id address finders) :
    ∃ finder, entry.2 = .discovered n finder id address := by
  obtain ⟨finder, _, same⟩ := List.mem_map.mp (List.mem_reverse.mp among)
  exact ⟨finder, by rw [← same]⟩

/-- Finders are told, and that is all. -/
theorem tellFinders_eq (mesh : Mesh) (n : Nat) (id : NodeId) (address : Address) :
    mesh.tellFinders n id address =
      { mesh with log := findings mesh.time n id address (mesh.channel n).finders.length ++ mesh.log } := by
  have each (finders : List Nat) : ∀ mesh : Mesh,
      finders.foldl (fun mesh finder => mesh.note (.discovered n finder id address)) mesh =
        { mesh with log := (finders.map fun finder =>
            (mesh.time, Occurrence.discovered n finder id address)).reverse ++ mesh.log } := by
    induction finders with
    | nil => exact fun _ => rfl
    | cons finder rest ih =>
      intro mesh
      rw [List.foldl_cons, ih]
      simp [note]
  exact each _ mesh

/-- From one mesh to a later one a channel has come to know a node at an address, and has sent it some
events. -/
structure Acquaints (before : Mesh) (n : Nat) (channel : Channel) (id : NodeId) (address : Address)
    (sent : List Event) (after : Mesh) : Prop where
  /-- The node is admitted, and then watchers are told that it has come if it was not live. -/
  admitted : ∃ view, channel.view.Admits (channel.now before.time) address id view ∧
    (after.channel n).detector = (channel.informed before.time view
      (channel.view.arrival (channel.now before.time) address id)).detector
  /-- It is live at the address, unless a watcher reacts to its coming. -/
  live : channel.detector.watched.IsUnmovedBy (channel.view.arrival (channel.now before.time) address id) →
    ∃ record, (after.channel n).view.get? id = some record ∧ record.address = address ∧
      record.health = .normal
  heard : channel.detector.watched.IsUnmovedBy (channel.view.arrival (channel.now before.time) address id) →
    channel.detector.watched.Hears (channel.view.arrival (channel.now before.time) address id)
      (after.channel n).detector.watched
  /-- The events were sent once, and every finder was told once, whichever panics. -/
  log : ∃ reached, after.log = findings before.time n id address channel.finders.length ++ (reached ++
      (sent.map fun event => (before.time, .posted n (.send address event))) ++ before.log) ∧
    ∀ entry ∈ reached, ∃ party, ∃ event ∈ sent, entry.2 = .reached party false event

/-- **A channel that admits a node, sends it events and tells its finders comes to know it.** -/
theorem Sends.acquaints (found : mesh.channels[n]? = some channel) {view : View}
    (admits : channel.view.Admits (channel.now mesh.time) address id view)
    (sends : (mesh.modify n fun _ => channel.informed mesh.time view
      (channel.view.arrival (channel.now mesh.time) address id)).Sends n address sent later) (ticket : Nat) :
    mesh.Acquaints n channel id address sent ((later.tellFinders n id address).finishDelivery n ticket) := by
  let notices := channel.view.arrival (channel.now mesh.time) address id
  let informed := channel.informed mesh.time view notices
  let after := (later.tellFinders n id address).finishDelivery n ticket
  have there : (mesh.modify n fun _ => informed).channel n = informed :=
    channel_modify (List.getElem?_eq_some_iff.mp found).1 _
  have detector : (after.channel n).detector = informed.detector := by
    have finished : (after.channel n).detector = ((later.tellFinders n id address).channel n).detector := by
      unfold after finishDelivery Mesh.channel
      rw [enqueue_channels]
      exact field_modify Channel.detector _ n n fun _ => rfl
    rw [finished, tellFinders_eq, ← there]
    exact sends.detectors n
  refine ⟨⟨view, admits, detector⟩, fun unmoved => ?_, fun unmoved => ?_, ?_⟩
  · obtain ⟨same, _⟩ := Channel.informed_of_unmoved unmoved mesh.time view
    have known : (after.channel n).view = view := (congrArg Detector.view detector).trans same
    show ∃ record, (after.channel n).view.get? id = some record ∧ _
    rw [known]
    exact admits.live
  · obtain ⟨_, hears⟩ := Channel.informed_of_unmoved unmoved mesh.time view
    rw [detector]
    exact hears
  · obtain ⟨reached, log, among⟩ := sends.log
    refine ⟨reached, ?_, among⟩
    have finders : (later.channel n).finders = channel.finders := by
      rw [sends.finders, there]
      rfl
    have time : later.time = mesh.time := sends.time
    rw [log_finishDelivery, tellFinders_eq, finders, time]
    exact congrArg _ log

/-! ### What follows -/

/-- A channel is replaced by itself. -/
theorem modify_same (found : mesh.channels[n]? = some channel) : mesh.modify n (fun _ => channel) = mesh := by
  have channels := (Differs.nothing found).channels
  unfold modify
  rw [← channels]

/-- What follows from an event that calls for nothing but replies and finders to be told. -/
theorem follow_eq (found : mesh.channels[n]? = some channel) (ticket : Nat) {consequence : Consequence}
    (announcing : consequence.channel.announcing = channel.announcing)
    (deliversNothing : consequence.delivered = none) (inquiresNothing : consequence.inquiry = none) :
    mesh.follow n ticket consequence =
      let replied := (mesh.modify n fun _ => consequence.channel).postAll n
        (consequence.replies.map fun (address, event) => .send address event)
      (match consequence.found with
        | some (id, address) => replied.tellFinders n id address
        | none => replied).finishDelivery n ticket := by
  have notResynced : ¬ (mesh.channel n).announcing ≠ consequence.channel.announcing := by
    rw [channel_eq found, announcing]
    exact fun differs => differs rfl
  unfold follow
  dsimp only
  rewrite [deliversNothing, inquiresNothing, if_neg notResynced]
  rfl

theorem follow_quiet (found : mesh.channels[n]? = some channel) (ticket : Nat) :
    mesh.follow n ticket channel.quiet = mesh.finishDelivery n ticket := by
  have follows : mesh.follow n ticket channel.quiet = (mesh.modify n fun _ => channel).finishDelivery n ticket :=
    follow_eq found ticket rfl rfl rfl
  rw [follows, modify_same found]

theorem follow_welcome (found : mesh.channels[n]? = some channel) (ticket : Nat)
    (announcing : told.announcing = channel.announcing) (introduces : told.introduction = .ok event) :
    mesh.follow n ticket (told.welcome id address) =
      (((mesh.modify n fun _ => told).post n (.send address event)).2.tellFinders n id address).finishDelivery
        n ticket := by
  have replies : (told.welcome id address).replies = [(address, event)] := by
    unfold Channel.welcome
    rw [introduces]
    rfl
  have follows : mesh.follow n ticket (told.welcome id address) =
      (((mesh.modify n fun _ => told).postAll n ((told.welcome id address).replies.map fun (address, event) =>
        .send address event)).tellFinders n id address).finishDelivery n ticket :=
    follow_eq found ticket announcing rfl rfl
  rw [follows, replies]
  rfl

theorem follow_found (found : mesh.channels[n]? = some channel) (ticket : Nat)
    (announcing : told.announcing = channel.announcing) :
    mesh.follow n ticket { told.quiet with found := some (id, address) } =
      ((mesh.modify n fun _ => told).tellFinders n id address).finishDelivery n ticket :=
  follow_eq found ticket announcing rfl rfl

/-- **What a channel makes of an event by which a node makes itself known.** -/
structure Welcomes (mesh : Mesh) (n : Nat) (channel : Channel) (own : Address) (job : Job (Delivery Listener))
    (after : Mesh) : Prop where
  /-- A node that announces itself is admitted and sent one introduction, unless it is tombstoned. -/
  announced : ∀ address, job.task.event.kind = ProtocolKind.publish.text →
    Announce.codec.decode maxFrameSize job.task.event.data = .ok ⟨address⟩ →
    channel.view.closed = false → job.task.event.origin ≠ channel.selfId →
    channel.view.isDead job.task.event.origin = false →
    mesh.Acquaints n channel job.task.event.origin address
      [⟨.unscoped, ProtocolKind.discover.text, Announce.codec.write ⟨own⟩, channel.selfId, own⟩] after
  /-- A newcomer that introduces itself is admitted and sent nothing. -/
  introduced : ∀ address, job.task.event.kind = ProtocolKind.discover.text →
    Announce.codec.decode maxFrameSize job.task.event.data = .ok ⟨address⟩ →
    channel.view.closed = false → job.task.event.origin ≠ channel.selfId →
    channel.view.isDead job.task.event.origin = false → channel.view.isLive job.task.event.origin = false →
    mesh.Acquaints n channel job.task.event.origin address [] after
  /-- The introduction of a peer changes nothing. -/
  known : job.task.event.kind = ProtocolKind.discover.text →
    channel.view.isLive job.task.event.origin = true → after = mesh.finishDelivery n job.ticket
  /-- A tombstone is not lifted. -/
  dead : job.task.event.kind = ProtocolKind.publish.text ∨ job.task.event.kind = ProtocolKind.discover.text →
    channel.view.isDead job.task.event.origin = true → after = mesh.finishDelivery n job.ticket
  /-- A view that is shut down takes nobody in, and no view takes in its own node. -/
  refused : job.task.event.kind = ProtocolKind.publish.text ∨
      job.task.event.kind = ProtocolKind.discover.text →
    channel.view.closed = true ∨ job.task.event.origin = channel.selfId →
    after = mesh.finishDelivery n job.ticket
  /-- Whatever an introduction says, nothing is sent. -/
  silent : job.task.event.kind = ProtocolKind.discover.text →
    ∃ found, after.log = found ++ mesh.log ∧
      ∀ entry ∈ found, ∃ finder id address, entry.2 = .discovered n finder id address

/-! ### Deliveries -/

section

variable {job : Job (Delivery Listener)} (found : mesh.channels[n]? = some channel)
  (listens : job.task.listener = .protocol)

include found listens

theorem call_protocol :
    mesh.call n job = mesh.follow n job.ticket (channel.react mesh.time job.task.event) := by
  unfold call
  rw [listens]
  dsimp only
  rw [channel_eq found]

/-- If nothing is to happen the delivery is over, and that is all. -/
theorem call_of_quiet (quiet : channel.react mesh.time job.task.event = channel.quiet) :
    mesh.call n job = mesh.finishDelivery n job.ticket := by
  rw [call_protocol found listens, quiet, follow_quiet found]

theorem call_announced (sound : channel.view.Sound channel.selfId) (reached : channel.address = some own)
    (publishes : job.task.event.kind = ProtocolKind.publish.text)
    (reads : Announce.codec.decode maxFrameSize job.task.event.data = .ok ⟨address⟩)
    (accepted : channel.view.refusal? job.task.event.origin = none)
    (notDead : channel.view.isDead job.task.event.origin = false) :
    mesh.Acquaints n channel job.task.event.origin address
      [⟨.unscoped, ProtocolKind.discover.text, Announce.codec.write ⟨own⟩, channel.selfId, own⟩]
      (mesh.call n job) := by
  obtain ⟨view, admits, welcomed⟩ := Channel.onAnnounced_of_accepted sound accepted notDead mesh.time address
  let notices := channel.view.arrival (channel.now mesh.time) address job.task.event.origin
  have reacts : channel.react mesh.time job.task.event =
      (channel.informed mesh.time view notices).welcome job.task.event.origin address := by
    rw [Channel.react_publish publishes]
    unfold Channel.onPublish
    rw [reads]
    exact welcomed
  have introduces := (Channel.introduction_informed sound (admits.sound _ sound) mesh.time notices).trans
    (Channel.introduction_eq reached)
  rw [call_protocol found listens, reacts,
    follow_welcome found job.ticket (channel.informed_announcing _ _ _) introduces]
  exact (post_sends _ n address _).acquaints found admits job.ticket

theorem call_introduced (discovers : job.task.event.kind = ProtocolKind.discover.text)
    (reads : Announce.codec.decode maxFrameSize job.task.event.data = .ok ⟨address⟩)
    (accepted : channel.view.refusal? job.task.event.origin = none)
    (notDead : channel.view.isDead job.task.event.origin = false)
    (notLive : channel.view.isLive job.task.event.origin = false) :
    mesh.Acquaints n channel job.task.event.origin address [] (mesh.call n job) := by
  have unknown : (channel.view.isDead job.task.event.origin || channel.view.isLive job.task.event.origin) =
      false := by rw [notDead, notLive]; rfl
  obtain ⟨view, admits, noted⟩ := Channel.onDiscover_of_newcomer accepted unknown reads mesh.time
  rw [call_protocol found listens, Channel.react_discover discovers, noted,
    follow_found found job.ticket (channel.informed_announcing _ _ _)]
  exact (Sends.nothing _ n address).acquaints found admits job.ticket

/-- **Nothing is ever sent in answer to an introduction**: at most finders are told. -/
theorem call_silent (sound : channel.view.Sound channel.selfId)
    (discovers : job.task.event.kind = ProtocolKind.discover.text) :
    ∃ since, (mesh.call n job).log = since ++ mesh.log ∧
      ∀ entry ∈ since, ∃ finder id address, entry.2 = .discovered n finder id address := by
  have nothing (quiet : channel.react mesh.time job.task.event = channel.quiet) :
      ∃ since, (mesh.call n job).log = since ++ mesh.log ∧
        ∀ entry ∈ since, ∃ finder id address, entry.2 = .discovered n finder id address := by
    rw [call_of_quiet found listens quiet, log_finishDelivery]
    exact ⟨[], rfl, fun _ none => nomatch none⟩
  cases refused : channel.view.refusal? job.task.event.origin with
  | some error => exact nothing (Channel.react_of_refused (.inr discovers) refused mesh.time)
  | none =>
    cases dead : channel.view.isDead job.task.event.origin with
    | true => exact nothing (Channel.react_of_dead (.inr discovers) sound dead mesh.time)
    | false =>
      cases live : channel.view.isLive job.task.event.origin with
      | true => exact nothing (Channel.react_of_live discovers sound live mesh.time)
      | false =>
        cases reads : Announce.codec.decode maxFrameSize job.task.event.data with
        | error error => exact nothing (Channel.react_of_illegible (.inr discovers) reads mesh.time)
        | ok announce =>
          obtain ⟨reached, log, nobody⟩ :=
            (call_introduced found listens discovers reads refused dead live).log
          refine ⟨findings mesh.time n job.task.event.origin announce.address channel.finders.length ++ reached,
            ?_, fun entry among => ?_⟩
          · rw [log, List.map_nil, List.append_nil, List.append_assoc]
          · rcases List.mem_append.mp among with told | arrived
            · obtain ⟨finder, same⟩ := mem_findings told
              exact ⟨finder, _, _, same⟩
            · obtain ⟨_, _, none, _⟩ := nobody entry arrived
              cases none

end

/-- A channel whose view is sound. -/
theorem welcomes_of_sound {job : Job (Delivery Listener)} (found : mesh.channels[n]? = some channel)
    (reached : channel.address = some own) (sound : channel.view.Sound channel.selfId)
    (listens : job.task.listener = .protocol) : mesh.Welcomes n channel own job (mesh.call n job) := by
  have accepted (isOpen : channel.view.closed = false) (other : job.task.event.origin ≠ channel.selfId) :
      channel.view.refusal? job.task.event.origin = none := by
    unfold View.refusal?
    rw [isOpen, if_neg (by decide)]
    exact if_neg other
  exact {
    announced := fun address publishes reads isOpen other notDead =>
      call_announced found listens sound reached publishes reads (accepted isOpen other) notDead
    introduced := fun address discovers reads isOpen other notDead notLive =>
      call_introduced found listens discovers reads (accepted isOpen other) notDead notLive
    known := fun discovers live =>
      call_of_quiet found listens (Channel.react_of_live discovers sound live mesh.time)
    dead := fun makesKnown dead =>
      call_of_quiet found listens (Channel.react_of_dead makesKnown sound dead mesh.time)
    refused := fun makesKnown refuses => by
      obtain ⟨error, refused⟩ := View.exists_refusal refuses
      exact call_of_quiet found listens (Channel.react_of_refused makesKnown refused mesh.time)
    silent := call_silent found listens sound }

/-- **A channel that is reached at an address takes in whoever makes itself known**, whatever its view has been
through; and so does every channel after any history. -/
theorem call_welcomes {job : Job (Delivery Listener)} (listens : job.task.listener = .protocol) :
    (∀ (mesh : Mesh) (n : Nat) (channel : Channel) (own : Address), mesh.channels[n]? = some channel →
      channel.address = some own → channel.view.HasCome → mesh.Welcomes n channel own job (mesh.call n job)) ∧
    ∀ (host : Socket.Host) (history : List Incident), (empty host).AdmitsAll history →
      let mesh := (empty host).undergoAll history
      ∀ (n : Nat) (channel : Channel) (own : Address), mesh.channels[n]? = some channel →
        channel.address = some own → mesh.Welcomes n channel own job (mesh.call n job) := by
  refine ⟨fun mesh n channel own found reached came => welcomes_of_sound found reached came.sound listens, ?_⟩
  intro host history admits mesh n channel own found reached
  have came := undergoAll_hasCome admits n
  rw [channel_eq found] at came
  exact welcomes_of_sound found reached came.sound listens

/-- A channel with a finder is started, and something happens to it. -/
def hospitality (meanwhile : List Incident) : List Incident :=
  [.create "a" (dweller "a" 8) true, .order (.start 0), .order (.addFinder 0 ⟨true⟩)] ++ meanwhile

/-- A mesh with a channel that has a finder. -/
def hosting (meanwhile : List Incident) : Mesh := (empty default).undergoAll (hospitality meanwhile)

/-- A delivery by which a stranger announces itself. -/
def calling : Job (Delivery Listener) :=
  ⟨0, 0, .protocol,
    ⟨.named "first", ProtocolKind.publish.text, Announce.codec.write ⟨⟨"mem:7"⟩⟩, ⟨"p"⟩, ⟨"mem:7"⟩⟩⟩

/-- The stranger is admitted where it says that it is, though the finder panics. -/
theorem call_welcomes_stranger :
    let mesh := hosting []
    let channel := mesh.channel 0
    (empty default).AdmitsAll (hospitality []) ∧ mesh.channels[0]? = some channel ∧ channel.phase = .started ∧
      channel.address = some (Memory.addressOf 2) ∧ calling.task.listener = .protocol ∧
      mesh.Welcomes 0 channel (Memory.addressOf 2) calling (mesh.call 0 calling) ∧
      ∃ record, ((mesh.call 0 calling).channel 0).view.get? ⟨"p"⟩ = some record ∧
        record.address = ⟨"mem:7"⟩ ∧ record.health = .normal := by
  intro mesh channel
  have reached : channel.address = some (Memory.addressOf 2) := by decide +kernel
  have admits : (empty default).AdmitsAll (hospitality []) := by decide +kernel
  have welcomes : mesh.Welcomes 0 channel (Memory.addressOf 2) calling (mesh.call 0 calling) :=
    (call_welcomes rfl).2 default (hospitality []) admits 0 channel _ rfl reached
  have unwatched : channel.detector.watched.watchers = [] := rfl
  refine ⟨admits, rfl, by decide +kernel, reached, rfl, welcomes, ?_⟩
  refine (welcomes.announced ⟨"mem:7"⟩ rfl (by decide +kernel) rfl (by decide +kernel) rfl).live ?_
  intro watcher isThere
  rw [unwatched] at isThere
  cases isThere

/-- **Whoever announces itself need not be a peer afterwards**: not if the view was shut down, and not if a
watcher lets it go that is told of its coming. -/
theorem stranger_stays_unknown :
    let shut := hosting [.order (.view 0 .shutdown)]
    let vetoed := hosting
      [.adjust 0 (.watch ⟨false, fun _ => false, some ⟨.up, ⟨"p"⟩, .removeLeaving ⟨"p"⟩⟩⟩)]
    Announce.codec.decode maxFrameSize calling.task.event.data = .ok ⟨⟨"mem:7"⟩⟩ ∧
      (∀ mesh ∈ [shut, vetoed], (mesh.channel 0).phase = .started ∧
        calling.task.event.origin ≠ (mesh.channel 0).selfId ∧
        (mesh.channel 0).view.isDead calling.task.event.origin = false ∧
        ((mesh.call 0 calling).channel 0).view.isLive calling.task.event.origin = false) ∧
      (shut.call 0 calling).log = shut.log := by
  intro shut vetoed
  refine ⟨by decide +kernel, ?_, rfl⟩
  decide +kernel

end Mesh

end PeerMesh
