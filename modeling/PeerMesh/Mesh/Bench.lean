/-
**Named channels.**

A `MeshBench` is a mesh whose channels are known by names, with everything in it settled between two
steps. Listeners and watchers are known by the order in which they were set up, over all channels.
-/

import PeerMesh.Mesh.Order

namespace PeerMesh

/-- A mesh whose channels are known by names. -/
structure MeshBench where
  mesh : Mesh
  names : Table String Nat
  /-- The listeners that were set up: their channels and ids, if they could be registered. -/
  listeners : List (Option (Nat × ListenerId))
  /-- The watchers that were set up: their channels, and their numbers there. -/
  watchers : List (Nat × Nat)

namespace MeshBench

/-- A mesh without channels. -/
def empty (host : Socket.Host) : MeshBench := ⟨.empty host, .empty, [], []⟩

/-- Change the mesh, which answers something. -/
def act {α : Type} (change : Mesh → α × Mesh) (bench : MeshBench) : α × MeshBench :=
  let (answer, mesh) := change bench.mesh
  (answer, { bench with mesh := mesh })

/-- Nobody outside refers to the channel of a name any more. -/
def letGo (bench : MeshBench) (name : String) : MeshBench :=
  match bench.names.get? name with
  | none => bench
  | some number => { bench with
      mesh := bench.mesh.modify number ({ · with isHeld := false })
      names := bench.names.erase name }

/-- Drop the channel of a name; the answer is whether there was one. -/
def drop (name : String) (bench : MeshBench) : Bool × MeshBench :=
  (bench.names.contains name, bench.letGo name)

/-- Give a name to a channel. -/
def call (bench : MeshBench) (name : String) (number : Nat) : MeshBench :=
  let free := bench.letGo name
  { free with
    mesh := free.mesh.modify number ({ · with isHeld := true })
    names := free.names.insert name number }

/-- Create a channel under a name. -/
def create (name : String) (settings : Settings) (hasNetwork : Bool) (bench : MeshBench) :
    Except ChannelError Unit × MeshBench :=
  match bench.act (·.create name settings hasNetwork) with
  | (.ok number, bench) => (.ok (), bench.call name number)
  | (.error error, bench) => (.error error, bench)

/-- The name of a channel. -/
def nameOf? (bench : MeshBench) (number : Nat) : Option String :=
  (bench.names.entries.find? fun entry => entry.2 = number).map Prod.fst

/-- Hand out a channel from the registry; the answer is its name if it has one. A channel without a
name gets the given one. -/
def getOrCreate (name : String) (settings : Settings) (hasNetwork : Bool) (bench : MeshBench) :
    Except ChannelError (Option String) × MeshBench :=
  match bench.act (·.getOrCreate name settings hasNetwork) with
  | (.error error, bench) => (.error error, bench)
  | (.ok number, bench) =>
    match bench.nameOf? number with
    | some known => (.ok (some known), bench)
    | none => (.ok none, bench.call name number)

/-- Note how the registration of a listener has gone. -/
def registered (bench : MeshBench) (number : Nat)
    (outcome : Except ConsumerError (ListenerId × Consumer Listener Replier)) :
    Except ChannelError ListenerId × MeshBench :=
  match outcome with
  | .ok (id, consumer) =>
    (.ok id, { bench with
      mesh := bench.mesh.modify number ({ · with consumer := consumer })
      listeners := bench.listeners ++ [some (number, id)] })
  | .error error => (.error (.consumer error), { bench with listeners := bench.listeners ++ [none] })

/-- The tag under which the next listener, of the given channel, records its calls. -/
def nextTag (bench : MeshBench) (number : Nat) : Tag :=
  ⟨(bench.mesh.channel number).label, bench.listeners.length⟩

/-- Register an asynchronous listener. -/
def registerAsync (number : Nat) (kind : String) (script : AsyncScript) (bench : MeshBench) :
    Except ChannelError ListenerId × MeshBench :=
  bench.registered number ((bench.mesh.channel number).consumer.registerAsync kind (.script script))

/-- Register a synchronous listener. -/
def registerSync (number : Nat) (kind : String) (script : SyncScript) (bench : MeshBench) :
    Except ChannelError ListenerId × MeshBench :=
  bench.registered number ((bench.mesh.channel number).consumer.registerSync kind (.script script))

/-- Remove a listener from a channel; there is an answer if it could be registered. -/
def unregister (number listener : Nat) (bench : MeshBench) : Option Bool × MeshBench :=
  match bench.listeners[listener]? with
  | some (some (_, id)) =>
    let (found, consumer) := (bench.mesh.channel number).consumer.unregister id
    (some found, { bench with mesh := bench.mesh.modify number ({ · with consumer := consumer }) })
  | _ => (none, bench)

/-- Set up a watcher; the answer is its number over all channels. -/
def watch (number : Nat) (watcher : Watcher) (bench : MeshBench) : Nat × MeshBench :=
  let (own, mesh) := bench.mesh.modifyGet number fun channel =>
    let (own, watched) := channel.detector.watched.listen watcher
    (own, channel.mapWatched fun _ => watched)
  (bench.watchers.length,
    { bench with mesh := mesh, watchers := bench.watchers ++ [(number, own)] })

/-- Remove a watcher from a channel. -/
def unwatch (number watcher : Nat) (bench : MeshBench) : MeshBench :=
  match bench.watchers[watcher]? with
  | some (owner, own) =>
    if owner = number then
      { bench with mesh := bench.mesh.modify number (·.mapWatched (·.unlisten own)) }
    else bench
  | none => bench

/-- Carry out an order. -/
def carryOut (order : Order) (bench : MeshBench) : Answer × MeshBench :=
  bench.act (·.carryOut order)

/-- Let everything happen that is due now. -/
def settle (bench : MeshBench) : MeshBench := { bench with mesh := bench.mesh.settle }

/-- The number of the channel of a name. -/
def numberOf (bench : MeshBench) (name : String) : Nat :=
  (bench.names.get? name).getD bench.mesh.channels.length

/-- The current address of the channel of a name, or one at which nobody is if it has none. -/
def addressOf (bench : MeshBench) (name : String) : Address :=
  (bench.mesh.channel (bench.numberOf name)).address.getD ⟨"mem:none"⟩

/-- What was logged, in order, and the log emptied. -/
def takeLog (bench : MeshBench) : List Occurrence × MeshBench :=
  (bench.mesh.log.reverse.map Prod.snd, { bench with mesh := { bench.mesh with log := [] } })

/-- What the watchers of each channel have recorded, with the channel's label, and the record
emptied. -/
def takeSightings (bench : MeshBench) : List (String × Sighting) × MeshBench :=
  let sightings := bench.mesh.channels.flatMap fun channel =>
    channel.detector.watched.takeSightings.1.map fun sighting => (channel.label, sighting)
  let emptied := bench.mesh.channels.map (·.mapWatched (·.takeSightings.2))
  (sightings, { bench with mesh := { bench.mesh with channels := emptied } })

end MeshBench

end PeerMesh
