/-
**The registry of running channels.**

The registry lists channels so that a caller who wants to be in a domain can be given a channel that is
there already (`Mesh.getOrCreate`), and so that all of them can be closed at once (`Mesh.closeAll`).
-/

import PeerMesh.Mesh.Operations

namespace PeerMesh

namespace Mesh

/-- The first registered channel that satisfies a test. -/
def find? (mesh : Mesh) (test : Channel → Bool) : Option Nat :=
  mesh.registry.find? fun number => test (mesh.channel number)

/-- Whether a channel is started in a domain. -/
def isReusableFor (domain : String) (channel : Channel) : Bool :=
  channel.phase = .started && channel.domain = domain

/-- The registered channel that is handed out instead of a new one, if there is one. -/
def reusable? (mesh : Mesh) (settings : Settings) : Option Nat :=
  if settings.reuseChannels then mesh.find? (isReusableFor settings.domain) else none

/-- Hand out a started channel: a registered one, or else a new one. -/
def getOrCreate (mesh : Mesh) (label : String) (settings : Settings) (hasNetwork : Bool) :
    Except ChannelError Nat × Mesh :=
  match mesh.reusable? settings with
  | some number => (.ok number, mesh)
  | none =>
    match mesh.create label settings hasNetwork with
    | (.error error, mesh) => (.error error, mesh)
    | (.ok number, mesh) =>
      match mesh.start number with
      | (.ok (), mesh) => (.ok number, mesh.register number)
      | (.error error, mesh) => (.error error, mesh.modify number ({ · with isHeld := false }))

/-- Whether handing out a channel would need a queue that cannot be had. -/
def cannotProvide (mesh : Mesh) (settings : Settings) (hasNetwork : Bool) : Bool :=
  (mesh.reusable? settings).isNone && Channel.overflows settings &&
    (mesh.create "" settings hasNetwork).1.isOk

/-- Close all registered channels. -/
def closeAll (mesh : Mesh) : Mesh :=
  mesh.registry.foldl close { mesh with registry := [] }

end Mesh

end PeerMesh
