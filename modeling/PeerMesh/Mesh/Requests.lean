/-
**Events that are answered.**

A request reaches its receiver at once, so that what the receiver does with it is known as soon as it
is made: it fails, or is answered after a while (`Behaviour`). A channel that is asked whether it can
reach somebody has to ping them first, and answers when the ping is over. A ping is always answered
without asking anybody else, so one level of pings is all there is (`Mesh.ping`).

`Mesh.station` is how the detector of a channel asks and tells others.
-/

import PeerMesh.Mesh.Basic

namespace PeerMesh

/-- An answer that comes at once. -/
def Behaviour.atOnce (data : Option Bytes) : Behaviour := .answers ⟨0⟩ data

namespace Mesh

/-- How a channel pings an address: the reply, and after how many milliseconds it comes. -/
abbrev Pinger := Mesh → Nat → Address → (Reply × Nat) × Mesh

/-- What a channel itself does with a control message whose sender waits for an answer. -/
def answerControl (ping : Pinger) (mesh : Mesh) (number : Nat) (event : Event) : Behaviour × Mesh :=
  if (mesh.channel number).isGone then (.atOnce none, mesh)
  else
    let (followUp, mesh) := mesh.modifyGet number (·.hearControl mesh.time event)
    match followUp with
    | .nothing => (.atOnce none, mesh)
    | .answer reply => (.atOnce (some reply.bytes), mesh)
    | .deliver event => (.atOnce none, mesh.hand number event)
    | .inquire address =>
      let ((reply, delay), mesh) := ping mesh number address
      let answer := SyncReply.reachable (SyncRequest.ping.isAffirmedBy reply)
      (.answers (.ofMillis delay) (some answer.bytes), mesh)

/-- What a party does with an event that it is to answer. -/
def answer (ping : Pinger) (mesh : Mesh) (event : Event) (party : Party) : Behaviour × Mesh :=
  let reached := mesh.note (.reached party true event)
  match party with
  | .outsider receiver => (receiver.manner.behaviour event, reached)
  | .channel number =>
    match (mesh.channel number).consumer.replier? event with
    | none => (.atOnce none, reached)
    | some .protocol => reached.answerControl ping number event
    | some (.script script) =>
      (.answers script.delay (script.replyTo event),
        reached.note (.called number ⟨script.tag, .sync, event⟩))

/-- What happens to a request from an own end on the network to an address. -/
def requestFrom (ping : Pinger) (mesh : Mesh) (own : Memory.UnicastEnd) (address : Address)
    (event : Event) : Behaviour × Mesh :=
  match own.route mesh.network address with
  | .ok party => mesh.answer ping event party
  | .error error => (.fails error, mesh)

/-- What happens to a channel's request to an address. -/
def requestWith (ping : Pinger) (mesh : Mesh) (number : Nat) (address : Address) (event : Event) :
    Behaviour × Mesh :=
  let asked := mesh.note (.asked number address event)
  match (mesh.channel number).line with
  | .memory own => asked.requestFrom ping own address event
  | .stream client =>
    match asked.stream number client address event true with
    | (.ok data, asked) => (.atOnce data, asked)
    | (.error error, asked) => (.fails error, asked)

/-- A channel pings an address, where at most `depth` further pings are made on its behalf. -/
def pingWithin : (depth : Nat) → Pinger
  | 0, mesh, _, _ => ((.error .timeout, 0), mesh)
  | depth + 1, mesh, number, address =>
    let channel := mesh.channel number
    match channel.controlEvent .unscoped (.request .ping) with
    | .error error => ((.error error, 0), mesh)
    | .ok event =>
      let (behaviour, mesh) := mesh.requestWith (pingWithin depth) number address event
      (behaviour.ending channel.settings.delegateTimeout.half, mesh)

/-- A channel pings an address on behalf of somebody who has asked for it. -/
def ping : Pinger := pingWithin 1

/-- What happens to a channel's request to an address. -/
def request (mesh : Mesh) (number : Nat) (address : Address) (event : Event) : Behaviour × Mesh :=
  mesh.requestWith ping number address event

/-! ### The detector of a channel -/

/-- The detector of a channel asks a question. -/
def ask (number : Nat) (mesh : Mesh) (question : Question) (timeout : Duration) :
    (Reply × Nat) × Mesh :=
  match (mesh.channel number).controlEvent .unscoped (.request question.request) with
  | .error error => ((.error error, 0), mesh)
  | .ok event =>
    let (behaviour, mesh) := mesh.request number question.address event
    (behaviour.ending timeout, mesh)

/-- The detector of a channel sends a message; the answer is whether somebody takes it. -/
def tell (number : Nat) (mesh : Mesh) (address : Address) (message : ControlMessage) :
    Bool × Mesh :=
  match (mesh.channel number).controlEvent .unscoped message with
  | .error _ => (false, mesh)
  | .ok event =>
    let (result, mesh) := mesh.post number (.send address event)
    (result.isOk, mesh)

/-- The detector of a channel broadcasts a message to the channel's domain. -/
def tellDomain (number : Nat) (mesh : Mesh) (message : ControlMessage) :
    Except TransportError Unit × Mesh :=
  let channel := mesh.channel number
  match channel.controlEvent (.named channel.domain) message with
  | .error error => (.error error, mesh)
  | .ok event => mesh.post number (.broadcast event)

/-- How the detector of a channel acts, with peers chosen as a draw says. -/
def stationWith (draw : Draw) (number : Nat) : Station Mesh where
  detector mesh := (mesh.channel number).detector
  update change mesh := mesh.modify number fun channel =>
    { channel with detector := change channel.detector }
  time := Mesh.time
  ask := ask number
  send := tell number
  broadcast := tellDomain number
  draw := draw

/-- How the detector of a channel acts. -/
def station (number : Nat) : Station Mesh := stationWith Draw.first number

end Mesh

end PeerMesh
