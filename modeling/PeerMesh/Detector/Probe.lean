/-
**Probes of suspects.**

A peer that was not heard of for too long is a suspect (`View.age`, `View.suspects`). A `Probe` asks
the suspect itself whether it is there, and some delegates whether they can reach it. One good
answer confirms the suspect (`View.conclude`); without any it is declared dead, unless it was heard
of, or was replaced or removed, while the questions were under way.

* `SyncRequest.isAffirmedBy` — which replies are good answers;
* `Probing` — a probe with the questions that are still open;
* `View.conclude` — what a probe does to the view in the end.
-/

import PeerMesh.View.Basic
import PeerMesh.Wire.Payload
import PeerMesh.Transport.Error

namespace PeerMesh

/-- A question to the node at an address. -/
structure Question where
  address : Address
  request : SyncRequest
  deriving DecidableEq, Repr, Inhabited

/-- How a question ended. -/
abbrev Reply := Except TransportError (Option Bytes)

/-- The answer in a reply, if there is one that can be read. -/
def SyncReply.ofReply? : Reply → Option SyncReply
  | .ok (some bytes) => (SyncReply.codec.decode maxFrameSize bytes).toOption
  | .ok none => none
  | .error _ => none

/-- Whether a reply is the good answer to a request. -/
def SyncRequest.isAffirmedBy (request : SyncRequest) (reply : Reply) : Bool :=
  match request, SyncReply.ofReply? reply with
  | .ping, some .pong => true
  | .healthCheck _ _, some (.reachable answered) => answered
  | _, _ => false

/-- A suspect as it was found, and the peers that are asked about it. -/
structure Probe where
  suspect : Member
  delegates : List Record
  deriving DecidableEq, Repr, Inhabited

namespace Probe

/-- The id of the suspect. -/
def id (probe : Probe) : NodeId := probe.suspect.record.id

/-- What the delegates are asked. -/
def check (probe : Probe) : SyncRequest := .healthCheck probe.id probe.suspect.record.address

/-- The questions of a probe, the one to the suspect first. -/
def questions (probe : Probe) : List Question :=
  ⟨probe.suspect.record.address, .ping⟩ ::
    probe.delegates.map fun delegate => ⟨delegate.address, probe.check⟩

end Probe

/-- A probe under way. -/
structure Probing where
  probe : Probe
  /-- The questions without an answer so far, by their place among all questions. -/
  pending : List (Nat × Question)
  /-- Whether there was a good answer. -/
  affirmed : Bool
  deriving Repr, Inhabited

namespace Probing

/-- A probe that begins. -/
def start (probe : Probe) : Probing :=
  ⟨probe, probe.questions.zipIdx.map fun (question, place) => (place, question), false⟩

/-- The question at a place is answered. -/
def answer (probing : Probing) (place : Nat) (reply : Reply) : Probing :=
  match probing.pending.lookup place with
  | none => probing
  | some question =>
    { probing with
      pending := probing.pending.filter (·.1 ≠ place)
      affirmed := probing.affirmed || question.request.isAffirmedBy reply }

/-- Whether all questions are answered. -/
def isOver (probing : Probing) : Bool := probing.pending.isEmpty

/-- All open questions are answered in the same way. -/
def answerAll (probing : Probing) (reply : Reply) : Probing :=
  probing.pending.foldl (fun probing entry => probing.answer entry.1 reply) probing

end Probing

namespace View

/-- Suspect all live peers that have been idle for at least the timeout. -/
def age (view : View) (now : Reading) (timeout : Duration) : View :=
  { view with live := view.live.mapValues fun _ member =>
      { member with record := member.record.checkState timeout now } }

/-- The live peers that are suspected. -/
def suspects (view : View) : List Member :=
  view.members.filter fun member => member.record.health = .suspect

/-- The peers that can be asked about another one. -/
def delegatesFor (view : View) (id : NodeId) : List Record :=
  view.normalNodes.filter fun record => record.id ≠ id

/-- Whether a suspect is still live, by the same admission, and still suspected. -/
def isStillSuspect (view : View) (suspect : Member) : Bool :=
  (view.live.get? suspect.record.id).any fun member =>
    member.serial = suspect.serial && member.record.health = .suspect

/-- A probe is over; the answer is whether the suspect was declared dead. -/
def conclude (view : View) (now : Reading) (probe : Probe) (affirmed : Bool) : Outcome Bool :=
  if affirmed then ⟨false, view.resetAdmission now probe.id probe.suspect.serial, []⟩
  else if view.isStillSuspect probe.suspect then view.removeDead now probe.id
  else ⟨false, view, []⟩

end View

/-- Choose items from a list: some of them, in some order, of a wanted number if there are enough. -/
abbrev Draw := {α : Type} → Nat → List α → List α

/-- Choose the first items. -/
def Draw.first : Draw := fun count items => items.take count

/-- Whether items may have been chosen from a list. -/
def Draw.isFair {α : Type} (count : Nat) (items chosen : List α) : Prop :=
  (∃ rest, List.Perm (chosen ++ rest) items) ∧ chosen.length = min count items.length

end PeerMesh
