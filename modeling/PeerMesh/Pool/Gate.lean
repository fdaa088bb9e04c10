/-
**A gate that lets waiters through one by one.**

Whoever comes passes if there is a permit and waits otherwise. Permits that are added go to the
waiters in the order in which they came; what is left over is kept.
-/

namespace PeerMesh

/-- Permits, and those who wait for one. -/
structure Gate (α : Type) where
  permits : Nat
  waiting : List α
  deriving Repr, Inhabited

namespace Gate

variable {α : Type}

/-- A gate without permits. -/
def shut : Gate α := ⟨0, []⟩

/-- Someone comes to the gate; the answer is whether they pass at once. -/
def arrive (gate : Gate α) (visitor : α) : Bool × Gate α :=
  if 0 < gate.permits then (true, { gate with permits := gate.permits - 1 })
  else (false, { gate with waiting := gate.waiting ++ [visitor] })

/-- Permits are added; the answer is who passes now, in order. -/
def release (gate : Gate α) (count : Nat) : List α × Gate α :=
  let permits := gate.permits + count
  let passing := gate.waiting.take permits
  (passing, ⟨permits - passing.length, gate.waiting.drop permits⟩)

/-- Some of those who wait go away. -/
def forget (gate : Gate α) (gone : α → Bool) : Gate α :=
  { gate with waiting := gate.waiting.filter fun visitor => !gone visitor }

end Gate

end PeerMesh
