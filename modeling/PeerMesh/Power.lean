/-
**Powers of natural numbers.**

Words and their bounds are written as powers, in modules that know nothing of monoids and in modules
that do. `builtInPower` gives `2 ^ 64` one meaning in both.
-/

namespace PeerMesh

-- the rank among the defaults decides for numerals, the priority for everything else
/-- The power that natural numbers come with goes before the power of a monoid. -/
@[default_instance 20000]
instance (priority := high) builtInPower : Pow Nat Nat := instPowNat

end PeerMesh
