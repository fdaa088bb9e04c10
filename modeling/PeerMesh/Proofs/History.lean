/-
**What has happened last.**

A history is a list of what has happened, the earliest first. Many things are brought about by some of it and
undone by some of it.

* `split_append_singleton` — the places in a history that is one longer.
* **`holds_iff_last`** — what is brought about and undone holds exactly if it was brought about last.
-/

import Mathlib.Data.List.Basic
import Mathlib.Data.List.Induction

namespace PeerMesh

/-- An item that splits a longer list is the last one, or splits the shorter list. -/
theorem split_append_singleton {ι : Type*} {list earlier later : List ι} {last item : ι} :
    list ++ [last] = earlier ++ item :: later ↔
      (list = earlier ∧ last = item ∧ later = []) ∨
        ∃ rest, later = rest ++ [last] ∧ list = earlier ++ item :: rest := by
  constructor
  · intro same
    rcases List.eq_nil_or_concat' later with rfl | ⟨rest, final, rfl⟩
    · obtain ⟨rfl, rfl⟩ : list = earlier ∧ last = item := by simpa using same
      exact .inl ⟨rfl, rfl, rfl⟩
    · rw [← List.cons_append, ← List.append_assoc] at same
      obtain ⟨rfl, ends⟩ := List.append_inj' same rfl
      cases ends
      exact .inr ⟨rest, rfl, rfl⟩
  · rintro (⟨rfl, rfl, rfl⟩ | ⟨rest, rfl, rfl⟩)
    · rfl
    · simp

/-- What an item brings about, and other items undo, holds after a list exactly if some item has brought it about
and no later one has undone it. -/
theorem holds_iff_last {ι : Type*} (holds : List ι → Prop) (brings undoes : List ι → ι → Prop) (list : List ι)
    (never : ¬ holds [])
    (step : ∀ earlier item later, list = earlier ++ item :: later →
      (holds (earlier ++ [item]) ↔ brings earlier item ∨ holds earlier ∧ ¬ undoes earlier item)) :
    holds list ↔ ∃ earlier item later, list = earlier ++ item :: later ∧ brings earlier item ∧
      ∀ between next rest, later = between ++ next :: rest → ¬ undoes (earlier ++ item :: between) next := by
  induction list using List.reverseRecOn with
  | nil => simp [never]
  | append_singleton list last ih =>
    have before := ih fun earlier item later same => step earlier item (later ++ [last]) (by simp [same])
    rw [step list last [] rfl, before]
    constructor
    · rintro (brought | ⟨⟨earlier, item, later, rfl, brought, kept⟩, stays⟩)
      · exact ⟨list, last, [], rfl, brought, by simp⟩
      · refine ⟨earlier, item, later ++ [last], by simp, brought, fun between next rest same => ?_⟩
        rcases split_append_singleton.mp same with ⟨rfl, rfl, -⟩ | ⟨fewer, -, rfl⟩
        · exact stays
        · exact kept between next fewer rfl
    · rintro ⟨earlier, item, later, same, brought, kept⟩
      rcases split_append_singleton.mp same with ⟨rfl, rfl, -⟩ | ⟨fewer, rfl, rfl⟩
      · exact .inl brought
      · exact .inr ⟨⟨earlier, item, fewer, rfl, brought, fun between next rest same =>
          kept between next (rest ++ [last]) (by simp [same])⟩, kept fewer last [] rfl⟩

end PeerMesh
