import Mathlib.Data.Finset.Card

/-!
# Sketches of a set

A sketch keeps some of the values of a set, and a flag `more`: enough to tell whether the set is
empty, has a single value or has several. A set that is neither flagged nor kept with two values is
the kept one (`Sketch.eq`), so its single value is known.
-/

namespace ScrapMonitoring

variable {α : Type*} {kept kept' all all' f : Finset α} {more more' : Prop}

/-- `kept` and `more` tell whether `all` is empty, a single value or several. -/
structure Sketch (kept all : Finset α) (more : Prop) : Prop where
  subset : kept ⊆ all
  nonempty : all.Nonempty → kept.Nonempty
  many : 1 < all.card → more ∨ 1 < kept.card

namespace Sketch

theorem refl (all : Finset α) (more : Prop) : Sketch all all more :=
  ⟨Finset.Subset.refl _, id, Or.inr⟩

theorem imp (h : Sketch kept all more) (hmore : more → more') : Sketch kept all more' :=
  ⟨h.subset, h.nonempty, fun hcard => (h.many hcard).imp_left hmore⟩

/-- Without a sign of a second value, everything is kept. -/
theorem eq (h : Sketch kept all more) (hmore : ¬ more) (hcard : ¬ 1 < kept.card) : kept = all := by
  have hall : all.card ≤ 1 := by
    by_contra hlt
    rcases h.many (not_le.1 hlt) with hm | hm
    · exact hmore hm
    · exact hcard hm
  refine Finset.Subset.antisymm h.subset fun a ha => ?_
  obtain ⟨b, hb⟩ := h.nonempty ⟨a, ha⟩
  rwa [Finset.card_le_one.1 hall a ha b (h.subset hb)]

end Sketch

/-! ## Adding values to a sketch -/

variable [DecidableEq α]

/-- The values of `new` have been added to `kept`, or so many of them that there are two. -/
structure Adds (kept new f : Finset α) : Prop where
  old : kept ⊆ f
  subset : f ⊆ kept ∪ new
  added : new ⊆ f ∨ 1 < f.card

theorem Adds.union (kept new : Finset α) : Adds kept new (kept ∪ new) :=
  ⟨Finset.subset_union_left, Finset.Subset.refl _, Or.inl Finset.subset_union_right⟩

/-- A sketch of a union: what is kept of one set is added to what is kept of the other. -/
theorem Sketch.union (h : Sketch kept all more) (h' : Sketch kept' all' more')
    (hf : Adds kept kept' f) : Sketch f (all ∪ all') (more ∨ more') := by
  refine ⟨hf.subset.trans (Finset.union_subset_union h.subset h'.subset), ?_, fun hcard => ?_⟩
  · rintro ⟨a, ha⟩
    rcases Finset.mem_union.1 ha with ha | ha
    · exact (h.nonempty ⟨a, ha⟩).mono hf.old
    · rcases hf.added with hnew | hnew
      · exact (h'.nonempty ⟨a, ha⟩).mono hnew
      · exact Finset.card_pos.1 (by omega)
  · by_contra hno
    simp only [not_or] at hno
    obtain ⟨⟨hmore, hmore'⟩, hone⟩ := hno
    have hnew' := hf.added.resolve_right hone
    have hall := h.eq hmore fun hlt => hone (hlt.trans_le (Finset.card_le_card hf.old))
    have hall' := h'.eq hmore' fun hlt => hone (hlt.trans_le (Finset.card_le_card hnew'))
    rw [← hall, ← hall'] at hcard
    exact hone (hcard.trans_le (Finset.card_le_card (Finset.union_subset hf.old hnew')))

end ScrapMonitoring
