import Mathlib.Data.List.Perm.Basic
import Mathlib.Order.CompletePartialOrder
import Mathlib.Order.Interval.Set.Disjoint

/-!
# Sets that are cut into half-open intervals

An interval is a pair of its ends; it contains the first and not the second, so one that is empty
or reversed contains nothing. `Tiles l s` says that the intervals of `l` are pairwise disjoint and
make up `s`: no point of `s` is lost and none is counted twice.
-/

namespace ScrapMonitoring

variable {α : Type*} [LinearOrder α] {l l' : List (α × α)} {s s' : Set α} {a b : α}

/-- The points of the intervals. -/
def covered (l : List (α × α)) : Set α := {t | ∃ i ∈ l, t ∈ Set.Ico i.1 i.2}

theorem mem_covered {t : α} : t ∈ covered l ↔ ∃ i ∈ l, i.1 ≤ t ∧ t < i.2 := Iff.rfl

theorem covered_nil : covered ([] : List (α × α)) = ∅ := by
  ext t
  simp [mem_covered]

theorem covered_cons (i : α × α) (l : List (α × α)) :
    covered (i :: l) = Set.Ico i.1 i.2 ∪ covered l := by
  ext t
  simp [mem_covered]

theorem covered_append (l l' : List (α × α)) : covered (l ++ l') = covered l ∪ covered l' := by
  ext t
  simp only [mem_covered, List.mem_append, Set.mem_union, or_and_right, exists_or]

theorem covered_perm (h : l.Perm l') : covered l = covered l' := by
  ext t
  simp only [mem_covered, h.mem_iff]

/-- The intervals are disjoint, and `s` is their union. -/
structure Tiles (l : List (α × α)) (s : Set α) : Prop where
  disjoint : l.Pairwise fun i j => Disjoint (Set.Ico i.1 i.2) (Set.Ico j.1 j.2)
  union : covered l = s

namespace Tiles

theorem nil : Tiles ([] : List (α × α)) ∅ := ⟨List.Pairwise.nil, covered_nil⟩

theorem singleton (a b : α) : Tiles [(a, b)] (Set.Ico a b) :=
  ⟨List.pairwise_singleton _ _, by rw [covered_cons, covered_nil, Set.union_empty]⟩

theorem append (h : Tiles l s) (h' : Tiles l' s') (hdisjoint : Disjoint s s') :
    Tiles (l ++ l') (s ∪ s') := by
  refine ⟨List.pairwise_append.2 ⟨h.disjoint, h'.disjoint, fun i hi j hj => ?_⟩, ?_⟩
  · refine hdisjoint.mono ?_ ?_
    · rw [← h.union]
      exact fun t ht => ⟨i, hi, ht⟩
    · rw [← h'.union]
      exact fun t ht => ⟨j, hj, ht⟩
  · rw [covered_append, h.union, h'.union]

theorem perm (h : Tiles l s) (hperm : l.Perm l') : Tiles l' s :=
  ⟨(hperm.pairwise_iff fun h => Disjoint.symm h).1 h.disjoint,
    by rw [← covered_perm hperm, h.union]⟩

theorem left (h : Tiles (l ++ l') s) : Tiles l (covered l) :=
  ⟨(List.pairwise_append.1 h.disjoint).1, rfl⟩

/-- Intervals without points do not matter. -/
theorem filter (h : Tiles l s) : Tiles (l.filter fun i => i.1 < i.2) s := by
  refine ⟨h.disjoint.filter _, ?_⟩
  rw [← h.union]
  ext t
  simp only [mem_covered, List.mem_filter, decide_eq_true_eq]
  constructor
  · rintro ⟨i, ⟨hi, -⟩, ht⟩
    exact ⟨i, hi, ht⟩
  · rintro ⟨i, hi, ht⟩
    exact ⟨i, ⟨hi, ht.1.trans_lt ht.2⟩, ht⟩

/-- Intervals that follow one another. -/
theorem of_pairwise_le (h : l.Pairwise fun i j => i.2 ≤ j.1) : Tiles l (covered l) := by
  refine ⟨h.imp fun {i j} hij => Set.disjoint_left.2 fun t ht ht' => ?_, rfl⟩
  exact absurd (ht.2.trans_le hij) (not_lt.2 ht'.1)

/-- Disjoint intervals that have points follow one another in the order of their first points. -/
theorem pairwise_le (h : Tiles l s) (hpos : ∀ i ∈ l, i.1 < i.2)
    (hsorted : l.Pairwise fun i j => i.1 ≤ j.1) : l.Pairwise fun i j => i.2 ≤ j.1 := by
  refine (h.disjoint.and hsorted).imp_of_mem fun {i j} _ hj hij => ?_
  obtain ⟨hdisjoint, hle⟩ := hij
  by_contra hlt
  exact Set.disjoint_left.1 hdisjoint ⟨hle, not_le.1 hlt⟩ ⟨le_refl _, hpos j hj⟩

end Tiles

end ScrapMonitoring
