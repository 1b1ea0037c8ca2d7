import Mathlib.Algebra.BigOperators.Fin
import Mathlib.Algebra.Order.BigOperators.Ring.Finset
import Mathlib.Tactic.Linarith

/-!
# Sums of squares and of products over a list

What a linear regression divides by, and the bound on its squared correlation: `sum_mul_sq_le` is
the Cauchy–Schwarz inequality for sums over a list, and `correlation_mem_Icc` the bound.
-/

namespace ScrapMonitoring

variable {α K : Type*} [Field K] [LinearOrder K] [IsStrictOrderedRing K]
variable (l : List α) (f g : α → K)

theorem sum_sq_nonneg : 0 ≤ (l.map fun a => f a ^ 2).sum :=
  List.sum_nonneg fun x hx => by
    obtain ⟨a, -, rfl⟩ := List.mem_map.1 hx
    exact sq_nonneg (f a)

variable {l f} in
/-- Deviations of two different values from one number do not all vanish. -/
theorem sum_sq_pos {a b : α} (ha : a ∈ l) (hb : b ∈ l) (hab : f a ≠ f b) (m : K) :
    0 < (l.map fun a => (f a - m) ^ 2).sum := by
  refine lt_of_le_of_ne (sum_sq_nonneg l fun a => f a - m) fun hzero => hab ?_
  have hall : ∀ c ∈ l, f c = m := by
    intro c hc
    have hle := List.single_le_sum (l := l.map fun a => (f a - m) ^ 2) (by
      intro x hx
      obtain ⟨a, -, rfl⟩ := List.mem_map.1 hx
      exact sq_nonneg _) _ (List.mem_map_of_mem hc)
    rw [← hzero] at hle
    have hsq := pow_eq_zero_iff two_ne_zero |>.1 (le_antisymm hle (sq_nonneg (f c - m)))
    exact sub_eq_zero.1 hsq
  rw [hall a ha, hall b hb]

/-- **The Cauchy–Schwarz inequality** for sums over a list. -/
theorem sum_mul_sq_le :
    (l.map fun a => f a * g a).sum ^ 2 ≤
      (l.map fun a => f a ^ 2).sum * (l.map fun a => g a ^ 2).sum := by
  rw [← Fin.sum_univ_fun_getElem, ← Fin.sum_univ_fun_getElem, ← Fin.sum_univ_fun_getElem]
  exact Finset.sum_mul_sq_le_sq_mul_sq _ _ _

/-- The squared correlation is in the unit interval. -/
theorem correlation_mem_Icc :
    (l.map fun a => f a * g a).sum ^ 2 /
      ((l.map fun a => f a ^ 2).sum * (l.map fun a => g a ^ 2).sum) ∈ Set.Icc 0 1 := by
  have hnonneg := mul_nonneg (sum_sq_nonneg l f) (sum_sq_nonneg l g)
  exact ⟨div_nonneg (sq_nonneg _) hnonneg, div_le_one_of_le₀ (sum_mul_sq_le l f g) hnonneg⟩

end ScrapMonitoring
