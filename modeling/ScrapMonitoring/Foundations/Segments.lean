import Mathlib.Analysis.Convex.Between

/-!
# Segments of the plane

Two closed segments of the plane over an ordered field, and the orientation test for a common point.
`Meets` holds of any two segments with a common point (`meets_of_mem`), also where they touch or
overlap. Of two segments from one point that have another point in common, one contains an end of
the other (`mem_or_mem_of_fold`).
-/

namespace ScrapMonitoring

section Test

variable {K : Type*} [Field K]

/-- Twice the area of the triangle `abc`, positive when it turns to the left. -/
def cross (a b c : K × K) : K := (b.1 - a.1) * (c.2 - a.2) - (b.2 - a.2) * (c.1 - a.1)

theorem cross_rotate (a b c : K × K) : cross b c a = cross a b c := by
  unfold cross
  ring

variable [LinearOrder K]

/-- The boxes around the segments `ab` and `cd` overlap, and neither segment lies strictly on one
side of the other's line. -/
def Meets (a b c d : K × K) : Prop :=
  max (min a.1 b.1) (min c.1 d.1) ≤ min (max a.1 b.1) (max c.1 d.1) ∧
    max (min a.2 b.2) (min c.2 d.2) ≤ min (max a.2 b.2) (max c.2 d.2) ∧
    cross a b c * cross a b d ≤ 0 ∧ cross c d a * cross c d b ≤ 0

instance (a b c d : K × K) : Decidable (Meets a b c d) := by
  unfold Meets
  infer_instance

theorem Meets.symm {a b c d : K × K} (h : Meets a b c d) : Meets c d a b := by
  obtain ⟨hx, hy, hab, hcd⟩ := h
  refine ⟨?_, ?_, hcd, hab⟩
  · rwa [max_comm, min_comm (max c.1 d.1)]
  · rwa [max_comm, min_comm (max c.2 d.2)]

end Test

variable {K : Type*} [Field K] [LinearOrder K] [IsStrictOrderedRing K] {a b c d p : K × K}

/-- A point of a segment lies in the box around it. -/
theorem box_of_mem (h : p ∈ segment K a b) :
    (min a.1 b.1 ≤ p.1 ∧ p.1 ≤ max a.1 b.1) ∧ min a.2 b.2 ≤ p.2 ∧ p.2 ≤ max a.2 b.2 := by
  obtain ⟨u, v, hu, hv, huv, rfl⟩ := h
  have hbox : ∀ x y : K, min x y ≤ u * x + v * y ∧ u * x + v * y ≤ max x y := by
    intro x y
    have hmem := Convex.min_le_combo x y hu hv huv
    exact ⟨hmem, Convex.combo_le_max x y hu hv huv⟩
  exact ⟨hbox a.1 b.1, hbox a.2 b.2⟩

theorem cross_eq_zero_of_mem (h : c ∈ segment K a b) : cross a b c = 0 := by
  obtain ⟨u, v, hu, hv, huv, rfl⟩ := h
  obtain rfl : u = 1 - v := by linear_combination huv
  simp only [cross, Prod.fst_add, Prod.snd_add, Prod.smul_fst, Prod.smul_snd, smul_eq_mul]
  ring

/-- The ends of a segment with a point on the line `ab` do not lie strictly on one side of it. -/
theorem cross_mul_cross_nonpos (hab : p ∈ segment K a b) (hcd : p ∈ segment K c d) :
    cross a b c * cross a b d ≤ 0 := by
  have hline := cross_eq_zero_of_mem hab
  obtain ⟨u, v, hu, hv, huv, rfl⟩ := hcd
  -- The sides of `c` and `d` have a convex combination that is zero.
  have hcombo : u * cross a b c + v * cross a b d = 0 := by
    rw [← hline]
    obtain rfl : u = 1 - v := by linear_combination huv
    simp only [cross, Prod.fst_add, Prod.snd_add, Prod.smul_fst, Prod.smul_snd, smul_eq_mul]
    ring
  by_contra! hpos
  rcases pos_and_pos_or_neg_and_neg_of_mul_pos hpos with ⟨hc, hd⟩ | ⟨hc, hd⟩
  · have h1 := mul_nonneg hu hc.le
    have h2 := mul_nonneg hv hd.le
    have hu0 : u = 0 := (mul_eq_zero.1 (le_antisymm (by linarith) h1)).resolve_right hc.ne'
    have hv0 : v = 0 := (mul_eq_zero.1 (le_antisymm (by linarith) h2)).resolve_right hd.ne'
    rw [hu0, hv0, add_zero] at huv
    exact zero_ne_one huv
  · have h1 := mul_nonpos_of_nonneg_of_nonpos hu hc.le
    have h2 := mul_nonpos_of_nonneg_of_nonpos hv hd.le
    have hu0 : u = 0 := (mul_eq_zero.1 (le_antisymm h1 (by linarith))).resolve_right hc.ne
    have hv0 : v = 0 := (mul_eq_zero.1 (le_antisymm h2 (by linarith))).resolve_right hd.ne
    rw [hu0, hv0, add_zero] at huv
    exact zero_ne_one huv

/-- **Segments with a common point pass the test**. -/
theorem meets_of_mem (hab : p ∈ segment K a b) (hcd : p ∈ segment K c d) : Meets a b c d := by
  obtain ⟨hx, hy⟩ := box_of_mem hab
  obtain ⟨hx', hy'⟩ := box_of_mem hcd
  refine ⟨?_, ?_, cross_mul_cross_nonpos hab hcd, cross_mul_cross_nonpos hcd hab⟩
  · exact (max_le hx.1 hx'.1).trans (le_min hx.2 hx'.2)
  · exact (max_le hy.1 hy'.1).trans (le_min hy.2 hy'.2)

/-- Two segments from `b` with another point in common lie on one ray, and the shorter one ends on
the longer one. -/
theorem mem_or_mem_of_fold (hab : p ∈ segment K a b) (hbc : p ∈ segment K b c) (hp : p ≠ b) :
    c ∈ segment K a b ∨ a ∈ segment K b c := by
  have ha : Wbtw K b p a := (mem_segment_iff_wbtw.1 hab).symm
  have hc : Wbtw K b p c := mem_segment_iff_wbtw.1 hbc
  have hray : SameRay K (a -ᵥ b) (c -ᵥ b) := by
    refine ha.sameRay_vsub_left.symm.trans hc.sameRay_vsub_left fun h => ?_
    exact absurd (vsub_eq_zero_iff_eq.1 h) hp
  rcases wbtw_total_of_sameRay_vsub_left hray with h | h
  · exact .inr (mem_segment_iff_wbtw.2 h)
  · exact .inl (mem_segment_iff_wbtw.2 h.symm)

end ScrapMonitoring
