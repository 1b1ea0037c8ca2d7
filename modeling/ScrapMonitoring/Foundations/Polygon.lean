import Mathlib.Algebra.BigOperators.Fin
import ScrapMonitoring.Foundations.Segments
import Mathlib.Order.CompletePartialOrder

/-!
# Simple polygons

A polygon is the list of its vertices in order, and its sides join each vertex to the next and the
last one to the first. A polygon is simple when sides that are not neighbours are disjoint,
neighbours share the vertex between them and nothing else, and the area it encloses is not zero.

`simplePolygon_of_not_meets`: with three vertices or more, the orientation test on the pairs of
sides that are not neighbours decides all of this, up to the area. Neighbours that overlap bring an
end of one of them onto the other, where the side beyond that end meets it.
-/

namespace ScrapMonitoring

section Definitions

variable {K : Type*} [Field K]

/-- The vertices in order, round and round. -/
def vertex (polygon : List (K × K)) (i : ℕ) : K × K := polygon.getD (i % polygon.length) 0

/-- Half the sum of the oriented areas that the sides span with the origin. -/
def signedArea (polygon : List (K × K)) : K :=
  (∑ i ∈ Finset.range polygon.length,
    ((vertex polygon i).1 * (vertex polygon (i + 1)).2 -
      (vertex polygon (i + 1)).1 * (vertex polygon i).2)) / (2 : ℕ)

section

variable {polygon : List (K × K)} (i : ℕ)

theorem vertex_add_length : vertex polygon (i + polygon.length) = vertex polygon i := by
  unfold vertex
  rw [Nat.add_mod_right]

theorem vertex_mod : vertex polygon (i % polygon.length) = vertex polygon i := by
  unfold vertex
  rw [Nat.mod_mod]

theorem vertex_mod_add_one :
    vertex polygon (i % polygon.length + 1) = vertex polygon (i + 1) := by
  unfold vertex
  rw [Nat.mod_add_mod]

end

variable [LinearOrder K]

/-- The side from the vertex `i` to the next. -/
def side (polygon : List (K × K)) (i : ℕ) : Set (K × K) :=
  segment K (vertex polygon i) (vertex polygon (i + 1))

structure SimplePolygon (polygon : List (K × K)) : Prop where
  /-- Sides that are not neighbours have no common point. -/
  disjoint : ∀ i j, i < polygon.length → j < polygon.length → i ≠ j →
    (i + 1) % polygon.length ≠ j → (j + 1) % polygon.length ≠ i →
    Disjoint (side polygon i) (side polygon j)
  /-- Neighbours have only the vertex between them in common. -/
  neighbours : ∀ i < polygon.length,
    side polygon i ∩ side polygon (i + 1) = {vertex polygon (i + 1)}
  area_ne_zero : signedArea polygon ≠ 0

/-- The test of two sides. -/
def SidesMeet (polygon : List (K × K)) (i j : ℕ) : Prop :=
  Meets (vertex polygon i) (vertex polygon (i + 1)) (vertex polygon j) (vertex polygon (j + 1))

theorem SidesMeet.symm {polygon : List (K × K)} {i j : ℕ} (h : SidesMeet polygon i j) :
    SidesMeet polygon j i :=
  Meets.symm h

end Definitions

variable {K : Type*} [Field K] [LinearOrder K] {polygon : List (K × K)}

theorem sidesMeet_mod (i j : ℕ) :
    SidesMeet polygon (i % polygon.length) (j % polygon.length) ↔ SidesMeet polygon i j := by
  unfold SidesMeet
  rw [vertex_mod, vertex_mod, vertex_mod_add_one, vertex_mod_add_one]

/-- The pairs that are tested, each once: `i` before `j`, not neighbours. -/
def NoneMeet (polygon : List (K × K)) : Prop :=
  ∀ i j, i + 1 < j → j < polygon.length → ¬(i = 0 ∧ j = polygon.length - 1) →
    ¬SidesMeet polygon i j

/-- The test of all pairs, in either order. -/
theorem NoneMeet.of_ne (h : NoneMeet polygon) {i j : ℕ} (hi : i < polygon.length)
    (hj : j < polygon.length) (hij : i ≠ j) (hnext : (i + 1) % polygon.length ≠ j)
    (hprev : (j + 1) % polygon.length ≠ i) : ¬SidesMeet polygon i j := by
  -- The successor of the last side is the first.
  have hmod : ∀ k < polygon.length, (k + 1) % polygon.length =
      if k + 1 = polygon.length then 0 else k + 1 := by
    intro k hk
    split_ifs with hlast
    · rw [hlast, Nat.mod_self]
    · exact Nat.mod_eq_of_lt (by omega)
  rw [hmod i hi] at hnext
  rw [hmod j hj] at hprev
  rcases Nat.lt_or_gt_of_ne hij with hlt | hgt
  · refine h i j ?_ hj ?_
    · split_ifs at hnext <;> omega
    · split_ifs at hprev <;> omega
  · intro hmeet
    refine h j i ?_ hi ?_ hmeet.symm
    · split_ifs at hprev <;> omega
    · split_ifs at hnext <;> omega

/-- A side and the one after the next do not meet in a polygon with four sides or more. -/
theorem NoneMeet.two_apart (h : NoneMeet polygon) (hlength : 4 ≤ polygon.length) (i : ℕ) :
    ¬SidesMeet polygon i (i + 2) := by
  have hpos : 0 < polygon.length := by omega
  rw [← sidesMeet_mod]
  have hlt := Nat.mod_lt i hpos
  obtain ⟨k, hk⟩ : ∃ k, k = i % polygon.length := ⟨_, rfl⟩
  have hsucc : (i + 2) % polygon.length =
      if k + 2 < polygon.length then k + 2 else k + 2 - polygon.length := by
    rw [← Nat.mod_add_mod, ← hk]
    split_ifs with hlast
    · exact Nat.mod_eq_of_lt hlast
    · rw [Nat.mod_eq_sub_mod (by omega), Nat.mod_eq_of_lt (by omega)]
  rw [hsucc, ← hk]
  split_ifs with hlast
  · exact h k (k + 2) (by omega) hlast (by omega)
  · intro hmeet
    exact h (k + 2 - polygon.length) k (by omega) (by omega) (by omega) hmeet.symm

variable [IsStrictOrderedRing K]

theorem sidesMeet_of_mem {i j : ℕ} {p : K × K} (hi : p ∈ side polygon i) (hj : p ∈ side polygon j) :
    SidesMeet polygon i j :=
  meets_of_mem hi hj

/-- The area of a triangle by its orientation. -/
theorem signedArea_of_length_eq_three (hlength : polygon.length = 3) (i : ℕ) :
    signedArea polygon =
      cross (vertex polygon i) (vertex polygon (i + 1)) (vertex polygon (i + 2)) / 2 := by
  have h3 : ∀ k, vertex polygon (k + 3) = vertex polygon k := by
    intro k
    have h : vertex polygon (k + polygon.length) = vertex polygon k := vertex_add_length k
    rwa [hlength] at h
  have hrotate : ∀ k, cross (vertex polygon k) (vertex polygon (k + 1)) (vertex polygon (k + 2)) =
      cross (vertex polygon 0) (vertex polygon 1) (vertex polygon 2) := by
    intro k
    induction k with
    | zero => rfl
    | succ k ih => rw [← ih, ← cross_rotate (vertex polygon k), h3 k]
  rw [hrotate, signedArea, hlength, Finset.sum_range_succ, Finset.sum_range_succ,
    Finset.sum_range_one, h3 0]
  unfold cross
  ring

/-- Neighbours have only the vertex between them in common. -/
theorem NoneMeet.neighbours (h : NoneMeet polygon) (hlength : 3 ≤ polygon.length)
    (harea : signedArea polygon ≠ 0) (i : ℕ) :
    side polygon i ∩ side polygon (i + 1) = {vertex polygon (i + 1)} := by
  apply Set.Subset.antisymm
  · rintro p ⟨hi, hnext⟩
    by_contra hp
    have hfold := mem_or_mem_of_fold hi hnext hp
    rcases Nat.lt_or_ge 3 polygon.length with hlong | hshort
    · -- The end that lies on the other side belongs to the side beyond it.
      rcases hfold with hend | hend
      · refine h.two_apart hlong i (sidesMeet_of_mem hend ?_)
        exact left_mem_segment K _ _
      · have hlast : vertex polygon (i + polygon.length - 1 + 1) = vertex polygon i := by
          rw [Nat.sub_add_cancel (by omega), vertex_add_length]
        have hbefore : vertex polygon i ∈ side polygon (i + polygon.length - 1) := by
          rw [side, hlast]
          exact right_mem_segment K _ _
        have hafter : vertex polygon i ∈ side polygon (i + polygon.length - 1 + 2) := by
          have hindex : i + polygon.length - 1 + 2 = i + 1 + polygon.length := by omega
          have hindex' : i + 1 + polygon.length + 1 = i + 1 + 1 + polygon.length := by omega
          rw [side, hindex, hindex', vertex_add_length, vertex_add_length]
          exact hend
        exact h.two_apart hlong _ (sidesMeet_of_mem hbefore hafter)
    · -- A triangle whose sides overlap has no area.
      refine harea ?_
      rw [signedArea_of_length_eq_three (le_antisymm hshort hlength) i]
      rcases hfold with hend | hend
      · rw [cross_eq_zero_of_mem hend, zero_div]
      · rw [← cross_rotate, cross_eq_zero_of_mem hend, zero_div]
  · rintro p rfl
    exact ⟨right_mem_segment K _ _, left_mem_segment K _ _⟩

/-- **The test of the sides that are not neighbours decides that a polygon is simple**. -/
theorem simplePolygon_of_noneMeet (h : NoneMeet polygon) (hlength : 3 ≤ polygon.length)
    (harea : signedArea polygon ≠ 0) : SimplePolygon polygon where
  disjoint i j hi hj hij hnext hprev := by
    refine Set.disjoint_left.2 fun p hpi hpj => ?_
    exact h.of_ne hi hj hij hnext hprev (sidesMeet_of_mem hpi hpj)
  neighbours i _ := h.neighbours hlength harea i
  area_ne_zero := harea

end ScrapMonitoring
