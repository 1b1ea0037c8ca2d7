import Mathlib.Data.List.GetD
import Mathlib.Data.Real.Basic
import ScrapMonitoring.Foundations.Polygon
import ScrapMonitoring.Foundations.Succeeds

/-!
# The boundary of a simulated pit

The validator of `SimulationHeightReference` in `schemas/lidar_height.py`. Coordinates are rational
numbers, which binary64 values are, and the comparisons are exact; the sides are segments of the
real plane. `Meets` is the condition of the inner loop, with its function `cross`.
-/

namespace ScrapMonitoring.Lidar

/-- What the validator reads of the configuration, with the bounds of its fields. -/
structure SimulationHeightReference where
  floorZCm : ℚ
  topZCm : ℚ
  boundaryXyCm : List (ℚ × ℚ)
  floor_bound : |floorZCm| ≤ 1000000
  top_bound : |topZCm| ≤ 1000000
  min_length : 3 ≤ boundaryXyCm.length
  max_length : boundaryXyCm.length ≤ 64

/-- The edges, `zip(polygon, polygon[1:] + polygon[:1])`. -/
def edgesOf (polygon : List (ℚ × ℚ)) : List ((ℚ × ℚ) × (ℚ × ℚ)) :=
  polygon.zip (polygon.drop 1 ++ polygon.take 1)

/-- `SimulationHeightReference.valid_geometry`. -/
def SimulationHeightReference.validGeometry (reference : SimulationHeightReference) :
    Except String Unit := do
  let depth := reference.topZCm - reference.floorZCm
  refuse (¬(0 < depth ∧ depth ≤ 1000000)) "Simulation depth must be positive and bounded"
  let polygon := reference.boundaryXyCm
  refuse (∃ point ∈ polygon, 1000000 < |point.1| ∨ 1000000 < |point.2|)
    "Simulation boundary is out of bounds"
  let edges := edgesOf polygon
  refuse (∃ edge ∈ edges, edge.1 = edge.2) "Simulation boundary has a zero-length edge"
  let area : ℚ := (edges.map fun (a, b) => a.1 * b.2 - b.1 * a.2).sum
  refuse (|area| < (1 / 1000000 : ℚ)) "Simulation boundary must have positive area"
  refuse
    (∃ e ∈ edges.zipIdx, ∃ f ∈ edges.zipIdx,
      ¬(f.2 ≤ e.2 + 1 ∨ e.2 = 0 ∧ f.2 = edges.length - 1) ∧ Meets e.1.1 e.1.2 f.1.1 f.1.2)
    "Simulation boundary must be a simple polygon"

/-! ## The edges are the sides -/

variable {polygon : List (ℚ × ℚ)}

theorem edgesOf_eq :
    edgesOf polygon =
      (List.range polygon.length).map fun i => (vertex polygon i, vertex polygon (i + 1)) := by
  apply List.ext_getElem
  · simp only [edgesOf, List.length_zip, List.length_append, List.length_drop, List.length_take,
      List.length_map, List.length_range]
    omega
  · intro i hi hi'
    rw [List.length_map, List.length_range] at hi'
    simp only [edgesOf, List.getElem_zip, List.getElem_map, List.getElem_range, vertex,
      Nat.mod_eq_of_lt hi', List.getD_eq_getElem _ _ hi', Prod.mk.injEq, true_and]
    rcases Nat.lt_or_ge (i + 1) polygon.length with hlt | hge
    · rw [List.getElem_append_left (by rw [List.length_drop]; omega), Nat.mod_eq_of_lt hlt,
        List.getD_eq_getElem _ _ hlt, List.getElem_drop]
      simp only [Nat.add_comm]
    · have hlast : i + 1 = polygon.length := by omega
      rw [List.getElem_append_right (by rw [List.length_drop]; omega), hlast, Nat.mod_self,
        List.getD_eq_getElem _ _ (by omega), List.getElem_take]
      congr 1
      rw [List.length_drop]
      omega

theorem mem_zipIdx_edgesOf {i : ℕ} (hi : i < polygon.length) :
    ((vertex polygon i, vertex polygon (i + 1)), i) ∈ (edgesOf polygon).zipIdx := by
  rw [List.mem_zipIdx_iff_getElem?, edgesOf_eq, List.getElem?_map, List.getElem?_range hi]
  rfl

theorem length_edgesOf : (edgesOf polygon).length = polygon.length := by
  rw [edgesOf_eq, List.length_map, List.length_range]

/-- The sum over the edges is twice the area. -/
theorem sum_edgesOf :
    ((edgesOf polygon).map fun (a, b) => a.1 * b.2 - b.1 * a.2).sum = 2 * signedArea polygon := by
  rw [edgesOf_eq, List.map_map, signedArea, Nat.cast_two, mul_div_cancel₀ _ two_ne_zero]
  rfl

/-- The same point of the real plane. -/
def toReal (p : ℚ × ℚ) : ℝ × ℝ := (p.1, p.2)

theorem vertex_map_toReal (i : ℕ) : vertex (polygon.map toReal) i = toReal (vertex polygon i) := by
  have hzero : toReal 0 = 0 := by simp [toReal]
  rw [vertex, vertex, List.length_map, ← hzero, List.getD_map]

theorem meets_toReal {a b c d : ℚ × ℚ} :
    Meets (toReal a) (toReal b) (toReal c) (toReal d) ↔ Meets a b c d := by
  simp only [Meets, cross, toReal]
  norm_cast

theorem signedArea_map_toReal : signedArea (polygon.map toReal) = signedArea polygon := by
  simp only [signedArea, vertex_map_toReal, List.length_map, toReal]
  push_cast
  rfl

/-! ## What the validator accepts -/

/-- **The validator accepts simple polygons only**. -/
theorem validGeometry_simple (reference : SimulationHeightReference)
    (h : reference.validGeometry = .ok ()) :
    SimplePolygon (reference.boundaryXyCm.map toReal) := by
  have hvalid : Succeeds reference.validGeometry _ () :=
    (Succeeds.refuse _).bind <| (Succeeds.refuse _).bind <| (Succeeds.refuse _).bind <|
      (Succeeds.refuse _).bind <| Succeeds.refuse _
  obtain ⟨⟨-, -, -, harea, hmeet⟩, -⟩ := hvalid.of_ok h
  apply simplePolygon_of_noneMeet
  · intro i j hij hj hlast hsides
    rw [List.length_map] at hj hlast
    rw [SidesMeet, vertex_map_toReal, vertex_map_toReal, vertex_map_toReal, vertex_map_toReal,
      meets_toReal] at hsides
    refine hmeet ⟨_, mem_zipIdx_edgesOf (by omega), _, mem_zipIdx_edgesOf hj, ?_, hsides⟩
    rw [length_edgesOf]
    omega
  · rw [List.length_map]
    exact reference.min_length
  · intro hzero
    rw [signedArea_map_toReal, Rat.cast_eq_zero] at hzero
    apply harea
    rw [sum_edgesOf, hzero]
    norm_num

/-- A square. -/
theorem validGeometry_simple_square :
    SimplePolygon ([(0, 0), (100, 0), (100, 100), (0, 100)].map toReal) :=
  validGeometry_simple
    ⟨0, 200, [(0, 0), (100, 0), (100, 100), (0, 100)], by decide +kernel, by decide +kernel,
      by decide, by decide⟩
    (by decide +kernel)

end ScrapMonitoring.Lidar
