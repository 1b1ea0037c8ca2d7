import Mathlib.Data.Int.Range
import Mathlib.Data.List.Range
import ScrapMonitoring.Foundations.Tiles
import ScrapMonitoring.Foundations.Time

/-!
# The cells of a grid in a range

A grid has a cell `[i * d, i * d + d)` for every integer `i`, and the cell of `t` is that of `t /
d`. Of the cells that meet a range `[start, stop)`, cut at its ends, none is empty, each begins
where the one before it ends, and together they are the range (`cells_tiles`). There are at most two
more of them than fit into the range (`length_cells_le`).
-/

namespace ScrapMonitoring

variable {d start stop t i : ℤ}

/-- The number of the first cell at or after `t`. -/
def cellAfter (t d : ℤ) : ℤ := -(-t / d)

/-- A cell, cut at the ends of the range. -/
def cell (start stop d i : ℤ) : ℤ × ℤ := (max start (i * d), min stop (i * d + d))

/-- The numbers of the cells that meet the range. -/
def cellNumbers (start stop d : ℤ) : List ℤ := Int.range (start / d) (cellAfter stop d)

/-- The cells that meet the range. -/
def cells (start stop d : ℤ) : List (ℤ × ℤ) := (cellNumbers start stop d).map (cell start stop d)

theorem lt_cellAfter (hd : 0 < d) : i < cellAfter stop d ↔ i * d < stop := by
  unfold cellAfter
  rw [lt_neg, Int.ediv_lt_iff_lt_mul hd, neg_mul]
  exact neg_lt_neg_iff

theorem mem_cellNumbers (hd : 0 < d) :
    i ∈ cellNumbers start stop d ↔ start / d ≤ i ∧ i * d < stop := by
  rw [cellNumbers, Int.mem_range_iff, lt_cellAfter hd]

/-- The cell of a time. -/
theorem mem_cell (hd : 0 < d) :
    t ∈ Set.Ico (cell start stop d i).1 (cell start stop d i).2 ↔
      (start ≤ t ∧ t < stop) ∧ t / d = i := by
  rw [Set.mem_Ico, Int.ediv_eq_iff_of_pos hd]
  simp only [cell, max_le_iff, lt_min_iff]
  constructor
  · rintro ⟨⟨hstart, hle⟩, hstop, hlt⟩
    exact ⟨⟨hstart, hstop⟩, hle, hlt⟩
  · rintro ⟨⟨hstart, hstop⟩, hle, hlt⟩
    exact ⟨⟨hstart, hle⟩, hstop, hlt⟩

/-- The cell of a time of the range meets the range. -/
theorem cellNumber_mem (hd : 0 < d) (hstart : start ≤ t) (hstop : t < stop) :
    t / d ∈ cellNumbers start stop d :=
  (mem_cellNumbers hd).2 ⟨Int.ediv_le_ediv hd hstart, (Int.ediv_mul_le t hd.ne').trans_lt hstop⟩

/-- A cell that does not end before the range begins. -/
theorem lt_cell_end (hd : 0 < d) (h : start / d ≤ i) : start < (i + 1) * d :=
  (Int.ediv_lt_iff_lt_mul hd).1 (Int.lt_add_one_of_le h)

theorem cell_lt (hd : 0 < d) (h : start < stop) (hi : i ∈ cellNumbers start stop d) :
    (cell start stop d i).1 < (cell start stop d i).2 := by
  obtain ⟨hfirst, hlast⟩ := (mem_cellNumbers hd).1 hi
  have hend : start < i * d + d := by
    have hlt := lt_cell_end hd hfirst
    rwa [add_mul, one_mul] at hlt
  simp only [cell, max_lt_iff, lt_min_iff]
  exact ⟨⟨h, hlast⟩, hend, by omega⟩

/-- A cell begins where the one before it ends. -/
theorem cell_succ (hd : 0 < d) (hi : i ∈ cellNumbers start stop d)
    (hsucc : i + 1 ∈ cellNumbers start stop d) :
    (cell start stop d i).2 = (cell start stop d (i + 1)).1 := by
  obtain ⟨hfirst, -⟩ := (mem_cellNumbers hd).1 hi
  obtain ⟨-, hlast⟩ := (mem_cellNumbers hd).1 hsucc
  have hend := lt_cell_end hd hfirst
  rw [add_mul, one_mul] at hend hlast
  simp only [cell, add_mul, one_mul]
  rw [max_eq_right hend.le, min_eq_right hlast.le]

theorem cells_chain (hd : 0 < d) (start stop : ℤ) :
    (cells start stop d).IsChain fun a b => a.2 = b.1 := by
  unfold cells cellNumbers Int.range
  rw [List.map_map, List.isChain_map, List.isChain_range]
  intro m hm
  have hmem : ∀ k : ℕ, k < (cellAfter stop d - start / d).toNat →
      start / d + k ∈ cellNumbers start stop d := by
    intro k hk
    rw [cellNumbers, Int.mem_range_iff]
    omega
  have hsucc := hmem (m + 1) (by omega)
  push_cast at hsucc
  show (cell start stop d (start / d + m)).2 = (cell start stop d (start / d + (m + 1 : ℕ))).1
  push_cast
  rw [← add_assoc]
  rw [← add_assoc] at hsucc
  exact cell_succ hd (hmem m (by omega)) hsucc

/-- **The cells tile the range.** -/
theorem cells_tiles (hd : 0 < d) (start stop : ℤ) :
    Tiles (cells start stop d) (Set.Ico start stop) where
  disjoint := by
    unfold cells cellNumbers Int.range
    rw [List.map_map, List.pairwise_map]
    refine List.nodup_range.imp fun {a b} hab => Set.disjoint_left.2 fun t ha hb => hab ?_
    have hfirst : t / d = start / d + a := ((mem_cell hd).1 ha).2
    have hsecond : t / d = start / d + b := ((mem_cell hd).1 hb).2
    omega
  union := by
    ext t
    rw [mem_covered]
    constructor
    · rintro ⟨c, hc, ht⟩
      obtain ⟨i, -, rfl⟩ := List.mem_map.1 hc
      exact ((mem_cell hd).1 ht).1
    · rintro ⟨hstart, hstop⟩
      exact ⟨_, List.mem_map_of_mem (cellNumber_mem hd hstart hstop),
        (mem_cell hd).2 ⟨⟨hstart, hstop⟩, rfl⟩⟩

theorem length_cellNumbers (start stop d : ℤ) :
    (cellNumbers start stop d).length = (cellAfter stop d - start / d).toNat := by
  rw [cellNumbers, Int.range, List.length_map, List.length_range]

/-- A range touches at most two cells more than fit into it. -/
theorem cells_le (hd : 0 < d) (start stop : ℤ) :
    cellAfter stop d - start / d ≤ (stop - start) / d + 2 := by
  have hstop : (cellAfter stop d - 1) * d < stop := (lt_cellAfter hd).1 (by omega)
  have hstart := Int.lt_ediv_add_one_mul_self start hd
  have hlength := Int.lt_ediv_add_one_mul_self (stop - start) hd
  have hlt : (cellAfter stop d - 1 - (start / d + 1)) * d < ((stop - start) / d + 1) * d := by
    rw [sub_mul]
    linarith
  have hcells := lt_of_mul_lt_mul_right hlt hd.le
  omega

end ScrapMonitoring
