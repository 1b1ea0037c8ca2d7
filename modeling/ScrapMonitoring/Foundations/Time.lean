import Mathlib.Algebra.Order.Field.Rat
import Mathlib.Algebra.Order.Ring.Int
import Mathlib.Data.Rat.Floor
import Mathlib.Tactic.Linarith

/-!
# Instants and durations

Timestamps have microsecond resolution, as the datetimes of the service do: an instant is an
integer, the number of microseconds since the epoch, and a duration is a number of microseconds.
-/

namespace ScrapMonitoring

/-! ## The order of instants -/

-- Mathlib also finds these through the conditionally complete order, which does not compute.

instance preorderInt : Preorder ℤ := Int.instLinearOrder.toPreorder

instance partialOrderInt : PartialOrder ℤ := Int.instLinearOrder.toPartialOrder

/-! ## Durations -/

/-- `timedelta(seconds=n)`. -/
def seconds (n : ℤ) : ℤ := n * 1000000

theorem seconds_pos {n : ℤ} (h : 0 < n) : 0 < seconds n := by
  unfold seconds
  omega

/-- `timedelta.total_seconds()`. -/
def totalSeconds (d : ℤ) : ℚ := d / 1000000

theorem totalSeconds_nonneg {d : ℤ} (h : 0 ≤ d) : 0 ≤ totalSeconds d :=
  div_nonneg (Int.cast_nonneg h) (by norm_num)

theorem totalSeconds_mono {d e : ℤ} (h : d ≤ e) : totalSeconds d ≤ totalSeconds e :=
  div_le_div_of_nonneg_right (Int.cast_le.2 h) (by norm_num)

theorem totalSeconds_pos {d : ℤ} (h : 0 < d) : 0 < totalSeconds d :=
  div_pos (Int.cast_pos.2 h) (by norm_num)

theorem pos_of_totalSeconds_pos {d : ℤ} (h : 0 < totalSeconds d) : 0 < d := by
  by_contra hd
  have hle := totalSeconds_mono (not_lt.1 hd)
  simp only [totalSeconds, Int.cast_zero, zero_div] at h hle
  linarith

/-- The nearest integer, the even one of two. -/
def roundHalfEven (q : ℚ) : ℤ :=
  if q - q.floor < 1 / 2 then q.floor
  else if 1 / 2 < q - q.floor then q.floor + 1
  else if q.floor % 2 = 0 then q.floor
  else q.floor + 1

/-- `timedelta(seconds=q)`. -/
def ofSeconds (q : ℚ) : ℤ := roundHalfEven (q * 1000000)

/-- Rounding does not pass an integer. -/
theorem roundHalfEven_le {q : ℚ} {n : ℤ} (h : q ≤ n) : roundHalfEven q ≤ n := by
  have hfloor : q.floor ≤ n := by
    have hle : (q.floor : ℚ) ≤ q := Rat.floor_le q
    exact_mod_cast hle.trans h
  have hnext : ¬q - q.floor < 1 / 2 → q.floor + 1 ≤ n := by
    intro hhalf
    have hlt : (q.floor : ℚ) < n := by linarith
    exact Int.add_one_le_iff.2 (by exact_mod_cast hlt)
  unfold roundHalfEven
  split_ifs with h₁ h₂ h₃
  · exact hfloor
  · exact hnext h₁
  · exact hfloor
  · exact hnext h₁

theorem ofSeconds_le {q : ℚ} {d : ℤ} (h : q ≤ totalSeconds d) : ofSeconds q ≤ d := by
  refine roundHalfEven_le ?_
  unfold totalSeconds at h
  linarith

end ScrapMonitoring
