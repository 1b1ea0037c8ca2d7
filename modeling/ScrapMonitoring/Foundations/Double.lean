import Mathlib.Data.Nat.Find
import Mathlib.Order.Monotone.Basic
import Mathlib.Tactic.Ring
import Mathlib.Tactic.NormNum

/-!
# Binary floating-point numbers

A `Double` is a number of 64 bits: its sign, its biased exponent and its fraction. `place` numbers
the doubles of one sign by their exponent and fraction, which is the order of their values.
`scaled n` is the value of the `n`-th one in units of `10 ^ (-1074)`; every finite double and every
decimal with at most 1074 decimals is a natural number of these units.

A decimal is read as the `n`-th double if it lies between the midpoints to the two neighbours, a
midpoint going to the neighbour with the even fraction (`Reads`). No decimal is read as two doubles
(`Reads.unique`). The decimal written for a double is the shortest that is read as it, and among
these the nearest (`shortest`).
-/

namespace ScrapMonitoring

/-- A number of 64 bits, the infinities and the values that are no numbers included. -/
structure Double where
  negative : Bool
  exponent : Fin 2048
  fraction : Fin (2 ^ 52)
  deriving DecidableEq

namespace Double

/-- `math.isfinite` -/
def IsFinite (x : Double) : Prop := x.exponent.val < 2047

instance (x : Double) : Decidable x.IsFinite := inferInstanceAs (Decidable (_ < _))

/-- The number of the double among those of its sign. -/
def place (x : Double) : ℕ := x.exponent.val * 2 ^ 52 + x.fraction.val

theorem place_inj {x y : Double} (hneg : x.negative = y.negative) (h : x.place = y.place) :
    x = y := by
  obtain ⟨s, e, f⟩ := x
  obtain ⟨s', e', f'⟩ := y
  have hf := f.isLt
  have hf' := f'.isLt
  simp only [place] at h
  simp only [mk.injEq, Fin.ext_iff]
  refine ⟨hneg, ?_, ?_⟩ <;> omega

/-! ## The values -/

/-- The value of the `n`-th double that is not negative, in units of `2 ^ (-1074)`. -/
def units (n : ℕ) : ℕ :=
  if n < 2 ^ 52 then n else (2 ^ 52 + n % 2 ^ 52) * 2 ^ (n / 2 ^ 52 - 1)

/-- The value of the `n`-th double that is not negative, in units of `10 ^ (-1074)`. -/
def scaled (n : ℕ) : ℕ := 5 ^ 1074 * units n

theorem units_lt_succ (n : ℕ) : units n < units (n + 1) := by
  have hdiv := Nat.div_add_mod n (2 ^ 52)
  have hmod := Nat.mod_lt n (show 0 < 2 ^ 52 by norm_num)
  generalize he : n / 2 ^ 52 = e at hdiv
  generalize hf : n % 2 ^ 52 = f at hdiv hmod
  rw [units, units, he, hf]
  by_cases hsub : n + 1 < 2 ^ 52
  · rw [if_pos (by omega), if_pos hsub]
    omega
  by_cases hlast : f + 1 < 2 ^ 52
  · -- the next double has the same exponent
    have he' : (n + 1) / 2 ^ 52 = e := by omega
    have hf' : (n + 1) % 2 ^ 52 = f + 1 := by omega
    rw [if_neg (by omega), if_neg hsub, he', hf']
    exact Nat.mul_lt_mul_of_pos_right (by omega) (by positivity)
  · -- the fraction starts again, under the next exponent
    have he' : (n + 1) / 2 ^ 52 = e + 1 := by omega
    have hf' : (n + 1) % 2 ^ 52 = 0 := by omega
    rw [if_neg hsub, he', hf']
    rcases Nat.eq_zero_or_pos e with h0 | hpos
    · rw [if_pos (by omega), h0]
      omega
    · obtain ⟨e, rfl⟩ : ∃ e', e = e' + 1 := ⟨e - 1, by omega⟩
      have hpow : 0 < 2 ^ e := by positivity
      rw [if_neg (by omega), Nat.add_sub_cancel, Nat.add_sub_cancel, pow_succ 2 e]
      calc (2 ^ 52 + f) * 2 ^ e < (2 ^ 52 + 2 ^ 52) * 2 ^ e :=
            Nat.mul_lt_mul_of_pos_right (by omega) hpow
        _ = (2 ^ 52 + 0) * (2 ^ e * 2) := by ring

theorem strictMono_scaled : StrictMono scaled := by
  apply strictMono_nat_of_lt_succ
  intro n
  exact Nat.mul_lt_mul_of_pos_left (units_lt_succ n) (by positivity)

/-! ## Reading a decimal -/

/-- Whether a number of units is read as the `n`-th double: it lies between the midpoints to the
two neighbours, and on one only if the fraction is even. -/
def Reads (n value : ℕ) : Prop :=
  if n % 2 = 0 then
    scaled (n - 1) + scaled n ≤ 2 * value ∧ 2 * value ≤ scaled n + scaled (n + 1)
  else scaled (n - 1) + scaled n < 2 * value ∧ 2 * value < scaled n + scaled (n + 1)

instance (n value : ℕ) : Decidable (Reads n value) := by
  unfold Reads
  infer_instance

theorem reads_scaled {n : ℕ} (hn : 0 < n) : Reads n (scaled n) := by
  have hlow := strictMono_scaled (show n - 1 < n by omega)
  have hhigh := strictMono_scaled (show n < n + 1 by omega)
  rw [Reads]
  split_ifs <;> omega

theorem Reads.le {n value : ℕ} (h : Reads n value) :
    scaled (n - 1) + scaled n ≤ 2 * value ∧ 2 * value ≤ scaled n + scaled (n + 1) := by
  rw [Reads] at h
  split_ifs at h <;> omega

theorem Reads.not_lt {n m value : ℕ} (hn : Reads n value) (hm : Reads m value) : ¬n < m := by
  intro hlt
  have hmono := strictMono_scaled.monotone (show n + 1 ≤ m from hlt)
  have hmono' := strictMono_scaled.monotone (show n ≤ m - 1 by omega)
  have hhigh := hn.le.2
  have hlow := hm.le.1
  rcases Nat.lt_or_ge (n + 1) m with hfar | hnear
  · have := strictMono_scaled (show n < m - 1 by omega)
    omega
  · -- of two neighbours one has an odd fraction, and the midpoint is not read as it
    obtain rfl : m = n + 1 := by omega
    rw [Nat.add_sub_cancel] at hlow
    rw [Reads] at hn hm
    rw [Nat.add_sub_cancel] at hm
    split_ifs at hn hm <;> omega

/-- **No decimal is read as two doubles.** -/
theorem Reads.unique {n m value : ℕ} (hn : Reads n value) (hm : Reads m value) : n = m := by
  have hle := Nat.not_lt.1 (hn.not_lt hm)
  have hge := Nat.not_lt.1 (hm.not_lt hn)
  omega

/-! ## The shortest decimal -/

/-- Whether a multiple of `10 ^ j` units next to the value of the `n`-th double is read as it. -/
def OnGrid (n j : ℕ) : Prop :=
  Reads n (scaled n / 10 ^ j * 10 ^ j) ∨ Reads n ((scaled n / 10 ^ j + 1) * 10 ^ j)

instance (n j : ℕ) : Decidable (OnGrid n j) := inferInstanceAs (Decidable (_ ∨ _))

/-- The largest power of ten of which a multiple is read as the `n`-th double. No double is as
large as `10 ^ 1400` units. -/
def grid (n : ℕ) : ℕ := Nat.findGreatest (OnGrid n) 1400

/-- The multiple of `10 ^ grid n` units that is read as the `n`-th double; of two, the nearer, and
of two at the same distance the even one. -/
def shortest (n : ℕ) : ℕ :=
  let low := scaled n / 10 ^ grid n
  let rest := scaled n % 10 ^ grid n
  if Reads n (low * 10 ^ grid n) then
    if Reads n ((low + 1) * 10 ^ grid n) then
      if 2 * rest < 10 ^ grid n ∨ 2 * rest = 10 ^ grid n ∧ low % 2 = 0 then low else low + 1
    else low
  else low + 1

theorem onGrid_grid {n : ℕ} (hn : 0 < n) : OnGrid n (grid n) := by
  apply Nat.findGreatest_spec (Nat.zero_le 1400)
  left
  rw [pow_zero, Nat.div_one, Nat.mul_one]
  exact reads_scaled hn

/-- The decimal written for a double is read as it. -/
theorem reads_shortest {n : ℕ} (hn : 0 < n) : Reads n (shortest n * 10 ^ grid n) := by
  have hgrid := onGrid_grid hn
  rw [OnGrid] at hgrid
  simp only [shortest]
  split_ifs with hlow hhigh hnear
  · exact hlow
  · exact hhigh
  · exact hlow
  · exact hgrid.resolve_left hlow

example : shortest (1023 * 2 ^ 52 + 2 ^ 51) = 15 := by decide +kernel

end Double

end ScrapMonitoring
