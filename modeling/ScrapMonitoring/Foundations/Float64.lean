import Mathlib.Algebra.Order.AbsoluteValue.Basic
import Mathlib.Data.Int.Log
import Mathlib.Order.WithBot
import Mathlib.Tactic.Linarith
import Mathlib.Tactic.NormNum
import Mathlib.Tactic.Positivity
import ScrapMonitoring.Foundations.Time

/-!
# Floating-point arithmetic

`round64` rounds a rational to the nearest number with 53 binary places, of two to the one whose
last place is even; below `2 ^ (-1022)` the last place stays that of `2 ^ (-1074)`. It is monotone
(`round64_mono`) and leaves every number alone that has such places (`round64_of_places`), so that
rounding twice is rounding once (`round64_round64`).

A `Float64` is a rounded rational below `2 ^ 1024`, an infinity, or no number. An operation rounds
the exact result, with the rules of the standard for the special values; a comparison with what is
no number is false. Zero has no sign here.
-/

namespace ScrapMonitoring

/-! ## The nearest integer -/

/-- The nearest integer is at most a half away, and even where it is a half away. -/
theorem roundHalfEven_spec (q : ℚ) : 2 * |q - roundHalfEven q| ≤ 1 ∧
    (2 * |q - roundHalfEven q| = 1 → roundHalfEven q % 2 = 0) := by
  have hle : (q.floor : ℚ) ≤ q := Rat.floor_le q
  have hlt : q < q.floor + 1 := by exact_mod_cast Rat.lt_floor_add_one q
  have hlow : |q - q.floor| = q - q.floor := abs_of_nonneg (by linarith)
  have hhigh : |q - (q.floor + 1 : ℤ)| = q.floor + 1 - q := by
    push_cast
    rw [abs_of_nonpos (by linarith)]
    ring
  unfold roundHalfEven
  split_ifs with h₁ h₂ h₃
  · rw [hlow]
    exact ⟨by linarith, fun h => by linarith⟩
  · rw [hhigh]
    exact ⟨by linarith, fun h => by linarith⟩
  · rw [hlow]
    exact ⟨by linarith, fun _ => h₃⟩
  · rw [hhigh]
    exact ⟨by linarith, fun _ => by omega⟩

theorem le_of_nearest {q q' : ℚ} {n n' : ℤ} (h : q ≤ q') (hn : 2 * |q - n| ≤ 1)
    (hn' : 2 * |q' - n'| ≤ 1) (heven : 2 * |q - n| = 1 → n % 2 = 0)
    (heven' : 2 * |q' - n'| = 1 → n' % 2 = 0) : n ≤ n' := by
  by_contra! hlt
  have hcast : (n' : ℚ) + 1 ≤ n := by exact_mod_cast hlt
  have hlow := abs_le.1 (show |q - n| ≤ 1 / 2 by linarith)
  have hhigh := abs_le.1 (show |q' - n'| ≤ 1 / 2 by linarith)
  -- both numbers lie in the middle of two neighbours, of which one is odd
  have hn₁ : n = n' + 1 := by
    have hle : (n : ℚ) ≤ n' + 1 := by linarith
    have hle' : n ≤ n' + 1 := by exact_mod_cast hle
    omega
  subst hn₁
  push_cast at *
  have hq : q - (n' + 1) = -(1 / 2) := by linarith
  have hq' : q' - n' = 1 / 2 := by linarith
  rw [hq] at heven
  rw [hq'] at heven'
  have h₁ := heven (by norm_num)
  have h₂ := heven' (by norm_num)
  omega

theorem roundHalfEven_mono {q q' : ℚ} (h : q ≤ q') : roundHalfEven q ≤ roundHalfEven q' :=
  le_of_nearest h (roundHalfEven_spec q).1 (roundHalfEven_spec q').1 (roundHalfEven_spec q).2
    (roundHalfEven_spec q').2

@[simp] theorem roundHalfEven_intCast (n : ℤ) : roundHalfEven n = n := by
  simp [roundHalfEven]

theorem roundHalfEven_neg (q : ℚ) : roundHalfEven (-q) = -roundHalfEven q := by
  have habs : |-q - (-roundHalfEven q : ℤ)| = |q - roundHalfEven q| := by
    push_cast
    rw [← abs_neg, neg_sub, neg_sub_neg, abs_sub_comm]
  obtain ⟨hnear, heven⟩ := roundHalfEven_spec q
  obtain ⟨hnear', heven'⟩ := roundHalfEven_spec (-q)
  have hneg : 2 * |-q - (-roundHalfEven q : ℤ)| = 1 → -roundHalfEven q % 2 = 0 := by
    rw [habs]
    intro h
    have := heven h
    omega
  apply le_antisymm
  · exact le_of_nearest le_rfl hnear' (habs ▸ hnear) heven' hneg
  · exact le_of_nearest le_rfl (habs ▸ hnear) hnear' hneg heven'

/-! ## Rounding to a double -/

/-- The exponent of the last binary place that a double near `q` has. -/
def lastPlace (q : ℚ) : ℤ := max (Int.log 2 |q| - 52) (-1074)

/-- The double nearest to `q`, with no bound on the exponent above. -/
def round64 (q : ℚ) : ℚ := roundHalfEven (q / 2 ^ lastPlace q) * 2 ^ lastPlace q

@[simp] theorem round64_zero : round64 0 = 0 := by
  have hzero : roundHalfEven 0 = 0 := roundHalfEven_intCast 0
  simp [round64, hzero]

theorem round64_neg (q : ℚ) : round64 (-q) = -round64 q := by
  simp [round64, lastPlace, neg_div, roundHalfEven_neg]

theorem two_zpow_pos (e : ℤ) : (0 : ℚ) < 2 ^ e := zpow_pos two_pos e

theorem two_zpow_add (e : ℤ) (n : ℕ) : (2 : ℚ) ^ (e + n) = 2 ^ n * 2 ^ e := by
  rw [zpow_add₀ (by norm_num), zpow_natCast, mul_comm]

/-- In units of its last place a number has at most 53 binary places. -/
theorem abs_lt_places (q : ℚ) : |q| < 2 ^ 53 * 2 ^ lastPlace q := by
  rcases eq_or_ne q 0 with rfl | hq
  · simpa using two_zpow_pos (lastPlace 0)
  · rw [← two_zpow_add]
    apply (Int.lt_zpow_iff_log_lt one_lt_two (abs_pos.2 hq)).2
    have := le_max_left (Int.log 2 |q| - 52) (-1074)
    unfold lastPlace
    omega

/-- It has exactly 53, unless the last place is the lowest of all. -/
theorem places_le_abs {q : ℚ} (hq : q ≠ 0) (h : -1074 < lastPlace q) :
    2 ^ 52 * 2 ^ lastPlace q ≤ |q| := by
  rw [← two_zpow_add]
  apply (Int.zpow_le_iff_le_log one_lt_two (abs_pos.2 hq)).2
  unfold lastPlace at h ⊢
  omega

theorem lastPlace_mono {q q' : ℚ} (hq : q ≠ 0) (h : |q| ≤ |q'|) : lastPlace q ≤ lastPlace q' := by
  have := Int.log_mono_right (b := 2) (abs_pos.2 hq) h
  unfold lastPlace
  omega

theorem round64_nonneg {q : ℚ} (h : 0 ≤ q) : 0 ≤ round64 q := by
  have hdiv : ((0 : ℤ) : ℚ) ≤ q / 2 ^ lastPlace q := by
    simpa using div_nonneg h (two_zpow_pos _).le
  have hround := roundHalfEven_mono hdiv
  rw [roundHalfEven_intCast] at hround
  exact mul_nonneg (by exact_mod_cast hround) (two_zpow_pos _).le

theorem round64_mono_of_nonneg {q q' : ℚ} (h₀ : 0 ≤ q) (h : q ≤ q') : round64 q ≤ round64 q' := by
  rcases h₀.eq_or_lt with rfl | hpos
  · simpa using round64_nonneg h
  have hpos' := hpos.trans_le h
  have habs : |q| ≤ |q'| := by rwa [abs_of_pos hpos, abs_of_pos hpos']
  rcases (lastPlace_mono hpos.ne' habs).eq_or_lt with heq | hlt
  · unfold round64
    rw [heq]
    refine mul_le_mul_of_nonneg_right ?_ (two_zpow_pos _).le
    exact_mod_cast roundHalfEven_mono (div_le_div_of_nonneg_right h (two_zpow_pos _).le)
  · -- a power of two lies between the two
    have hupper : roundHalfEven (q / 2 ^ lastPlace q) ≤ 2 ^ 53 := by
      apply roundHalfEven_le
      push_cast
      rw [div_le_iff₀ (two_zpow_pos _)]
      exact (le_abs_self q).trans (abs_lt_places q).le
    have hlower : 2 ^ 52 ≤ roundHalfEven (q' / 2 ^ lastPlace q') := by
      have hplaces := places_le_abs hpos'.ne' ((le_max_right _ _).trans_lt hlt)
      rw [abs_of_pos hpos'] at hplaces
      have hle : ((2 ^ 52 : ℤ) : ℚ) ≤ q' / 2 ^ lastPlace q' := by
        push_cast
        rwa [le_div_iff₀ (two_zpow_pos _)]
      simpa only [roundHalfEven_intCast] using roundHalfEven_mono hle
    calc round64 q ≤ 2 ^ 53 * 2 ^ lastPlace q :=
          mul_le_mul_of_nonneg_right (by exact_mod_cast hupper) (two_zpow_pos _).le
      _ = 2 ^ 52 * 2 ^ (lastPlace q + 1) := by
          rw [show lastPlace q + 1 = lastPlace q + (1 : ℕ) by rfl, two_zpow_add]
          ring
      _ ≤ 2 ^ 52 * 2 ^ lastPlace q' := by
          refine mul_le_mul_of_nonneg_left ?_ (by norm_num)
          exact zpow_le_zpow_right₀ one_le_two (by omega)
      _ ≤ round64 q' := mul_le_mul_of_nonneg_right (by exact_mod_cast hlower) (two_zpow_pos _).le

/-- **Rounding is monotone.** -/
theorem round64_mono {q q' : ℚ} (h : q ≤ q') : round64 q ≤ round64 q' := by
  rcases le_total 0 q with hq | hq
  · exact round64_mono_of_nonneg hq h
  rcases le_total 0 q' with hq' | hq'
  · have hneg := round64_nonneg (neg_nonneg.2 hq)
    rw [round64_neg] at hneg
    linarith [round64_nonneg hq']
  · have hneg := round64_mono_of_nonneg (neg_nonneg.2 hq') (neg_le_neg h)
    rw [round64_neg, round64_neg] at hneg
    linarith

/-- **A number with at most 53 binary places is not changed.** -/
theorem round64_of_places {k e : ℤ} (hk : |k| ≤ 2 ^ 53) (he : -1074 ≤ e) :
    round64 (k * 2 ^ e) = k * 2 ^ e := by
  rcases eq_or_ne k 0 with rfl | hk₀
  · simp
  set q : ℚ := k * 2 ^ e with hq
  have hq₀ : q ≠ 0 := mul_ne_zero (by exact_mod_cast hk₀) (two_zpow_pos e).ne'
  have habs : |q| ≤ 2 ^ 53 * 2 ^ e := by
    rw [hq, abs_mul, abs_of_pos (two_zpow_pos e)]
    exact mul_le_mul_of_nonneg_right (by exact_mod_cast hk) (two_zpow_pos e).le
  obtain ⟨n, hn⟩ : ∃ n : ℤ, q = n * 2 ^ lastPlace q := by
    rcases le_or_gt (lastPlace q) e with hle | hlt
    · obtain ⟨d, hd⟩ := Int.le.dest hle
      refine ⟨k * 2 ^ d, ?_⟩
      rw [Int.cast_mul, mul_assoc, Int.cast_pow, Int.cast_ofNat, ← two_zpow_add, hd]
    · -- a higher last place is the next one, and the number of units is `2 ^ 53`
      have hplaces := places_le_abs hq₀ (he.trans_lt hlt)
      have hnext : lastPlace q = e + (1 : ℕ) := by
        refine le_antisymm ((zpow_le_zpow_iff_right₀ (one_lt_two (α := ℚ))).1 ?_) hlt
        rw [two_zpow_add]
        linarith
      rw [hnext, two_zpow_add, hq, abs_mul, abs_of_pos (two_zpow_pos e), ← mul_assoc] at hplaces
      have hfull := le_of_mul_le_mul_right hplaces (two_zpow_pos e)
      have hfull' : 2 ^ 52 * 2 ≤ |k| := by exact_mod_cast hfull
      obtain ⟨m, hm⟩ : 2 ∣ k := by
        rw [← dvd_abs, show |k| = 2 ^ 53 by omega]
        norm_num
      refine ⟨m, ?_⟩
      rw [hnext, two_zpow_add, hq, hm]
      push_cast
      ring
  have hround : roundHalfEven (q / 2 ^ lastPlace q) = n := by
    rw [← roundHalfEven_intCast n]
    congr 1
    rw [div_eq_iff (two_zpow_pos _).ne']
    exact hn
  rw [round64, hround]
  exact hn.symm

/-- **Rounding twice is rounding once.** -/
theorem round64_round64 (q : ℚ) : round64 (round64 q) = round64 q := by
  have hlt := abs_lt_places q
  apply round64_of_places
  · have hupper := (le_abs_self q).trans hlt.le
    have hlower := (neg_le_abs q).trans hlt.le
    rw [← div_le_iff₀ (two_zpow_pos _)] at hupper hlower
    rw [neg_div] at hlower
    have hround : roundHalfEven (q / 2 ^ lastPlace q) ≤ 2 ^ 53 :=
      roundHalfEven_le (by exact_mod_cast hupper)
    have hround' : roundHalfEven (-(q / 2 ^ lastPlace q)) ≤ 2 ^ 53 :=
      roundHalfEven_le (by exact_mod_cast hlower)
    rw [roundHalfEven_neg] at hround'
    exact abs_le.2 ⟨by omega, hround⟩
  · exact le_max_right ..

/-! ## Doubles -/

/-- The rationals that a double can be. -/
def IsDouble (q : ℚ) : Prop := round64 q = q ∧ |q| < 2 ^ 1024

instance (q : ℚ) : Decidable (IsDouble q) := inferInstanceAs (Decidable (_ ∧ _))

theorem IsDouble.neg {q : ℚ} (h : IsDouble q) : IsDouble (-q) := by
  constructor
  · rw [round64_neg, h.1]
  · rw [abs_neg]
    exact h.2

inductive Float64
  | nan
  | infinite (negative : Bool)
  | finite (value : ℚ) (isDouble : IsDouble value)
  deriving DecidableEq, Repr

namespace Float64

/-- The double nearest to a rational, an infinity if it is too large. -/
def ofRat (q : ℚ) : Float64 :=
  if h : |round64 q| < 2 ^ 1024 then .finite (round64 q) ⟨round64_round64 q, h⟩
  else .infinite (q < 0)

instance (n : ℕ) : OfNat Float64 n := ⟨ofRat n⟩

/-! ### Comparisons -/

/-- The place of a number in the order of the doubles. -/
def place : Float64 → Option (WithBot (WithTop ℚ))
  | .nan => none
  | .infinite true => some ⊥
  | .infinite false => some (⊤ : WithTop ℚ)
  | .finite value _ => some (value : WithTop ℚ)

instance : LE Float64 := ⟨fun x y => ∃ a ∈ x.place, ∃ b ∈ y.place, a ≤ b⟩

instance : LT Float64 := ⟨fun x y => ∃ a ∈ x.place, ∃ b ∈ y.place, a < b⟩

instance (x y : Float64) : Decidable (x ≤ y) :=
  inferInstanceAs (Decidable (∃ a ∈ x.place, ∃ b ∈ y.place, a ≤ b))

instance (x y : Float64) : Decidable (x < y) :=
  inferInstanceAs (Decidable (∃ a ∈ x.place, ∃ b ∈ y.place, a < b))

theorem place_eq_none {x : Float64} : x.place = none ↔ x = .nan := by
  cases x with
  | nan => simp [place]
  | infinite negative => cases negative <;> simp [place]
  | finite => simp [place]

theorem exists_place {x : Float64} (h : x ≠ .nan) : ∃ a, x.place = some a :=
  Option.ne_none_iff_exists'.1 fun hnone => h (place_eq_none.1 hnone)

theorem ne_nan_of_le {x y : Float64} (h : x ≤ y) : x ≠ .nan ∧ y ≠ .nan := by
  obtain ⟨a, ha, b, hb, -⟩ := h
  constructor
  · rintro rfl
    cases ha
  · rintro rfl
    cases hb

theorem le_of_lt {x y : Float64} (h : x < y) : x ≤ y := by
  obtain ⟨a, ha, b, hb, hab⟩ := h
  exact ⟨a, ha, b, hb, hab.le⟩

theorem le_trans {x y z : Float64} (h : x ≤ y) (h' : y ≤ z) : x ≤ z := by
  obtain ⟨a, ha, b, hb, hab⟩ := h
  obtain ⟨b', hb', c, hc, hbc⟩ := h'
  obtain rfl := Option.mem_unique hb hb'
  exact ⟨a, ha, c, hc, hab.trans hbc⟩

theorem not_lt_of_le {x y : Float64} (h : x ≤ y) : ¬ y < x := by
  rintro ⟨b', hb', a', ha', hlt⟩
  obtain ⟨a, ha, b, hb, hab⟩ := h
  obtain rfl := Option.mem_unique ha ha'
  obtain rfl := Option.mem_unique hb hb'
  exact absurd hab hlt.not_ge

/-- Of two numbers one is at most the other. -/
theorem le_of_not_lt {x y : Float64} (hx : x ≠ .nan) (hy : y ≠ .nan) (h : ¬ y < x) : x ≤ y := by
  obtain ⟨a, ha⟩ := exists_place hx
  obtain ⟨b, hb⟩ := exists_place hy
  refine ⟨a, ha, b, hb, ?_⟩
  by_contra! hlt
  exact h ⟨b, hb, a, ha, hlt⟩

theorem infinite_le {x : Float64} (h : x ≠ .nan) : .infinite true ≤ x := by
  obtain ⟨a, ha⟩ := exists_place h
  exact ⟨⊥, rfl, a, ha, bot_le⟩

theorem le_infinite {x : Float64} (h : x ≠ .nan) : x ≤ .infinite false := by
  obtain ⟨a, ha⟩ := exists_place h
  exact ⟨a, ha, ⊤, rfl, le_top⟩

theorem finite_le {a b : ℚ} {ha : IsDouble a} {hb : IsDouble b} (h : a ≤ b) :
    Float64.finite a ha ≤ .finite b hb :=
  ⟨_, rfl, _, rfl, WithBot.coe_le_coe.2 (WithTop.coe_le_coe.2 h)⟩

theorem ofRat_ne_nan (q : ℚ) : ofRat q ≠ .nan := by
  unfold ofRat
  split_ifs <;> simp

theorem ofRat_of_isDouble {q : ℚ} (h : IsDouble q) : ofRat q = .finite q h := by
  simp only [ofRat, h.1, dif_pos h.2]

theorem ofRat_mono {q q' : ℚ} (h : q ≤ q') : ofRat q ≤ ofRat q' := by
  have hround := round64_mono h
  by_cases hsmall : |round64 q| < 2 ^ 1024
  · by_cases hsmall' : |round64 q'| < 2 ^ 1024
    · simp only [ofRat, dif_pos hsmall, dif_pos hsmall']
      exact finite_le hround
    · -- only the greater one is too large
      have hnonneg : ¬ q' < 0 := by
        intro hneg
        have hle := round64_mono hneg.le
        rw [round64_zero] at hle
        rw [abs_of_nonpos hle] at hsmall'
        rw [abs_of_nonpos (hround.trans hle)] at hsmall
        exact hsmall' ((neg_le_neg hround).trans_lt hsmall)
      have htop : ofRat q' = .infinite false := by simp [ofRat, hsmall', hnonneg]
      rw [htop]
      exact le_infinite (ofRat_ne_nan q)
  · by_cases hneg : q < 0
    · have hbot : ofRat q = .infinite true := by simp [ofRat, hsmall, hneg]
      rw [hbot]
      exact infinite_le (ofRat_ne_nan q')
    · -- both are too large
      have hle := round64_nonneg (not_lt.1 hneg)
      rw [abs_of_nonneg hle] at hsmall
      have hlarge : ¬ |round64 q'| < 2 ^ 1024 := by
        rw [abs_of_nonneg (hle.trans hround)]
        exact not_lt.2 ((not_lt.1 hsmall).trans hround)
      have htop : ofRat q' = .infinite false := by
        simp [ofRat, hlarge, (not_lt.1 hneg).trans h]
      rw [htop]
      exact le_infinite (ofRat_ne_nan q)

/-! ### Operations -/

def neg : Float64 → Float64
  | .nan => .nan
  | .infinite negative => .infinite !negative
  | .finite value h => .finite (-value) h.neg

instance : Neg Float64 := ⟨neg⟩

def add : Float64 → Float64 → Float64
  | .finite a _, .finite b _ => ofRat (a + b)
  | .infinite negative, .infinite negative' =>
    if negative = negative' then .infinite negative else .nan
  | .infinite negative, .finite _ _ | .finite _ _, .infinite negative => .infinite negative
  | .nan, _ | _, .nan => .nan

instance : Add Float64 := ⟨add⟩

instance : Sub Float64 := ⟨fun x y => x + -y⟩

theorem ne_nan_of_sub {x y : Float64} (h : x - y ≠ .nan) : x ≠ .nan := by
  rintro rfl
  exact h rfl

/-- Less is left when more is taken away. -/
theorem sub_le_sub {x : Float64} (hx : x ≠ .nan) {a b : ℚ} (ha : IsDouble a) (hb : IsDouble b)
    (h : a ≤ b) : x - .finite b hb ≤ x - .finite a ha := by
  cases x with
  | nan => exact absurd rfl hx
  | infinite negative =>
    cases negative with
    | true => exact infinite_le (by nofun)
    | false => exact le_infinite (by nofun)
  | finite value _ => exact ofRat_mono (by linarith)

theorem sub_le_self {x : Float64} (hx : x ≠ .nan) {a : ℚ} (ha : IsDouble a) (h : 0 ≤ a) :
    x - .finite a ha ≤ x := by
  have hzero : IsDouble 0 := by simp [IsDouble]
  have hsub : x - .finite 0 hzero = x := by
    cases x with
    | nan => exact absurd rfl hx
    | infinite negative => cases negative <;> rfl
    | finite value hvalue =>
      change ofRat (value + -0) = _
      rw [neg_zero, add_zero, ofRat_of_isDouble hvalue]
  have hle := sub_le_sub hx hzero ha h
  rwa [hsub] at hle

def mul : Float64 → Float64 → Float64
  | .finite a _, .finite b _ => ofRat (a * b)
  | .infinite negative, .infinite negative' => .infinite (negative ^^ negative')
  | .infinite negative, .finite a _ | .finite a _, .infinite negative =>
    if a = 0 then .nan else .infinite (negative ^^ (a < 0 : Bool))
  | .nan, _ | _, .nan => .nan

instance : Mul Float64 := ⟨mul⟩

/-- The division by a number other than zero; a division by zero raises. -/
def div : Float64 → Float64 → Float64
  | .finite a _, .finite b _ => ofRat (a / b)
  | .infinite negative, .finite b _ => .infinite (negative ^^ (b < 0 : Bool))
  | .finite _ _, .infinite _ => 0
  | .infinite _, .infinite _ | .nan, _ | _, .nan => .nan

instance : Div Float64 := ⟨div⟩

/-- `round(x, 2)`. -/
def roundTwo : Float64 → Float64
  | .finite value _ => ofRat (roundHalfEven (value * 100) / 100)
  | .infinite negative => .infinite negative
  | .nan => .nan

example : (1 : Float64) / 10 + 2 / 10 ≠ 3 / 10 := by decide +kernel

example : roundTwo (ofRat 0.84995 * 100) = 85 := by decide +kernel

end Float64

end ScrapMonitoring
