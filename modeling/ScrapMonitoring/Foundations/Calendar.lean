import ScrapMonitoring.Foundations.Time
import Mathlib.Tactic.NormNum

/-!
# Calendar dates, and instants as text

An instant counts microseconds since 1970-01-01T00:00:00 UTC. `civil` is the date of a day in the
proleptic Gregorian calendar, computed on years that begin in March (`YearDay`): the leap day is
then the last day of its year, and a year is found by division through the cycles of 400, 100, 4
and 1 years.

`isoformat` is the text of an instant, `fromisoformat` reads it back (`fromisoformat_isoformat`).
Only the texts with the offset of UTC are read.
-/

namespace ScrapMonitoring

/-! ## Days and dates -/

/-- A day of a year that begins in March; the years are counted from 0, the days of a year
from 0. -/
structure YearDay where
  year : ℤ
  day : ℤ

/-- The `n`-th day since the beginning of the year 0. -/
def yearDay (n : ℤ) : YearDay :=
  let century := min (n % 146097 / 36524) 3
  let day := n % 146097 - 36524 * century
  let year := min (day % 1461 / 365) 3
  ⟨400 * (n / 146097) + 100 * century + 4 * (day / 1461) + year, day % 1461 - 365 * year⟩

/-- The number of days before the day. -/
def YearDay.days (d : YearDay) : ℤ :=
  365 * d.year + d.year / 4 - d.year / 100 + d.year / 400 + d.day

/-- The leap years before a year given by its cycles. -/
theorem leapYears {era century q year : ℤ} (hc : 0 ≤ century ∧ century ≤ 3)
    (hq : 0 ≤ q ∧ q ≤ 24) (hy : 0 ≤ year ∧ year ≤ 3) :
    (400 * era + 100 * century + 4 * q + year) / 4 = 100 * era + 25 * century + q ∧
      (400 * era + 100 * century + 4 * q + year) / 100 = 4 * era + century ∧
      (400 * era + 100 * century + 4 * q + year) / 400 = era := by
  omega

theorem days_yearDay (n : ℤ) : (yearDay n).days = n := by
  simp only [yearDay, YearDay.days]
  generalize hc : min (n % 146097 / 36524) 3 = century
  generalize hd : n % 146097 - 36524 * century = day
  generalize hy : min (day % 1461 / 365) 3 = year
  have hc' : 0 ≤ century ∧ century ≤ 3 := by omega
  have hq' : 0 ≤ day / 1461 ∧ day / 1461 ≤ 24 := by omega
  have hy' : 0 ≤ year ∧ year ≤ 3 := by omega
  obtain ⟨h4, h100, h400⟩ := @leapYears (n / 146097) _ _ _ hc' hq' hy'
  rw [h4, h100, h400]
  omega

theorem yearDay_bounds (n : ℤ) : 0 ≤ (yearDay n).day ∧ (yearDay n).day ≤ 365 := by
  simp only [yearDay]
  omega

structure CivilDate where
  year : ℤ
  month : ℤ
  day : ℤ
  deriving DecidableEq

/-- The date of a day of a year that begins in March. -/
def YearDay.civil (d : YearDay) : CivilDate :=
  -- months are counted from March
  let month := (5 * d.day + 2) / 153
  ⟨d.year + month / 10, if month < 10 then month + 3 else month - 9,
    d.day - (153 * month + 2) / 5 + 1⟩

def CivilDate.yearDay (date : CivilDate) : YearDay :=
  let month := if 2 < date.month then date.month - 3 else date.month + 9
  ⟨date.year - month / 10, (153 * month + 2) / 5 + date.day - 1⟩

theorem YearDay.yearDay_civil {d : YearDay} (h0 : 0 ≤ d.day) (h1 : d.day ≤ 365) :
    d.civil.yearDay = d := by
  obtain ⟨year, day⟩ := d
  simp only [YearDay.civil, CivilDate.yearDay, YearDay.mk.injEq] at h0 h1 ⊢
  split_ifs <;> omega

/-- The date of a day, counted from 1970-01-01. -/
def civil (days : ℤ) : CivilDate := (yearDay (days + 719468)).civil

/-- The day of a date. -/
def CivilDate.days (date : CivilDate) : ℤ := date.yearDay.days - 719468

theorem days_civil (n : ℤ) : (civil n).days = n := by
  obtain ⟨h0, h1⟩ := yearDay_bounds (n + 719468)
  rw [CivilDate.days, civil, YearDay.yearDay_civil h0 h1, days_yearDay]
  omega

theorem civil_bounds (n : ℤ) :
    1 ≤ (civil n).month ∧ (civil n).month ≤ 12 ∧ 1 ≤ (civil n).day ∧ (civil n).day ≤ 31 := by
  obtain ⟨h0, h1⟩ := yearDay_bounds (n + 719468)
  simp only [civil, YearDay.civil]
  split_ifs <;> omega

/-! ## Digits -/

def digitChar (n : ℕ) : Char := Char.ofNat (48 + n % 10)

/-- The last `k` digits of a number. -/
def padDigits : ℕ → ℕ → List Char
  | 0, _ => []
  | k + 1, n => padDigits k (n / 10) ++ [digitChar n]

def digitValue (c : Char) : Option ℕ :=
  if 48 ≤ c.toNat ∧ c.toNat ≤ 57 then some (c.toNat - 48) else none

def digitsValue (cs : List Char) : Option ℕ :=
  cs.foldlM (fun n c => (digitValue c).map fun d => 10 * n + d) 0

theorem digitValue_digitChar (n : ℕ) : digitValue (digitChar n) = some (n % 10) := by
  have hdigits : ∀ d < 10, digitValue (Char.ofNat (48 + d)) = some d := by decide
  exact hdigits _ (Nat.mod_lt _ (by omega))

theorem digitsValue_padDigits (k n : ℕ) : digitsValue (padDigits k n) = some (n % 10 ^ k) := by
  induction k generalizing n with
  | zero => simp [padDigits, digitsValue, Nat.mod_one]
  | succ k ih =>
    have hfold := ih (n / 10)
    rw [digitsValue] at hfold
    rw [padDigits, digitsValue, List.foldlM_append, hfold]
    simp only [Option.bind_eq_bind, Option.bind_some, List.foldlM_cons, List.foldlM_nil,
      digitValue_digitChar, Option.map_some]
    rw [pow_succ, Nat.mul_comm (10 ^ k), Nat.mod_mul, Nat.add_comm]
    rfl

/-! ## The text of an instant -/

/-- Microseconds of a day. -/
def dayLength : ℤ := 86400000000

/-- A date and a time of day as `isoformat()` writes them. -/
def isoText (year month day h m s micros : ℕ) : List Char :=
  padDigits 4 year ++ '-' :: padDigits 2 month ++ '-' :: padDigits 2 day ++ 'T' ::
    padDigits 2 h ++ ':' :: padDigits 2 m ++ ':' :: padDigits 2 s ++
    (if micros = 0 then [] else '.' :: padDigits 6 micros) ++ ['+', '0', '0', ':', '0', '0']

/-- `isoformat()` of a datetime in UTC. No datetime has a year outside 1 to 9999. -/
def isoformat (t : ℤ) : String :=
  let date := civil (t / dayLength)
  let micros := (t % dayLength).toNat
  let s := micros / 1000000
  if 1 ≤ date.year ∧ date.year ≤ 9999 then
    String.ofList (isoText date.year.toNat date.month.toNat date.day.toNat (s / 3600)
      (s / 60 % 60) (s % 60) (micros % 1000000))
  else ""

/-- The microseconds and the offset. -/
def fractionValue : List Char → Option ℕ
  | ['+', '0', '0', ':', '0', '0'] => some 0
  | ['.', u₁, u₂, u₃, u₄, u₅, u₆, '+', '0', '0', ':', '0', '0'] =>
    digitsValue [u₁, u₂, u₃, u₄, u₅, u₆]
  | _ => none

/-- The instant of a date and a time of day, if there is such a date and time. -/
def instantOf (year month day h m s micros : ℕ) : Option ℤ :=
  let date : CivilDate := ⟨year, month, day⟩
  if civil date.days = date ∧ h < 24 ∧ m < 60 ∧ s < 60 then
    some (date.days * dayLength + ((h * 3600 + m * 60 + s) * 1000000 + micros : ℕ))
  else none

/-- `datetime.fromisoformat`, of a text in UTC. -/
def fromisoformat (text : String) : Option ℤ :=
  match text.toList with
  | y₁ :: y₂ :: y₃ :: y₄ :: '-' :: o₁ :: o₂ :: '-' :: d₁ :: d₂ :: 'T' :: h₁ :: h₂ :: ':' ::
      m₁ :: m₂ :: ':' :: s₁ :: s₂ :: rest => do
    let year ← digitsValue [y₁, y₂, y₃, y₄]
    let month ← digitsValue [o₁, o₂]
    let day ← digitsValue [d₁, d₂]
    let h ← digitsValue [h₁, h₂]
    let m ← digitsValue [m₁, m₂]
    let s ← digitsValue [s₁, s₂]
    let micros ← fractionValue rest
    instantOf year month day h m s micros
  | _ => none

theorem fractionValue_eq (micros : ℕ) (h : micros < 1000000) :
    fractionValue ((if micros = 0 then [] else '.' :: padDigits 6 micros) ++
      ['+', '0', '0', ':', '0', '0']) = some micros := by
  split_ifs with h0
  · rw [h0]
    rfl
  · have hdigits := digitsValue_padDigits 6 micros
    rw [Nat.mod_eq_of_lt (show micros < 10 ^ 6 from h)] at hdigits
    exact hdigits

/-- The text of a date and a time of day is read as that date and time. -/
theorem fromisoformat_isoText {year month day h m s micros : ℕ} (hyear : year < 10000)
    (hmonth : month < 100) (hday : day < 100) (hh : h < 100) (hm : m < 100) (hs : s < 100)
    (hmicros : micros < 1000000) :
    fromisoformat (String.ofList (isoText year month day h m s micros)) =
      instantOf year month day h m s micros := by
  have hdigits : ∀ {k n : ℕ}, n < 10 ^ k → digitsValue (padDigits k n) = some n := by
    intro k n hn
    rw [digitsValue_padDigits, Nat.mod_eq_of_lt hn]
  have h4 := @hdigits 4 year hyear
  have ho := @hdigits 2 month hmonth
  have hd := @hdigits 2 day hday
  have hh' := @hdigits 2 h hh
  have hm' := @hdigits 2 m hm
  have hs' := @hdigits 2 s hs
  have hf := fractionValue_eq micros hmicros
  rw [fromisoformat, String.toList_ofList, isoText]
  simp only [padDigits, List.nil_append, List.cons_append] at h4 ho hd hh' hm' hs' hf ⊢
  simp only [h4, ho, hd, hh', hm', hs', hf, Option.bind_eq_bind, Option.bind_some]

/-- **The text of an instant is read back.** -/
theorem fromisoformat_isoformat {t : ℤ}
    (h : 1 ≤ (civil (t / dayLength)).year ∧ (civil (t / dayLength)).year ≤ 9999) :
    fromisoformat (isoformat t) = some t := by
  obtain ⟨hm₀, hm₁, hd₀, hd₁⟩ := civil_bounds (t / dayLength)
  have hday : 0 ≤ t % dayLength ∧ t % dayLength < dayLength := by
    unfold dayLength
    omega
  simp only [isoformat, if_pos h]
  generalize hmicros : (t % dayLength).toNat = micros
  rw [dayLength] at hday hmicros
  rw [fromisoformat_isoText (by omega) (by omega) (by omega) (by omega) (by omega) (by omega)
    (by omega)]
  have hdate : (⟨((civil (t / dayLength)).year.toNat : ℤ),
      ((civil (t / dayLength)).month.toNat : ℤ), ((civil (t / dayLength)).day.toNat : ℤ)⟩ :
      CivilDate) = civil (t / dayLength) := by
    rw [Int.toNat_of_nonneg (by omega), Int.toNat_of_nonneg (by omega),
      Int.toNat_of_nonneg (by omega)]
  simp only [instantOf, hdate, days_civil, true_and]
  rw [if_pos (by omega), Option.some.injEq, dayLength]
  omega

/-- What is read from the text of an instant is that instant. -/
theorem eq_of_fromisoformat_isoformat {t t' : ℤ} (h : fromisoformat (isoformat t) = some t') :
    t' = t := by
  by_cases hyear : 1 ≤ (civil (t / dayLength)).year ∧ (civil (t / dayLength)).year ≤ 9999
  · rw [fromisoformat_isoformat hyear] at h
    exact (Option.some.inj h).symm
  · simp [isoformat, hyear, fromisoformat] at h

example : isoformat 1767225601200000 = "2026-01-01T00:00:01.200000+00:00" := by decide +kernel

end ScrapMonitoring
