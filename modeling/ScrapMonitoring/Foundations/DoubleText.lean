import ScrapMonitoring.Foundations.Double
import ScrapMonitoring.Foundations.Hex

/-!
# The texts of a double

`Double.repr` writes the shortest decimal that is read as the double: with a point where the first
digit stands between the fifth decimal and the sixteenth digit before the point, and else with an
exponent. `Double.hex` writes the bits. Both determine a finite double (`repr_inj`, `hex_inj`).
-/

namespace ScrapMonitoring

namespace Double

/-! ## Decimal texts -/

/-- At least two digits. -/
def exponentDigits (n : ℕ) : List Char :=
  if n < 10 then '0' :: Nat.toDigits 10 n else Nat.toDigits 10 n

/-- An exponent with its sign. -/
def exponentText (e : ℤ) : List Char := (if e < 0 then '-' else '+') :: exponentDigits e.natAbs

/-- The digits of a decimal, the point after the first `point` of them. -/
def positional (digits : List Char) (point : ℤ) : List Char :=
  if point ≤ -4 ∨ 16 < point then
    digits.take 1 ++ (if digits.drop 1 = [] then [] else '.' :: digits.drop 1) ++
      'e' :: exponentText (point - 1)
  else if point ≤ 0 then '0' :: '.' :: (List.replicate (-point).toNat '0' ++ digits)
  else if digits.length ≤ point then
    digits ++ List.replicate (point - digits.length).toNat '0' ++ ['.', '0']
  else digits.take point.toNat ++ '.' :: digits.drop point.toNat

def signText (negative : Bool) : List Char := if negative then ['-'] else []

/-- The decimal of the `n`-th double. -/
def magnitudeText (n : ℕ) : List Char :=
  if n = 0 then ['0', '.', '0']
  else
    let digits := Nat.toDigits 10 (shortest n)
    positional digits (digits.length + grid n - 1074)

/-- `float.__repr__` -/
def repr (x : Double) : List Char := signText x.negative ++ magnitudeText x.place

/-- The exponent of the hexadecimal text. -/
def hexExponent (e : ℤ) : List Char :=
  (if e < 0 then '-' else '+') :: Nat.toDigits 10 e.natAbs

/-- The leading bit, the fraction and the exponent of a double that is not zero. -/
def hexBits (x : Double) : List Char :=
  if x.exponent.val = 0 then
    '0' :: '.' :: (padHex 13 x.fraction.val ++ 'p' :: hexExponent (-1022))
  else '1' :: '.' :: (padHex 13 x.fraction.val ++ 'p' :: hexExponent (x.exponent.val - 1023))

/-- `float.hex` -/
def hex (x : Double) : List Char :=
  signText x.negative ++ '0' :: 'x' ::
    (if x.place = 0 then ['0', '.', '0', 'p', '+', '0'] else x.hexBits)

/-! ## Reading a text -/

def exponentValue : List Char → ℤ
  | 'e' :: '-' :: digits => -(Nat.ofDigitChars 10 digits 0 : ℤ)
  | 'e' :: '+' :: digits => Nat.ofDigitChars 10 digits 0
  | _ => 0

/-- The value of a decimal without sign, in units of `10 ^ (-1074)`. -/
def decimalValue (text : List Char) : ℕ :=
  let mantissa := text.takeWhile (· ≠ 'e')
  let whole := mantissa.takeWhile (· ≠ '.')
  let decimals := (mantissa.dropWhile (· ≠ '.')).drop 1
  let e := exponentValue (text.dropWhile (· ≠ 'e'))
  Nat.ofDigitChars 10 (whole ++ decimals) 0 * 10 ^ (e - decimals.length + 1074).toNat

theorem ofDigitChars_exponentDigits (n : ℕ) : Nat.ofDigitChars 10 (exponentDigits n) 0 = n := by
  rw [exponentDigits]
  split_ifs
  · rw [Nat.ofDigitChars_cons, Nat.mul_zero, Nat.zero_add, Nat.sub_self,
      Nat.ofDigitChars_ten_toDigits]
  · exact Nat.ofDigitChars_ten_toDigits

theorem exponentValue_exponentText (e : ℤ) : exponentValue ('e' :: exponentText e) = e := by
  rw [exponentText]
  split_ifs with hneg
  · rw [exponentValue, ofDigitChars_exponentDigits]
    omega
  · rw [exponentValue, ofDigitChars_exponentDigits]
    omega

theorem isDigit_ne {c : Char} (h : c.isDigit) : c ≠ 'e' ∧ c ≠ '.' := by
  constructor <;>
  · rintro rfl
    revert h
    decide

/-- A text of digits, a point, digits and an exponent, each but the first digits optional. -/
theorem decimalValue_text {whole decimals exponent : List Char} {e : ℤ}
    (hwhole : ∀ c ∈ whole, c.isDigit) (hdecimals : ∀ c ∈ decimals, c.isDigit)
    (hexponent : exponent = [] ∧ e = 0 ∨ exponent = 'e' :: exponentText e) :
    decimalValue (whole ++ (if decimals = [] then [] else '.' :: decimals) ++ exponent) =
      Nat.ofDigitChars 10 (whole ++ decimals) 0 * 10 ^ (e - decimals.length + 1074).toNat := by
  have hmantissa : ∀ c ∈ whole ++ (if decimals = [] then [] else '.' :: decimals),
      decide (c ≠ 'e') = true := by
    intro c hc
    rw [decide_eq_true_iff]
    rcases List.mem_append.1 hc with hc | hc
    · exact (isDigit_ne (hwhole c hc)).1
    · split_ifs at hc with hnil
      · simp at hc
      · rcases List.mem_cons.1 hc with rfl | hc
        · decide
        · exact (isDigit_ne (hdecimals c hc)).1
  have hpoint : ∀ c ∈ whole, decide (c ≠ '.') = true := by
    intro c hc
    rw [decide_eq_true_iff]
    exact (isDigit_ne (hwhole c hc)).2
  have htake : exponent.takeWhile (fun c => decide (c ≠ 'e')) = [] := by
    rcases hexponent with ⟨rfl, -⟩ | rfl <;> simp
  have hdrop : exponent.dropWhile (fun c => decide (c ≠ 'e')) = exponent := by
    rcases hexponent with ⟨rfl, -⟩ | rfl <;> simp
  have hvalue : exponentValue exponent = e := by
    rcases hexponent with ⟨rfl, rfl⟩ | rfl
    · rfl
    · exact exponentValue_exponentText e
  simp only [decimalValue]
  rw [List.takeWhile_append_of_pos hmantissa, List.dropWhile_append_of_pos hmantissa, htake, hdrop,
    hvalue, List.append_nil, List.takeWhile_append_of_pos hpoint,
    List.dropWhile_append_of_pos hpoint]
  by_cases hnil : decimals = []
  · simp [hnil]
  · simp [hnil]

/-! ## The decimal of a double is read back -/

section

variable {digits : List Char} {point : ℤ}

/-- The value of the digits is that of their number, shifted. -/
theorem decimalValue_positional (hdigits : ∀ c ∈ digits, c.isDigit) (hne : digits ≠ [])
    (hpoint : -1074 ≤ point - digits.length) :
    decimalValue (positional digits point) =
      Nat.ofDigitChars 10 digits 0 * 10 ^ (point - digits.length + 1074).toNat := by
  have hlength : 0 < digits.length := List.length_pos_iff.2 hne
  have hzeros : ∀ k : ℕ, ∀ c ∈ List.replicate k '0', c.isDigit := by
    intro k c hc
    rw [List.eq_of_mem_replicate hc]
    decide
  have htake : ∀ k : ℕ, ∀ c ∈ digits.take k, c.isDigit := fun k c hc =>
    hdigits c (List.mem_of_mem_take hc)
  have hdrop : ∀ k : ℕ, ∀ c ∈ digits.drop k, c.isDigit := fun k c hc =>
    hdigits c (List.mem_of_mem_drop hc)
  by_cases hexp : point ≤ -4 ∨ 16 < point
  · have hexponent : 'e' :: exponentText (point - 1) = [] ∧ point - 1 = 0 ∨
        'e' :: exponentText (point - 1) = 'e' :: exponentText (point - 1) := Or.inr rfl
    have htext := decimalValue_text (htake 1) (hdrop 1) hexponent
    rw [positional, if_pos hexp, htext, List.take_append_drop, List.length_drop]
    congr 3
    omega
  by_cases hsmall : point ≤ 0
  · -- the point stands before the digits
    have hdecimals : ∀ c ∈ List.replicate (-point).toNat '0' ++ digits, c.isDigit := by
      intro c hc
      exact (List.mem_append.1 hc).elim (hzeros _ c) (hdigits c)
    have htext := decimalValue_text (hzeros 1) hdecimals (Or.inl ⟨rfl, rfl⟩)
    rw [if_neg (by simp [hne]), List.append_nil] at htext
    rw [positional, if_neg hexp, if_pos hsmall]
    refine htext.trans ?_
    rw [← List.append_assoc, Nat.ofDigitChars_append, Nat.ofDigitChars_append,
      Nat.ofDigitChars_replicate_zero, Nat.ofDigitChars_replicate_zero, Nat.mul_zero,
      List.length_append, List.length_replicate]
    congr 3
    push_cast
    omega
  by_cases hlarge : (digits.length : ℤ) ≤ point
  · -- the point stands after the digits, and zeros fill the places up to it
    obtain ⟨k, rfl⟩ : ∃ k : ℕ, point = digits.length + k :=
      ⟨(point - digits.length).toNat, by omega⟩
    have hwhole : ∀ c ∈ digits ++ List.replicate k '0', c.isDigit := by
      intro c hc
      exact (List.mem_append.1 hc).elim (hdigits c) (hzeros _ c)
    have htext := decimalValue_text hwhole (hzeros 1) (Or.inl ⟨rfl, rfl⟩)
    rw [if_neg (by simp), List.append_nil] at htext
    rw [positional, if_neg hexp, if_neg hsmall, if_pos hlarge,
      show (digits.length + k - digits.length : ℤ) = k by omega, Int.toNat_natCast]
    refine htext.trans ?_
    rw [Nat.ofDigitChars_append, Nat.ofDigitChars_append, Nat.ofDigitChars_replicate_zero,
      Nat.ofDigitChars_replicate_zero,
      show (0 - ((List.replicate 1 '0').length : ℤ) + 1074).toNat = 1073 by simp,
      show ((k : ℤ) + 1074).toNat = k + 1 + 1073 by omega, pow_add 10 (k + 1), pow_succ]
    generalize 10 ^ 1073 = unit
    ring
  · have htext := decimalValue_text (htake point.toNat) (hdrop point.toNat) (Or.inl ⟨rfl, rfl⟩)
    rw [if_neg (by rw [List.drop_eq_nil_iff]; omega), List.append_nil] at htext
    rw [positional, if_neg hexp, if_neg hsmall, if_neg hlarge, htext, List.take_append_drop,
      List.length_drop]
    congr 3
    omega

theorem positional_head (hdigits : ∀ c ∈ digits, c.isDigit) (hne : digits ≠ []) :
    ∃ c ∈ (positional digits point).head?, c.isDigit := by
  obtain ⟨d, ds, rfl⟩ := List.exists_cons_of_ne_nil hne
  have hd := hdigits d List.mem_cons_self
  rw [positional]
  split_ifs with hexp hone hsmall hlarge
  · exact ⟨d, by simp, hd⟩
  · exact ⟨d, by simp, hd⟩
  · exact ⟨'0', by simp, by decide⟩
  · exact ⟨d, by simp, hd⟩
  · obtain ⟨k, hk⟩ : ∃ k, point.toNat = k + 1 := ⟨point.toNat - 1, by omega⟩
    exact ⟨d, by simp [hk], hd⟩

end

theorem isDigit_toDigits (n : ℕ) : ∀ c ∈ Nat.toDigits 10 n, c.isDigit := fun _ hc =>
  Nat.isDigit_of_mem_toDigits (by decide) (by decide) hc

theorem decimalValue_magnitudeText {n : ℕ} (hn : 0 < n) :
    decimalValue (magnitudeText n) = shortest n * 10 ^ grid n := by
  have hpoint : ((Nat.toDigits 10 (shortest n)).length + grid n - 1074 : ℤ) -
      (Nat.toDigits 10 (shortest n)).length = grid n - 1074 := by omega
  rw [magnitudeText, if_neg (by omega)]
  simp only []
  rw [decimalValue_positional (isDigit_toDigits _) Nat.toDigits_ne_nil (by omega), hpoint,
    Nat.ofDigitChars_ten_toDigits, sub_add_cancel, Int.toNat_natCast]

theorem reads_magnitudeText {n : ℕ} (hn : 0 < n) : Reads n (decimalValue (magnitudeText n)) := by
  rw [decimalValue_magnitudeText hn]
  exact reads_shortest hn

theorem magnitudeText_inj {n m : ℕ} (h : magnitudeText n = magnitudeText m) : n = m := by
  have hzero : decimalValue (magnitudeText 0) = 0 := by
    simp [magnitudeText, decimalValue, Nat.ofDigitChars_cons]
  have hpos : ∀ {k : ℕ}, 0 < k → decimalValue (magnitudeText k) ≠ 0 := by
    intro k hk heq
    have hle := (reads_magnitudeText hk).le.1
    have hlt := strictMono_scaled (show k - 1 < k by omega)
    omega
  rcases Nat.eq_zero_or_pos n with rfl | hn
  · rcases Nat.eq_zero_or_pos m with rfl | hm
    · rfl
    · exact absurd (h ▸ hzero) (hpos hm)
  · rcases Nat.eq_zero_or_pos m with rfl | hm
    · exact absurd (h ▸ hzero) (hpos hn)
    · have hreads := reads_magnitudeText hn
      rw [h] at hreads
      exact hreads.unique (reads_magnitudeText hm)

theorem magnitudeText_head (n : ℕ) : ∃ c ∈ (magnitudeText n).head?, c.isDigit := by
  rw [magnitudeText]
  split_ifs
  · exact ⟨'0', rfl, by decide⟩
  · exact positional_head (isDigit_toDigits _) Nat.toDigits_ne_nil

/-- A sign can be told from what follows it, which begins with a digit. -/
theorem signText_append_inj {a b : Bool} {s t : List Char} (hs : ∃ c ∈ s.head?, c.isDigit)
    (ht : ∃ c ∈ t.head?, c.isDigit) (h : signText a ++ s = signText b ++ t) : a = b ∧ s = t := by
  have hminus : ∀ {u : List Char}, (∃ c ∈ u.head?, c.isDigit) → ∀ v, u ≠ '-' :: v := by
    rintro u ⟨c, hc, hdigit⟩ v rfl
    obtain rfl : '-' = c := Option.some.inj hc
    exact absurd hdigit (by decide)
  cases a <;> cases b
  · exact ⟨rfl, h⟩
  · exact absurd h (hminus hs t)
  · exact absurd h.symm (hminus ht s)
  · exact ⟨rfl, List.tail_eq_of_cons_eq h⟩

/-- **The decimal determines the double.** -/
theorem repr_inj {x y : Double} (h : x.repr = y.repr) : x = y := by
  obtain ⟨hneg, htext⟩ := signText_append_inj (magnitudeText_head _) (magnitudeText_head _) h
  exact place_inj hneg (magnitudeText_inj htext)

/-! ## The characters of a decimal -/

/-- A character of a number. -/
def IsNumeral (c : Char) : Prop := c.isDigit ∨ c = '-' ∨ c = '+' ∨ c = '.' ∨ c = 'e'

instance : DecidablePred IsNumeral := fun _ => inferInstanceAs (Decidable (_ ∨ _))

theorem isNumeral_exponentText (e : ℤ) : ∀ c ∈ exponentText e, IsNumeral c := by
  intro c hc
  have hdigits : ∀ c ∈ exponentDigits e.natAbs, c.isDigit := by
    intro c hc
    rw [exponentDigits] at hc
    split_ifs at hc
    · rcases List.mem_cons.1 hc with rfl | hc
      · decide
      · exact isDigit_toDigits _ c hc
    · exact isDigit_toDigits _ c hc
  rcases List.mem_cons.1 hc with rfl | hc
  · split_ifs
    · exact Or.inr (Or.inl rfl)
    · exact Or.inr (Or.inr (Or.inl rfl))
  · exact Or.inl (hdigits c hc)

theorem isNumeral_positional {digits : List Char} (point : ℤ)
    (hdigits : ∀ c ∈ digits, c.isDigit) : ∀ c ∈ positional digits point, IsNumeral c := by
  have htake : ∀ k : ℕ, ∀ c ∈ digits.take k, IsNumeral c := fun k c hc =>
    Or.inl (hdigits c (List.mem_of_mem_take hc))
  have hdrop : ∀ k : ℕ, ∀ c ∈ digits.drop k, IsNumeral c := fun k c hc =>
    Or.inl (hdigits c (List.mem_of_mem_drop hc))
  have hzeros : ∀ k : ℕ, ∀ c ∈ List.replicate k '0', IsNumeral c := by
    intro k c hc
    rw [List.eq_of_mem_replicate hc]
    exact Or.inl (by decide)
  have hpoint : IsNumeral '.' := by simp [IsNumeral]
  have he : IsNumeral 'e' := by simp [IsNumeral]
  have hzero : IsNumeral '0' := Or.inl (by decide)
  intro c hc
  rw [positional] at hc
  split_ifs at hc <;> simp only [List.mem_append, List.mem_cons, List.not_mem_nil, or_false] at hc
  · rcases hc with hc | rfl | hc
    · exact htake 1 c hc
    · exact he
    · exact isNumeral_exponentText _ c hc
  · rcases hc with (hc | rfl | hc) | rfl | hc
    · exact htake 1 c hc
    · exact hpoint
    · exact hdrop 1 c hc
    · exact he
    · exact isNumeral_exponentText _ c hc
  · rcases hc with rfl | rfl | hc | hc
    · exact hzero
    · exact hpoint
    · exact hzeros _ c hc
    · exact Or.inl (hdigits c hc)
  · rcases hc with (hc | hc) | rfl | rfl
    · exact Or.inl (hdigits c hc)
    · exact hzeros _ c hc
    · exact hpoint
    · exact hzero
  · rcases hc with hc | rfl | hc
    · exact htake _ c hc
    · exact hpoint
    · exact hdrop _ c hc

theorem isNumeral_repr (x : Double) : ∀ c ∈ x.repr, IsNumeral c := by
  intro c hc
  rcases List.mem_append.1 hc with hc | hc
  · rw [signText] at hc
    split_ifs at hc
    · exact Or.inr (Or.inl (List.mem_singleton.1 hc))
    · simp at hc
  · rw [magnitudeText] at hc
    split_ifs at hc
    · simp only [List.mem_cons, List.not_mem_nil, or_false] at hc
      rcases hc with rfl | rfl | rfl <;> simp [IsNumeral]
    · exact isNumeral_positional _ (isDigit_toDigits _) c hc

/-- The decimal has a point or an exponent. -/
theorem point_mem_repr (x : Double) : '.' ∈ x.repr ∨ 'e' ∈ x.repr := by
  have hpositional : ∀ (digits : List Char) (point : ℤ),
      '.' ∈ positional digits point ∨ 'e' ∈ positional digits point := by
    intro digits point
    rw [positional]
    split_ifs <;> simp
  have hmagnitude : '.' ∈ magnitudeText x.place ∨ 'e' ∈ magnitudeText x.place := by
    rw [magnitudeText]
    split_ifs
    · simp
    · exact hpositional _ _
  exact hmagnitude.imp (List.mem_append_right _) (List.mem_append_right _)

/-! ## The bits are read back -/

theorem hexExponent_inj {e f : ℤ} (h : hexExponent e = hexExponent f) : e = f := by
  rw [hexExponent, hexExponent, List.cons.injEq] at h
  have habs : e.natAbs = f.natAbs := by
    rw [← Nat.ofDigitChars_ten_toDigits (n := e.natAbs), h.2, Nat.ofDigitChars_ten_toDigits]
  have hsign : (e < 0) ↔ f < 0 := by
    have := h.1
    split_ifs at this with he hf hf
    · exact iff_of_true he hf
    · exact absurd this (by decide)
    · exact absurd this (by decide)
    · exact iff_of_false he hf
  omega

theorem hexBits_ne_zero (x : Double) : x.hexBits ≠ ['0', '.', '0', 'p', '+', '0'] := by
  intro h
  have hlength := congrArg List.length h
  rw [hexBits] at hlength
  split_ifs at hlength
  · simp at hlength
    omega
  · simp at hlength
    omega

theorem hexBits_inj {x y : Double} (h : x.hexBits = y.hexBits) : x.place = y.place := by
  have htail : ∀ {a b : List Char}, padHex 13 x.fraction.val ++ 'p' :: a =
      padHex 13 y.fraction.val ++ 'p' :: b → x.fraction.val = y.fraction.val ∧ a = b := by
    intro a b hab
    obtain ⟨hpad, hrest⟩ := List.append_inj hab (by simp)
    exact ⟨padHex_inj_of_lt x.fraction.isLt y.fraction.isLt hpad, List.tail_eq_of_cons_eq hrest⟩
  rw [hexBits, hexBits] at h
  rw [place, place]
  split_ifs at h with hx hy hy
  · obtain ⟨hfraction, -⟩ := htail (List.tail_eq_of_cons_eq (List.tail_eq_of_cons_eq h))
    rw [hx, hy, hfraction]
  · exact absurd (List.head_eq_of_cons_eq h) (by decide)
  · exact absurd (List.head_eq_of_cons_eq h) (by decide)
  · obtain ⟨hfraction, hexponent⟩ := htail (List.tail_eq_of_cons_eq (List.tail_eq_of_cons_eq h))
    have := hexExponent_inj hexponent
    omega

/-- **The hexadecimal text determines the double.** -/
theorem hex_inj {x y : Double} (h : x.hex = y.hex) : x = y := by
  have hdigit : ∀ s : List Char, ∃ c ∈ ('0' :: s).head?, c.isDigit := fun s =>
    ⟨'0', rfl, by decide⟩
  obtain ⟨hneg, htext⟩ := signText_append_inj (hdigit _) (hdigit _) h
  replace htext := List.tail_eq_of_cons_eq (List.tail_eq_of_cons_eq htext)
  apply place_inj hneg
  split_ifs at htext with hx hy hy
  · rw [hx, hy]
  · exact absurd htext.symm (hexBits_ne_zero y)
  · exact absurd htext (hexBits_ne_zero x)
  · exact hexBits_inj htext

example : (Double.mk false 1021 0x8000000000000).repr = ['0', '.', '3', '7', '5'] := by
  decide +kernel

end Double

end ScrapMonitoring
