import ScrapMonitoring.Foundations.Dict
import ScrapMonitoring.Foundations.Hex
import Mathlib.Tactic.NormNum

/-!
# JSON strings in ASCII

`quote` writes a string as `json.dumps` does with `ensure_ascii`. A character outside of printable
ASCII becomes the escape of its UTF-16 code units; since a `Char` is a Unicode scalar value, none
of them alone is a half of a pair. The text of a string determines it together with what follows
(`quote_append_inj`).
-/

namespace ScrapMonitoring

/-- The characters with a short escape, and its letter. -/
def shortEscapes : List (Char × Char) :=
  [('"', '"'), ('\\', '\\'), ('\n', 'n'), ('\r', 'r'), ('\t', 't'), ('\x0c', 'f'), ('\x08', 'b')]

/-- The escape of a UTF-16 code unit. -/
def unitEscape (u : ℕ) : List Char := '\\' :: 'u' :: padHex 4 u

/-- The escapes of a character in UTF-16. -/
def unicodeEscape (c : Char) : List Char :=
  if c.toNat < 0x10000 then unitEscape c.toNat
  else unitEscape (0xd800 + (c.toNat - 0x10000) / 0x400) ++
    unitEscape (0xdc00 + (c.toNat - 0x10000) % 0x400)

def escape (c : Char) : List Char :=
  match shortEscapes.lookup c with
  | some letter => ['\\', letter]
  | none => if ' ' ≤ c ∧ c ≤ '~' then [c] else unicodeEscape c

/-- The text of a string. -/
def quote (s : String) : List Char := '"' :: (s.toList.flatMap escape ++ ['"'])

/-! ## An escape determines its character -/

theorem shortEscape_inj {c d letter : Char} (hc : shortEscapes.lookup c = some letter)
    (hd : shortEscapes.lookup d = some letter) : c = d := by
  have htable : ∀ m ∈ shortEscapes, ∀ m' ∈ shortEscapes, m.2 = m'.2 → m.1 = m'.1 := by decide
  exact htable _ (mem_of_lookup hc) _ (mem_of_lookup hd) rfl

theorem shortEscape_ne_u {c : Char} : shortEscapes.lookup c ≠ some 'u' := by
  intro hc
  have htable : ∀ m ∈ shortEscapes, m.2 ≠ 'u' := by decide
  exact htable _ (mem_of_lookup hc) rfl

theorem unitEscape_append_inj {u v : ℕ} {s t : List Char} (hu : u < 0x10000) (hv : v < 0x10000)
    (h : unitEscape u ++ s = unitEscape v ++ t) : u = v ∧ s = t := by
  obtain ⟨hpad, htail⟩ := List.append_inj h (by simp [unitEscape])
  rw [unitEscape, unitEscape] at hpad
  exact ⟨padHex_inj_of_lt hu hv (List.tail_eq_of_cons_eq (List.tail_eq_of_cons_eq hpad)), htail⟩

theorem toNat_valid (c : Char) : c.toNat < 0xd800 ∨ 0xdfff < c.toNat ∧ c.toNat < 0x110000 := c.valid

theorem unicodeEscape_append_inj {c d : Char} {s t : List Char}
    (h : unicodeEscape c ++ s = unicodeEscape d ++ t) : c = d ∧ s = t := by
  have hc := toNat_valid c
  have hd := toNat_valid d
  have hchar : c.toNat = d.toNat → c = d := fun heq => Char.toNat_inj.1 heq
  rw [unicodeEscape, unicodeEscape] at h
  split_ifs at h with hc' hd' hd'
  · obtain ⟨hunit, htail⟩ := unitEscape_append_inj hc' hd' h
    exact ⟨hchar hunit, htail⟩
  · -- the first half of a pair is no character
    rw [List.append_assoc] at h
    obtain ⟨hunit, -⟩ := unitEscape_append_inj (by omega) (by omega) h
    omega
  · rw [List.append_assoc] at h
    obtain ⟨hunit, -⟩ := unitEscape_append_inj (by omega) (by omega) h
    omega
  · rw [List.append_assoc, List.append_assoc] at h
    obtain ⟨hhigh, hrest⟩ := unitEscape_append_inj (by omega) (by omega) h
    obtain ⟨hlow, htail⟩ := unitEscape_append_inj (by omega) (by omega) hrest
    exact ⟨hchar (by omega), htail⟩

theorem unicodeEscape_cons (c : Char) (s : List Char) :
    ∃ t, unicodeEscape c ++ s = '\\' :: 'u' :: t := by
  rw [unicodeEscape]
  split_ifs
  · exact ⟨_, rfl⟩
  · exact ⟨_, rfl⟩

/-- **An escape is not the beginning of another one.** -/
theorem escape_append_inj {c d : Char} {s t : List Char} (h : escape c ++ s = escape d ++ t) :
    c = d ∧ s = t := by
  obtain ⟨s', hs⟩ := unicodeEscape_cons c s
  obtain ⟨t', ht⟩ := unicodeEscape_cons d t
  simp only [escape] at h
  cases hc : shortEscapes.lookup c with
  | some x =>
    cases hd : shortEscapes.lookup d with
    | some y =>
      simp only [hc, hd, List.cons_append, List.nil_append, List.cons.injEq, true_and] at h
      rw [h.1] at hc
      exact ⟨shortEscape_inj hc hd, h.2⟩
    | none =>
      simp only [hc, hd, List.cons_append, List.nil_append] at h
      split_ifs at h
      · rw [List.singleton_append, List.cons.injEq] at h
        rw [← h.1] at hd
        exact absurd hd (by decide)
      · rw [ht, List.cons.injEq, List.cons.injEq] at h
        rw [h.2.1] at hc
        exact absurd hc shortEscape_ne_u
  | none =>
    cases hd : shortEscapes.lookup d with
    | some y =>
      simp only [hc, hd, List.cons_append, List.nil_append] at h
      split_ifs at h
      · rw [List.singleton_append, List.cons.injEq] at h
        rw [h.1] at hc
        exact absurd hc (by decide)
      · rw [hs, List.cons.injEq, List.cons.injEq] at h
        rw [← h.2.1] at hd
        exact absurd hd shortEscape_ne_u
    | none =>
      simp only [hc, hd] at h
      split_ifs at h
      · rw [List.singleton_append, List.singleton_append, List.cons.injEq] at h
        exact h
      · rw [ht, List.singleton_append, List.cons.injEq] at h
        rw [h.1] at hc
        exact absurd hc (by decide)
      · rw [hs, List.singleton_append, List.cons.injEq] at h
        rw [← h.1] at hd
        exact absurd hd (by decide)
      · exact unicodeEscape_append_inj h

/-- An escape does not begin with a quotation mark. -/
theorem escape_head (c : Char) : ∃ d ∈ (escape c).head?, d ≠ '"' := by
  rw [escape]
  cases hc : shortEscapes.lookup c with
  | some letter => exact ⟨'\\', rfl, by decide⟩
  | none =>
    simp only []
    split_ifs
    · refine ⟨c, rfl, ?_⟩
      rintro rfl
      exact absurd hc (by decide)
    · obtain ⟨t, ht⟩ := unicodeEscape_cons c []
      rw [List.append_nil] at ht
      exact ⟨'\\', by rw [ht]; rfl, by decide⟩

/-! ## A text determines its string -/

theorem escapes_append_inj {cs ds s t : List Char}
    (h : cs.flatMap escape ++ '"' :: s = ds.flatMap escape ++ '"' :: t) : cs = ds ∧ s = t := by
  have hmark : ∀ {c : Char} {u v w : List Char}, escape c ++ u ++ v ≠ '"' :: w := by
    intro c u v w heq
    obtain ⟨d, hd, hne⟩ := escape_head c
    obtain ⟨rest, hrest⟩ := List.head?_eq_some_iff.1 hd
    rw [hrest] at heq
    exact hne (List.head_eq_of_cons_eq heq)
  induction cs generalizing ds with
  | nil =>
    cases ds with
    | nil => exact ⟨rfl, List.tail_eq_of_cons_eq h⟩
    | cons d ds => exact absurd h.symm hmark
  | cons c cs ih =>
    cases ds with
    | nil => exact absurd h hmark
    | cons d ds =>
      rw [List.flatMap_cons, List.flatMap_cons, List.append_assoc, List.append_assoc] at h
      obtain ⟨hchar, hrest⟩ := escape_append_inj h
      obtain ⟨hchars, htail⟩ := ih hrest
      exact ⟨by rw [hchar, hchars], htail⟩

/-- **The text of a string determines it, and what follows.** -/
theorem quote_append_inj {a b : String} {s t : List Char} (h : quote a ++ s = quote b ++ t) :
    a = b ∧ s = t := by
  rw [quote, quote, List.cons_append, List.cons_append, List.append_assoc, List.append_assoc] at h
  obtain ⟨hchars, htail⟩ := escapes_append_inj (List.tail_eq_of_cons_eq h)
  exact ⟨String.toList_inj.1 hchars, htail⟩

/-! ## Only ASCII is written -/

theorem ascii_padHex {k n : ℕ} : ∀ c ∈ padHex k n, c.toNat < 128 := by
  intro c hc
  obtain ⟨d, hd, rfl⟩ := mem_padHex hc
  have hdigits : ∀ d < 16, (Nat.digitChar d).toNat < 128 := by decide
  exact hdigits d hd

theorem ascii_unitEscape {u : ℕ} : ∀ c ∈ unitEscape u, c.toNat < 128 := by
  intro c hc
  simp only [unitEscape, List.mem_cons] at hc
  rcases hc with rfl | rfl | hc
  · decide
  · decide
  · exact ascii_padHex c hc

theorem ascii_escape (c : Char) : ∀ d ∈ escape c, d.toNat < 128 := by
  intro d hd
  rw [escape] at hd
  cases hc : shortEscapes.lookup c with
  | some letter =>
    have htable : ∀ m ∈ shortEscapes, m.2.toNat < 128 := by decide
    have hletter : letter.toNat < 128 := htable _ (mem_of_lookup hc)
    simp only [hc, List.mem_cons, List.not_mem_nil, or_false] at hd
    rcases hd with rfl | rfl
    · decide
    · exact hletter
  | none =>
    simp only [hc] at hd
    split_ifs at hd with hprint
    · rw [List.mem_singleton.1 hd]
      exact Nat.lt_of_le_of_lt (Char.le_def.1 hprint.2) (by decide)
    · rw [unicodeEscape] at hd
      split_ifs at hd
      · exact ascii_unitEscape d hd
      · exact (List.mem_append.1 hd).elim (ascii_unitEscape d) (ascii_unitEscape d)

theorem ascii_quote (s : String) : ∀ c ∈ quote s, c.toNat < 128 := by
  intro c hc
  simp only [quote, List.mem_cons, List.mem_append, List.mem_flatMap, List.not_mem_nil,
    or_false] at hc
  rcases hc with rfl | ⟨d, -, hd⟩ | rfl
  · decide
  · exact ascii_escape d c hd
  · decide

end ScrapMonitoring
