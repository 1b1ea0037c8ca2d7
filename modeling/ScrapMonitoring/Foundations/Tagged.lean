import Mathlib.Data.List.Basic

/-!
# Texts that end in a number

The decimal number behind the last separator of a text can be read off it, and so can what stands
before the separator (`tagged_inj`), if the separator is no digit.
-/

namespace ScrapMonitoring

/-- Cut at the last separator, two texts that are equal have equal parts. -/
theorem append_cons_inj_right {α : Type*} {xs ys us vs : List α} {a : α} (hus : a ∉ us)
    (hvs : a ∉ vs) (h : xs ++ a :: us = ys ++ a :: vs) : xs = ys ∧ us = vs := by
  rcases List.append_eq_append_iff.1 h with ⟨zs, hfront, htail⟩ | ⟨zs, hfront, htail⟩
  · cases zs with
    | nil => exact ⟨(hfront.trans (List.append_nil _)).symm, (List.cons.inj htail).2⟩
    | cons z zs =>
      obtain ⟨-, rfl⟩ := List.cons.inj htail
      simp at hus
  · cases zs with
    | nil => exact ⟨hfront.trans (List.append_nil _), (List.cons.inj htail).2.symm⟩
    | cons z zs =>
      obtain ⟨-, rfl⟩ := List.cons.inj htail
      simp at hvs

/-- **The text and the number behind the separator** determine each other. -/
theorem tagged_inj {front front' : List Char} {c : Char} {m n : ℕ} (hc : c.isDigit = false)
    (h : front ++ c :: Nat.toDigits 10 m = front' ++ c :: Nat.toDigits 10 n) :
    front = front' ∧ m = n := by
  have hdigits : ∀ n : ℕ, c ∉ Nat.toDigits 10 n := by
    intro n hmem
    rw [Nat.isDigit_of_mem_toDigits (by decide) (by decide) hmem] at hc
    cases hc
  obtain ⟨hfront, hnumber⟩ := append_cons_inj_right (hdigits m) (hdigits n) h
  have hvalue := congrArg (fun digits => Nat.ofDigitChars 10 digits 0) hnumber
  exact ⟨hfront, by simpa using hvalue⟩

end ScrapMonitoring
