import Mathlib.Data.List.Basic
import Mathlib.Tactic.Ring

/-!
# Hexadecimal digits

`padHex k n` is the text of the last `k` digits of a number to the base sixteen.
-/

namespace ScrapMonitoring

def padHex : ℕ → ℕ → List Char
  | 0, _ => []
  | k + 1, n => padHex k (n / 16) ++ [Nat.digitChar (n % 16)]

@[simp] theorem length_padHex (k n : ℕ) : (padHex k n).length = k := by
  induction k generalizing n with
  | zero => rfl
  | succ k ih => rw [padHex, List.length_append, ih, List.length_singleton]

theorem digitChar_inj {m n : ℕ} (hm : m < 16) (hn : n < 16) (h : m.digitChar = n.digitChar) :
    m = n := by
  have hdigits : ∀ m < 16, ∀ n < 16, Nat.digitChar m = Nat.digitChar n → m = n := by decide
  exact hdigits m hm n hn h

/-- The digits determine the number up to its higher digits. -/
theorem padHex_inj {k m n : ℕ} (h : padHex k m = padHex k n) : m % 16 ^ k = n % 16 ^ k := by
  induction k generalizing m n with
  | zero => rw [pow_zero, Nat.mod_one, Nat.mod_one]
  | succ k ih =>
    rw [padHex, padHex] at h
    obtain ⟨hhigh, hlast⟩ := List.append_inj' h rfl
    have hdigit := digitChar_inj (Nat.mod_lt m (by omega)) (Nat.mod_lt n (by omega))
      (List.singleton_injective hlast)
    rw [pow_succ, Nat.mul_comm (16 ^ k), Nat.mod_mul, Nat.mod_mul, ih hhigh, hdigit]

theorem padHex_inj_of_lt {k m n : ℕ} (hm : m < 16 ^ k) (hn : n < 16 ^ k)
    (h : padHex k m = padHex k n) : m = n := by
  have hmod := padHex_inj h
  rwa [Nat.mod_eq_of_lt hm, Nat.mod_eq_of_lt hn] at hmod

theorem mem_padHex {k n : ℕ} {c : Char} (h : c ∈ padHex k n) : ∃ d < 16, c = Nat.digitChar d := by
  induction k generalizing n with
  | zero => simp [padHex] at h
  | succ k ih =>
    rw [padHex, List.mem_append, List.mem_singleton] at h
    rcases h with hhigh | hlast
    · exact ih hhigh
    · exact ⟨n % 16, Nat.mod_lt n (by omega), hlast⟩

end ScrapMonitoring
