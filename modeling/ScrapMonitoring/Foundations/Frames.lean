import Mathlib.Data.List.Infix
import Mathlib.Tactic.Ring
import Mathlib.Tactic.NormNum

/-!
# Frames

A frame is a byte string behind its length, in eight bytes. A frame is not the beginning of another
one (`frame_append_inj`); so the frames of a list, one after the other, determine the list
(`flatMap_frame_inj`), and they begin another such sequence only if the list begins the other one
(`flatMap_frame_isPrefix`).
-/

namespace ScrapMonitoring

/-- The last `k` bytes of a number, the highest first. -/
def toBytes : ℕ → ℕ → List UInt8
  | 0, _ => []
  | k + 1, n => toBytes k (n / 256) ++ [UInt8.ofNat n]

@[simp] theorem length_toBytes (k n : ℕ) : (toBytes k n).length = k := by
  induction k generalizing n with
  | zero => rfl
  | succ k ih => rw [toBytes, List.length_append, ih, List.length_singleton]

theorem toBytes_inj {k m n : ℕ} (h : toBytes k m = toBytes k n) : m % 256 ^ k = n % 256 ^ k := by
  induction k generalizing m n with
  | zero => rw [pow_zero, Nat.mod_one, Nat.mod_one]
  | succ k ih =>
    rw [toBytes, toBytes] at h
    obtain ⟨hhigh, hlast⟩ := List.append_inj' h rfl
    have hbyte : m % 256 = n % 256 := by
      have := congrArg UInt8.toNat (List.singleton_injective hlast)
      rwa [UInt8.toNat_ofNat', UInt8.toNat_ofNat'] at this
    rw [pow_succ, Nat.mul_comm (256 ^ k), Nat.mod_mul, Nat.mod_mul, ih hhigh, hbyte]

def frame (bytes : List UInt8) : List UInt8 := toBytes 8 bytes.length ++ bytes

section

variable {a b s t : List UInt8} {as bs : List (List UInt8)}

/-- **A frame is not the beginning of another one.** -/
theorem frame_append_inj (ha : a.length < 2 ^ 64) (hb : b.length < 2 ^ 64)
    (h : frame a ++ s = frame b ++ t) : a = b ∧ s = t := by
  rw [frame, frame, List.append_assoc, List.append_assoc] at h
  obtain ⟨hhead, hrest⟩ := List.append_inj h (by simp)
  have hlength : a.length = b.length := by
    have hmod := toBytes_inj hhead
    rwa [Nat.mod_eq_of_lt (show a.length < 256 ^ 8 by omega),
      Nat.mod_eq_of_lt (show b.length < 256 ^ 8 by omega)] at hmod
  exact List.append_inj hrest hlength

theorem frame_ne_nil : frame a ≠ [] := by
  intro h
  have hlength := congrArg List.length h
  simp [frame] at hlength

/-- Frames one after the other begin others only if their list begins the other list. -/
theorem flatMap_frame_append_inj (has : ∀ a ∈ as, a.length < 2 ^ 64)
    (hbs : ∀ b ∈ bs, b.length < 2 ^ 64) (h : as.flatMap frame ++ s = bs.flatMap frame) :
    ∃ cs, as ++ cs = bs ∧ s = cs.flatMap frame := by
  induction as generalizing bs with
  | nil => exact ⟨bs, rfl, h⟩
  | cons a as ih =>
    rw [List.flatMap_cons, List.append_assoc] at h
    cases bs with
    | nil => exact absurd (List.append_eq_nil_iff.1 h).1 frame_ne_nil
    | cons b bs =>
      obtain ⟨rfl, hrest⟩ := frame_append_inj (has a List.mem_cons_self)
        (hbs b List.mem_cons_self) (h.trans List.flatMap_cons)
      obtain ⟨cs, rfl, hs⟩ := ih (fun x hx => has x (List.mem_cons_of_mem a hx))
        (fun x hx => hbs x (List.mem_cons_of_mem a hx)) hrest
      exact ⟨cs, rfl, hs⟩

theorem flatMap_frame_isPrefix (has : ∀ a ∈ as, a.length < 2 ^ 64)
    (hbs : ∀ b ∈ bs, b.length < 2 ^ 64) :
    as.flatMap frame <+: bs.flatMap frame ↔ as <+: bs := by
  constructor
  · rintro ⟨s, hs⟩
    obtain ⟨cs, hcs, -⟩ := flatMap_frame_append_inj has hbs hs
    exact ⟨cs, hcs⟩
  · rintro ⟨cs, rfl⟩
    rw [List.flatMap_append]
    exact List.prefix_append _ _

/-- **The frames of a list determine it.** -/
theorem flatMap_frame_inj (has : ∀ a ∈ as, a.length < 2 ^ 64)
    (hbs : ∀ b ∈ bs, b.length < 2 ^ 64) (h : as.flatMap frame = bs.flatMap frame) : as = bs := by
  have hab := (flatMap_frame_isPrefix has hbs).1 ⟨[], (List.append_nil _).trans h⟩
  have hba := (flatMap_frame_isPrefix hbs has).1 ⟨[], (List.append_nil _).trans h.symm⟩
  exact hab.eq_of_length (Nat.le_antisymm hab.length_le hba.length_le)

end

end ScrapMonitoring
