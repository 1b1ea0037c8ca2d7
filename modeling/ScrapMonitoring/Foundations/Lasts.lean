import Mathlib.Data.List.Basic
import Mathlib.Data.List.Pairwise
import Mathlib.Order.Lattice

/-!
# The last entries of runs

`lasts key l` keeps, of every run of neighbouring entries of `l` with the same key, the last one.
When the keys do not decrease along `l`, they increase along `lasts key l` (`pairwise_lasts`), which
has an entry for every key that occurs (`exists_mem_lasts`).
-/

namespace ScrapMonitoring

variable {α β κ : Type*} [DecidableEq κ] {key : α → κ} {l : List α} {a b : α}

def lasts (key : α → κ) : List α → List α
  | [] => []
  | [a] => [a]
  | a :: b :: l => if key a = key b then lasts key (b :: l) else a :: lasts key (b :: l)

@[simp] theorem lasts_nil : lasts key [] = [] := rfl

@[simp] theorem lasts_singleton : lasts key [a] = [a] := rfl

theorem lasts_cons_of_eq (h : key a = key b) :
    lasts key (a :: b :: l) = lasts key (b :: l) := by
  rw [lasts, if_pos h]

theorem lasts_cons_of_ne (h : key a ≠ key b) :
    lasts key (a :: b :: l) = a :: lasts key (b :: l) := by
  rw [lasts, if_neg h]

theorem lasts_sublist (key : α → κ) (l : List α) : (lasts key l).Sublist l := by
  induction l using lasts.induct key with
  | case1 => exact List.Sublist.refl _
  | case2 a => exact List.Sublist.refl _
  | case3 a b l h ih =>
    rw [lasts_cons_of_eq h]
    exact ih.cons a
  | case4 a b l h ih =>
    rw [lasts_cons_of_ne h]
    exact ih.cons_cons a

/-- A further entry of the same key takes the place of the last one. -/
theorem lasts_concat_of_eq (key : α → κ) (l : List α) (h : key b = key a) :
    ∃ rest, lasts key (l ++ [b]) = rest ++ [b] ∧ lasts key (l ++ [b] ++ [a]) = rest ++ [a] := by
  induction l with
  | nil => exact ⟨[], rfl, lasts_cons_of_eq h⟩
  | cons c l ih =>
    obtain ⟨rest, hrest, hrest'⟩ := ih
    obtain ⟨d, m, hm⟩ := List.exists_cons_of_ne_nil (List.concat_ne_nil b l)
    rw [List.cons_append, List.cons_append]
    rw [hm] at hrest hrest' ⊢
    by_cases hc : key c = key d
    · exact ⟨rest, (lasts_cons_of_eq hc).trans hrest, (lasts_cons_of_eq hc).trans hrest'⟩
    · refine ⟨c :: rest, ?_, ?_⟩
      · exact (lasts_cons_of_ne hc).trans (congrArg (c :: ·) hrest)
      · exact (lasts_cons_of_ne hc).trans (congrArg (c :: ·) hrest')

/-- A further entry of another key comes after the last one. -/
theorem lasts_concat_of_ne (key : α → κ) (l : List α) (h : key b ≠ key a) :
    lasts key (l ++ [b] ++ [a]) = lasts key (l ++ [b]) ++ [a] := by
  induction l with
  | nil => exact lasts_cons_of_ne h
  | cons c l ih =>
    obtain ⟨d, m, hm⟩ := List.exists_cons_of_ne_nil (List.concat_ne_nil b l)
    rw [List.cons_append, List.cons_append]
    rw [hm] at ih ⊢
    by_cases hc : key c = key d
    · exact (lasts_cons_of_eq hc).trans (ih.trans (congrArg (· ++ [a]) (lasts_cons_of_eq hc).symm))
    · exact (lasts_cons_of_ne hc).trans
        ((congrArg (c :: ·) ih).trans (congrArg (· ++ [a]) (lasts_cons_of_ne hc).symm))

/-- The last entry is kept. -/
theorem getLast?_lasts (key : α → κ) (l : List α) : (lasts key l).getLast? = l.getLast? := by
  induction l using lasts.induct key with
  | case1 => rfl
  | case2 a => rfl
  | case3 a b l h ih => rw [lasts_cons_of_eq h, ih, List.getLast?_cons_cons]
  | case4 a b l h ih =>
    have hne : lasts key (b :: l) ≠ [] := by
      intro hnil
      rw [hnil, List.getLast?_nil] at ih
      exact List.cons_ne_nil b l (List.getLast?_eq_none_iff.1 ih.symm)
    rw [lasts_cons_of_ne h, List.getLast?_cons_cons, ← ih]
    obtain ⟨c, rest, hrest⟩ := List.exists_cons_of_ne_nil hne
    rw [hrest, List.getLast?_cons_cons]

theorem map_lasts (key : α → κ) (f : β → α) (l : List β) :
    (lasts (key ∘ f) l).map f = lasts key (l.map f) := by
  induction l using lasts.induct (key ∘ f) with
  | case1 => rfl
  | case2 a => rfl
  | case3 a b l h ih =>
    have hkey : key (f a) = key (f b) := h
    rw [lasts_cons_of_eq h, ih]
    exact (lasts_cons_of_eq hkey).symm
  | case4 a b l h ih =>
    have hkey : key (f a) ≠ key (f b) := h
    rw [lasts_cons_of_ne h, List.map_cons, ih]
    exact (lasts_cons_of_ne hkey).symm

/-- Every key that occurs has an entry. -/
theorem exists_mem_lasts (key : α → κ) (h : a ∈ l) : ∃ b ∈ lasts key l, key b = key a := by
  induction l using lasts.induct key generalizing a with
  | case1 => cases h
  | case2 c => exact ⟨a, h, rfl⟩
  | case3 c d l hcd ih =>
    rw [lasts_cons_of_eq hcd]
    rcases List.mem_cons.1 h with rfl | h
    · obtain ⟨b, hb, hkey⟩ := ih List.mem_cons_self
      exact ⟨b, hb, hkey.trans hcd.symm⟩
    · exact ih h
  | case4 c d l hcd ih =>
    rw [lasts_cons_of_ne hcd]
    rcases List.mem_cons.1 h with rfl | h
    · exact ⟨a, List.mem_cons_self, rfl⟩
    · obtain ⟨b, hb, hkey⟩ := ih h
      exact ⟨b, List.mem_cons_of_mem _ hb, hkey⟩

/-- Entries of different keys are all kept. -/
theorem lasts_of_pairwise_ne (h : l.Pairwise fun a b => key a ≠ key b) : lasts key l = l := by
  induction l using lasts.induct key with
  | case1 => rfl
  | case2 a => rfl
  | case3 a b l hab ih => exact absurd hab ((List.pairwise_cons.1 h).1 b List.mem_cons_self)
  | case4 a b l hab ih => rw [lasts_cons_of_ne hab, ih (List.pairwise_cons.1 h).2]

/-- **Keys that do not decrease increase among the last entries.** -/
theorem pairwise_lasts [LinearOrder κ] {key : α → κ} (h : l.Pairwise fun a b => key a ≤ key b) :
    (lasts key l).Pairwise fun a b => key a < key b := by
  induction l using lasts.induct key with
  | case1 => exact List.Pairwise.nil
  | case2 a => exact List.pairwise_singleton _ a
  | case3 a b l hab ih =>
    rw [lasts_cons_of_eq hab]
    exact ih (List.pairwise_cons.1 h).2
  | case4 a b l hab ih =>
    obtain ⟨hle, htail⟩ := List.pairwise_cons.1 h
    rw [lasts_cons_of_ne hab, List.pairwise_cons]
    refine ⟨fun c hc => ?_, ih htail⟩
    have hlt : key a < key b := lt_of_le_of_ne (hle b List.mem_cons_self) hab
    rcases List.mem_cons.1 ((lasts_sublist key (b :: l)).mem hc) with rfl | hc
    · exact hlt
    · exact lt_of_lt_of_le hlt ((List.pairwise_cons.1 htail).1 c hc)

end ScrapMonitoring
