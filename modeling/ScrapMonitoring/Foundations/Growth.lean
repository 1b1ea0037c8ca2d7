import Mathlib.Data.List.Basic

/-!
# Tables that grow

`Grows R l l'` says that the table `l'` has the rows of `l`, each perhaps changed as `R` allows, and
after them perhaps new ones. A lookup that does not depend on what `R` may change finds the row that
it has found before (`Grows.find?_some`).
-/

namespace ScrapMonitoring

variable {α : Type*} {R S : α → α → Prop} {l l' l'' : List α}

inductive Grows (R : α → α → Prop) : List α → List α → Prop
  | nil (new : List α) : Grows R [] new
  | cons {a b : α} {l l' : List α} (h : R a b) (hl : Grows R l l') : Grows R (a :: l) (b :: l')

namespace Grows

/-- Some rows are added. -/
theorem of_append (hrefl : ∀ a, R a a) (l new : List α) : Grows R l (l ++ new) := by
  induction l with
  | nil => exact .nil new
  | cons a l ih => exact .cons (hrefl a) ih

theorem refl (hrefl : ∀ a, R a a) (l : List α) : Grows R l l := by
  have h := of_append hrefl l []
  rwa [List.append_nil] at h

/-- Some rows change. -/
theorem of_map {f : α → α} (h : ∀ a ∈ l, R a (f a)) : Grows R l (l.map f) := by
  induction l with
  | nil => exact .nil _
  | cons a l ih =>
    exact .cons (h a List.mem_cons_self) (ih fun b hb => h b (List.mem_cons_of_mem a hb))

theorem mono (h : Grows R l l') (himp : ∀ a b, R a b → S a b) : Grows S l l' := by
  induction h with
  | nil new => exact .nil new
  | cons hab _ ih => exact .cons (himp _ _ hab) ih

theorem trans (htrans : ∀ a b c, R a b → R b c → R a c) (h : Grows R l l') (h' : Grows R l' l'') :
    Grows R l l'' := by
  induction h generalizing l'' with
  | nil => exact .nil l''
  | cons hab _ ih =>
    cases h' with
    | cons hbc h' => exact .cons (htrans _ _ _ hab hbc) (ih h')

/-- The row that was found before, as it is now. -/
theorem find?_some {p : α → Bool} {a : α} (h : Grows R l l') (hp : ∀ a b, R a b → p a = p b)
    (hfind : l.find? p = some a) : ∃ b, l'.find? p = some b ∧ R a b := by
  induction h with
  | nil => cases hfind
  | @cons x y _ _ hab _ ih =>
    rw [List.find?_cons] at hfind ⊢
    rw [← hp x y hab]
    cases hx : p x with
    | true =>
      rw [hx] at hfind
      obtain rfl := Option.some.inj hfind
      exact ⟨y, rfl, hab⟩
    | false =>
      rw [hx] at hfind
      exact ih hfind

/-- The row of before, as it is now. -/
theorem mem {a : α} (h : Grows R l l') (ha : a ∈ l) : ∃ b ∈ l', R a b := by
  induction h with
  | nil => cases ha
  | cons hab _ ih =>
    rcases List.mem_cons.1 ha with rfl | ha
    · exact ⟨_, List.mem_cons_self, hab⟩
    · obtain ⟨b, hb, hR⟩ := ih ha
      exact ⟨b, List.mem_cons_of_mem _ hb, hR⟩

end Grows

/-- The only entry that satisfies the condition is the one that is found. -/
theorem find?_eq_of_unique {p : α → Bool} {a : α} (ha : a ∈ l) (hp : p a = true)
    (hunique : ∀ b ∈ l, p b = true → b = a) : l.find? p = some a := by
  cases hfind : l.find? p with
  | none =>
    have hnot := List.find?_eq_none.1 hfind a ha
    exact absurd hp hnot
  | some b => rw [hunique b (List.mem_of_find?_eq_some hfind) (List.find?_some hfind)]

end ScrapMonitoring
