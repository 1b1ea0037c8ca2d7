import Mathlib.Data.List.MinMax
import Mathlib.Order.MinMax
import Mathlib.Order.Std
import Mathlib.Data.List.Perm.Basic

/-!
# The least and the greatest of a list

The least value of two lists together is the least of theirs, and the order of a list does not
matter to it; so a running minimum can be kept in parts. The first entry with the least key stays
the first one while only later entries are added (`argmin_filter_grow`).
-/

namespace ScrapMonitoring

variable {α : Type*} [LinearOrder α]

theorem min?_append (l l' : List α) : (l ++ l').min? = l.min?.merge min l'.min? := by
  induction l with
  | nil => simp
  | cons a l ih =>
    rw [List.cons_append, List.min?_cons, List.min?_cons, ih]
    cases l.min? <;> cases l'.min? <;> simp [min_assoc]

theorem max?_append (l l' : List α) : (l ++ l').max? = l.max?.merge max l'.max? := by
  induction l with
  | nil => simp
  | cons a l ih =>
    rw [List.cons_append, List.max?_cons, List.max?_cons, ih]
    cases l.max? <;> cases l'.max? <;> simp [max_assoc]

theorem min?_perm {l l' : List α} (h : l.Perm l') : l.min? = l'.min? := by
  cases hm : l'.min? with
  | none =>
    rw [List.min?_eq_none_iff.1 hm] at h
    rw [h.eq_nil, List.min?_nil]
  | some m =>
    obtain ⟨hmem, hle⟩ := List.min?_eq_some_iff.1 hm
    exact List.min?_eq_some_iff.2 ⟨h.mem_iff.2 hmem, fun b hb => hle b (h.mem_iff.1 hb)⟩

theorem max?_perm {l l' : List α} (h : l.Perm l') : l.max? = l'.max? := by
  cases hm : l'.max? with
  | none =>
    rw [List.max?_eq_none_iff.1 hm] at h
    rw [h.eq_nil, List.max?_nil]
  | some m =>
    obtain ⟨hmem, hle⟩ := List.max?_eq_some_iff.1 hm
    exact List.max?_eq_some_iff.2 ⟨h.mem_iff.2 hmem, fun b hb => hle b (h.mem_iff.1 hb)⟩

/-! ## The first entry with the least key -/

section

variable {β : Type*} {f : β → α} {l : List β} {m : β}

theorem argmin_append_cons {l₁ l₂ : List β} (h₁ : ∀ b ∈ l₁, f m < f b) (h₂ : ∀ b ∈ l₂, f m ≤ f b) :
    (l₁ ++ m :: l₂).argmin f = some m := by
  induction l₂ using List.reverseRecOn with
  | nil =>
    rw [List.argmin_concat]
    cases hl : l₁.argmin f with
    | none => rfl
    | some b => exact if_pos (h₁ b (List.argmin_mem hl))
  | append_singleton l₂ b ih =>
    rw [← List.cons_append, ← List.append_assoc, List.argmin_concat,
      ih fun c hc => h₂ c (List.mem_append_left _ hc)]
    exact if_neg (not_lt.2 (h₂ b (List.mem_append_right _ (List.mem_singleton_self b))))

theorem argmin_split (h : l.argmin f = some m) :
    ∃ l₁ l₂, l = l₁ ++ m :: l₂ ∧ (∀ b ∈ l₁, f m < f b) ∧ ∀ b ∈ l₂, f m ≤ f b := by
  induction l using List.reverseRecOn with
  | nil => cases h
  | append_singleton l a ih =>
    rw [List.argmin_concat] at h
    cases hl : l.argmin f with
    | none =>
      rw [hl] at h
      obtain rfl := Option.some.inj h
      rw [List.argmin_eq_none] at hl
      exact ⟨[], [], by rw [hl], by simp, by simp⟩
    | some b =>
      rw [hl] at h
      dsimp only at h
      by_cases hlt : f a < f b
      · rw [if_pos hlt] at h
        obtain rfl := Option.some.inj h
        exact ⟨l, [], rfl, fun c hc => hlt.trans_le (List.le_of_mem_argmin hc hl), by simp⟩
      · rw [if_neg hlt] at h
        obtain rfl := Option.some.inj h
        obtain ⟨l₁, l₂, rfl, h₁, h₂⟩ := ih hl
        refine ⟨l₁, l₂ ++ [a], by simp, h₁, ?_⟩
        exact List.forall_mem_append.2 ⟨h₂, by simpa using not_lt.1 hlt⟩

/-- Entries that are let through later on, or added, and have no lesser key do not change the first
one. -/
theorem argmin_filter_grow {p q : β → Bool} {l' : List β} (h : (l.filter p).argmin f = some m)
    (hpq : ∀ b, p b → q b) (hlate : ∀ b ∈ l, q b → ¬p b → f m < f b)
    (hnew : ∀ b ∈ l', q b → f m ≤ f b) : ((l ++ l').filter q).argmin f = some m := by
  obtain ⟨l₁, l₂, hl, h₁, h₂⟩ := argmin_split h
  obtain ⟨k₁, k₂, rfl, rfl, hk₂⟩ := List.filter_eq_append_iff.1 hl
  obtain ⟨j₁, j₂, rfl, hj₁, hm, rfl⟩ := List.filter_eq_cons_iff.1 hk₂
  have hbefore : ∀ b ∈ (k₁ ++ j₁).filter q, f m < f b := by
    intro b hb
    obtain ⟨hmem, hq⟩ := List.mem_filter.1 hb
    by_cases hp : p b
    · obtain hk | hj := List.mem_append.1 hmem
      · exact h₁ b (List.mem_filter.2 ⟨hk, hp⟩)
      · exact absurd hp (hj₁ b hj)
    · refine hlate b ?_ hq hp
      rw [← List.append_assoc]
      exact List.mem_append_left _ hmem
  have hafter : ∀ b ∈ (j₂ ++ l').filter q, f m ≤ f b := by
    intro b hb
    obtain ⟨hmem, hq⟩ := List.mem_filter.1 hb
    obtain hj | hl' := List.mem_append.1 hmem
    · by_cases hp : p b
      · exact h₂ b (List.mem_filter.2 ⟨hj, hp⟩)
      · refine (hlate b ?_ hq hp).le
        exact List.mem_append_right _ (List.mem_append_right _ (List.mem_cons_of_mem _ hj))
    · exact hnew b hl' hq
  have hsplit : (k₁ ++ (j₁ ++ m :: j₂) ++ l').filter q =
      (k₁ ++ j₁).filter q ++ m :: (j₂ ++ l').filter q := by
    simp only [List.filter_append, List.filter_cons_of_pos (hpq m hm), List.append_assoc,
      List.cons_append]
  rw [hsplit]
  exact argmin_append_cons hbefore hafter

end

/-! ## Names -/

/-- Where no two entries have one name, a list is cut at most once at an entry of that name. -/
theorem append_cons_unique {β γ : Type*} {name : β → γ} {l l₁ l₂ k₁ k₂ : List β} {a b : β}
    (hnodup : (l.map name).Nodup) (h : l = l₁ ++ a :: l₂) (h' : l = k₁ ++ b :: k₂)
    (hname : name a = name b) : l₁ = k₁ ∧ a = b ∧ l₂ = k₂ := by
  subst h
  induction l₁ generalizing k₁ with
  | nil =>
    cases k₁ with
    | nil =>
      obtain ⟨rfl, rfl⟩ := List.cons.inj h'
      exact ⟨rfl, rfl, rfl⟩
    | cons c k₁ =>
      obtain ⟨rfl, rfl⟩ := List.cons.inj h'
      simp [hname] at hnodup
  | cons c l₁ ih =>
    cases k₁ with
    | nil =>
      obtain ⟨rfl, rfl⟩ := List.cons.inj h'
      simp [hname] at hnodup
    | cons d k₁ =>
      obtain ⟨rfl, htail⟩ := List.cons.inj h'
      obtain ⟨rfl, hab, htails⟩ := ih (List.nodup_cons.1 hnodup).2 htail
      exact ⟨rfl, hab, htails⟩

end ScrapMonitoring
