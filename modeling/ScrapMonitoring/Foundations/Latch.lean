import Mathlib.Data.List.Induction

/-!
# Latches

`Latched set reset l` says that in the list `l` an entry that sets is followed by no entry that
resets: the last setting entry is later than the last resetting one. `Held` is the same for a latch
that may have been set before the list begins. Both are what a bit computes that is updated entry by
entry (`latched_concat`, `held_concat`).
-/

namespace ScrapMonitoring

variable {α : Type*} {set reset : α → Prop} {l : List α} {a : α}

def Latched (set reset : α → Prop) (l : List α) : Prop :=
  ∃ pre b post, l = pre ++ b :: post ∧ set b ∧ ∀ c ∈ post, ¬reset c

/-- A latch that may be set to begin with. -/
def Held (set reset : α → Prop) (initial : Prop) (l : List α) : Prop :=
  Latched set reset l ∨ initial ∧ ∀ c ∈ l, ¬reset c

theorem latched_nil : ¬Latched set reset [] := by
  rintro ⟨pre, b, post, h, -⟩
  simp at h

/-- An entry that does not set keeps a latch unless it resets it. -/
theorem latched_concat : Latched set reset (l ++ [a]) ↔ set a ∨ Latched set reset l ∧ ¬reset a := by
  constructor
  · rintro ⟨pre, b, post, h, hset, hpost⟩
    induction post using List.reverseRecOn with
    | nil =>
      obtain ⟨-, hb⟩ := List.append_inj' h rfl
      exact .inl (List.singleton_inj.1 hb ▸ hset)
    | append_singleton post c _ =>
      rw [← List.cons_append, ← List.append_assoc] at h
      obtain ⟨hl, hc⟩ := List.append_inj' h rfl
      obtain rfl := List.singleton_inj.1 hc
      obtain ⟨hpost, hlast⟩ := List.forall_mem_append.1 hpost
      exact .inr ⟨⟨pre, b, post, hl, hset, hpost⟩, hlast a (List.mem_singleton_self a)⟩
  · rintro (hset | ⟨⟨pre, b, post, rfl, hset, hpost⟩, hreset⟩)
    · exact ⟨l, a, [], rfl, hset, by simp⟩
    · refine ⟨pre, b, post ++ [a], by simp, hset, ?_⟩
      exact List.forall_mem_append.2 ⟨hpost, by simpa using hreset⟩

theorem held_nil {initial : Prop} : Held set reset initial [] ↔ initial := by
  simp [Held, latched_nil]

theorem held_concat {initial : Prop} :
    Held set reset initial (l ++ [a]) ↔ set a ∨ Held set reset initial l ∧ ¬reset a := by
  unfold Held
  rw [latched_concat, List.forall_mem_append, List.forall_mem_singleton]
  tauto

end ScrapMonitoring
