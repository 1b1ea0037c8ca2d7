import Mathlib.Data.List.Basic

/-!
# Computations that succeed under a condition

`Succeeds x P a` says that a computation succeeds exactly under the condition `P`, and then with the
value `a`. The rules below follow a computation through its steps: the condition of a loop is that
of all its steps, and its value is that of the loop without failures.
-/

namespace ScrapMonitoring

variable {α β ε : Type}

def Succeeds (x : Except ε α) (P : Prop) (a : α) : Prop := ∀ b, x = .ok b ↔ P ∧ b = a

/-- `if P: raise e`. -/
def refuse (P : Prop) [Decidable P] (e : ε) : Except ε Unit := if P then .error e else .ok ()

namespace Succeeds

variable {x : Except ε α} {P Q : Prop} {a b : α}

theorem of_ok (h : Succeeds x P a) (hx : x = .ok b) : P ∧ b = a := (h b).1 hx

theorem ok (h : Succeeds x P a) (hP : P) : x = .ok a := (h a).2 ⟨hP, rfl⟩

theorem exists_iff (h : Succeeds x P a) : (∃ b, x = .ok b) ↔ P :=
  ⟨fun ⟨_, hb⟩ => (h.of_ok hb).1, fun hP => ⟨a, h.ok hP⟩⟩

theorem pure (a : α) : Succeeds (.ok a : Except ε α) True a := by
  intro b
  rw [Except.ok.injEq, true_and, eq_comm]

theorem error (e : ε) (a : α) (hP : ¬P) : Succeeds (.error e : Except ε α) P a := by
  intro b
  exact iff_of_false (fun h => by cases h) fun h => hP h.1

theorem congr (h : Succeeds x P a) (hPQ : P ↔ Q) : Succeeds x Q a := by
  intro b
  rw [← hPQ]
  exact h b

theorem value (h : Succeeds x P a) (hab : a = b) : Succeeds x P b := hab ▸ h

/-- A value under a condition. -/
theorem ite [Decidable P] (a : α) (e : ε) :
    Succeeds (if P then .ok a else .error e : Except ε α) P a := by
  split_ifs with h
  · exact (pure a).congr (iff_of_true trivial h)
  · exact error e a h

/-- A check that refuses. -/
theorem refuse [Decidable P] (e : ε) : Succeeds (refuse P e) (¬P) () := by
  unfold ScrapMonitoring.refuse
  split_ifs with h
  · exact error e () fun hP => hP h
  · exact (pure ()).congr (iff_of_true trivial h)

theorem bind {f : α → Except ε β} {c : β} (hx : Succeeds x P a) (hf : Succeeds (f a) Q c) :
    Succeeds (x >>= f) (P ∧ Q) c := by
  intro d
  constructor
  · intro h
    cases hok : x with
    | error e =>
      rw [hok] at h
      cases h
    | ok b =>
      obtain ⟨hP, rfl⟩ := hx.of_ok hok
      rw [hok] at h
      obtain ⟨hQ, hd⟩ := hf.of_ok h
      exact ⟨⟨hP, hQ⟩, hd⟩
  · rintro ⟨⟨hP, hQ⟩, rfl⟩
    rw [hx.ok hP]
    exact hf.ok hQ

theorem map {g : α → β} (hx : Succeeds x P a) : Succeeds (g <$> x) P (g a) := by
  have hpure : Succeeds (.ok (g a) : Except ε β) True (g a) := pure _
  have h := hx.bind (f := fun b => .ok (g b)) hpure
  rw [and_true] at h
  cases x <;> exact h

section

variable {f : α → Except ε β} {g : α → β} {p : α → Prop} {l : List α}

theorem mapM (h : ∀ a ∈ l, Succeeds (f a) (p a) (g a)) :
    Succeeds (l.mapM f) (∀ a ∈ l, p a) (l.map g) := by
  induction l with
  | nil => exact (pure []).congr (iff_of_true trivial (List.forall_mem_nil _))
  | cons a l ih =>
    rw [List.mapM_cons, List.map_cons]
    have hl := ih fun b hb => h b (List.mem_cons_of_mem a hb)
    have hpure : Succeeds (.ok (g a :: l.map g) : Except ε (List β)) True (g a :: l.map g) := pure _
    have hcons := hl.bind (f := fun bs => .ok (g a :: bs)) hpure
    refine ((h a List.mem_cons_self).bind hcons).congr ?_
    rw [and_true, List.forall_mem_cons]

end

section

variable {f : α → Except ε Unit} {p : α → Prop} {l : List α}

theorem forM (h : ∀ a ∈ l, Succeeds (f a) (p a) ()) : Succeeds (l.forM f) (∀ a ∈ l, p a) () := by
  induction l with
  | nil => exact (pure ()).congr (iff_of_true trivial (List.forall_mem_nil _))
  | cons a l ih =>
    refine ((h a List.mem_cons_self).bind (ih fun b hb => h b (List.mem_cons_of_mem a hb))).congr ?_
    rw [List.forall_mem_cons]

end

section

variable {f : β → α → Except ε β} {g : β → α → β} {p : α → Prop}

theorem foldlM (h : ∀ b a, Succeeds (f b a) (p a) (g b a)) (l : List α) (b : β) :
    Succeeds (l.foldlM f b) (∀ a ∈ l, p a) (l.foldl g b) := by
  induction l generalizing b with
  | nil => exact (pure b).congr (iff_of_true trivial (List.forall_mem_nil _))
  | cons a l ih =>
    rw [List.foldlM_cons, List.foldl_cons]
    refine ((h b a).bind (ih (g b a))).congr ?_
    rw [List.forall_mem_cons]

end

end Succeeds

end ScrapMonitoring
