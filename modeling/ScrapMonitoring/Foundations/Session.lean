import Mathlib.Data.List.Nodup

/-!
# Sessions in a history

Some entries of a history open a session, whose name they give, and some close the session that is
open. `Since opened closes t l` says that the session `t` is open at the end of the history `l`.
When no name is given twice, a session that is open at two points of a history has been open between
them (`Since.between`).
-/

namespace ScrapMonitoring

variable {α τ : Type*} {opened : α → Option τ} {closes : α → Prop} {t : τ} {l : List α} {e : α}

/-- The session has been opened, and has not been closed since. -/
def Since (opened : α → Option τ) (closes : α → Prop) (t : τ) (l : List α) : Prop :=
  ∃ before e after, l = before ++ e :: after ∧ opened e = some t ∧ ∀ g ∈ after, ¬closes g

theorem Since.start (l : List α) (h : opened e = some t) : Since opened closes t (l ++ [e]) :=
  ⟨l, e, [], rfl, h, by simp⟩

theorem Since.extend (h : Since opened closes t l) (he : ¬closes e) :
    Since opened closes t (l ++ [e]) := by
  obtain ⟨before, f, after, rfl, hf, hafter⟩ := h
  refine ⟨before, f, after ++ [e], by simp, hf, fun g hg => ?_⟩
  rcases List.mem_append.1 hg with hg | hg
  · exact hafter g hg
  · rw [List.mem_singleton.1 hg]
    exact he

/-- Two entries that give the same name are one, when no name is given twice. -/
theorem eq_of_nodup_filterMap {before before' after after' : List α} {f : α}
    (hnodup : (l.filterMap opened).Nodup) (h : l = before ++ e :: after)
    (h' : l = before' ++ f :: after') (he : opened e = some t) (hf : opened f = some t) :
    before = before' ∧ e = f ∧ after = after' := by
  have hnot : ∀ {a b : List α} {x : α}, (a ++ x :: b) = l → opened x = some t →
      t ∉ a.filterMap opened ∧ t ∉ b.filterMap opened := by
    intro a b x hl hx
    rw [← hl, List.filterMap_append, List.filterMap_cons_some hx, List.nodup_append] at hnodup
    obtain ⟨-, hb, hdisjoint⟩ := hnodup
    exact ⟨fun ha => hdisjoint t ha t List.mem_cons_self rfl, (List.nodup_cons.1 hb).1⟩
  obtain ⟨hbefore, hafter⟩ := hnot h.symm he
  obtain ⟨hbefore', hafter'⟩ := hnot h'.symm hf
  rcases List.append_eq_append_iff.1 (h.symm.trans h') with ⟨c, hc, hrest⟩ | ⟨c, hc, hrest⟩
  · cases c with
    | nil =>
      obtain ⟨rfl, rfl⟩ := List.cons.inj hrest
      exact ⟨by simpa using hc.symm, rfl, rfl⟩
    | cons x c =>
      obtain ⟨rfl, rfl⟩ := List.cons.inj hrest
      refine absurd ?_ hbefore'
      rw [hc]
      exact List.mem_filterMap.2 ⟨e, by simp, he⟩
  · cases c with
    | nil =>
      obtain ⟨rfl, rfl⟩ := List.cons.inj hrest
      exact ⟨by simpa using hc, rfl, rfl⟩
    | cons x c =>
      obtain ⟨rfl, rfl⟩ := List.cons.inj hrest
      refine absurd ?_ hbefore
      rw [hc]
      exact List.mem_filterMap.2 ⟨f, by simp, hf⟩

/-- The last entry of a kind is one. -/
theorem eq_of_last {P : α → Prop} {before before' after after' : List α} {f : α}
    (h : before ++ e :: after = before' ++ f :: after') (he : P e) (hf : P f)
    (hafter : ∀ g ∈ after, ¬P g) (hafter' : ∀ g ∈ after', ¬P g) :
    before = before' ∧ e = f ∧ after = after' := by
  rcases List.append_eq_append_iff.1 h with ⟨c, rfl, hrest⟩ | ⟨c, rfl, hrest⟩
  · cases c with
    | nil =>
      obtain ⟨rfl, rfl⟩ := List.cons.inj hrest
      exact ⟨by simp, rfl, rfl⟩
    | cons x c =>
      obtain ⟨rfl, rfl⟩ := List.cons.inj hrest
      exact absurd hf (hafter f (by simp))
  · cases c with
    | nil =>
      obtain ⟨rfl, rfl⟩ := List.cons.inj hrest
      exact ⟨by simp, rfl, rfl⟩
    | cons x c =>
      obtain ⟨rfl, rfl⟩ := List.cons.inj hrest
      exact absurd he (hafter' e (by simp))

/-- A session that is open at two points of a history has been open between them. -/
theorem Since.between {mid : List α} (h : Since opened closes t l)
    (h' : Since opened closes t (l ++ mid)) (hnodup : ((l ++ mid).filterMap opened).Nodup) :
    ∀ g ∈ mid, ¬closes g := by
  obtain ⟨before, e, after, hl, he, -⟩ := h
  obtain ⟨before', f, after', hl', hf, hafter'⟩ := h'
  have hlong : l ++ mid = before ++ e :: (after ++ mid) := by rw [hl]; simp
  obtain ⟨-, -, rfl⟩ := eq_of_nodup_filterMap hnodup hlong hl' he hf
  intro g hg
  exact hafter' g (List.mem_append_right _ hg)

end ScrapMonitoring
