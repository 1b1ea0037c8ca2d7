import Mathlib.Data.List.Basic
import Mathlib.Data.List.Nodup

/-!
# Dictionaries

A dictionary is the list of its items in the order in which their keys were first set; the rows of a
table are one under their primary keys. `setBy key a` sets the item of the key of `a`, in the place
that it had.
-/

namespace ScrapMonitoring

variable {α β γ κ : Type*} [DecidableEq κ]

/-! ## Items -/

theorem mem_of_lookup {l : List (κ × β)} {k : κ} {v : β} (h : l.lookup k = some v) :
    (k, v) ∈ l := by
  obtain ⟨l₁, l₂, rfl, -⟩ := List.lookup_eq_some_iff.1 h
  simp

theorem lookup_of_mem {l : List (κ × β)} (hkeys : (l.map Prod.fst).Nodup) {k : κ} {v : β}
    (h : (k, v) ∈ l) : l.lookup k = some v := by
  cases hl : l.lookup k with
  | none => simpa using List.lookup_eq_none_iff.1 hl (k, v) h
  | some w =>
    have heq := List.inj_on_of_nodup_map hkeys (mem_of_lookup hl) h rfl
    rw [(Prod.mk.inj heq).2]

theorem exists_lookup {l : List (κ × β)} {k : κ} (h : k ∈ l.map Prod.fst) :
    ∃ v, l.lookup k = some v := by
  obtain ⟨⟨k', v⟩, hmem, rfl⟩ := List.mem_map.1 h
  refine Option.ne_none_iff_exists'.1 fun hnone => ?_
  simpa using List.lookup_eq_none_iff.1 hnone _ hmem

theorem lookup_map (f : β → γ) (l : List (κ × β)) (k : κ) :
    (l.map fun p => (p.1, f p.2)).lookup k = (l.lookup k).map f := by
  induction l with
  | nil => rfl
  | cons p l ih =>
    obtain ⟨j, v⟩ := p
    rw [List.map_cons, List.lookup_cons, List.lookup_cons, ih]
    cases k == j <;> rfl

theorem lookup_append_of_notMem {l : List (κ × β)} {k : κ} (h : k ∉ l.map Prod.fst)
    (r : List (κ × β)) : (l ++ r).lookup k = r.lookup k := by
  have hnone : l.lookup k = none := by
    rw [List.lookup_eq_none_iff]
    intro p hp
    exact bne_iff_ne.2 fun heq => h (heq ▸ List.mem_map_of_mem hp)
  rw [List.lookup_append, hnone, Option.none_or]

/-- Dictionaries with the same keys in one order are told apart by their items. -/
theorem eq_of_lookup {l l' : List (κ × β)} (hkeys : l.map Prod.fst = l'.map Prod.fst)
    (hnodup : (l.map Prod.fst).Nodup) (h : ∀ k, l.lookup k = l'.lookup k) : l = l' := by
  have hnodup' := hkeys ▸ hnodup
  have hlength : l.length = l'.length := by
    rw [← List.length_map (f := Prod.fst), hkeys, List.length_map]
  refine List.ext_getElem hlength fun i hi hi' => ?_
  have hmem := mem_of_lookup ((h _).symm.trans (lookup_of_mem hnodup (List.getElem_mem hi)))
  have hkey : (l[i]).1 = (l'[i]).1 := by
    have := congrArg (fun keys => keys[i]?) hkeys
    simpa [hi, hi'] using this
  exact List.inj_on_of_nodup_map hnodup' hmem (List.getElem_mem hi') hkey

/-! ## Setting an item -/

def setBy (key : α → κ) (a : α) : List α → List α
  | [] => [a]
  | b :: l => if key b = key a then a :: l else b :: setBy key a l

section

variable {key : α → κ} {a b : α} {l : List α}

/-- The keys stay in their order; a new one is the last. -/
theorem map_setBy (key : α → κ) (a : α) (l : List α) :
    (setBy key a l).map key = if key a ∈ l.map key then l.map key else l.map key ++ [key a] := by
  induction l with
  | nil => simp [setBy]
  | cons b l ih =>
    rw [setBy]
    by_cases hb : key b = key a
    · rw [if_pos hb, List.map_cons, List.map_cons, hb, if_pos List.mem_cons_self]
    · have hiff : key a ∈ (b :: l).map key ↔ key a ∈ l.map key := by
        rw [List.map_cons, List.mem_cons]
        exact or_iff_right (Ne.symm hb)
      rw [if_neg hb, List.map_cons, ih]
      by_cases hmem : key a ∈ l.map key
      · rw [if_pos hmem, if_pos (hiff.2 hmem), List.map_cons]
      · rw [if_neg hmem, if_neg fun h => hmem (hiff.1 h), List.map_cons, List.cons_append]

/-- An item is set behind those with other keys. -/
theorem setBy_append_of_notMem {l : List α} (h : key a ∉ l.map key) (r : List α) :
    setBy key a (l ++ r) = l ++ setBy key a r := by
  induction l with
  | nil => rfl
  | cons b l ih =>
    rw [List.map_cons, List.mem_cons, not_or] at h
    rw [List.cons_append, setBy, if_neg (Ne.symm h.1), ih h.2, List.cons_append]

theorem nodup_setBy (a : α) (h : (l.map key).Nodup) : ((setBy key a l).map key).Nodup := by
  rw [map_setBy]
  split_ifs with hmem
  · exact h
  · rw [List.nodup_append]
    refine ⟨h, List.nodup_singleton _, fun k hk k' hk' => ?_⟩
    rw [List.mem_singleton.1 hk']
    exact fun heq => hmem (heq ▸ hk)

theorem mem_setBy_self (key : α → κ) (a : α) (l : List α) : a ∈ setBy key a l := by
  induction l with
  | nil => exact List.mem_cons_self
  | cons b l ih =>
    rw [setBy]
    split_ifs
    · exact List.mem_cons_self
    · exact List.mem_cons_of_mem b ih

/-- Any other item was there. -/
theorem mem_setBy (h : b ∈ setBy key a l) : b = a ∨ b ∈ l := by
  induction l with
  | nil => exact .inl (List.mem_singleton.1 h)
  | cons c l ih =>
    rw [setBy] at h
    split_ifs at h
    · exact (List.mem_cons.1 h).imp_right (List.mem_cons_of_mem c)
    · rcases List.mem_cons.1 h with rfl | h
      · exact .inr List.mem_cons_self
      · exact (ih h).imp_right (List.mem_cons_of_mem c)

/-- Of different keys, any other item has another key. -/
theorem mem_setBy_iff (hkeys : (l.map key).Nodup) :
    b ∈ setBy key a l ↔ b = a ∨ b ∈ l ∧ key b ≠ key a := by
  induction l with
  | nil => simp [setBy]
  | cons c l ih =>
    rw [List.map_cons, List.nodup_cons] at hkeys
    rw [setBy]
    split_ifs with hc
    · have hother : ∀ d ∈ l, key d ≠ key a := by
        intro d hd hkey
        exact hkeys.1 (hc.trans hkey.symm ▸ List.mem_map_of_mem hd)
      rw [List.mem_cons, List.mem_cons]
      constructor
      · rintro (rfl | hb)
        · exact .inl rfl
        · exact .inr ⟨.inr hb, hother b hb⟩
      · rintro (rfl | ⟨rfl | hb, hne⟩)
        · exact .inl rfl
        · exact absurd hc hne
        · exact .inr hb
    · rw [List.mem_cons, List.mem_cons, ih hkeys.2]
      constructor
      · rintro (rfl | rfl | ⟨hb, hne⟩)
        · exact .inr ⟨.inl rfl, hc⟩
        · exact .inl rfl
        · exact .inr ⟨.inr hb, hne⟩
      · rintro (rfl | ⟨rfl | hb, hne⟩)
        · exact .inr (.inl rfl)
        · exact .inl rfl
        · exact .inr (.inr ⟨hb, hne⟩)

end

end ScrapMonitoring
