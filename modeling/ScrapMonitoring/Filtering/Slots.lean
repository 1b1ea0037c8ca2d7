import Mathlib.Data.List.Induction
import Mathlib.Data.List.Nodup
import Mathlib.Data.List.Perm.Subperm
import ScrapMonitoring.Foundations.Time

/-!
# One-second slots

A window of observations is divided into slots of a second, counted from an anchor among the
observations and not from the clock. `observationSlots` selects the last observation of each slot,
and moves the anchor along with the window. Whatever it selects is in the window, and selected once.
-/

namespace ScrapMonitoring.Filtering

/-! ## The slots of a dictionary -/

/-- `slots[slot] = index`: a slot that is there keeps its place. -/
def setSlot (slot : ℤ) (index : ℕ) : List (ℤ × ℕ) → List (ℤ × ℕ)
  | [] => [(slot, index)]
  | entry :: rest =>
    if entry.1 = slot then (slot, index) :: rest else entry :: setSlot slot index rest

section

variable {slot : ℤ} {index : ℕ} {slots : List (ℤ × ℕ)}

theorem mem_setSlot {i : ℕ} (h : i ∈ (setSlot slot index slots).map Prod.snd) :
    i = index ∨ i ∈ slots.map Prod.snd := by
  induction slots with
  | nil => simpa [setSlot] using h
  | cons entry rest ih =>
    unfold setSlot at h
    split_ifs at h
    · rw [List.map_cons, List.mem_cons] at h ⊢
      exact h.imp_right .inr
    · rw [List.map_cons, List.mem_cons] at h ⊢
      obtain h | h := h
      · exact .inr (.inl h)
      · exact (ih h).imp_right .inr

theorem nodup_setSlot (h : (slots.map Prod.snd).Nodup) (hindex : index ∉ slots.map Prod.snd) :
    ((setSlot slot index slots).map Prod.snd).Nodup := by
  induction slots with
  | nil => simp [setSlot]
  | cons entry rest ih =>
    rw [List.map_cons, List.nodup_cons] at h
    rw [List.map_cons, List.mem_cons, not_or] at hindex
    unfold setSlot
    split_ifs
    · rw [List.map_cons, List.nodup_cons]
      exact ⟨hindex.2, h.2⟩
    · rw [List.map_cons, List.nodup_cons]
      refine ⟨fun hmem => ?_, ih h.2 hindex.2⟩
      obtain heq | hmem := mem_setSlot hmem
      · exact hindex.1 heq.symm
      · exact h.1 hmem

end

/-! ## The selection -/

/-- The slot of an observation; half a second rounds to the middle of the slot. -/
def slotOf (anchor time : ℤ) : ℤ := (time - anchor + 500000) / 1000000

/-- The slots of observations, each with its last one. -/
def slotsOf (anchor : ℤ) (current : List (ℤ × ℕ)) : List (ℤ × ℕ) :=
  current.foldl (fun slots entry => setSlot (slotOf anchor entry.1) entry.2 slots) []

/-- The observations of the window, with their positions. -/
def inWindow (times : List ℤ) (now : ℤ) (size : ℕ) : List (ℤ × ℕ) :=
  times.zipIdx.filter fun entry => 0 ≤ now - entry.1 ∧ now - entry.1 < seconds size

/-- `observation_slots`: the positions of the observations that are selected, and the anchor. -/
def observationSlots (times : List ℤ) (now : ℤ) (size : ℕ) (anchor : Option ℤ) : List ℕ × ℤ :=
  match inWindow times now size with
  | [] => ([], now)
  | first :: rest =>
    let kept := anchor.filter fun anchor => 0 ≤ now - anchor ∧ now - anchor < seconds size
    let anchor := kept.getD first.1
    let selected := (slotsOf anchor (first :: rest)).map Prod.snd
    (selected.drop (selected.length - size), anchor)

theorem slotsOf_concat (anchor : ℤ) (current : List (ℤ × ℕ)) (entry : ℤ × ℕ) :
    slotsOf anchor (current ++ [entry]) =
      setSlot (slotOf anchor entry.1) entry.2 (slotsOf anchor current) := by
  simp [slotsOf, List.foldl_append]

theorem mem_slotsOf {anchor : ℤ} {current : List (ℤ × ℕ)} {i : ℕ}
    (h : i ∈ (slotsOf anchor current).map Prod.snd) : i ∈ current.map Prod.snd := by
  induction current using List.reverseRecOn with
  | nil => simp [slotsOf] at h
  | append_singleton current entry ih =>
    rw [slotsOf_concat] at h
    rw [List.map_append, List.mem_append]
    obtain rfl | h := mem_setSlot h
    · exact .inr (by simp)
    · exact .inl (ih h)

/-- A position is selected once. -/
theorem nodup_slotsOf {anchor : ℤ} {current : List (ℤ × ℕ)} (h : (current.map Prod.snd).Nodup) :
    ((slotsOf anchor current).map Prod.snd).Nodup := by
  induction current using List.reverseRecOn with
  | nil => simp [slotsOf]
  | append_singleton current entry ih =>
    rw [List.map_append, List.nodup_append] at h
    rw [slotsOf_concat]
    refine nodup_setSlot (ih h.1) fun hmem => ?_
    exact h.2.2 entry.2 (mem_slotsOf hmem) entry.2 (by simp) rfl

theorem nodup_inWindow (times : List ℤ) (now : ℤ) (size : ℕ) :
    ((inWindow times now size).map Prod.snd).Nodup := by
  have hnodup : (times.zipIdx.map Prod.snd).Nodup := by
    rw [List.zipIdx_map_snd]
    exact List.nodup_range'
  exact hnodup.sublist (List.filter_sublist.map _)

section

variable {times : List ℤ} {now : ℤ} {size : ℕ} {anchor : Option ℤ}

theorem observationSlots_nodup : (observationSlots times now size anchor).1.Nodup := by
  have hnodup := nodup_inWindow times now size
  unfold observationSlots
  cases hwindow : inWindow times now size with
  | nil => exact List.nodup_nil
  | cons first rest =>
    rw [hwindow] at hnodup
    exact (nodup_slotsOf hnodup).sublist (List.drop_sublist _ _)

end

/-! ## What is kept -/

/-- The observations at the selected positions. -/
def pick {α : Type*} (samples : List α) (selected : List ℕ) : List α :=
  selected.filterMap fun index => samples[index]?

theorem mem_of_mem_pick {α : Type*} {samples : List α} {selected : List ℕ} {a : α}
    (h : a ∈ pick samples selected) : a ∈ samples := by
  obtain ⟨index, -, hindex⟩ := List.mem_filterMap.1 h
  exact List.mem_of_getElem? hindex

/-- Observations at different times stay so. -/
theorem nodup_pick {α β : Type*} {f : α → β} {samples : List α} {selected : List ℕ}
    (h : (samples.map f).Nodup) (hselected : selected.Nodup) :
    ((pick samples selected).map f).Nodup := by
  unfold pick
  rw [List.map_filterMap]
  refine hselected.filterMap fun i j b hi hj => ?_
  obtain ⟨a, ha, rfl⟩ := Option.map_eq_some_iff.1 hi
  obtain ⟨a', ha', heq⟩ := Option.map_eq_some_iff.1 hj
  have hi' : (samples.map f)[i]? = some (f a) := by
    rw [List.getElem?_map, ha]
    rfl
  have hj' : (samples.map f)[j]? = some (f a) := by
    rw [List.getElem?_map, ha', ← heq]
    rfl
  exact (List.getElem?_inj (List.getElem?_eq_some_iff.1 hi').1 h).1 (hi'.trans hj'.symm)

theorem length_pick_le {α β : Type*} {f : α → β} {samples : List α} {selected : List ℕ}
    (h : (samples.map f).Nodup) (hselected : selected.Nodup) :
    (pick samples selected).length ≤ samples.length := by
  have hsubset : (pick samples selected).map f ⊆ samples.map f := by
    intro b hb
    obtain ⟨a, ha, rfl⟩ := List.mem_map.1 hb
    exact List.mem_map_of_mem (mem_of_mem_pick ha)
  simpa using (List.subperm_of_subset (nodup_pick h hselected) hsubset).length_le

end ScrapMonitoring.Filtering
