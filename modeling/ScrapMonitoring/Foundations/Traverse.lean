import Mathlib.Data.List.Basic

/-!
# Lists of fallible values

`l.mapM f` in `Option` is the list of the values of `f`, if there is one for every entry.
-/

namespace ScrapMonitoring

variable {α β : Type*} {f : α → Option β} {l : List α} {r : List β}

theorem exists_mapM (h : ∀ a ∈ l, ∃ b, f a = some b) : ∃ r, l.mapM f = some r := by
  induction l with
  | nil => exact ⟨[], rfl⟩
  | cons a l ih =>
    obtain ⟨b, hb⟩ := h a List.mem_cons_self
    obtain ⟨r, hr⟩ := ih fun a' ha' => h a' (List.mem_cons_of_mem a ha')
    refine ⟨b :: r, ?_⟩
    rw [List.mapM_cons, hb, hr]
    rfl

theorem mapM_eq_some {g : α → β} (h : ∀ a ∈ l, f a = some (g a)) : l.mapM f = some (l.map g) := by
  induction l with
  | nil => rfl
  | cons a l ih =>
    rw [List.mapM_cons, h a List.mem_cons_self, ih fun b hb => h b (List.mem_cons_of_mem a hb)]
    rfl

/-- The values are those of the entries, in their order. -/
theorem getElem?_mapM (h : l.mapM f = some r) (i : ℕ) : r[i]? = l[i]?.bind f := by
  induction l generalizing r i with
  | nil =>
    obtain rfl := Option.some.inj h
    rfl
  | cons a l ih =>
    rw [List.mapM_cons] at h
    obtain ⟨b, hb, hrest⟩ := Option.bind_eq_some_iff.1 h
    obtain ⟨rest, hmap, hr⟩ := Option.bind_eq_some_iff.1 hrest
    obtain rfl := Option.some.inj hr
    cases i with
    | zero => exact hb.symm
    | succ i => exact ih hmap i

theorem length_mapM (h : l.mapM f = some r) : r.length = l.length := by
  induction l generalizing r with
  | nil =>
    obtain rfl := Option.some.inj h
    rfl
  | cons a l ih =>
    rw [List.mapM_cons] at h
    obtain ⟨b, -, hrest⟩ := Option.bind_eq_some_iff.1 h
    obtain ⟨rest, hmap, hr⟩ := Option.bind_eq_some_iff.1 hrest
    obtain rfl := Option.some.inj hr
    rw [List.length_cons, List.length_cons, ih hmap]

/-- The values as a map. -/
theorem map_of_mapM (h : l.mapM f = some r) : l.map f = r.map some := by
  refine List.ext_getElem? fun i => ?_
  rw [List.getElem?_map, List.getElem?_map]
  cases hi : l[i]? with
  | none =>
    rw [getElem?_mapM h, hi]
    rfl
  | some a =>
    have hlt : i < r.length := by
      rw [length_mapM h]
      exact (List.getElem?_eq_some_iff.1 hi).1
    have hr := getElem?_mapM h i
    rw [hi, List.getElem?_eq_getElem hlt] at hr
    rw [Option.bind_some] at hr
    rw [List.getElem?_eq_getElem hlt, Option.map_some, Option.map_some, hr]

end ScrapMonitoring
