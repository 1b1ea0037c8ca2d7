import Mathlib.Algebra.Order.Ring.Int
import Mathlib.Data.List.Perm.Basic
import Mathlib.Data.List.Induction

/-!
# Lists of bins

`fillBins n entries` appends the value of every entry to the bin of its index, as indexing a list
does: an index below zero counts from the end, and one out of range is an error. Entries whose
indices are in range make up the bins (`fillBins_eq`), each in exactly one of them.
-/

namespace ScrapMonitoring

variable {β : Type*}

/-- `bins[index].append(value)`. -/
def appendTo (bins : List (List β)) (entry : ℤ × β) : Option (List (List β)) :=
  let index := if entry.1 < 0 then entry.1 + bins.length else entry.1
  if 0 ≤ index ∧ index < bins.length then
    some (bins.modify index.toNat fun bin => bin ++ [entry.2])
  else none

def fillBins (n : ℕ) (entries : List (ℤ × β)) : Option (List (List β)) :=
  entries.foldlM appendTo (List.replicate n [])

/-- The values of the entries with this index. -/
def binOf (entries : List (ℤ × β)) (i : ℕ) : List β :=
  (entries.filter fun entry => entry.1 = (i : ℤ)).map Prod.snd

variable {n : ℕ} {entries : List (ℤ × β)}

theorem appendTo_binOf {entry : ℤ × β} (h : 0 ≤ entry.1 ∧ entry.1 < n) :
    appendTo ((List.range n).map (binOf entries)) entry =
      some ((List.range n).map (binOf (entries ++ [entry]))) := by
  have hindex : ¬entry.1 < 0 := not_lt.2 h.1
  simp only [appendTo, if_neg hindex, List.length_map, List.length_range]
  rw [if_pos h, Option.some.injEq]
  apply List.ext_getElem
  · simp
  · intro i hi hi'
    simp only [List.getElem_modify, List.getElem_map, List.getElem_range, binOf, List.filter_append,
      List.map_append]
    by_cases hentry : entry.1 = i
    · rw [if_pos (by omega), List.filter_singleton, decide_eq_true hentry]
      rfl
    · rw [if_neg (by omega), List.filter_singleton, decide_eq_false hentry]
      exact (List.append_nil _).symm

/-- **Entries in range make up the bins**. -/
theorem fillBins_eq (h : ∀ entry ∈ entries, 0 ≤ entry.1 ∧ entry.1 < n) :
    fillBins n entries = some ((List.range n).map (binOf entries)) := by
  induction entries using List.reverseRecOn with
  | nil =>
    have hempty :
        (List.range n).map (binOf []) = List.replicate (List.range n).length ([] : List β) :=
      List.map_eq_replicate_iff.2 fun _ _ => rfl
    rw [hempty, List.length_range]
    rfl
  | append_singleton entries entry ih =>
    have hentry := h entry (List.mem_append_right _ (List.mem_singleton_self _))
    have hbins := ih fun e he => h e (List.mem_append_left _ he)
    rw [fillBins] at hbins ⊢
    rw [List.foldlM_append, hbins]
    change (appendTo _ entry).bind some = _
    rw [appendTo_binOf hentry]
    rfl

theorem mem_binOf {i : ℕ} {value : β} : value ∈ binOf entries i ↔ ((i : ℤ), value) ∈ entries := by
  unfold binOf
  constructor
  · intro h
    obtain ⟨⟨j, v⟩, hentry, rfl⟩ := List.mem_map.1 h
    obtain ⟨hmem, hj⟩ := List.mem_filter.1 hentry
    rwa [← of_decide_eq_true hj]
  · intro h
    exact List.mem_map.2 ⟨_, List.mem_filter.2 ⟨h, decide_eq_true rfl⟩, rfl⟩

theorem binOf_perm {entries' : List (ℤ × β)} (h : entries.Perm entries') (i : ℕ) :
    (binOf entries i).Perm (binOf entries' i) :=
  (h.filter _).map _

end ScrapMonitoring
