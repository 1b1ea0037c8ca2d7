import Mathlib.Algebra.Order.Field.Basic
import ScrapMonitoring.Foundations.Sorted

/-!
# The median

`median` is `statistics.median`: the middle value of an odd number of values, the mean of the two
middle ones of an even number. An odd number of values whose median is not below a bound has a
majority that is not below it (`majority_of_median`).
-/

namespace ScrapMonitoring

variable {α : Type*} [Field α] [LinearOrder α]

/-- `statistics.median`; there is none of no values. -/
def median (values : List α) : Option α :=
  let sorted := sortedBy id values
  let middle := sorted.length / 2
  if sorted.length % 2 = 1 then sorted[middle]?
  else
    match sorted[middle - 1]?, sorted[middle]? with
    | some below, some above => some ((below + above) / 2)
    | _, _ => none

theorem median_odd {values : List α} (hodd : values.length % 2 = 1) :
    median values = (sortedBy id values)[values.length / 2]? := by
  unfold median
  dsimp only
  rw [(sortedBy_perm id values).length_eq, if_pos hodd]

/-- **Of an odd number of values a majority is not below a bound of the median.** -/
theorem majority_of_median {values : List α} {m bound : α} (h : median values = some m)
    (hodd : values.length % 2 = 1) (hbound : bound ≤ m) :
    (values.length + 1) / 2 ≤ values.countP fun value => bound ≤ value := by
  have hlength := (sortedBy_perm id values).length_eq
  rw [median_odd hodd] at h
  obtain ⟨hlt, hm⟩ := List.getElem?_eq_some_iff.1 h
  -- from the middle on, no value is below the median
  have hupper : ∀ value ∈ (sortedBy id values).drop (values.length / 2), bound ≤ value := by
    intro value hvalue
    rw [List.drop_eq_getElem_cons hlt, hm] at hvalue
    obtain rfl | htail := List.mem_cons.1 hvalue
    · exact hbound
    · have hsorted :=
        (pairwise_sortedBy id values).sublist (List.drop_sublist (values.length / 2) _)
      rw [List.drop_eq_getElem_cons hlt, hm] at hsorted
      exact hbound.trans ((List.pairwise_cons.1 hsorted).1 value htail)
  calc (values.length + 1) / 2
      = ((sortedBy id values).drop (values.length / 2)).length := by
        rw [List.length_drop, hlength]
        omega
    _ = ((sortedBy id values).drop (values.length / 2)).countP fun value => bound ≤ value := by
        refine (List.countP_eq_length.2 fun value hvalue => ?_).symm
        exact decide_eq_true (hupper value hvalue)
    _ ≤ (sortedBy id values).countP fun value => bound ≤ value :=
        (List.drop_sublist _ _).countP_le
    _ = values.countP fun value => bound ≤ value := (sortedBy_perm id values).countP_eq _

/-- The order of the values does not matter. -/
theorem median_perm {values values' : List α} (h : values.Perm values') :
    median values = median values' := by
  have hsorted : sortedBy id values = sortedBy id values' := by
    refine List.Perm.eq_of_pairwise (fun a b _ _ => le_antisymm)
      (pairwise_sortedBy id values) (pairwise_sortedBy id values') ?_
    exact (sortedBy_perm id values).trans (h.trans (sortedBy_perm id values').symm)
  unfold median
  rw [hsorted]

/-- The median is a value, or the mean of two. -/
theorem median_cases {values : List α} {m : α} (h : median values = some m) :
    m ∈ values ∨ ∃ below ∈ values, ∃ above ∈ values, m = (below + above) / 2 := by
  unfold median at h
  dsimp only at h
  split_ifs at h
  · exact .inl ((mem_sortedBy id values).1 (List.mem_of_getElem? h))
  · split at h
    · next below above hbelow habove =>
      refine .inr ⟨below, ?_, above, ?_, (Option.some.inj h).symm⟩
      · exact (mem_sortedBy id values).1 (List.mem_of_getElem? hbelow)
      · exact (mem_sortedBy id values).1 (List.mem_of_getElem? habove)
    · cases h

/-- The median lies between the bounds of the values. -/
theorem median_mem_Icc [IsStrictOrderedRing α] {values : List α} {m lower upper : α}
    (h : median values = some m) (hvalues : ∀ value ∈ values, value ∈ Set.Icc lower upper) :
    m ∈ Set.Icc lower upper := by
  rcases median_cases h with hm | ⟨below, hbelow, above, habove, rfl⟩
  · exact hvalues m hm
  · obtain ⟨hlower, hupper⟩ := hvalues below hbelow
    obtain ⟨hlower', hupper'⟩ := hvalues above habove
    constructor
    · rw [le_div_iff₀ two_pos, mul_two]
      exact add_le_add hlower hlower'
    · rw [div_le_iff₀ two_pos, mul_two]
      exact add_le_add hupper hupper'

end ScrapMonitoring
