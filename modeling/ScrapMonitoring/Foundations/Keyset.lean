import ScrapMonitoring.Foundations.Sorted

/-!
# Pages after a key

`firstBy key n l` is `ORDER BY key LIMIT n`: the first `n` rows of a table in the order of a key. A
row that is not among them is not before the last of them (`firstBy_cover`), so whoever goes on
after the last key passes over no row.
-/

namespace ScrapMonitoring

variable {α κ : Type*} [LinearOrder κ] {key : α → κ} {n : ℕ} {l : List α} {a : α}

def firstBy (key : α → κ) (n : ℕ) (l : List α) : List α := (sortedBy key l).take n

theorem mem_of_mem_firstBy (h : a ∈ firstBy key n l) : a ∈ l :=
  (mem_sortedBy key l).1 (List.mem_of_mem_take h)

theorem length_firstBy_le : (firstBy key n l).length ≤ n := by
  unfold firstBy
  rw [List.length_take]
  exact min_le_left _ _

theorem nodup_firstBy {β : Type*} {f : α → β} (h : (l.map f).Nodup) :
    ((firstBy key n l).map f).Nodup := by
  have hperm : ((sortedBy key l).map f).Nodup := ((sortedBy_perm key l).map f).nodup_iff.2 h
  exact hperm.sublist ((List.take_sublist n _).map f)

/-- **A page passes over no row**: a row is on it, or not before its last row. -/
theorem firstBy_cover (key : α → κ) (hn : 0 < n) (ha : a ∈ l) :
    a ∈ firstBy key n l ∨ ∃ last ∈ (firstBy key n l).getLast?, key last ≤ key a := by
  have hsorted := pairwise_sortedBy key l
  rw [← List.take_append_drop n (sortedBy key l), List.pairwise_append] at hsorted
  have hmem := (mem_sortedBy key l).2 ha
  rw [← List.take_append_drop n (sortedBy key l)] at hmem
  rcases List.mem_append.1 hmem with hmem | hmem
  · exact .inl hmem
  · right
    have hne : firstBy key n l ≠ [] := by
      intro hnil
      rcases List.take_eq_nil_iff.1 hnil with hzero | hempty
      · exact hn.ne' hzero
      · rw [hempty] at hmem
        simp at hmem
    obtain ⟨last, hlast⟩ := Option.ne_none_iff_exists'.1 (mt List.getLast?_eq_none_iff.1 hne)
    exact ⟨last, hlast, hsorted.2.2 last (List.mem_of_getLast? hlast) a hmem⟩

end ScrapMonitoring
