import Mathlib.Data.List.Dedup
import Mathlib.Data.List.MinMax
import Mathlib.Order.Interval.Set.LinearOrder

/-!
# Queries over rows

Tables are lists of rows. `outerJoin on left right` puts beside each row of the left table the rows
of the right one that it goes with, or none; if a key tells the rows of the right table apart and at
most one of them goes with each row, the left table is neither thinned out nor multiplied
(`outerJoin_eq_map`). `groupMin key value` has a row for every key with the least value of its group
(`mem_groupMin`). The pages of a list, put together, are the list (`pages_flatten`).
-/

namespace ScrapMonitoring

/-! ## Outer joins -/

section OuterJoin

variable {α β κ : Type*} {on : α → β → Bool} {left : List α} {right : List β}

/-- `left LEFT OUTER JOIN right ON on`. -/
def outerJoin (on : α → β → Bool) (left : List α) (right : List β) : List (α × Option β) :=
  left.flatMap fun a =>
    match right.filter (on a) with
    | [] => [(a, none)]
    | partners => partners.map fun b => (a, some b)

/-- **A join on a key keeps the rows of the left table as they are.** -/
theorem outerJoin_eq_map (key : β → κ) (hkeys : (right.map key).Nodup)
    (hon : ∀ a ∈ left, ∀ b b', on a b → on a b' → key b = key b') :
    outerJoin on left right = left.map fun a => (a, right.find? (on a)) := by
  unfold outerJoin
  rw [List.map_eq_flatMap]
  refine List.flatMap_congr fun a ha => ?_
  rw [← List.head?_filter]
  cases hpartners : right.filter (on a) with
  | nil => rfl
  | cons b partners =>
    cases partners with
    | nil => rfl
    | cons b' partners =>
      -- two partners of one row would have one key
      exfalso
      have hsub : ((right.filter (on a)).map key).Nodup :=
        hkeys.sublist (List.filter_sublist.map key)
      have hb : b ∈ right.filter (on a) := by rw [hpartners]; exact List.mem_cons_self
      have hb' : b' ∈ right.filter (on a) := by
        rw [hpartners]
        exact List.mem_cons_of_mem _ List.mem_cons_self
      have hkey := hon a ha b b' (List.mem_filter.1 hb).2 (List.mem_filter.1 hb').2
      rw [hpartners] at hsub
      simp [hkey] at hsub

theorem outerJoin_map_fst (key : β → κ) (hkeys : (right.map key).Nodup)
    (hon : ∀ a ∈ left, ∀ b b', on a b → on a b' → key b = key b') :
    (outerJoin on left right).map Prod.fst = left := by
  rw [outerJoin_eq_map key hkeys hon, List.map_map]
  exact List.map_id _

end OuterJoin

/-! ## Groups -/

section Groups

variable {α κ τ : Type*} [DecidableEq κ] [LinearOrder τ] {key : α → κ} {value : α → τ} {l : List α}

/-- `SELECT key, min(value) ... GROUP BY key`. -/
def groupMin (key : α → κ) (value : α → τ) (l : List α) : List (κ × τ) :=
  (l.map key).dedup.filterMap fun k => ((l.filter fun a => key a = k).map value).min?.map (k, ·)

/-- The row of a key has the least of the values of the key. -/
theorem mem_groupMin {k : κ} {v : τ} : (k, v) ∈ groupMin key value l ↔
    (∃ a ∈ l, key a = k ∧ value a = v) ∧ ∀ b ∈ l, key b = k → v ≤ value b := by
  unfold groupMin
  simp only [List.mem_filterMap, List.mem_dedup, List.mem_map, Option.map_eq_some_iff,
    Prod.mk.injEq]
  constructor
  · rintro ⟨k', -, v', hmin, rfl, rfl⟩
    obtain ⟨hmem, hle⟩ := List.min?_eq_some_iff.1 hmin
    obtain ⟨a, ha, rfl⟩ := List.mem_map.1 hmem
    obtain ⟨ha, hkey⟩ := List.mem_filter.1 ha
    refine ⟨⟨a, ha, of_decide_eq_true hkey, rfl⟩, fun b hb hkb => hle _ ?_⟩
    exact List.mem_map_of_mem (List.mem_filter.2 ⟨hb, decide_eq_true hkb⟩)
  · rintro ⟨⟨a, ha, rfl, rfl⟩, hle⟩
    refine ⟨key a, ⟨a, ha, rfl⟩, value a, List.min?_eq_some_iff.2 ⟨?_, ?_⟩, rfl, rfl⟩
    · exact List.mem_map_of_mem (List.mem_filter.2 ⟨ha, decide_eq_true rfl⟩)
    · intro w hw
      obtain ⟨b, hb, rfl⟩ := List.mem_map.1 hw
      obtain ⟨hb, hkey⟩ := List.mem_filter.1 hb
      exact hle b hb (of_decide_eq_true hkey)

/-- Every key has one row. -/
theorem nodup_groupMin : ((groupMin key value l).map Prod.fst).Nodup := by
  have hsub : ((groupMin key value l).map Prod.fst).Sublist (l.map key).dedup := by
    unfold groupMin
    rw [List.map_filterMap]
    have hfst : ∀ k, (((l.filter fun a => key a = k).map value).min?.map (k, ·)).map Prod.fst =
        ((l.filter fun a => key a = k).map value).min?.map fun _ => k := fun k => by
      rw [Option.map_map]
      rfl
    simp only [hfst]
    induction (l.map key).dedup with
    | nil => exact .slnil
    | cons k ks ih =>
      rw [List.filterMap_cons]
      cases ((l.filter fun a => key a = k).map value).min? with
      | none => exact ih.cons k
      | some v => exact ih.cons_cons k
  exact (List.nodup_dedup _).sublist hsub

end Groups

/-! ## Pages -/

section Pages

variable {α : Type*}

/-- `OFFSET (page - 1) * size LIMIT size`, where there are rows at the offset. -/
def pageOf (size page : ℕ) (rows : List α) : List α :=
  if (page - 1) * size < rows.length then (rows.drop ((page - 1) * size)).take size else []

def totalPages (total size : ℕ) : ℕ := (total + size - 1) / size

theorem pageOf_eq (size page : ℕ) (rows : List α) :
    pageOf size page rows = (rows.drop ((page - 1) * size)).take size := by
  unfold pageOf
  split_ifs with h
  · rfl
  · rw [List.drop_eq_nil_of_le (not_lt.1 h), List.take_nil]

/-- The first pages hold the first rows. -/
theorem pages_take (size n : ℕ) (rows : List α) :
    (List.range n).flatMap (fun k => pageOf size (k + 1) rows) = rows.take (n * size) := by
  induction n with
  | zero => simp
  | succ n ih =>
    rw [List.range_succ, List.flatMap_append, ih, List.flatMap_singleton, pageOf_eq,
      Nat.add_sub_cancel, Nat.succ_mul, List.take_add]

/-- **The pages together are the rows**, in their order. -/
theorem pages_flatten {size : ℕ} (hsize : 0 < size) (rows : List α) :
    (List.range (totalPages rows.length size)).flatMap (fun k => pageOf size (k + 1) rows) =
      rows := by
  rw [pages_take]
  refine List.take_of_length_le ?_
  have hdiv := Nat.div_add_mod (rows.length + size - 1) size
  have hmod := Nat.mod_lt (rows.length + size - 1) hsize
  unfold totalPages
  rw [Nat.mul_comm] at hdiv
  omega

end Pages

/-! ## Spans that overlap -/

section Overlap

variable {τ : Type*} [LinearOrder τ] [DenselyOrdered τ] {a b c d : τ}

/-- Two open spans overlap if they are not empty and each begins before the other ends. -/
theorem Ioo_overlap (hcd : c < d) :
    (Set.Ioo a b ∩ Set.Ioo c d).Nonempty ↔ a < b ∧ c < b ∧ a < d := by
  rw [Set.Ioo_inter_Ioo, Set.nonempty_Ioo, max_lt_iff, lt_min_iff, lt_min_iff]
  constructor
  · rintro ⟨⟨hab, had⟩, hcb, -⟩
    exact ⟨hab, hcb, had⟩
  · rintro ⟨hab, hcb, had⟩
    exact ⟨⟨hab, had⟩, hcb, hcd⟩

/-- So does a span that holds its beginning. -/
theorem Ico_overlap (hcd : c < d) (hab : a < b) :
    (Set.Ico a b ∩ Set.Ioo c d).Nonempty ↔ c < b ∧ a < d := by
  constructor
  · rintro ⟨x, ⟨hax, hxb⟩, hcx, hxd⟩
    exact ⟨hcx.trans hxb, hax.trans_lt hxd⟩
  · rintro ⟨hcb, had⟩
    obtain ⟨x, hx⟩ := (Ioo_overlap hcd).2 ⟨hab, hcb, had⟩
    exact ⟨x, Set.Ioo_subset_Ico_self hx.1, hx.2⟩

end Overlap

end ScrapMonitoring
