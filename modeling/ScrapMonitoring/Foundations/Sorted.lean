import Mathlib.Data.List.Sort

/-!
# Sorting by a key

`sortedBy key` is `sorted(..., key=...)`: entries with one key stay in their order.
-/

namespace ScrapMonitoring

variable {α κ : Type*} [LinearOrder κ] (key : α → κ) (l : List α)

def sortedBy : List α := l.insertionSort fun a b => key a ≤ key b

theorem sortedBy_perm : (sortedBy key l).Perm l := List.perm_insertionSort _ l

theorem mem_sortedBy {a : α} : a ∈ sortedBy key l ↔ a ∈ l := (sortedBy_perm key l).mem_iff

theorem pairwise_sortedBy : (sortedBy key l).Pairwise fun a b => key a ≤ key b := by
  have htotal : Std.Total fun a b : α => key a ≤ key b := ⟨fun a b => le_total (key a) (key b)⟩
  have htrans : IsTrans α fun a b => key a ≤ key b := ⟨fun a b c hab hbc => le_trans hab hbc⟩
  exact List.pairwise_insertionSort _ l

/-- Rows sorted by a key of what they are mapped to. -/
theorem map_sortedBy {β : Type*} (f : β → α) (l : List β) :
    (sortedBy (fun b => key (f b)) l).map f = sortedBy key (l.map f) :=
  List.map_insertionSort _ _ f l fun _ _ _ _ => Iff.rfl

/-- A symmetric relation holds of a list pairwise exactly when it does at different positions. -/
theorem pairwise_iff_of_symmetric {l : List α} {R : α → α → Prop}
    (hsymm : ∀ a b, R a b → R b a) :
    l.Pairwise R ↔ ∀ i j, ∀ (hi : i < l.length) (hj : j < l.length), i ≠ j → R l[i] l[j] := by
  rw [List.pairwise_iff_getElem]
  constructor
  · intro h i j hi hj hij
    rcases Nat.lt_or_gt_of_ne hij with hlt | hgt
    · exact h i j hi hj hlt
    · exact hsymm _ _ (h j i hj hi hgt)
  · intro h i j hi hj hlt
    exact h i j hi hj hlt.ne

end ScrapMonitoring
