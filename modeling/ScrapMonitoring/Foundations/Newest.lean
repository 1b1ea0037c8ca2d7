import Mathlib.Data.List.MinMax
import Mathlib.Data.List.Induction

/-!
# The newest entry of a list

A list holds entries in the order in which they arrived. `List.argmax key` is the first to arrive
of the entries with the greatest key; `lastMax key` is the last to arrive of them, which is what a
query for the greatest key returns when it breaks ties by the greatest number.
-/

namespace ScrapMonitoring

variable {α β κ : Type*} [LinearOrder κ] {key : α → κ} {l : List α} {a r : α}

/-- The last of the entries with the greatest key. -/
def lastMax (key : α → κ) (l : List α) : Option α := l.reverse.argmax key

theorem lastMax_concat (key : α → κ) (l : List α) (a : α) :
    lastMax key (l ++ [a]) =
      match lastMax key l with
      | none => some a
      | some c => if key a < key c then some c else some a := by
  rw [lastMax, List.reverse_append, List.reverse_singleton, List.singleton_append,
    List.argmax_cons, lastMax]
  cases l.reverse.argmax key <;> rfl

theorem argmax_concat_eq (key : α → κ) (l : List α) (a : α) :
    (l ++ [a]).argmax key =
      match l.argmax key with
      | none => some a
      | some c => if key c < key a then some a else some c := by
  rw [List.argmax_concat]
  cases l.argmax key <;> rfl

theorem argmax_concat_of_some {c : α} (h : l.argmax key = some c) (a : α) :
    (l ++ [a]).argmax key = some (if key c < key a then a else c) := by
  rw [argmax_concat_eq, h]
  exact (apply_ite some _ _ _).symm

theorem lastMax_mem (h : lastMax key l = some r) : r ∈ l :=
  List.mem_reverse.1 (List.argmax_mem h)

theorem le_lastMax (h : lastMax key l = some r) (ha : a ∈ l) : key a ≤ key r :=
  List.le_of_mem_argmax (List.mem_reverse.2 ha) h

theorem lastMax_eq_none : lastMax key l = none ↔ l = [] := by
  simp [lastMax]

theorem lastMax_append (key : α → κ) (l l' : List α) :
    lastMax key (l ++ l') =
      match lastMax key l' with
      | none => lastMax key l
      | some r =>
        if (lastMax key l).all fun c => key c ≤ key r then some r else lastMax key l := by
  induction l' using List.reverseRecOn with
  | nil => rw [List.append_nil, lastMax_eq_none.2 rfl]
  | append_singleton l' a ih =>
    rw [← List.append_assoc, lastMax_concat, ih, lastMax_concat]
    rcases lastMax key l' with _ | r
    · rcases lastMax key l with _ | c
      · rfl
      · by_cases h : key a < key c <;> simp [h, not_le, not_lt.1]
    · rcases lastMax key l with _ | c
      · by_cases h : key a < key r <;> simp [h]
      · by_cases hcr : key c ≤ key r
        · by_cases har : key a < key r
          · simp [hcr, har]
          · simp [hcr, har, hcr.trans (not_lt.1 har)]
        · by_cases har : key a < key r
          · simp [hcr, har, har.trans (not_le.1 hcr)]
          · by_cases hac : key a < key c
            · simp [hcr, har, hac, not_le.2 hac]
            · simp [hcr, har, hac, not_lt.1 hac]

/-- An entry whose key is greater than all others is the newest. -/
theorem lastMax_eq_of_lt (hr : r ∈ l) (h : ∀ a ∈ l, a ≠ r → key a < key r) :
    lastMax key l = some r := by
  cases hc : lastMax key l with
  | none => exact absurd hr (by simp [lastMax_eq_none.1 hc])
  | some c =>
    by_cases hcr : c = r
    · rw [hcr]
    · exact absurd (le_lastMax hc hr) (not_le.2 (h c (lastMax_mem hc) hcr))

/-- Where no two entries have one key, their order does not matter. -/
theorem lastMax_perm {l' : List α} (hperm : l.Perm l')
    (hinj : ∀ a ∈ l, ∀ b ∈ l, key a = key b → a = b) : lastMax key l = lastMax key l' := by
  cases hr : lastMax key l' with
  | none =>
    rw [lastMax_eq_none.1 hr] at hperm
    rw [hperm.eq_nil, lastMax_eq_none.2 rfl]
  | some r =>
    have hrl := hperm.mem_iff.2 (lastMax_mem hr)
    refine lastMax_eq_of_lt hrl fun a ha hne => ?_
    exact lt_of_le_of_ne (le_lastMax hr (hperm.mem_iff.1 ha)) fun heq => hne (hinj a ha r hrl heq)

/-- The entry with the greatest key that arrived first is the first of its key. -/
theorem argmax_head? (h : l.argmax key = some r) :
    (l.filter fun x => key x = key r).head? = some r := by
  induction l using List.reverseRecOn generalizing r with
  | nil => simp at h
  | append_singleton l a ih =>
    rw [argmax_concat_eq] at h
    cases hc : l.argmax key with
    | none =>
      obtain rfl := List.argmax_eq_none.1 hc
      obtain rfl : a = r := by simpa using h
      simp
    | some c =>
      simp only [hc] at h
      by_cases hlt : key c < key a
      · obtain rfl : a = r := by simpa [hlt] using h
        have hnone : l.filter (fun x => key x = key a) = [] := by
          refine List.filter_eq_nil_iff.2 fun x hx heq => ?_
          have hle : key x ≤ key c := List.le_of_mem_argmax hx hc
          rw [of_decide_eq_true heq] at hle
          exact absurd hlt (not_lt.2 hle)
        rw [List.filter_append, hnone]
        simp
      · obtain rfl : c = r := by simpa [hlt] using h
        rw [List.filter_append, List.head?_append, ih hc]
        rfl

/-- The entry with the greatest key that arrived last is the last of its key. -/
theorem lastMax_getLast? (h : lastMax key l = some r) :
    (l.filter fun x => key x = key r).getLast? = some r := by
  rw [List.getLast?_eq_head?_reverse, ← List.filter_reverse]
  exact argmax_head? h

/-- Only the order of the keys matters. -/
theorem argmax_congr {κ' : Type*} [LinearOrder κ'] {key' : α → κ'}
    (h : ∀ a b, key a < key b ↔ key' a < key' b) (l : List α) :
    l.argmax key = l.argmax key' := by
  induction l using List.reverseRecOn with
  | nil => rfl
  | append_singleton l a ih =>
    rw [argmax_concat_eq, argmax_concat_eq, ih]
    cases l.argmax key' with
    | none => rfl
    | some c => simp only [h]

theorem lastMax_congr {κ' : Type*} [LinearOrder κ'] {key' : α → κ'}
    (h : ∀ a b, key a < key b ↔ key' a < key' b) (l : List α) :
    lastMax key l = lastMax key' l :=
  argmax_congr h l.reverse

theorem argmax_map (f : α → β) (key : β → κ) (l : List α) :
    (l.map f).argmax key = (l.argmax (key ∘ f)).map f := by
  induction l using List.reverseRecOn with
  | nil => rfl
  | append_singleton l a ih =>
    rw [List.map_append, List.map_singleton, argmax_concat_eq, ih, argmax_concat_eq]
    cases l.argmax (key ∘ f) with
    | none => rfl
    | some c => by_cases h : key (f c) < key (f a) <;> simp [h]

theorem lastMax_map (f : α → β) (key : β → κ) (l : List α) :
    lastMax key (l.map f) = (lastMax (key ∘ f) l).map f := by
  rw [lastMax, ← List.map_reverse, argmax_map, lastMax]

end ScrapMonitoring
