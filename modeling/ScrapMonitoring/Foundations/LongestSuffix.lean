import Mathlib.Data.List.Chain
import Mathlib.Data.List.Infix

/-!
# The longest suffix of a forward scan

A scan reads the entries of a list in order. `check` gives the value of an entry, or refuses it; a
refused entry forgets what was kept, and so does an entry whose value does not join the one before.
What is kept at the end is the longest suffix all of whose entries pass and join
(`keepSuffix_isLongest`).
-/

namespace ScrapMonitoring

variable {α β : Type*} (check : α → Option β) (joins : β → β → Bool)

/-- One turn of the scan. -/
def keepStep (kept : List β) (a : α) : List β :=
  match check a with
  | none => []
  | some b =>
    match kept.getLast? with
    | none => [b]
    | some last => if joins last b then kept ++ [b] else [b]

def keepSuffix (l : List α) : List β := l.foldl (keepStep check joins) []

/-- All entries pass, with the values `r`, and neighbours join. -/
structure Unbroken (t : List α) (r : List β) : Prop where
  passes : t.map check = r.map some
  chain : r.IsChain fun a b => joins a b = true

variable {check joins} {t : List α} {r : List β} {a : α} {b : β}

namespace Unbroken

theorem nil : Unbroken check joins [] [] := ⟨rfl, .nil⟩

theorem eq_nil (h : Unbroken check joins t []) : t = [] := by
  have hpasses := h.passes
  rwa [List.map_nil, List.map_eq_nil_iff] at hpasses

/-- The values are determined by the entries. -/
theorem unique {r' : List β} (h : Unbroken check joins t r) (h' : Unbroken check joins t r') :
    r = r' :=
  List.map_injective_iff.2 (fun _ _ => Option.some.inj) (h.passes.symm.trans h'.passes)

/-- A suffix ends in the same value. -/
theorem getLast?_eq {t' : List α} {r' : List β} (h : Unbroken check joins t r)
    (h' : Unbroken check joins t' r') (hsuffix : t' <:+ t) (hne : r' ≠ []) :
    r'.getLast? = r.getLast? := by
  obtain ⟨s, rfl⟩ := hsuffix
  have hpasses := h.passes
  rw [List.map_append, h'.passes] at hpasses
  have hlast := congrArg List.getLast? hpasses
  rw [List.getLast?_append, List.getLast?_map (f := some), List.getLast?_map (f := some)] at hlast
  obtain ⟨last, hlast'⟩ := Option.ne_none_iff_exists'.1 (mt List.getLast?_eq_none_iff.1 hne)
  rw [hlast'] at hlast ⊢
  cases hr : r.getLast? with
  | none =>
    rw [hr] at hlast
    cases hlast
  | some last' =>
    rw [hr] at hlast
    exact Option.some.inj hlast

/-- What an unbroken list that ends in `a` is made of. -/
theorem snoc_iff : Unbroken check joins (t ++ [a]) r ↔
    ∃ r' b, r = r' ++ [b] ∧ Unbroken check joins t r' ∧ check a = some b ∧
      ∀ last ∈ r'.getLast?, joins last b = true := by
  constructor
  · intro h
    have hpasses := h.passes
    rw [List.map_append] at hpasses
    obtain ⟨r', s, rfl, ht, ha⟩ := List.append_eq_map_iff.1 hpasses
    obtain ⟨b, rfl⟩ : ∃ b, s = [b] := by
      rw [← List.length_eq_one_iff, ← List.length_map (f := some), ha]
      rfl
    have hchain := List.isChain_append.1 h.chain
    refine ⟨r', b, rfl, ⟨ht.symm, hchain.1⟩, ?_, fun last hlast => ?_⟩
    · exact (List.singleton_inj.1 ha).symm
    · exact hchain.2.2 last hlast b rfl
  · rintro ⟨r', b, rfl, h, hb, hjoins⟩
    refine ⟨?_, List.isChain_append.2 ⟨h.chain, List.isChain_singleton b, ?_⟩⟩
    · rw [List.map_append, List.map_append, h.passes, List.map_singleton, hb]
      rfl
    · intro last hlast b' hb'
      obtain rfl := Option.some.inj hb'
      exact hjoins last hlast

end Unbroken

/-- The longest unbroken suffix, with its values. -/
structure IsLongest (check : α → Option β) (joins : β → β → Bool) (l t : List α) (r : List β) :
    Prop where
  suffix : t <:+ l
  unbroken : Unbroken check joins t r
  longest : ∀ t' r', t' <:+ l → Unbroken check joins t' r' → t' <:+ t

theorem suffix_snoc {t l : List α} {a : α} (h : t <:+ l ++ [a]) :
    t = [] ∨ ∃ t', t = t' ++ [a] ∧ t' <:+ l := by
  rcases List.eq_nil_or_concat t with rfl | ⟨t', c, rfl⟩
  · exact .inl rfl
  · obtain ⟨s, hs⟩ := h
    rw [List.concat_eq_append, ← List.append_assoc] at hs
    obtain ⟨hl, hc⟩ := List.append_inj' hs rfl
    obtain rfl := List.singleton_inj.1 hc
    exact .inr ⟨t', List.concat_eq_append, s, hl⟩

/-- What is kept when one more entry is read. -/
theorem IsLongest.snoc {l : List α} (h : IsLongest check joins l t r) (a : α) :
    ∃ t', IsLongest check joins (l ++ [a]) t' (keepStep check joins r a) := by
  cases hcheck : check a with
  | none =>
    refine ⟨[], List.nil_suffix, ?_, fun t' r' hsuffix hunbroken => ?_⟩
    · rw [keepStep, hcheck]
      exact .nil
    · rcases suffix_snoc hsuffix with rfl | ⟨t'', rfl, -⟩
      · exact List.nil_suffix
      · obtain ⟨-, b, -, -, hb, -⟩ := Unbroken.snoc_iff.1 hunbroken
        rw [hcheck] at hb
        cases hb
  | some b =>
    -- What is kept goes on exactly when the last value joins; otherwise the entry starts anew.
    by_cases hjoins : ∀ last ∈ r.getLast?, joins last b = true
    · have hstep : keepStep check joins r a = r ++ [b] := by
        rw [keepStep, hcheck]
        cases hlast : r.getLast? with
        | none => rw [List.getLast?_eq_none_iff.1 hlast]; rfl
        | some last => exact if_pos (hjoins last hlast)
      rw [hstep]
      refine ⟨t ++ [a], ?_, Unbroken.snoc_iff.2 ⟨r, b, rfl, h.unbroken, hcheck, hjoins⟩, ?_⟩
      · obtain ⟨s, rfl⟩ := h.suffix
        exact ⟨s, (List.append_assoc ..).symm⟩
      · intro t' r' hsuffix hunbroken
        rcases suffix_snoc hsuffix with rfl | ⟨t'', rfl, hsuffix'⟩
        · exact List.nil_suffix
        · obtain ⟨r'', -, -, hunbroken', -⟩ := Unbroken.snoc_iff.1 hunbroken
          obtain ⟨s, rfl⟩ := h.longest t'' r'' hsuffix' hunbroken'
          exact ⟨s, (List.append_assoc ..).symm⟩
    · have hstep : keepStep check joins r a = [b] := by
        rw [keepStep, hcheck]
        cases hlast : r.getLast? with
        | none => rfl
        | some last =>
          refine if_neg fun hjoin => hjoins fun last' hlast' => ?_
          rw [hlast] at hlast'
          obtain rfl := Option.some.inj hlast'
          exact hjoin
      rw [hstep]
      refine ⟨[a], List.suffix_append l [a], ?_, ?_⟩
      · exact Unbroken.snoc_iff (t := []).2 ⟨[], b, rfl, .nil, hcheck,
          fun last hlast => by cases hlast⟩
      · intro t' r' hsuffix hunbroken
        rcases suffix_snoc hsuffix with rfl | ⟨t'', rfl, hsuffix'⟩
        · exact List.nil_suffix
        · obtain ⟨r'', b', -, hunbroken', hb', hjoins'⟩ := Unbroken.snoc_iff.1 hunbroken
          obtain rfl := Option.some.inj (hcheck.symm.trans hb')
          -- A longer suffix would end in the last value that was kept.
          by_cases hempty : r'' = []
          · subst hempty
            rw [hunbroken'.eq_nil]
            exact List.suffix_refl _
          · have hlast :=
              h.unbroken.getLast?_eq hunbroken' (h.longest _ _ hsuffix' hunbroken') hempty
            rw [hlast] at hjoins'
            exact absurd hjoins' hjoins

/-- **The scan keeps the longest unbroken suffix**. -/
theorem keepSuffix_isLongest (check : α → Option β) (joins : β → β → Bool) (l : List α) :
    ∃ t, IsLongest check joins l t (keepSuffix check joins l) := by
  induction l using List.reverseRecOn with
  | nil => exact ⟨[], List.suffix_refl [], .nil, fun t' _ h _ => h⟩
  | append_singleton l a ih =>
    obtain ⟨t, h⟩ := ih
    rw [keepSuffix, List.foldl_append]
    exact h.snoc a

end ScrapMonitoring
