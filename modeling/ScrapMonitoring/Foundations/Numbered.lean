import ScrapMonitoring.Foundations.Tagged
import Mathlib.Data.List.Nodup
import Mathlib.Data.String.Basic

/-!
# Identifiers of rows

An identifier is a tag and a primary key. Rows of one table that have one tag have different
identifiers, and so have rows with different tags; `Numbered tags ids` says of a list of identifiers
that they are different and begin with these tags, and is kept when lists are put together.
-/

namespace ScrapMonitoring

/-- The identifier of a row with that primary key. -/
def numbered (tag : String) (n : ℕ) : String := tag ++ "-" ++ toString n

theorem numbered_inj {tag tag' : String} {n n' : ℕ} (h : numbered tag n = numbered tag' n') :
    tag = tag' ∧ n = n' := by
  have hsplit : ∀ (tag : String) (n : ℕ),
      (numbered tag n).toList = tag.toList ++ '-' :: Nat.toDigits 10 n := by
    intro tag n
    simp [numbered]
  have hlist := congrArg String.toList h
  rw [hsplit, hsplit] at hlist
  obtain ⟨htag, hnumber⟩ := tagged_inj (by decide) hlist
  exact ⟨String.toList_injective htag, hnumber⟩

/-- Different identifiers, with the given tags. -/
structure Numbered (tags ids : List String) : Prop where
  nodup : ids.Nodup
  tagged : ∀ id ∈ ids, ∃ tag ∈ tags, ∃ n, id = numbered tag n

namespace Numbered

variable {tags tags' ids ids' : List String}

theorem nil (tags : List String) : Numbered tags [] where
  nodup := List.nodup_nil
  tagged := fun _ h => absurd h List.not_mem_nil

theorem sublist (h : Numbered tags ids) (hsub : ids'.Sublist ids) : Numbered tags ids' where
  nodup := h.nodup.sublist hsub
  tagged := fun id hid => h.tagged id (hsub.subset hid)

theorem perm (h : Numbered tags ids) (hperm : ids'.Perm ids) : Numbered tags ids' where
  nodup := hperm.nodup_iff.2 h.nodup
  tagged := fun id hid => h.tagged id (hperm.mem_iff.1 hid)

theorem ite (h : Numbered tags ids) (p : Prop) [Decidable p] :
    Numbered tags (if p then ids else []) := by
  split_ifs
  · exact h
  · exact nil tags

/-- The rows of a table, by their primary key. -/
theorem of_key {α : Type*} (key : α → ℕ) {rows : List α} (hkeys : (rows.map key).Nodup)
    (tag : String) : Numbered [tag] (rows.map fun a => numbered tag (key a)) where
  nodup := by
    have hmap : (rows.map fun a => numbered tag (key a)) = (rows.map key).map (numbered tag) := by
      rw [List.map_map]
      rfl
    rw [hmap]
    exact hkeys.map fun n n' h => (numbered_inj h).2
  tagged := by
    intro id hid
    obtain ⟨a, -, rfl⟩ := List.mem_map.1 hid
    exact ⟨tag, List.mem_singleton_self tag, key a, rfl⟩

/-- Identifiers with different tags. -/
theorem append (h : Numbered tags ids) (h' : Numbered tags' ids')
    (htags : ∀ tag ∈ tags, ∀ tag' ∈ tags', tag ≠ tag') :
    Numbered (tags ++ tags') (ids ++ ids') where
  nodup := by
    rw [List.nodup_append]
    refine ⟨h.nodup, h'.nodup, ?_⟩
    rintro id hid id' hid' rfl
    obtain ⟨tag, htag, n, hn⟩ := h.tagged id hid
    obtain ⟨tag', htag', n', hn'⟩ := h'.tagged id hid'
    exact htags tag htag tag' htag' (numbered_inj (hn.symm.trans hn')).1
  tagged := by
    intro id hid
    rcases List.mem_append.1 hid with hid | hid
    · obtain ⟨tag, htag, hn⟩ := h.tagged id hid
      exact ⟨tag, List.mem_append_left _ htag, hn⟩
    · obtain ⟨tag, htag, hn⟩ := h'.tagged id hid
      exact ⟨tag, List.mem_append_right _ htag, hn⟩

end Numbered

end ScrapMonitoring
