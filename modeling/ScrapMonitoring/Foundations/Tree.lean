import ScrapMonitoring.Foundations.Dict
import Mathlib.Data.List.Sort

/-!
# JSON values over their scalars

A `Tree` is a JSON value whose scalars are of any type; an object is the list of its members in
the order in which they were written. `Tree.canonical` sorts the members of every object by their
keys. Two objects with distinct keys have one canonical form if and only if they have the same keys
and one canonical form under each of them (`canonical_obj_iff`).
-/

namespace ScrapMonitoring

inductive Tree (α : Type)
  | leaf (a : α)
  | arr (items : List (Tree α))
  | obj (members : List (String × Tree α))

namespace Tree

variable {α : Type}

/-! ## Members in a fixed order -/

mutual

/-- The value with the members of every object in the order of their keys. -/
def canonical : Tree α → Tree α
  | leaf a => leaf a
  | arr items => arr (canonicalItems items)
  | obj members => obj ((canonicalMembers members).insertionSort fun a b => a.1 ≤ b.1)

def canonicalItems : List (Tree α) → List (Tree α)
  | [] => []
  | v :: vs => v.canonical :: canonicalItems vs

def canonicalMembers : List (String × Tree α) → List (String × Tree α)
  | [] => []
  | (k, v) :: ms => (k, v.canonical) :: canonicalMembers ms

end

theorem canonicalMembers_eq_map (ms : List (String × Tree α)) :
    canonicalMembers ms = ms.map fun m => (m.1, m.2.canonical) := by
  induction ms with
  | nil => rfl
  | cons m ms ih => rw [canonicalMembers, ih, List.map_cons]

theorem keys_canonicalMembers (ms : List (String × Tree α)) :
    (canonicalMembers ms).map Prod.fst = ms.map Prod.fst := by
  rw [canonicalMembers_eq_map, List.map_map]
  rfl

theorem lookup_canonicalMembers (ms : List (String × Tree α)) (key : String) :
    (canonicalMembers ms).lookup key = (ms.lookup key).map canonical := by
  rw [canonicalMembers_eq_map, lookup_map]

section

variable {ms ms' : List (String × Tree α)} (hkeys : (ms.map Prod.fst).Nodup)
  (hkeys' : (ms'.map Prod.fst).Nodup)

include hkeys

theorem sorted_eq_iff_perm :
    (obj ms).canonical = (obj ms').canonical ↔
      (canonicalMembers ms).Perm (canonicalMembers ms') := by
  have hsort := fun ms : List (String × Tree α) =>
    List.perm_insertionSort (fun a b : String × Tree α => a.1 ≤ b.1) (canonicalMembers ms)
  rw [canonical, canonical, obj.injEq]
  constructor
  · intro heq
    have hperm := hsort ms
    rw [heq] at hperm
    exact hperm.symm.trans (hsort ms')
  · intro hperm
    refine List.Perm.eq_of_pairwise (fun a b ha hb hab hba => ?_)
      (List.pairwise_insertionSort _ _) (List.pairwise_insertionSort _ _)
      (((hsort ms).trans hperm).trans (hsort ms').symm)
    have ha' := (List.mem_insertionSort _).1 ha
    have hb' := hperm.mem_iff.2 ((List.mem_insertionSort _).1 hb)
    rw [← keys_canonicalMembers] at hkeys
    exact List.inj_on_of_nodup_map hkeys ha' hb' (String.le_antisymm hab hba)

include hkeys'

/-- **Objects are compared member by member, in any order.** -/
theorem canonical_obj_iff :
    (obj ms).canonical = (obj ms').canonical ↔
      ∀ key, (ms.lookup key).map canonical = (ms'.lookup key).map canonical := by
  rw [sorted_eq_iff_perm hkeys]
  simp only [← lookup_canonicalMembers]
  rw [← keys_canonicalMembers] at hkeys hkeys'
  have hmem : ∀ {l : List (String × Tree α)}, (l.map Prod.fst).Nodup →
      ∀ k v, (k, v) ∈ l ↔ l.lookup k = some v := fun hl _ _ =>
    ⟨lookup_of_mem hl, mem_of_lookup⟩
  constructor
  · intro hperm key
    apply Option.ext
    intro v
    rw [← hmem hkeys, ← hmem hkeys', hperm.mem_iff]
  · intro hlookup
    refine (List.perm_ext_iff_of_nodup hkeys.of_map hkeys'.of_map).2 fun m => ?_
    rw [hmem hkeys m.1 m.2, hmem hkeys' m.1 m.2, hlookup]

end

/-! ## A condition on the scalars -/

mutual

/-- Whether all scalars of a value meet a condition. -/
def all (p : α → Bool) : Tree α → Bool
  | leaf a => p a
  | arr items => allItems p items
  | obj members => allMembers p members

def allItems (p : α → Bool) : List (Tree α) → Bool
  | [] => true
  | v :: vs => v.all p && allItems p vs

def allMembers (p : α → Bool) : List (String × Tree α) → Bool
  | [] => true
  | (_, v) :: ms => v.all p && allMembers p ms

end

variable {p : α → Bool}

theorem allMembers_eq_all (ms : List (String × Tree α)) :
    allMembers p ms = ms.all fun m => m.2.all p := by
  induction ms with
  | nil => rfl
  | cons m ms ih => rw [allMembers, ih, List.all_cons]

theorem allMembers_sort (ms : List (String × Tree α)) :
    allMembers p (ms.insertionSort fun a b => a.1 ≤ b.1) = allMembers p ms := by
  rw [allMembers_eq_all, allMembers_eq_all]
  exact (List.perm_insertionSort _ _).all_eq

mutual

@[simp] theorem all_canonical : ∀ v : Tree α, v.canonical.all p = v.all p
  | leaf a => rfl
  | arr items => by rw [canonical, all, all, allItems_canonical items]
  | obj members => by rw [canonical, all, all, allMembers_sort, allMembers_canonical members]

theorem allItems_canonical : ∀ vs : List (Tree α), allItems p (canonicalItems vs) = allItems p vs
  | [] => rfl
  | v :: vs => by rw [canonicalItems, allItems, allItems, all_canonical v, allItems_canonical vs]

theorem allMembers_canonical :
    ∀ ms : List (String × Tree α), allMembers p (canonicalMembers ms) = allMembers p ms
  | [] => rfl
  | (k, v) :: ms => by
    rw [canonicalMembers, allMembers, allMembers, all_canonical v, allMembers_canonical ms]

end

end Tree

end ScrapMonitoring
