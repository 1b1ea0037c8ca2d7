import Mathlib.Data.List.Sort
import Mathlib.Data.Rat.Defs

/-!
# JSON values

`Json` is a decoded JSON value. Integers and other numbers are told apart, as the decoder does.
An object is the list of its members in the order in which they were written; `Json.canonical`
sorts the members of every object, so that two objects with the same members have one canonical
form.
-/

namespace ScrapMonitoring

/-- A decoded JSON value. -/
inductive Json
  | null
  | bool (b : Bool)
  | int (n : ℤ)
  | float (q : ℚ)
  | str (s : String)
  | arr (items : List Json)
  | obj (members : List (String × Json))

/-- The members of an object. -/
abbrev Fields := List (String × Json)

namespace Json

/-! ## Equality is decidable -/

mutual

/-- Whether two values are the same. -/
def beq : Json → Json → Bool
  | null, null => true
  | bool a, bool b => a == b
  | int a, int b => a == b
  | float a, float b => a == b
  | str a, str b => a == b
  | arr xs, arr ys => beqItems xs ys
  | obj xs, obj ys => beqMembers xs ys
  | _, _ => false

def beqItems : List Json → List Json → Bool
  | [], [] => true
  | x :: xs, y :: ys => x.beq y && beqItems xs ys
  | _, _ => false

def beqMembers : Fields → Fields → Bool
  | [], [] => true
  | (k, x) :: xs, (l, y) :: ys => k == l && x.beq y && beqMembers xs ys
  | _, _ => false

end

mutual

theorem beq_iff : ∀ x y : Json, x.beq y = true ↔ x = y
  | null, y => by cases y <;> simp [beq]
  | bool a, y => by cases y <;> simp [beq]
  | int a, y => by cases y <;> simp [beq]
  | float a, y => by cases y <;> simp [beq]
  | str a, y => by cases y <;> simp [beq]
  | arr xs, y => by cases y <;> simp [beq, beqItems_iff xs]
  | obj xs, y => by cases y <;> simp [beq, beqMembers_iff xs]

theorem beqItems_iff : ∀ xs ys : List Json, beqItems xs ys = true ↔ xs = ys
  | [], ys => by cases ys <;> simp [beqItems]
  | x :: xs, ys => by cases ys <;> simp [beqItems, beq_iff x, beqItems_iff xs]

theorem beqMembers_iff : ∀ xs ys : Fields, beqMembers xs ys = true ↔ xs = ys
  | [], ys => by cases ys <;> simp [beqMembers]
  | (k, x) :: xs, ys => by
    cases ys <;> simp [beqMembers, beq_iff x, beqMembers_iff xs, Prod.ext_iff, and_assoc]

end

instance : DecidableEq Json := fun x y => decidable_of_iff _ (beq_iff x y)

/-! ## Members in a fixed order -/

mutual

/-- The value with the members of every object in the order of their keys. -/
def canonical : Json → Json
  | arr items => arr (canonicalItems items)
  | obj members => obj ((canonicalMembers members).insertionSort fun a b => a.1 ≤ b.1)
  | v => v

def canonicalItems : List Json → List Json
  | [] => []
  | v :: vs => v.canonical :: canonicalItems vs

def canonicalMembers : Fields → Fields
  | [] => []
  | (k, v) :: ms => (k, v.canonical) :: canonicalMembers ms

end

/-- The order of the members of an object does not show in its canonical form. -/
theorem canonical_obj_perm {ms ms' : Fields} (h : ms.Perm ms') (hkeys : (ms.map Prod.fst).Nodup) :
    (obj ms).canonical = (obj ms').canonical := by
  have hmap : ∀ ms : Fields, canonicalMembers ms = ms.map fun m => (m.1, m.2.canonical) := by
    intro ms
    induction ms with
    | nil => rfl
    | cons m ms ih => rw [canonicalMembers, ih, List.map_cons]
  have hperm : (canonicalMembers ms).Perm (canonicalMembers ms') := by
    rw [hmap, hmap]
    exact h.map _
  have hkeys' : ((canonicalMembers ms).map Prod.fst).Nodup := by
    rwa [hmap, List.map_map]
  rw [canonical, canonical]
  congr 1
  refine List.Perm.eq_of_pairwise (fun a b ha hb hab hba => ?_)
    (List.pairwise_insertionSort _ _) (List.pairwise_insertionSort _ _)
    (((List.perm_insertionSort _ _).trans hperm).trans (List.perm_insertionSort _ _).symm)
  have ha' := (List.mem_insertionSort _).1 ha
  have hb' := hperm.mem_iff.2 ((List.mem_insertionSort _).1 hb)
  exact List.inj_on_of_nodup_map hkeys' ha' hb' (String.le_antisymm hab hba)

end Json

/-! ## Members of an object -/

/-- The member of an object with the given key. -/
def Json.member? (key : String) : Json → Option Json
  | .obj members => members.lookup key
  | _ => none

/-- The members with the given keys. -/
def Fields.only (keys : List String) (fs : Fields) : Fields := fs.filter fun f => f.1 ∈ keys

/-- The members without the given keys. -/
def Fields.except (keys : List String) (fs : Fields) : Fields := fs.filter fun f => f.1 ∉ keys

end ScrapMonitoring
