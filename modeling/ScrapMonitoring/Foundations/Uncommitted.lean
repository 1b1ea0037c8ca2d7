import Mathlib.Data.List.Nodup
import Mathlib.Data.List.Perm.Basic

/-!
# Rows that are inserted once

Parties `ι` insert rows with a unique key into a table and commit them or roll them back. A row that
a party has inserted is seen by the others when it is committed; until then its key is taken, so an
insertion of another party waits. `insert` is `INSERT ... ON CONFLICT DO NOTHING`: a row whose key
is there is passed over.

`Move i db db'` is what a statement of party `i` does to the table, and `Others i db db'` what the
statements of other parties may do, from the point of view of `i`: committed rows stay, and so do
the rows that `i` has inserted.
-/

namespace ScrapMonitoring

variable {ι α κ : Type*} [DecidableEq ι] {key : α → κ}

/-- The committed rows, and the inserted ones with their parties. -/
structure Uncommitted (ι : Type*) {α κ : Type*} (key : α → κ) where
  committed : List α
  pending : List (ι × α)
  keys : (committed.map key ++ pending.map fun p => key p.2).Nodup

namespace Uncommitted

section

variable (db : Uncommitted ι key) (i : ι)

/-- The rows that the party has inserted. -/
def mine : List α := (db.pending.filter fun p => p.1 = i).map Prod.snd

/-- The rows that the party sees. -/
def view : List α := db.committed ++ db.mine i

theorem keys_commit : ((db.committed ++ db.mine i).map key ++
    (db.pending.filter fun p => p.1 ≠ i).map fun p => key p.2).Nodup := by
  have hpending : (db.pending.filter (fun p => p.1 = i) ++
      db.pending.filter fun p => p.1 ≠ i).Perm db.pending := by
    simpa using List.filter_append_perm (fun p : ι × α => decide (p.1 = i)) db.pending
  have hperm := (hpending.map fun p => key p.2).append_left (db.committed.map key)
  rw [List.map_append, ← List.append_assoc] at hperm
  have hnodup := hperm.nodup_iff.2 db.keys
  unfold mine
  rw [List.map_append, List.map_map]
  exact hnodup

/-- The rows of the party are there for all. -/
def commit : Uncommitted ι key :=
  ⟨db.committed ++ db.mine i, db.pending.filter fun p => p.1 ≠ i, db.keys_commit i⟩

def rollback : Uncommitted ι key where
  committed := db.committed
  pending := db.pending.filter fun p => p.1 ≠ i
  keys := db.keys.sublist ((List.Sublist.refl _).append (List.filter_sublist.map _))

end

section

variable {db : Uncommitted ι key} {i j : ι} {row row' : α}

theorem mine_of_ne_filter (hne : j ≠ i) :
    ((db.pending.filter fun p => p.1 ≠ i).filter fun p => p.1 = j) =
      db.pending.filter fun p => p.1 = j := by
  rw [List.filter_filter]
  refine List.filter_congr fun p _ => ?_
  by_cases hp : p.1 = j
  · simp [hp, hne]
  · simp [hp]

theorem commit_mine : (db.commit i).mine i = [] := by
  unfold commit mine
  rw [List.filter_filter]
  simp

theorem commit_mine_of_ne (hne : j ≠ i) : (db.commit i).mine j = db.mine j :=
  congrArg (List.map Prod.snd) (mine_of_ne_filter hne)

theorem rollback_mine : (db.rollback i).mine i = [] := by
  unfold rollback mine
  rw [List.filter_filter]
  simp

theorem rollback_mine_of_ne (hne : j ≠ i) : (db.rollback i).mine j = db.mine j :=
  congrArg (List.map Prod.snd) (mine_of_ne_filter hne)

/-- Two rows that a party sees with one key are one row. -/
theorem eq_of_key (hrow : row ∈ db.view i) (hrow' : row' ∈ db.view i) (hkey : key row = key row') :
    row = row' := by
  refine List.inj_on_of_nodup_map (List.Nodup.sublist ?_ (db.keys_commit i)) hrow hrow' hkey
  exact List.sublist_append_left _ _

end

/-! ## Insertions -/

section

variable [DecidableEq κ] (db : Uncommitted ι key) (i : ι)

/-- Another party has inserted a row with the key. -/
def blocked (k : κ) : Bool := db.pending.any fun p => p.1 ≠ i ∧ key p.2 = k

/-- The rows whose keys are not there. -/
def fresh (rows : List α) : List α := rows.filter fun row => key row ∉ (db.view i).map key

theorem mem_fresh {rows : List α} {row : α} :
    row ∈ db.fresh i rows ↔ row ∈ rows ∧ ∀ row' ∈ db.view i, key row' ≠ key row := by
  unfold fresh
  rw [List.mem_filter, decide_eq_true_iff, List.mem_map]
  exact and_congr_right fun _ => ⟨fun h row' hrow' heq => h ⟨row', hrow', heq⟩,
    fun h ⟨row', hrow', heq⟩ => h row' hrow' heq⟩

theorem keys_insert {rows : List α} (hrows : (rows.map key).Nodup)
    (hfree : ∀ row ∈ rows, db.blocked i (key row) = false) :
    (db.committed.map key ++
      (db.pending ++ (db.fresh i rows).map (i, ·)).map fun p => key p.2).Nodup := by
  have hnew : ((db.fresh i rows).map key).Nodup := hrows.sublist (List.filter_sublist.map key)
  have hmap : ((db.fresh i rows).map (i, ·)).map (fun p : ι × α => key p.2) =
      (db.fresh i rows).map key := by
    rw [List.map_map]
    rfl
  rw [List.map_append, ← List.append_assoc, hmap]
  refine List.nodup_append.2 ⟨db.keys, hnew, fun k hk k' hk' heq => ?_⟩
  subst heq
  obtain ⟨row, hrow, rfl⟩ := List.mem_map.1 hk'
  obtain ⟨hmem, hnot⟩ := (db.mem_fresh i).1 hrow
  rcases List.mem_append.1 hk with hk | hk
  · obtain ⟨row', hrow', heq⟩ := List.mem_map.1 hk
    exact hnot row' (List.mem_append_left _ hrow') heq
  · obtain ⟨p, hp, heq⟩ := List.mem_map.1 hk
    by_cases hpi : p.1 = i
    · refine hnot p.2 (List.mem_append_right _ ?_) heq
      exact List.mem_map_of_mem (List.mem_filter.2 ⟨hp, decide_eq_true hpi⟩)
    · have hblocked := hfree row hmem
      unfold blocked at hblocked
      rw [List.any_eq_false] at hblocked
      exact absurd (decide_eq_true ⟨hpi, heq⟩) (hblocked p hp)

/-- Insert the rows whose keys are not there, unless the party has to wait for another one. -/
def insert (rows : List α) : Option (Uncommitted ι key) :=
  if h : (rows.map key).Nodup ∧ ∀ row ∈ rows, db.blocked i (key row) = false then
    some ⟨db.committed, db.pending ++ (db.fresh i rows).map (i, ·), db.keys_insert i h.1 h.2⟩
  else none

end

section

variable [DecidableEq κ] {db db' : Uncommitted ι key} {i j : ι} {rows : List α} {row : α}

theorem insert_committed (h : db.insert i rows = some db') : db'.committed = db.committed := by
  unfold insert at h
  split_ifs at h
  rw [← Option.some.inj h]

theorem insert_mine (h : db.insert i rows = some db') :
    db'.mine i = db.mine i ++ db.fresh i rows := by
  unfold insert at h
  split_ifs at h
  rw [← Option.some.inj h]
  have hself : ((db.fresh i rows).map (i, ·)).filter (fun p => p.1 = i) =
      (db.fresh i rows).map (i, ·) := by
    refine List.filter_eq_self.2 fun p hp => ?_
    obtain ⟨row, -, rfl⟩ := List.mem_map.1 hp
    exact decide_eq_true rfl
  unfold mine
  rw [List.filter_append, List.map_append, hself, List.map_map]
  exact congrArg (_ ++ ·) (List.map_id _)

theorem insert_mine_of_ne (h : db.insert i rows = some db') (hne : j ≠ i) :
    db'.mine j = db.mine j := by
  unfold insert at h
  split_ifs at h
  rw [← Option.some.inj h]
  have hnone : ((db.fresh i rows).map (i, ·)).filter (fun p => p.1 = j) = [] := by
    refine List.filter_eq_nil_iff.2 fun p hp => ?_
    obtain ⟨row, -, rfl⟩ := List.mem_map.1 hp
    simpa using hne.symm
  unfold mine
  rw [List.filter_append, hnone, List.append_nil]

theorem insert_view (h : db.insert i rows = some db') : ∀ row ∈ db.view i, row ∈ db'.view i := by
  intro row hrow
  unfold view
  rw [insert_committed h, insert_mine h, ← List.append_assoc]
  exact List.mem_append_left _ hrow

/-- **After an insertion every key is there.** -/
theorem insert_key (h : db.insert i rows = some db') (hrow : row ∈ rows) :
    ∃ row' ∈ db'.view i, key row' = key row := by
  unfold view
  rw [insert_committed h, insert_mine h, ← List.append_assoc]
  by_cases hkey : key row ∈ (db.view i).map key
  · obtain ⟨row', hrow', heq⟩ := List.mem_map.1 hkey
    exact ⟨row', List.mem_append_left _ hrow', heq⟩
  · exact ⟨row, List.mem_append_right _ (List.mem_filter.2 ⟨hrow, decide_eq_true hkey⟩), rfl⟩

/-! ## Moves -/

/-- What a statement of a party does. -/
inductive Move (i : ι) (db : Uncommitted ι key) : Uncommitted ι key → Prop
  | read : Move i db db
  | insert {db' : Uncommitted ι key} {rows : List α} (h : db.insert i rows = some db') :
      Move i db db'
  | commit : Move i db (db.commit i)
  | rollback : Move i db (db.rollback i)

/-- What other parties may do. -/
structure Others (i : ι) (db db' : Uncommitted ι key) : Prop where
  committed : ∀ row ∈ db.committed, row ∈ db'.committed
  mine : db'.mine i = db.mine i

/-- **A committed row stays.** -/
theorem Move.committed (h : Move i db db') : ∀ row ∈ db.committed, row ∈ db'.committed := by
  intro row hrow
  cases h with
  | read => exact hrow
  | insert h => rwa [insert_committed h]
  | commit => exact List.mem_append_left _ hrow
  | rollback => exact hrow

theorem Move.others (h : Move i db db') (hne : j ≠ i) : Others j db db' := by
  refine ⟨h.committed, ?_⟩
  cases h with
  | read => rfl
  | insert h => exact insert_mine_of_ne h hne
  | commit => exact commit_mine_of_ne hne
  | rollback => exact rollback_mine_of_ne hne

omit [DecidableEq κ] in
/-- What a party sees stays, whatever the others do. -/
theorem Others.view (h : Others i db db') : ∀ row ∈ db.view i, row ∈ db'.view i := by
  intro row hrow
  unfold Uncommitted.view at hrow ⊢
  rw [h.mine]
  rcases List.mem_append.1 hrow with hrow | hrow
  · exact List.mem_append_left _ (h.committed row hrow)
  · exact List.mem_append_right _ hrow

end

end Uncommitted

end ScrapMonitoring
