import ScrapMonitoring.Foundations.Traverse
import ScrapMonitoring.Transfer.Summary

/-!
# Copying a table

`copyTable` inserts the rows of a batch in groups with the same columns missing: a missing column is
SQL NULL in all rows of the insertion, and the JSON literal null is handed over by a marker of its
own. Every row is inserted once, with the values and types that it has (`perm_inserted`).
-/

namespace ScrapMonitoring.Transfer

variable {table : Table}

/-- A value handed to an insertion; `JSON.NULL` is the JSON literal null. -/
inductive Param
  | jsonNull
  | object (o : Object)

/-- An insertion of rows into a table, the columns in `missing` set to `null()`. -/
structure Insert where
  missing : List String
  rows : List (List (String × Param))

def Object.isSqlNull : Object → Bool
  | sqlNull => true
  | _ => false

/-- `isinstance(table.c[key].type, JSON)` -/
def Table.isJson (table : Table) (key : String) : Bool :=
  table.columns.any fun column => column.name = key && column.isJson

def missing (row : Dict) : List String := (row.filter fun field => field.2.isSqlNull).map Prod.fst

def param (table : Table) (field : String × Object) : Param :=
  match field.2 with
  | .value (.leaf .null) => if table.isJson field.1 then .jsonNull else .object field.2
  | o => .object o

def values (table : Table) (row : Dict) : List (String × Param) :=
  (row.filter fun field => !field.2.isSqlNull).map fun field => (field.1, param table field)

/-- `groups.setdefault(missing, []).append(values)` -/
def addGroup (missing : List String) (values : List (String × Param)) : List Insert → List Insert
  | [] => [⟨missing, [values]⟩]
  | group :: groups =>
    if group.missing = missing then ⟨missing, group.rows ++ [values]⟩ :: groups
    else group :: addGroup missing values groups

/-- Add a row to its group, if it can be compared. -/
def group (table : Table) (groups : List Insert) (row : Dict) :
    Except TransferFailure (List Insert) := do
  let _ ← rowBytes row
  .ok (addGroup (missing row) (values table row) groups)

/-- The insertions of a transfer, in their order. -/
def copyTable (table : Table) (batchSize : ℕ) (rows : List (Row table)) :
    Except TransferFailure (List Insert) :=
  (partitions batchSize rows).foldlM (fun inserts partition => do
    let rows ← batch table partition
    let groups ← rows.foldlM (group table) []
    .ok (inserts ++ groups)) []

/-! ## What an insertion stores -/

/-- The value that is stored for a parameter. Without the marker, a JSON column stores the Python
value `None` by its own setting. -/
def Param.stored (column : Column) : Param → Typed
  | jsonNull => .value (.leaf .null)
  | object (.value (.leaf .null)) =>
    match column.type with
    | .json false => .value (.leaf .null)
    | _ => .null
  | object o => o.typed

/-- The row that is stored, if every column is supplied. -/
def storedRow (table : Table) (missing : List String) (values : List (String × Param)) :
    Option (List (String × Typed)) :=
  table.columns.mapM fun column =>
    if column.name ∈ missing then some (column.name, .null)
    else (values.lookup column.name).map fun p => (column.name, p.stored column)

/-- The rows that an insertion stores. -/
def Insert.stored (table : Table) (insert : Insert) : List (Option (List (String × Typed))) :=
  insert.rows.map (storedRow table insert.missing)

/-! ## A row keeps its values -/

theorem isJson_eq {column : Column} (h : column ∈ table.columns) :
    table.isJson column.name = column.isJson := by
  rw [Table.isJson, Bool.eq_iff_iff, List.any_eq_true]
  constructor
  · rintro ⟨other, hother, heq⟩
    rw [Bool.and_eq_true, decide_eq_true_iff] at heq
    rw [← List.inj_on_of_nodup_map table.names hother h heq.1]
    exact heq.2
  · intro hjson
    exact ⟨column, h, by rw [hjson, Bool.and_true, decide_eq_true_iff]⟩

theorem param_value {v : Value} (hv : v ≠ .leaf .null) (key : String) :
    param table (key, .value v) = .object (.value v) := by
  cases v with
  | leaf a =>
    cases a with
    | null => exact absurd rfl hv
    | _ => rfl
  | arr items => rfl
  | obj members => rfl

theorem stored_value {v : Value} (hv : v ≠ .leaf .null) (column : Column) :
    (Param.object (.value v)).stored column = .value v.canonical := by
  cases v with
  | leaf a =>
    cases a with
    | null => exact absurd rfl hv
    | _ => rfl
  | arr items => rfl
  | obj members => rfl

/-- A value that is handed over is stored as it was. -/
theorem stored_param {cell : Column × Stored} (hcolumn : cell.1 ∈ table.columns)
    (hliteral : cell.1.isJson = false → cell.2 ≠ .value (.leaf .null))
    (hnull : (cell.1.object cell.2).isSqlNull = false) :
    (param table (cell.1.name, cell.1.object cell.2)).stored cell.1 = cell.2.typed := by
  have hjson := isJson_eq hcolumn
  obtain ⟨⟨name, type⟩, stored⟩ := cell
  cases stored with
  | null =>
    cases type with
    | json noneAsNull => cases hnull
    | dateTime =>
      change (if table.isJson name then Param.jsonNull else .object (.value (.leaf .null))).stored
        ⟨name, .dateTime⟩ = .null
      rw [hjson]
      rfl
    | plain =>
      change (if table.isJson name then Param.jsonNull else .object (.value (.leaf .null))).stored
        ⟨name, .plain⟩ = .null
      rw [hjson]
      rfl
  | datetime wall offset =>
    cases type with
    | json noneAsNull => rfl
    | plain => rfl
    | dateTime =>
      change Typed.instant (wall - offset.getD 0 - 0) = .instant (wall - offset.getD 0)
      rw [sub_zero]
  | value v =>
    have hobject : (Column.mk name type).object (.value v) = .value v := by cases type <;> rfl
    rw [hobject]
    by_cases hv : v = .leaf .null
    · subst hv
      cases type with
      | json noneAsNull =>
        change (if table.isJson name then Param.jsonNull else .object (.value (.leaf .null))).stored
          ⟨name, .json noneAsNull⟩ = .value (.leaf .null)
        rw [hjson]
        rfl
      | dateTime => exact absurd rfl (hliteral rfl)
      | plain => exact absurd rfl (hliteral rfl)
    · rw [param_value hv, stored_value hv]
      rfl

theorem isSqlNull_object {cell : Column × Stored} (h : (cell.1.object cell.2).isSqlNull) :
    cell.2.typed = .null := by
  obtain ⟨⟨name, type⟩, stored⟩ := cell
  cases stored with
  | null => rfl
  | datetime wall offset => cases type <;> cases h
  | value v => cases type <;> cases h

/-- **The row that is stored is the row that was read.** -/
theorem storedRow_eq (row : Row table) :
    storedRow table (missing row.dict) (values table row.dict) = some row.typed := by
  have hkeys : (row.dict.map Prod.fst).Nodup := by
    rw [keys_dict]
    exact table.names
  have hvalues : ((values table row.dict).map Prod.fst).Nodup := by
    rw [values, List.map_map]
    exact hkeys.sublist (List.filter_sublist.map _)
  rw [storedRow, Row.typed, ← row.columns, List.mapM_map]
  refine mapM_eq_some fun cell hcell => ?_
  have hcolumn : cell.1 ∈ table.columns := row.columns ▸ List.mem_map_of_mem hcell
  have hfield : (cell.1.name, cell.1.object cell.2) ∈ row.dict :=
    List.mem_map.2 ⟨cell, hcell, rfl⟩
  have hmissing : cell.1.name ∈ missing row.dict ↔ (cell.1.object cell.2).isSqlNull := by
    rw [missing, List.mem_map]
    constructor
    · rintro ⟨field, hmem, hname⟩
      obtain ⟨hmem, hnull⟩ := List.mem_filter.1 hmem
      rwa [List.inj_on_of_nodup_map hkeys hmem hfield hname] at hnull
    · intro hnull
      exact ⟨_, List.mem_filter.2 ⟨hfield, hnull⟩, rfl⟩
  rw [Function.comp_apply]
  cases hnull : (cell.1.object cell.2).isSqlNull with
  | true => rw [if_pos (hmissing.2 hnull), isSqlNull_object hnull]
  | false =>
    have hvalue : (cell.1.name, param table (cell.1.name, cell.1.object cell.2)) ∈
        values table row.dict :=
      List.mem_map.2 ⟨_, List.mem_filter.2 ⟨hfield, by simp [hnull]⟩, rfl⟩
    rw [if_neg fun h => by simp [hmissing.1 h] at hnull, lookup_of_mem hvalues hvalue,
      Option.map_some, stored_param hcolumn (row.literals cell hcell) hnull]

/-! ## Every row is inserted once -/

/-- The rows that a list of insertions stores. -/
def stored (table : Table) (inserts : List Insert) : List (Option (List (String × Typed))) :=
  inserts.flatMap (Insert.stored table)

theorem perm_addGroup (missing : List String) (values : List (String × Param))
    (groups : List Insert) :
    (stored table (addGroup missing values groups)).Perm
      (storedRow table missing values :: stored table groups) := by
  induction groups with
  | nil => exact List.Perm.refl _
  | cons group groups ih =>
    rw [addGroup, stored, stored]
    split_ifs with hmissing
    · rw [List.flatMap_cons, List.flatMap_cons, Insert.stored, Insert.stored, List.map_append,
        hmissing, List.append_assoc]
      exact List.perm_middle
    · rw [List.flatMap_cons, List.flatMap_cons]
      exact ((ih.append_left _).trans List.perm_middle)

/-- Add a row to its group. -/
def addRow (groups : List Insert) (row : Row table) : List Insert :=
  addGroup (missing row.dict) (values table row.dict) groups

theorem perm_addRows (rows : List (Row table)) (groups : List Insert) :
    (stored table (rows.foldl addRow groups)).Perm
      (stored table groups ++ rows.map fun row => some row.typed) := by
  induction rows generalizing groups with
  | nil => rw [List.foldl_nil, List.map_nil, List.append_nil]
  | cons row rows ih =>
    have hrow : (stored table (addRow groups row)).Perm
        (storedRow table (missing row.dict) (values table row.dict) :: stored table groups) :=
      perm_addGroup _ _ groups
    rw [storedRow_eq] at hrow
    rw [List.foldl_cons, List.map_cons]
    exact ((ih _).trans (hrow.append_right _)).trans List.perm_middle.symm

/-- The insertions of all batches. -/
def insertions (batchSize : ℕ) (rows : List (Row table)) : List Insert :=
  (partitions batchSize rows).foldl (fun inserts partition => inserts ++ partition.foldl addRow [])
    []

theorem perm_insertions (batchSize : ℕ) (rows : List (Row table)) :
    (stored table (insertions batchSize rows)).Perm (rows.map fun row => some row.typed) := by
  have hrun : ∀ (batches : List (List (Row table))) (inserts : List Insert),
      (stored table (batches.foldl
        (fun inserts partition => inserts ++ partition.foldl addRow []) inserts)).Perm
        (stored table inserts ++ batches.flatten.map fun row => some row.typed) := by
    intro batches
    induction batches with
    | nil =>
      intro inserts
      rw [List.foldl_nil, List.flatten_nil, List.map_nil, List.append_nil]
    | cons partition batches ih =>
      intro inserts
      have hpartition := perm_addRows partition []
      rw [List.foldl_cons, List.flatten_cons, List.map_append, ← List.append_assoc]
      refine (ih _).trans (List.Perm.append_right _ ?_)
      rw [stored, List.flatMap_append]
      exact hpartition.append_left _
  have h := hrun (partitions batchSize rows) []
  rwa [flatten_partitions] at h

theorem succeeds_insertBatch (inserts : List Insert) (partition : List (Row table)) :
    Succeeds (do
      let rows ← batch table partition
      let groups ← rows.foldlM (group table) []
      .ok (inserts ++ groups))
      (∀ row ∈ partition, row.Comparable) (inserts ++ partition.foldl addRow []) := by
  have hgroup : ∀ (groups : List Insert) (row : Row table),
      Succeeds (group table groups row.dict) (∀ field ∈ row.dict, field.2.Comparable)
        (addRow groups row) := by
    intro groups row
    have hadd : Succeeds (.ok (addRow groups row) : Except TransferFailure (List Insert)) True
        (addRow groups row) := Succeeds.pure _
    exact ((succeeds_rowBytes row.dict).bind hadd).congr (and_iff_left trivial)
  have hrows : Succeeds ((partition.map Row.dict).foldlM (group table) [])
      (∀ row ∈ partition, ∀ field ∈ row.dict, field.2.Comparable)
      (partition.foldl addRow []) := by
    rw [List.foldlM_map]
    exact Succeeds.foldlM hgroup partition []
  have hinsert : Succeeds (.ok (inserts ++ partition.foldl addRow []) :
      Except TransferFailure (List Insert)) True (inserts ++ partition.foldl addRow []) :=
    Succeeds.pure _
  refine ((succeeds_batch partition).bind (hrows.bind hinsert)).congr ?_
  rw [and_true, ← forall₂_and]
  exact forall₂_congr fun row _ => row_comparable_iff row

/-- **A table whose rows can be compared is copied, and no other.** -/
theorem succeeds_copyTable (batchSize : ℕ) (rows : List (Row table)) :
    Succeeds (copyTable table batchSize rows) (∀ row ∈ rows, row.Comparable)
      (insertions batchSize rows) :=
  (Succeeds.foldlM succeeds_insertBatch (partitions batchSize rows) []).congr
    (forall_partitions batchSize rows)

end ScrapMonitoring.Transfer
