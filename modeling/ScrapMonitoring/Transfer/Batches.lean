import ScrapMonitoring.Transfer.Encoding

/-!
# Reading a table in batches

A row of a table holds a stored value under every column. `batches` reads it with a flag for each
JSON column, which tells SQL NULL from the JSON literal null, and hands over a dictionary in which
SQL NULL under a JSON column is a marker and the datetimes are in UTC. What a dictionary holds under
the columns of its row is `Row.dict` (`succeeds_prepare`).
-/

namespace ScrapMonitoring.Transfer

/-! ## Tables and rows -/

/-- The types of columns that a transfer treats differently. A JSON column may store the Python
value `None` as SQL NULL. -/
inductive ColumnType
  | json (noneAsNull : Bool)
  | dateTime
  | plain
  deriving DecidableEq

structure Column where
  name : String
  type : ColumnType

def Column.isJson (column : Column) : Bool :=
  match column.type with
  | .json _ => true
  | _ => false

/-- The name of the flag of a column. -/
def Column.label (column : Column) : String := "_sql_null_" ++ column.name

/-- A table; no column has the name of another one or of a flag. -/
structure Table where
  columns : List Column
  names : (columns.map Column.name).Nodup
  labels : ∀ column ∈ columns, column.isJson → column.label ∉ columns.map Column.name

/-- What is stored under a column. -/
inductive Stored
  | null
  | datetime (wall : ℤ) (offset : Option ℤ)
  | value (v : Value)

/-- A row of a table. Only a JSON column stores the JSON literal null. -/
structure Row (table : Table) where
  cells : List (Column × Stored)
  columns : cells.map Prod.fst = table.columns
  literals : ∀ cell ∈ cells, cell.1.isJson = false → cell.2 ≠ .value (.leaf .null)

/-- The Python object of a stored value. -/
def Stored.fetched : Stored → Object
  | null => .value (.leaf .null)
  | datetime wall offset => .datetime wall offset
  | value v => .value v

def Stored.isNull : Stored → Bool
  | null => true
  | _ => false

/-- `column IS NULL` -/
def flag (cell : Column × Stored) : String × Object :=
  (cell.1.label, .value (.leaf (.bool cell.2.isNull)))

variable {table : Table}

/-- A row as it is selected: its values, and the flags of its JSON columns. -/
def Row.original (row : Row table) : Dict :=
  row.cells.map (fun cell => (cell.1.name, cell.2.fetched)) ++
    (row.cells.filter fun cell => cell.1.isJson).map flag

/-! ## Preparing a row -/

/-- Take the flag of a JSON column, and mark SQL NULL. -/
def markNull (row : Dict) (column : Column) : Dict :=
  let rest := row.filter fun field => field.1 ≠ column.label
  match row.lookup column.label with
  | some (.value (.leaf (.bool true))) => setBy Prod.fst (column.name, .sqlNull) rest
  | _ => rest

/-- Bring the datetime under a column to UTC. -/
def toUtc (row : Dict) (column : Column) : Except TransferFailure Dict :=
  match column.type, row.lookup column.name with
  | .dateTime, some (.datetime wall offset) => do
    let t ← astimezone wall offset
    .ok (setBy Prod.fst (column.name, .datetime t (some 0)) row)
  | _, _ => .ok row

def prepare (table : Table) (original : Dict) : Except TransferFailure Dict :=
  let row := (table.columns.filter Column.isJson).foldl markNull original
  table.columns.foldlM toUtc row

/-- The partitions of a result, with the rows of the current one. -/
def partitionsFrom {α : Type} (size : ℕ) : List α → List α → List (List α)
  | current, [] => if current = [] then [] else [current]
  | current, row :: rows =>
    if current.length + 1 = size then (current ++ [row]) :: partitionsFrom size [] rows
    else partitionsFrom size (current ++ [row]) rows

def partitions {α : Type} (size : ℕ) (rows : List α) : List (List α) := partitionsFrom size [] rows

/-- A batch of rows. -/
def batch (table : Table) (partition : List (Row table)) : Except TransferFailure (List Dict) :=
  partition.mapM fun row => prepare table row.original

/-! ## What a prepared row holds -/

/-- The object of a stored value, SQL NULL under a JSON column marked. -/
def Column.marked (column : Column) (stored : Stored) : Object :=
  if column.isJson && stored.isNull then .sqlNull else stored.fetched

/-- The object of a stored value in a prepared row. -/
def Column.object (column : Column) (stored : Stored) : Object :=
  match column.type, column.marked stored with
  | .dateTime, .datetime wall offset => .datetime (wall - offset.getD 0) (some 0)
  | _, o => o

/-- The prepared row. -/
def Row.dict (row : Row table) : Dict :=
  row.cells.map fun cell => (cell.1.name, cell.1.object cell.2)

/-- Whether the value under a datetime column has a time in UTC. -/
def Dated (cell : Column × Stored) : Prop :=
  match cell.1.type, cell.2 with
  | .dateTime, .datetime wall offset => InRange (wall - offset.getD 0)
  | _, _ => True

theorem markNull_eq {cell : Column × Stored} (hjson : cell.1.isJson) {done rest flags : Dict}
    (hname : cell.1.name ∉ done.map Prod.fst)
    (hlabel : cell.1.label ∉ (done ++ (cell.1.name, cell.2.fetched) :: rest).map Prod.fst)
    (hflags : cell.1.label ∉ flags.map Prod.fst) :
    markNull (done ++ (cell.1.name, cell.2.fetched) :: rest ++ flag cell :: flags) cell.1 =
      done ++ (cell.1.name, cell.1.marked cell.2) :: rest ++ flags := by
  have hother : ∀ {d : Dict}, cell.1.label ∉ d.map Prod.fst →
      d.filter (fun field => field.1 ≠ cell.1.label) = d := by
    intro d hd
    refine List.filter_eq_self.2 fun field hfield => ?_
    exact decide_eq_true fun heq => hd (heq ▸ List.mem_map_of_mem hfield)
  have hlookup : (done ++ (cell.1.name, cell.2.fetched) :: rest ++ flag cell :: flags).lookup
      cell.1.label = some (.value (.leaf (.bool cell.2.isNull))) := by
    rw [lookup_append_of_notMem hlabel, flag, List.lookup_cons_self]
  have hrest : (done ++ (cell.1.name, cell.2.fetched) :: rest ++ flag cell :: flags).filter
      (fun field => field.1 ≠ cell.1.label) =
        done ++ (cell.1.name, cell.2.fetched) :: rest ++ flags := by
    rw [List.filter_append, hother hlabel, List.filter_cons_of_neg (by simp [flag]),
      hother hflags]
  rw [markNull, hlookup, hrest, Column.marked, hjson]
  cases hnull : cell.2.isNull with
  | true =>
    rw [List.append_assoc, List.cons_append]
    simp only []
    rw [setBy_append_of_notMem hname, setBy, if_pos rfl]
    simp
  | false => rfl

theorem label_inj {c d : Column} (h : c.label = d.label) : c.name = d.name := by
  have hlist := congrArg String.toList h
  rw [Column.label, Column.label, String.toList_append, String.toList_append] at hlist
  exact String.toList_inj.1 (List.append_cancel_left hlist)

/-- All flags are taken, in the order of the columns. -/
theorem foldl_markNull (cells : List (Column × Stored)) (done : Dict)
    (hnames : (done.map Prod.fst ++ cells.map fun cell => cell.1.name).Nodup)
    (hlabels : ∀ cell ∈ cells, cell.1.isJson →
      cell.1.label ∉ done.map Prod.fst ++ cells.map fun cell => cell.1.name) :
    ((cells.filter fun cell => cell.1.isJson).map Prod.fst).foldl markNull
      (done ++ cells.map (fun cell => (cell.1.name, cell.2.fetched)) ++
        (cells.filter fun cell => cell.1.isJson).map flag) =
      done ++ cells.map fun cell => (cell.1.name, cell.1.marked cell.2) := by
  induction cells generalizing done with
  | nil => simp
  | cons cell cells ih =>
    have hstep := ih (done ++ [(cell.1.name, cell.1.marked cell.2)]) (by simpa using hnames)
      (fun other hother => by simpa using hlabels other (List.mem_cons_of_mem cell hother))
    have hname : cell.1.name ∉ done.map Prod.fst := by
      intro hmem
      exact (List.nodup_append.1 hnames).2.2 _ hmem _ List.mem_cons_self rfl
    have hfields : (cells.map fun cell => (cell.1.name, cell.2.fetched)).map Prod.fst =
        cells.map fun cell => cell.1.name := by
      rw [List.map_map]
      rfl
    rw [List.map_cons, List.map_cons]
    cases hjson : cell.1.isJson with
    | false =>
      have hmarked : cell.1.marked cell.2 = cell.2.fetched := by rw [Column.marked, hjson]; rfl
      rw [List.filter_cons_of_neg (by simp [hjson]), hmarked]
      rw [hmarked] at hstep
      simpa only [List.append_assoc, List.singleton_append] using hstep
    | true =>
      have hlabel := hlabels cell List.mem_cons_self hjson
      have hflags : cell.1.label ∉
          ((cells.filter fun cell => cell.1.isJson).map flag).map Prod.fst := by
        rw [List.map_map]
        intro hmem
        obtain ⟨other, hother, heq⟩ := List.mem_map.1 hmem
        have hnodup := (List.nodup_cons.1 (List.nodup_append.1 hnames).2.1).1
        refine hnodup (List.mem_map.2 ⟨other, (List.mem_filter.1 hother).1, label_inj heq⟩)
      have hfilter : (cell :: cells).filter (fun cell => cell.1.isJson) =
          cell :: cells.filter fun cell => cell.1.isJson := List.filter_cons_of_pos hjson
      rw [hfilter, List.map_cons, List.map_cons, List.foldl_cons,
        markNull_eq hjson hname (by simpa [hfields] using hlabel) hflags]
      simpa only [List.append_assoc, List.nil_append, List.cons_append] using hstep

/-! ## Times in UTC -/

theorem succeeds_toUtc (cell : Column × Stored) {done rest : Dict}
    (hname : cell.1.name ∉ done.map Prod.fst) :
    Succeeds (toUtc (done ++ (cell.1.name, cell.1.marked cell.2) :: rest) cell.1) (Dated cell)
      (done ++ (cell.1.name, cell.1.object cell.2) :: rest) := by
  have hlookup : (done ++ (cell.1.name, cell.1.marked cell.2) :: rest).lookup cell.1.name =
      some (cell.1.marked cell.2) := by
    rw [lookup_append_of_notMem hname, List.lookup_cons_self]
  have hset : ∀ o : Object, setBy Prod.fst (cell.1.name, o)
      (done ++ (cell.1.name, cell.1.marked cell.2) :: rest) = done ++ (cell.1.name, o) :: rest := by
    intro o
    rw [setBy_append_of_notMem hname, setBy, if_pos rfl]
  rw [toUtc, hlookup]
  obtain ⟨⟨name, type⟩, stored⟩ := cell
  cases type with
  | json noneAsNull => cases stored <;> exact Succeeds.pure _
  | plain => cases stored <;> exact Succeeds.pure _
  | dateTime =>
    cases stored with
    | null => exact Succeeds.pure _
    | value v => exact Succeeds.pure _
    | datetime wall offset =>
      have hinstant : Succeeds (astimezone wall offset) (InRange (wall - offset.getD 0))
          (wall - offset.getD 0) := Succeeds.ite _ _
      have hwrite : Succeeds (.ok (setBy Prod.fst
          (name, .datetime (wall - offset.getD 0) (some 0))
          (done ++ (name, .datetime wall offset) :: rest)) : Except TransferFailure Dict) True
          (done ++ (name, .datetime (wall - offset.getD 0) (some 0)) :: rest) :=
        (Succeeds.pure _).value (hset _)
      exact (hinstant.bind (f := fun t => .ok (setBy Prod.fst (name, .datetime t (some 0))
        (done ++ (name, .datetime wall offset) :: rest))) hwrite).congr (and_iff_left trivial)

/-- All datetimes are brought to UTC, in the order of the columns. -/
theorem succeeds_foldlM_toUtc (cells : List (Column × Stored)) (done : Dict)
    (hnames : (done.map Prod.fst ++ cells.map fun cell => cell.1.name).Nodup) :
    Succeeds ((cells.map Prod.fst).foldlM toUtc
      (done ++ cells.map fun cell => (cell.1.name, cell.1.marked cell.2)))
      (∀ cell ∈ cells, Dated cell)
      (done ++ cells.map fun cell => (cell.1.name, cell.1.object cell.2)) := by
  induction cells generalizing done with
  | nil => exact (Succeeds.pure _).congr (iff_of_true trivial (List.forall_mem_nil _))
  | cons cell cells ih =>
    have hname : cell.1.name ∉ done.map Prod.fst := by
      intro hmem
      exact (List.nodup_append.1 hnames).2.2 _ hmem _ List.mem_cons_self rfl
    have hrest := ih (done ++ [(cell.1.name, cell.1.object cell.2)]) (by simpa using hnames)
    simp only [List.append_assoc, List.singleton_append] at hrest
    rw [List.map_cons, List.map_cons, List.map_cons, List.foldlM_cons]
    exact ((succeeds_toUtc cell hname).bind hrest).congr List.forall_mem_cons.symm

/-- **What a prepared row holds, and when there is one.** -/
theorem succeeds_prepare (row : Row table) :
    Succeeds (prepare table row.original) (∀ cell ∈ row.cells, Dated cell) row.dict := by
  have hnames : (row.cells.map fun cell => cell.1.name) = table.columns.map Column.name := by
    rw [← row.columns, List.map_map]
    rfl
  have hjson : table.columns.filter Column.isJson =
      (row.cells.filter fun cell => cell.1.isJson).map Prod.fst := by
    rw [← row.columns, List.filter_map]
    rfl
  have hlabels : ∀ cell ∈ row.cells, cell.1.isJson →
      cell.1.label ∉ ([] : Dict).map Prod.fst ++ row.cells.map fun cell => cell.1.name := by
    intro cell hcell
    rw [List.map_nil, List.nil_append, hnames]
    exact table.labels cell.1 (row.columns ▸ List.mem_map_of_mem hcell)
  have hnodup : (([] : Dict).map Prod.fst ++ row.cells.map fun cell => cell.1.name).Nodup := by
    rw [List.map_nil, List.nil_append, hnames]
    exact table.names
  have hmark := foldl_markNull row.cells [] hnodup hlabels
  have htime := succeeds_foldlM_toUtc row.cells [] hnodup
  rw [row.columns] at htime
  rw [prepare, hjson]
  simp only [List.nil_append] at hmark htime
  rw [Row.original, hmark]
  exact htime

/-! ## Rows with their types -/

def Stored.typed : Stored → Typed
  | null => .null
  | datetime wall offset => .instant (wall - offset.getD 0)
  | value v => .value v.canonical

/-- The values of a row with their types. -/
def Row.typed (row : Row table) : List (String × Typed) :=
  row.cells.map fun cell => (cell.1.name, cell.2.typed)

/-- Whether a stored value can be compared. -/
def Stored.Comparable : Stored → Prop
  | null => True
  | datetime wall offset => InRange (wall - offset.getD 0)
  | value v => v.all Scalar.encodable

/-- Whether all values of a row can be compared. -/
def Row.Comparable (row : Row table) : Prop := ∀ cell ∈ row.cells, cell.2.Comparable

instance : DecidablePred Stored.Comparable
  | .null => .isTrue trivial
  | .datetime wall offset => inferInstanceAs (Decidable (InRange (wall - offset.getD 0)))
  | .value v => inferInstanceAs (Decidable (v.all Scalar.encodable = true))

instance (row : Row table) : Decidable row.Comparable :=
  inferInstanceAs (Decidable (∀ cell ∈ row.cells, cell.2.Comparable))

theorem comparable_object (cell : Column × Stored) :
    Dated cell ∧ (cell.1.object cell.2).Comparable ↔ cell.2.Comparable := by
  obtain ⟨⟨name, type⟩, stored⟩ := cell
  cases stored with
  | null => cases type <;> exact iff_of_true ⟨trivial, by trivial⟩ trivial
  | value v =>
    cases type <;> exact and_iff_right trivial
  | datetime wall offset =>
    cases type with
    | json noneAsNull => exact and_iff_right trivial
    | plain => exact and_iff_right trivial
    | dateTime =>
      have hshift : (Column.mk name .dateTime).object (.datetime wall offset) =
          .datetime (wall - offset.getD 0) (some 0) := rfl
      rw [hshift]
      simp [Dated, Object.Comparable, Stored.Comparable]

theorem row_comparable_iff (row : Row table) :
    (∀ cell ∈ row.cells, Dated cell) ∧ (∀ field ∈ row.dict, field.2.Comparable) ↔
      row.Comparable := by
  rw [Row.dict, List.forall_mem_map, ← forall₂_and]
  exact forall₂_congr fun cell _ => comparable_object cell

theorem typed_object (column : Column) (s : Stored) :
    (column.object s).typed =
      if column.isJson = false ∧ s.isNull then .value (.leaf .null) else s.typed := by
  obtain ⟨name, type⟩ := column
  cases s with
  | null => cases type <;> rfl
  | value v => cases type <;> rfl
  | datetime wall offset =>
    cases type with
    | json noneAsNull => rfl
    | plain => rfl
    | dateTime =>
      change Typed.instant (wall - offset.getD 0 - 0) = .instant (wall - offset.getD 0)
      rw [sub_zero]

theorem typed_ne_null {s : Stored} (hnull : s.isNull = false)
    (hliteral : s ≠ .value (.leaf .null)) :
    s.typed ≠ .null ∧ s.typed ≠ .value (.leaf .null) := by
  cases s with
  | null => cases hnull
  | datetime wall offset => exact ⟨by simp [Stored.typed], by simp [Stored.typed]⟩
  | value v =>
    refine ⟨by simp [Stored.typed], fun h => hliteral ?_⟩
    rw [leaf_of_canonical (Typed.value.inj h)]

/-- Under one column, objects are equal exactly if the stored values are. -/
theorem typed_object_iff {column : Column} {s s' : Stored}
    (hs : column.isJson = false → s ≠ .value (.leaf .null))
    (hs' : column.isJson = false → s' ≠ .value (.leaf .null)) :
    (column.object s).typed = (column.object s').typed ↔ s.typed = s'.typed := by
  have htyped : ∀ {s : Stored}, s.isNull → s.typed = .null := by
    intro s hnull
    cases s with
    | null => rfl
    | datetime wall offset => cases hnull
    | value v => cases hnull
  rw [typed_object, typed_object]
  cases hjson : column.isJson with
  | true => simp
  | false =>
    cases hnull : s.isNull with
    | true =>
      cases hnull' : s'.isNull with
      | true => simp [htyped hnull, htyped hnull']
      | false =>
        have hne := typed_ne_null hnull' (hs' hjson)
        simp [htyped hnull, hne.1.symm, hne.2.symm]
    | false =>
      have hne := typed_ne_null hnull (hs hjson)
      cases hnull' : s'.isNull with
      | true => simp [htyped hnull', hne.1, hne.2]
      | false => simp

theorem typed_cells_iff {cells cells' : List (Column × Stored)}
    (hcolumns : cells.map Prod.fst = cells'.map Prod.fst)
    (hs : ∀ cell ∈ cells, cell.1.isJson = false → cell.2 ≠ .value (.leaf .null))
    (hs' : ∀ cell ∈ cells', cell.1.isJson = false → cell.2 ≠ .value (.leaf .null)) :
    cells.map (fun cell => (cell.1.name, (cell.1.object cell.2).typed)) =
        cells'.map (fun cell => (cell.1.name, (cell.1.object cell.2).typed)) ↔
      cells.map (fun cell => (cell.1.name, cell.2.typed)) =
        cells'.map fun cell => (cell.1.name, cell.2.typed) := by
  induction cells generalizing cells' with
  | nil =>
    cases cells' with
    | nil => rfl
    | cons cell' cells' => cases hcolumns
  | cons cell cells ih =>
    cases cells' with
    | nil => cases hcolumns
    | cons cell' cells' =>
      obtain ⟨hcolumn, hrest⟩ := List.cons.inj hcolumns
      obtain ⟨hcell, hcells⟩ := List.forall_mem_cons.1 hs
      obtain ⟨hcell', hcells'⟩ := List.forall_mem_cons.1 hs'
      have hhead := typed_object_iff hcell (hcolumn ▸ hcell')
      simp only [List.map_cons, List.cons.injEq, Prod.mk.injEq, ih hrest hcells hcells']
      rw [← hcolumn, hhead]

/-- **Prepared rows are equal with their types exactly if the rows are.** -/
theorem typed_dict_iff (row row' : Row table) :
    row.dict.map (fun field => (field.1, field.2.typed)) =
        row'.dict.map (fun field => (field.1, field.2.typed)) ↔ row.typed = row'.typed := by
  rw [Row.dict, Row.dict, List.map_map, List.map_map]
  exact typed_cells_iff (row.columns.trans row'.columns.symm) row.literals row'.literals

/-! ## Batches -/

theorem flatten_partitionsFrom {α : Type} (size : ℕ) (current rows : List α) :
    (partitionsFrom size current rows).flatten = current ++ rows := by
  induction rows generalizing current with
  | nil =>
    rw [partitionsFrom]
    split_ifs with hcurrent
    · rw [hcurrent]
      rfl
    · simp
  | cons row rows ih =>
    rw [partitionsFrom]
    split_ifs
    · rw [List.flatten_cons, ih]
      simp
    · rw [ih]
      simp

/-- The partitions hold every row once, in their order. -/
theorem flatten_partitions {α : Type} (size : ℕ) (rows : List α) :
    (partitions size rows).flatten = rows := flatten_partitionsFrom size [] rows

theorem forall_partitions {α : Type} {p : α → Prop} (size : ℕ) (rows : List α) :
    (∀ partition ∈ partitions size rows, ∀ row ∈ partition, p row) ↔ ∀ row ∈ rows, p row := by
  constructor
  · intro h row hrow
    rw [← flatten_partitions size rows] at hrow
    obtain ⟨partition, hpartition, hmem⟩ := List.mem_flatten.1 hrow
    exact h partition hpartition row hmem
  · intro h partition hpartition row hrow
    refine h row ?_
    rw [← flatten_partitions size rows]
    exact List.mem_flatten.2 ⟨partition, hpartition, hrow⟩

theorem succeeds_batch (partition : List (Row table)) :
    Succeeds (batch table partition) (∀ row ∈ partition, ∀ cell ∈ row.cells, Dated cell)
      (partition.map Row.dict) :=
  Succeeds.mapM fun row _ => succeeds_prepare row

end ScrapMonitoring.Transfer
