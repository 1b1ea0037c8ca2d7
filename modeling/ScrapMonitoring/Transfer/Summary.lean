import ScrapMonitoring.Foundations.Sha256
import ScrapMonitoring.Transfer.Batches

/-!
# The summary of a table

`summarize` counts the rows of a table and hashes their bytes, each behind its length. The hashed
bytes are the frames of the rows, one after the other, for every size of the batches
(`succeeds_digestTable`); they determine the rows with their types (`frames_isPrefix_iff`).
-/

namespace ScrapMonitoring.Transfer

variable {table : Table}

/-- What is counted and hashed so far. -/
structure Digest where
  count : ℕ
  hashed : List UInt8

/-- Count and hash a row. -/
def update (digest : Digest) (row : Dict) : Except TransferFailure Digest := do
  let encoded ← rowBytes row
  if encoded.length < 2 ^ 64 then
    .ok ⟨digest.count + 1, digest.hashed ++ toBytes 8 encoded.length ++ encoded⟩
  else .error .overflowError

def digestTable (table : Table) (batchSize : ℕ) (rows : List (Row table)) :
    Except TransferFailure Digest :=
  (partitions batchSize rows).foldlM (fun digest partition => do
    let rows ← batch table partition
    rows.foldlM update digest) ⟨0, []⟩

structure TableSummary where
  rows : ℕ
  digest : String
  deriving DecidableEq

def summarize (table : Table) (batchSize : ℕ) (rows : List (Row table)) :
    Except TransferFailure TableSummary :=
  (fun digest => ⟨digest.count, sha256 digest.hashed⟩) <$> digestTable table batchSize rows

/-! ## The hashed bytes -/

/-- The bytes of a row. -/
def Row.bytes (row : Row table) : List UInt8 := (rowText row.dict).bytes

/-- Whether a row can be hashed. -/
def Row.Hashable (row : Row table) : Prop := row.Comparable ∧ row.bytes.length < 2 ^ 64

instance (row : Row table) : Decidable row.Hashable := inferInstanceAs (Decidable (_ ∧ _))

/-- The bytes of the rows, each behind its length. -/
def frames (rows : List (Row table)) : List UInt8 := (rows.map Row.bytes).flatMap frame

def Digest.add (digest : Digest) (row : Row table) : Digest :=
  ⟨digest.count + 1, digest.hashed ++ frame row.bytes⟩

theorem succeeds_update (digest : Digest) (row : Row table) :
    Succeeds (update digest row.dict)
      ((∀ field ∈ row.dict, field.2.Comparable) ∧ row.bytes.length < 2 ^ 64) (digest.add row) := by
  have hwrite : Succeeds (if row.bytes.length < 2 ^ 64 then
      .ok ⟨digest.count + 1, digest.hashed ++ toBytes 8 row.bytes.length ++ row.bytes⟩
      else .error TransferFailure.overflowError) (row.bytes.length < 2 ^ 64) (digest.add row) := by
    rw [List.append_assoc]
    exact Succeeds.ite _ _
  exact (succeeds_rowBytes row.dict).bind hwrite

theorem succeeds_partition (digest : Digest) (partition : List (Row table)) :
    Succeeds (do
      let rows ← batch table partition
      rows.foldlM update digest)
      (∀ row ∈ partition, row.Hashable) (partition.foldl Digest.add digest) := by
  have hrows : Succeeds ((partition.map Row.dict).foldlM update digest)
      (∀ row ∈ partition, (∀ field ∈ row.dict, field.2.Comparable) ∧ row.bytes.length < 2 ^ 64)
      (partition.foldl Digest.add digest) := by
    rw [List.foldlM_map]
    exact Succeeds.foldlM succeeds_update partition digest
  refine ((succeeds_batch partition).bind hrows).congr ?_
  rw [← forall₂_and]
  refine forall₂_congr fun row _ => ?_
  rw [← and_assoc, row_comparable_iff, Row.Hashable]

theorem foldl_add (rows : List (Row table)) (digest : Digest) :
    rows.foldl Digest.add digest =
      ⟨digest.count + rows.length, digest.hashed ++ frames rows⟩ := by
  induction rows generalizing digest with
  | nil => simp [frames]
  | cons row rows ih =>
    rw [List.foldl_cons, ih, Digest.add, List.length_cons, frames, frames, List.map_cons,
      List.flatMap_cons, List.append_assoc, Nat.add_assoc, Nat.add_comm 1]

/-- **The rows are counted and hashed once each, whatever the size of the batches.** -/
theorem succeeds_digestTable (batchSize : ℕ) (rows : List (Row table)) :
    Succeeds (digestTable table batchSize rows) (∀ row ∈ rows, row.Hashable)
      ⟨rows.length, frames rows⟩ := by
  have hpartitions := Succeeds.foldlM succeeds_partition (partitions batchSize rows) ⟨0, []⟩
  have hvalue : (partitions batchSize rows).foldl
      (fun digest partition => partition.foldl Digest.add digest) ⟨0, []⟩ =
        ⟨rows.length, frames rows⟩ := by
    rw [← List.foldl_flatten, flatten_partitions, foldl_add, Nat.zero_add, List.nil_append]
  exact (hpartitions.value hvalue).congr (forall_partitions batchSize rows)

theorem succeeds_summarize (batchSize : ℕ) (rows : List (Row table)) :
    Succeeds (summarize table batchSize rows) (∀ row ∈ rows, row.Hashable)
      ⟨rows.length, sha256 (frames rows)⟩ :=
  (succeeds_digestTable batchSize rows).map

/-! ## The hashed bytes determine the rows -/

theorem keys_dict (row : Row table) : row.dict.map Prod.fst = table.columns.map Column.name := by
  rw [Row.dict, List.map_map, ← row.columns, List.map_map]
  rfl

theorem bytes_row_iff {row row' : Row table} (hrow : row.Comparable) (hrow' : row'.Comparable) :
    row.bytes = row'.bytes ↔ row.typed = row'.typed := by
  rw [Row.bytes, Row.bytes, rowText_eq_iff ((keys_dict row).trans (keys_dict row').symm)
    (by rw [keys_dict]; exact table.names) ((row_comparable_iff row).2 hrow).2
    ((row_comparable_iff row').2 hrow').2, typed_dict_iff]

theorem map_bytes_iff {rows rows' : List (Row table)} (hrows : ∀ row ∈ rows, row.Comparable)
    (hrows' : ∀ row ∈ rows', row.Comparable) :
    rows.map Row.bytes = rows'.map Row.bytes ↔ rows.map Row.typed = rows'.map Row.typed := by
  induction rows generalizing rows' with
  | nil => cases rows' <;> simp
  | cons row rows ih =>
    cases rows' with
    | nil => simp
    | cons row' rows' =>
      obtain ⟨hrow, hrest⟩ := List.forall_mem_cons.1 hrows
      obtain ⟨hrow', hrest'⟩ := List.forall_mem_cons.1 hrows'
      simp only [List.map_cons, List.cons.injEq, bytes_row_iff hrow hrow', ih hrest hrest']

theorem length_bytes {rows : List (Row table)} (h : ∀ row ∈ rows, row.Hashable) :
    ∀ bytes ∈ rows.map Row.bytes, bytes.length < 2 ^ 64 := by
  intro bytes hbytes
  obtain ⟨row, hrow, rfl⟩ := List.mem_map.1 hbytes
  exact (h row hrow).2

section

variable {rows rows' : List (Row table)} (hrows : ∀ row ∈ rows, row.Hashable)
  (hrows' : ∀ row ∈ rows', row.Hashable)

include hrows hrows'

/-- **The frames determine the rows with their types.** -/
theorem frames_eq_iff : frames rows = frames rows' ↔ rows.map Row.typed = rows'.map Row.typed := by
  rw [← map_bytes_iff (fun row hrow => (hrows row hrow).1) fun row hrow => (hrows' row hrow).1]
  constructor
  · exact flatMap_frame_inj (length_bytes hrows) (length_bytes hrows')
  · intro h
    rw [frames, frames, h]

/-- **The frames of one sequence of rows begin those of another exactly if the one sequence begins
the other.** -/
theorem frames_isPrefix_iff :
    frames rows <+: frames rows' ↔ rows.map Row.typed <+: rows'.map Row.typed := by
  have htake : ∀ n, (rows'.take n).map Row.bytes = rows.map Row.bytes ↔
      (rows'.take n).map Row.typed = rows.map Row.typed := fun n =>
    map_bytes_iff (fun row hrow => (hrows' row (List.mem_of_mem_take hrow)).1)
      fun row hrow => (hrows row hrow).1
  rw [frames, frames, flatMap_frame_isPrefix (length_bytes hrows) (length_bytes hrows'),
    List.prefix_iff_eq_take, List.prefix_iff_eq_take, List.length_map, List.length_map,
    ← List.map_take, ← List.map_take, eq_comm, htake, eq_comm]

end

end ScrapMonitoring.Transfer
