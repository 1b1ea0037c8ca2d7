import ScrapMonitoring.Transfer.Database
import ScrapMonitoring.Foundations.Sorted

/-!
# A transfer takes effect whole or not at all

A transfer succeeds under the conditions that its steps check, and then with one value, so each step
has its lemma `succeeds_...`. A transfer that changes the database has copied every row and
restarted the sequences behind them (`transferDatabase_atomic`); with databases that store what they
are given, it succeeds whenever the destination is empty and the backup can be hashed
(`transferDatabase_succeeds_iff`).
-/

namespace ScrapMonitoring.Transfer

variable {n : ℕ} {schema : Schema n} {table : Table}

/-! ## Databases with more rows -/

namespace Database

variable {db : Database schema} {t u : Fin n} {rows : List (Row (schema.table t))}

theorem add_rows_self (hrows : ∀ row ∈ rows, row.hasScalar) :
    (db.add t rows hrows).rows t = db.rows t ++ rows := Function.update_self ..

theorem add_rows_of_ne (hrows : ∀ row ∈ rows, row.hasScalar) (hu : u ≠ t) :
    (db.add t rows hrows).rows u = db.rows u := Function.update_of_ne hu ..

@[simp] theorem restart_rows (column : String) : (db.restart t column).rows = db.rows := rfl

theorem holds_eq_false : db.holds t = false ↔ db.rows t = [] := by
  unfold holds
  cases hrows : db.rows t with
  | nil => simp
  | cons row rows =>
    have hscalar := db.identified t row (hrows ▸ List.mem_cons_self)
    simp [hscalar]

/-- A sequence goes on behind all identifiers. -/
theorem lt_nextId {column : String} {row : Row (schema.table t)} {id : ℤ} (hrow : row ∈ db.rows t)
    (hid : row.integer column = some id) : id < db.nextId t column := by
  have hmem : id ∈ (db.rows t).filterMap (Row.integer column) :=
    List.mem_filterMap.2 ⟨row, hrow, hid⟩
  unfold nextId
  cases hmax : ((db.rows t).filterMap (Row.integer column)).max? with
  | none =>
    rw [List.max?_eq_none_iff] at hmax
    rw [hmax] at hmem
    cases hmem
  | some m =>
    have hle : id ≤ m := (List.max?_eq_some_iff.1 hmax).2 id hmem
    rw [Option.getD_some]
    omega

theorem one_le_nextId (column : String) : 1 ≤ db.nextId t column := le_max_left 1 _

end Database

namespace Connections

variable {c : Connections schema} {batchSize : ℕ} {source : Backup schema}
variable {db db' : Database schema}

theorem succeeds_lift {α : Type} {x : Except TransferFailure α} {P : Prop} {a : α}
    (h : Succeeds x P a) : Succeeds (lift x) P a := by
  intro b
  cases x with
  | ok a' =>
    rw [← h b]
    simp [lift]
  | error failure =>
    rw [← h b]
    simp [lift]

theorem succeeds_call (statement : Statement n) :
    Succeeds (c.call statement) (c.raises statement = none) () := by
  unfold call
  cases hraises : c.raises statement with
  | none => exact (Succeeds.pure ()).congr (iff_of_true trivial rfl)
  | some failure => exact Succeeds.error failure () nofun

/-- A last call before the answer. -/
theorem succeeds_last {α : Type} (statement : Statement n) (a : α) :
    Succeeds (c.call statement >>= fun _ => (.ok a : Except Failure α))
      (c.raises statement = none) a := by
  have hanswer : Succeeds (.ok a : Except Failure α) True a := Succeeds.pure a
  exact ((succeeds_call statement).bind (f := fun _ => .ok a) hanswer).congr
    (and_iff_left trivial)

/-! ## Copying -/

/-- The rows that insertions store. -/
def storedBy (c : Connections schema) (t : Fin n) (inserts : List Insert) :
    List (Row (schema.table t)) := inserts.flatMap (c.insert t)

theorem identified_storedBy (t : Fin n) (inserts : List Insert) :
    ∀ row ∈ c.storedBy t inserts, row.hasScalar := by
  intro row hrow
  obtain ⟨insert, -, hmem⟩ := List.mem_flatMap.1 hrow
  exact c.identified t insert row hmem

/-- The database after insertions. -/
def added (c : Connections schema) (t : Fin n) (db : Database schema) (inserts : List Insert) :
    Database schema := db.add t (c.storedBy t inserts) (c.identified_storedBy t inserts)

theorem added_nil (t : Fin n) : c.added t db [] = db := by
  ext u
  · by_cases hu : u = t
    · subst hu
      rw [added, Database.add_rows_self, storedBy, List.flatMap_nil, List.append_nil]
    · rw [added, Database.add_rows_of_ne _ hu]
  · rfl

theorem added_added (t : Fin n) (inserts inserts' : List Insert) :
    c.added t (c.added t db inserts) inserts' = c.added t db (inserts ++ inserts') := by
  ext u
  · by_cases hu : u = t
    · subst hu
      rw [added, added, added, Database.add_rows_self, Database.add_rows_self,
        Database.add_rows_self, storedBy, storedBy, storedBy, List.flatMap_append,
        List.append_assoc]
    · rw [added, added, added, Database.add_rows_of_ne _ hu, Database.add_rows_of_ne _ hu,
        Database.add_rows_of_ne _ hu]
  · rfl

theorem foldl_added {α : Type} (t : Fin n) (f : α → List Insert) (l : List α)
    (db : Database schema) :
    l.foldl (fun db a => c.added t db (f a)) db = c.added t db (l.flatMap f) := by
  induction l generalizing db with
  | nil => rw [List.foldl_nil, List.flatMap_nil, added_nil]
  | cons a l ih => rw [List.foldl_cons, ih, added_added, List.flatMap_cons]

theorem succeeds_execute (t : Fin n) (db : Database schema) (insert : Insert) :
    Succeeds (c.execute t db insert) (c.raises (.insert t insert) = none)
      (c.added t db [insert]) := by
  have hvalue : db.add t (c.insert t insert) (c.identified t insert) = c.added t db [insert] := by
    unfold added storedBy
    congr 1
    rw [List.flatMap_singleton]
  have hadd : Succeeds (.ok (db.add t (c.insert t insert) (c.identified t insert)) :
      Except Failure (Database schema)) True (c.added t db [insert]) :=
    (Succeeds.pure _).value hvalue
  exact ((succeeds_call _).bind hadd).congr (and_iff_left trivial)

theorem succeeds_executes (t : Fin n) (db : Database schema) (inserts : List Insert) :
    Succeeds (inserts.foldlM (c.execute t) db)
      (∀ insert ∈ inserts, c.raises (.insert t insert) = none) (c.added t db inserts) := by
  refine (Succeeds.foldlM (succeeds_execute t) inserts db).value ?_
  rw [foldl_added t fun insert => [insert], List.flatMap_singleton']

/-- The insertions of a batch are those of `copyTable`. -/
theorem copyBatch_eq (t : Fin n) (db : Database schema)
    (partition : List (Row (schema.table t))) :
    c.copyBatch t db partition =
      lift (do
        let rows ← batch (schema.table t) partition
        let groups ← rows.foldlM (group (schema.table t)) []
        .ok ([] ++ groups)) >>= fun groups => groups.foldlM (c.execute t) db := by
  unfold copyBatch
  cases batch (schema.table t) partition with
  | error failure => rfl
  | ok rows =>
    change (lift (rows.foldlM (group (schema.table t)) []) >>= _) =
      lift (rows.foldlM (group (schema.table t)) [] >>= fun groups => .ok ([] ++ groups)) >>= _
    cases rows.foldlM (group (schema.table t)) [] <;> rfl

theorem succeeds_copyBatch (t : Fin n) (db : Database schema)
    (partition : List (Row (schema.table t))) :
    Succeeds (c.copyBatch t db partition)
      ((∀ row ∈ partition, row.Comparable) ∧
        ∀ insert ∈ partition.foldl addRow [], c.raises (.insert t insert) = none)
      (c.added t db (partition.foldl addRow [])) := by
  rw [copyBatch_eq]
  have hgroups := succeeds_lift (succeeds_insertBatch [] partition)
  rw [List.nil_append] at hgroups
  exact hgroups.bind (succeeds_executes t db _)

theorem insertions_eq {table : Table} (batchSize : ℕ) (rows : List (Row table)) :
    insertions batchSize rows =
      (partitions batchSize rows).flatMap fun partition => partition.foldl addRow [] := by
  unfold insertions
  rw [List.flatMap_eq_foldl]

/-- The conditions under which a table is copied. -/
structure Copies (c : Connections schema) (batchSize : ℕ) (source : Backup schema) (t : Fin n) :
    Prop where
  copy : c.raises (.copy t) = none
  rows : ∀ row ∈ source t, row.Comparable
  inserts : ∀ insert ∈ insertions batchSize (source t), c.raises (.insert t insert) = none

theorem succeeds_copyTable (db : Database schema) (t : Fin n) :
    Succeeds (c.copyTable batchSize source db t) (c.Copies batchSize source t)
      (c.added t db (insertions batchSize (source t))) := by
  have hbatches := Succeeds.foldlM (succeeds_copyBatch (c := c) t)
    (partitions batchSize (source t)) db
  rw [foldl_added, ← insertions_eq] at hbatches
  refine ((succeeds_call (.copy t)).bind hbatches).congr ?_
  have hinserts : (∀ partition ∈ partitions batchSize (source t),
      ∀ insert ∈ partition.foldl addRow [], c.raises (.insert t insert) = none) ↔
        ∀ insert ∈ insertions batchSize (source t), c.raises (.insert t insert) = none := by
    rw [insertions_eq]
    simp only [List.mem_flatMap, forall_exists_index, and_imp]
    exact ⟨fun h insert partition hpartition => h partition hpartition insert,
      fun h partition hpartition insert => h insert partition hpartition⟩
  rw [forall₂_and, forall_partitions, hinserts]
  exact ⟨fun h => ⟨h.1, h.2.1, h.2.2⟩, fun h => ⟨h.copy, h.rows, h.inserts⟩⟩

/-- The database with the rows of the backup. -/
def copied (c : Connections schema) (batchSize : ℕ) (source : Backup schema)
    (db : Database schema) : Database schema where
  rows t := db.rows t ++ c.storedBy t (insertions batchSize (source t))
  identified := by
    intro t row hrow
    rcases List.mem_append.1 hrow with hrow | hrow
    · exact db.identified t row hrow
    · exact c.identified_storedBy t _ row hrow
  next := db.next

/-- The tables of a list are copied, and no other. -/
theorem foldl_copyTable (c : Connections schema) (batchSize : ℕ) (source : Backup schema)
    {l : List (Fin n)} (hl : l.Nodup) (db : Database schema) :
    (∀ t, (l.foldl (fun db t => c.added t db (insertions batchSize (source t))) db).rows t =
      if t ∈ l then (c.copied batchSize source db).rows t else db.rows t) ∧
    (l.foldl (fun db t => c.added t db (insertions batchSize (source t))) db).next = db.next := by
  induction l generalizing db with
  | nil => exact ⟨fun t => by simp, rfl⟩
  | cons u l ih =>
    obtain ⟨hu, hl⟩ := List.nodup_cons.1 hl
    obtain ⟨hrows, hnext⟩ := ih hl (c.added u db (insertions batchSize (source u)))
    refine ⟨fun t => ?_, hnext⟩
    rw [List.foldl_cons, hrows t]
    by_cases htu : t = u
    · subst htu
      rw [if_neg hu, if_pos List.mem_cons_self]
      exact Database.add_rows_self _
    · have hkept : (c.added u db (insertions batchSize (source u))).rows t = db.rows t :=
        Database.add_rows_of_ne _ htu
      simp only [copied, hkept, List.mem_cons, htu, false_or]

theorem succeeds_copyTables (db : Database schema) :
    Succeeds (c.copyTables batchSize source db)
      ((∀ t, c.raises (.select t) = none ∧ db.rows t = []) ∧ ∀ t, c.Copies batchSize source t)
      (c.copied batchSize source db) := by
  have hempty : Succeeds ((List.finRange n).forM (c.requireEmpty db))
      (∀ t ∈ List.finRange n, c.raises (.select t) = none ∧ db.rows t = []) () := by
    refine Succeeds.forM fun t _ => ?_
    refine ((succeeds_call (.select t)).bind (Succeeds.refuse _)).congr ?_
    rw [Bool.not_eq_true, Database.holds_eq_false]
  have hcopy : Succeeds ((List.finRange n).foldlM (c.copyTable batchSize source) db) _ _ :=
    Succeeds.foldlM succeeds_copyTable (List.finRange n) db
  have hvalue : (List.finRange n).foldl
      (fun db t => c.added t db (insertions batchSize (source t))) db =
        c.copied batchSize source db := by
    obtain ⟨hrows, hnext⟩ := foldl_copyTable c batchSize source (List.nodup_finRange n) db
    ext t
    · rw [hrows t, if_pos (List.mem_finRange t)]
    · rw [hnext]
      rfl
  refine ((hempty.bind (hcopy.value hvalue))).congr ?_
  simp only [List.mem_finRange, forall_const]

/-! ## Comparing -/

/-- The summary of rows that can be hashed. -/
def summary {table : Table} (rows : List (Row table)) : TableSummary :=
  ⟨rows.length, sha256 (frames rows)⟩

def summaries (source : Backup schema) : Summaries :=
  (List.finRange n).map fun t => (schema.name t, summary (source t))

/-- The conditions under which a table compares as equal. -/
structure Compares (c : Connections schema) (source : Backup schema) (db : Database schema)
    (t : Fin n) : Prop where
  summarizeSource : c.raises (.summarizeSource t) = none
  sourceRows : ∀ row ∈ source t, row.Hashable
  summarizeDestination : c.raises (.summarizeDestination t) = none
  destinationRows : ∀ row ∈ c.order t (db.rows t), row.Hashable
  equal : summary (source t) = summary (c.order t (db.rows t))

theorem succeeds_compareTable (db : Database schema) (t : Fin n) :
    Succeeds (c.compareTable batchSize source db t) (c.Compares source db t)
      (schema.name t, summary (source t)) := by
  have hanswer : Succeeds (.ok (schema.name t, summary (source t)) :
      Except Failure (String × TableSummary)) True (schema.name t, summary (source t)) :=
    Succeeds.pure _
  have hexpected := succeeds_lift (succeeds_summarize batchSize (source t))
  have hactual := succeeds_lift (succeeds_summarize batchSize (c.order t (db.rows t)))
  have hequal := (Succeeds.refuse (P := summary (source t) ≠ summary (c.order t (db.rows t)))
    (transferError ("Data comparison failed in " ++ schema.name t ++ "; no changes saved"))).bind
      (f := fun _ => .ok (schema.name t, summary (source t))) hanswer
  refine ((succeeds_call (.summarizeSource t)).bind (hexpected.bind
    ((succeeds_call (.summarizeDestination t)).bind (hactual.bind hequal)))).congr ?_
  rw [and_true, not_ne_iff]
  exact ⟨fun ⟨h₁, h₂, h₃, h₄, h₅⟩ => ⟨h₁, h₂, h₃, h₄, h₅⟩,
    fun ⟨h₁, h₂, h₃, h₄, h₅⟩ => ⟨h₁, h₂, h₃, h₄, h₅⟩⟩

theorem succeeds_compare (db : Database schema) :
    Succeeds (c.compare batchSize source db) (∀ t, c.Compares source db t) (summaries source) := by
  refine (Succeeds.mapM fun t _ => succeeds_compareTable db t).congr ?_
  simp only [List.mem_finRange, forall_const]

/-! ## Sequences -/

/-- The conditions under which the sequence of a table is restarted, if it has one. -/
def Restarts (c : Connections schema) (t : Fin n) : Prop :=
  (schema.serial t).isSome →
    c.raises (.sequence t) = none ∧ c.hasSequence t = true ∧ c.raises (.sequenceName t) = none ∧
      c.raises (.maximum t) = none ∧ c.raises (.restart t) = none


/-- The database after the sequence of a table is restarted. -/
def restartedAt (db : Database schema) (t : Fin n) : Database schema :=
  (schema.serial t).elim db (db.restart t)

theorem succeeds_restartSequence (db : Database schema) (t : Fin n) :
    Succeeds (c.restartSequence db t) (c.Restarts t) (restartedAt db t) := by
  unfold restartSequence Restarts restartedAt
  cases hserial : schema.serial t with
  | none => exact (Succeeds.pure db).congr (iff_of_true trivial nofun)
  | some column =>
    have hanswer : Succeeds (.ok (db.restart t column) : Except Failure (Database schema)) True
        (db.restart t column) := Succeeds.pure _
    refine ((succeeds_call (.sequence t)).bind ((Succeeds.refuse _).bind
      ((succeeds_call (.sequenceName t)).bind ((succeeds_call (.maximum t)).bind
        ((succeeds_call (.restart t)).bind hanswer))))).congr ?_
    simp

/-- The database with all sequences restarted. -/
def restarted (db : Database schema) : Database schema :=
  { db with next := fun t => (schema.serial t).elim (db.next t) (db.nextId t) }

theorem restartedAt_rows (db : Database schema) (t : Fin n) :
    (restartedAt db t).rows = db.rows := by
  unfold restartedAt
  cases schema.serial t <;> rfl

theorem restartedAt_nextId (db : Database schema) (t u : Fin n) (column : String) :
    (restartedAt db t).nextId u column = db.nextId u column := by
  unfold Database.nextId
  rw [restartedAt_rows]

theorem restartedAt_next (db : Database schema) (t : Fin n) :
    (restartedAt db t).next t = (restarted db).next t := by
  unfold restarted
  dsimp only
  unfold restartedAt
  cases schema.serial t with
  | none => rfl
  | some column => exact Function.update_self ..

theorem foldl_restartedAt {l : List (Fin n)} (hl : l.Nodup) (db : Database schema) :
    (l.foldl restartedAt db).rows = db.rows ∧
    ∀ t, (l.foldl restartedAt db).next t = if t ∈ l then (restarted db).next t else db.next t := by
  induction l generalizing db with
  | nil => exact ⟨rfl, fun t => by simp⟩
  | cons u l ih =>
    obtain ⟨hu, hl⟩ := List.nodup_cons.1 hl
    obtain ⟨hrows, hnext⟩ := ih hl (restartedAt db u)
    refine ⟨hrows.trans (restartedAt_rows db u), fun t => ?_⟩
    rw [List.foldl_cons, hnext t]
    by_cases htu : t = u
    · subst htu
      rw [if_neg hu, if_pos List.mem_cons_self]
      exact restartedAt_next db t
    · have hkept : (restartedAt db u).next t = db.next t := by
        unfold restartedAt
        cases schema.serial u with
        | none => rfl
        | some column => exact Function.update_of_ne htu ..
      have hsame : (restarted (restartedAt db u)).next t = (restarted db).next t := by
        unfold restarted
        dsimp only
        cases schema.serial t with
        | none => exact hkept
        | some column => exact restartedAt_nextId db u t column
      simp only [hkept, hsame, List.mem_cons, htu, false_or]

/-- The conditions under which the sequences are restarted. -/
structure AllRestart (c : Connections schema) : Prop where
  currentSchema : c.raises .currentSchema = none
  hasSchema : c.hasSchema = true
  restarts : ∀ t, c.Restarts t

theorem succeeds_restartSequences (db : Database schema) :
    Succeeds (c.restartSequences db) c.AllRestart (restarted db) := by
  have hfold : Succeeds ((List.finRange n).foldlM c.restartSequence db) _ _ :=
    Succeeds.foldlM succeeds_restartSequence (List.finRange n) db
  have hvalue : (List.finRange n).foldl restartedAt db = restarted db := by
    obtain ⟨hrows, hnext⟩ := foldl_restartedAt (List.nodup_finRange n) db
    ext t
    · rw [hrows]
      rfl
    · rw [hnext t, if_pos (List.mem_finRange t)]
  refine ((succeeds_call .currentSchema).bind
    ((Succeeds.refuse _).bind (hfold.value hvalue))).congr ?_
  simp only [List.mem_finRange, forall_const, Bool.not_eq_false]
  exact ⟨fun ⟨h₁, h₂, h₃⟩ => ⟨h₁, h₂, h₃⟩, fun ⟨h₁, h₂, h₃⟩ => ⟨h₁, h₂, h₃⟩⟩

/-! ## The transaction -/

/-- The conditions of the checks before anything is read. -/
structure Preflight (c : Connections schema) : Prop where
  dialects : c.sourceDialect = "sqlite" ∧ c.destinationDialect = "postgresql"
  quickCheck : c.quickCheck = ["ok"]
  violations : c.violations = 0
  quiet : c.raises .sourceSchema = none ∧ c.raises .lockTimeout = none ∧
    c.raises .destinationSchema = none ∧ c.raises .quickCheck = none ∧
    c.raises .foreignKeyCheck = none ∧ c.raises .lock = none ∧ c.raises .lockedSchema = none

theorem succeeds_preflight : Succeeds c.preflight c.Preflight () := by
  refine ((Succeeds.refuse _).bind ((succeeds_call .sourceSchema).bind
    ((succeeds_call .lockTimeout).bind ((succeeds_call .destinationSchema).bind
      ((succeeds_call .quickCheck).bind ((Succeeds.refuse _).bind
        ((succeeds_call .foreignKeyCheck).bind ((Succeeds.refuse _).bind
          ((succeeds_call .lock).bind (succeeds_call .lockedSchema)))))))))).congr ?_
  rw [not_or, not_ne_iff, not_ne_iff, not_ne_iff, not_ne_iff]
  constructor
  · rintro ⟨h₁, h₂, h₃, h₄, h₅, h₆, h₇, h₈, h₉, h₁₀⟩
    exact ⟨h₁, h₆, h₈, h₂, h₃, h₄, h₅, h₇, h₉, h₁₀⟩
  · rintro ⟨h₁, h₆, h₈, h₂, h₃, h₄, h₅, h₇, h₉, h₁₀⟩
    exact ⟨h₁, h₂, h₃, h₄, h₅, h₆, h₇, h₈, h₉, h₁₀⟩

/-- The conditions under which rows are copied into an empty database and sequences restarted. -/
structure Writes (c : Connections schema) (batchSize : ℕ) (source : Backup schema)
    (db : Database schema) : Prop where
  empty : ∀ t, c.raises (.select t) = none ∧ db.rows t = []
  copies : ∀ t, c.Copies batchSize source t
  restart : c.AllRestart

/-- The database that is compared. -/
def compared (c : Connections schema) (batchSize : ℕ) (source : Backup schema) (mode : Mode)
    (db : Database schema) : Database schema :=
  if mode = .verify then db else c.copied batchSize source db

/-- The database at the end of the transaction. -/
def pending (c : Connections schema) (batchSize : ℕ) (source : Backup schema) (mode : Mode)
    (db : Database schema) : Database schema :=
  if mode = .verify then db else restarted (c.copied batchSize source db)

theorem succeeds_transferConnections (mode : Mode) (db : Database schema) :
    Succeeds (c.transferConnections batchSize source mode db)
      (c.Preflight ∧ (mode ≠ .verify → c.Writes batchSize source db) ∧
        ∀ t, c.Compares source (c.compared batchSize source mode db) t)
      (c.pending batchSize source mode db, summaries source) := by
  by_cases hmode : mode = .verify
  · have hpure : Succeeds (.ok db : Except Failure (Database schema)) True db := Succeeds.pure db
    have hanswer : Succeeds (.ok (db, summaries source) :
        Except Failure (Database schema × Summaries)) True (db, summaries source) :=
      Succeeds.pure _
    unfold transferConnections compared pending
    simp only [hmode, if_true]
    refine (succeeds_preflight.bind (hpure.bind
      ((succeeds_compare db).bind (hpure.bind hanswer)))).congr ?_
    simp
  · have hanswer : Succeeds (.ok (restarted (c.copied batchSize source db), summaries source) :
        Except Failure (Database schema × Summaries)) True
        (restarted (c.copied batchSize source db), summaries source) := Succeeds.pure _
    unfold transferConnections compared pending
    simp only [hmode, if_false]
    refine (succeeds_preflight.bind ((succeeds_copyTables db).bind
      ((succeeds_compare _).bind ((succeeds_restartSequences _).bind hanswer)))).congr ?_
    constructor
    · rintro ⟨hpreflight, ⟨hempty, hcopies⟩, hcompares, hrestart, -⟩
      exact ⟨hpreflight, fun _ => ⟨hempty, hcopies, hrestart⟩, hcompares⟩
    · rintro ⟨hpreflight, hwrites, hcompares⟩
      obtain ⟨hempty, hcopies, hrestart⟩ := hwrites hmode
      exact ⟨hpreflight, ⟨hempty, hcopies⟩, hcompares, hrestart, trivial⟩

/-- The conditions under which the destination is reached. -/
structure Opens (c : Connections schema) : Prop where
  drivername : c.drivername = "postgresql+asyncpg"
  isFile : c.isFile = true
  quiet : c.raises .makeUrl = none ∧ c.raises .resolve = none ∧ c.raises .connect = none ∧
    c.raises .begin = none

/-- The conditions under which a transfer comes to its end. -/
structure Attempts (c : Connections schema) (batchSize : ℕ) (source : Backup schema) (mode : Mode)
    (db : Database schema) : Prop where
  opens : c.Opens
  preflight : c.Preflight
  writes : mode ≠ .verify → c.Writes batchSize source db
  compares : ∀ t, c.Compares source (c.compared batchSize source mode db) t
  ends : c.raises (if mode = .apply then .commit else .rollback) = none

theorem succeeds_attempt (mode : Mode) (db : Database schema) :
    Succeeds (c.attempt batchSize source mode db) (c.Attempts batchSize source mode db)
      (if mode = .apply then c.pending batchSize source mode db else db, summaries source) := by
  have hend : Succeeds (if mode = .apply then (do
        c.call .commit
        .ok (c.pending batchSize source mode db, summaries source) :
          Except Failure (Database schema × Summaries)) else (do
        c.call .rollback
        .ok (db, summaries source)))
      (c.raises (if mode = .apply then .commit else .rollback) = none)
      (if mode = .apply then c.pending batchSize source mode db else db, summaries source) := by
    split_ifs
    · exact succeeds_last .commit _
    · exact succeeds_last .rollback _
  refine ((succeeds_call .makeUrl).bind ((Succeeds.refuse _).bind ((succeeds_call .resolve).bind
    ((Succeeds.refuse _).bind ((succeeds_call .connect).bind ((succeeds_call .begin).bind
      ((succeeds_transferConnections mode db).bind hend))))))).congr ?_
  rw [not_ne_iff, Bool.not_eq_false]
  constructor
  · rintro ⟨h₁, h₂, h₃, h₄, h₅, h₆, ⟨h₇, h₈, h₉⟩, h₁₀⟩
    exact ⟨⟨h₂, h₄, h₁, h₃, h₅, h₆⟩, h₇, h₈, h₉, h₁₀⟩
  · rintro ⟨⟨h₂, h₄, h₁, h₃, h₅, h₆⟩, h₇, h₈, h₉, h₁₀⟩
    exact ⟨h₁, h₂, h₃, h₄, h₅, h₆, ⟨h₇, h₈, h₉⟩, h₁₀⟩

/-! ## The whole transfer -/

/-- The tables hold the rows of the backup, unless the hash has a collision. -/
def Equal (c : Connections schema) (batchSize : ℕ) (source : Backup schema)
    (db : Database schema) : Prop :=
  ∀ t, CollisionFree batchSize batchSize (source t) (c.order t (db.rows t)) →
    (c.order t (db.rows t)).map Row.typed = (source t).map Row.typed

theorem equal_of_compares (h : ∀ t, c.Compares source db t) : c.Equal batchSize source db := by
  intro t hfree
  have hsource := (succeeds_summarize batchSize (source t)).ok (h t).sourceRows
  have hdestination := (succeeds_summarize batchSize (c.order t (db.rows t))).ok
    (h t).destinationRows
  exact ((summarize_eq_iff hfree hsource hdestination).1 (h t).equal).symm

/-- The rows of the backup are in a database that was empty, and its sequences go on behind their
identifiers. -/
structure Copied (c : Connections schema) (batchSize : ℕ) (source : Backup schema)
    (db db' : Database schema) : Prop where
  empty : ∀ t, db.rows t = []
  equal : c.Equal batchSize source db'
  next : ∀ t column, schema.serial t = some column → 1 ≤ db'.next t ∧
    ∀ row ∈ db'.rows t, ∀ id ∈ row.integer column, id < db'.next t

theorem copied_of_attempts {mode : Mode} (h : c.Attempts batchSize source mode db)
    (hmode : mode ≠ .verify) :
    c.Copied batchSize source db (c.pending batchSize source mode db) := by
  have hcompares := h.compares
  unfold compared at hcompares
  rw [if_neg hmode] at hcompares
  unfold pending
  rw [if_neg hmode]
  have hequal : c.Equal batchSize source (c.copied batchSize source db) :=
    equal_of_compares hcompares
  refine ⟨fun t => ((h.writes hmode).empty t).2, hequal, ?_⟩
  intro t column hserial
  have hnext : (restarted (c.copied batchSize source db)).next t =
      (c.copied batchSize source db).nextId t column := by
    unfold restarted
    dsimp only
    rw [hserial]
    rfl
  rw [hnext]
  exact ⟨Database.one_le_nextId column, fun row hrow id hid => Database.lt_nextId hrow hid⟩

theorem equal_of_attempts (h : c.Attempts batchSize source .verify db) :
    c.Equal batchSize source db := equal_of_compares h.compares

theorem summarize_of_attempts {mode : Mode} (h : c.Attempts batchSize source mode db) (t : Fin n) :
    summarize (schema.table t) batchSize (source t) = .ok (summary (source t)) :=
  (succeeds_summarize batchSize (source t)).ok (h.compares t).sourceRows

/-- What a transfer returns, and what the database is then: a trial leaves it as it is, but the copy
would have been equal. -/
inductive Answered (c : Connections schema) (batchSize : ℕ) (source : Backup schema)
    (db : Database schema) : String → Database schema → Prop
  | checked {trial : Database schema} (h : c.Copied batchSize source db trial) :
      Answered c batchSize source db "check" db
  | applied {db' : Database schema} (h : c.Copied batchSize source db db') :
      Answered c batchSize source db "apply" db'
  | verified (h : c.Equal batchSize source db) : Answered c batchSize source db "verify" db

theorem Answered.whole {text : String} (h : c.Answered batchSize source db text db') :
    db' = db ∨ text = "apply" ∧ c.Copied batchSize source db db' := by
  cases h with
  | checked h => exact .inl rfl
  | applied h => exact .inr ⟨rfl, h⟩
  | verified h => exact .inl rfl

theorem answered_of_attempts {text : String} {mode : Mode} (htext : Mode.parse text = some mode)
    (h : c.Attempts batchSize source mode db) :
    c.Answered batchSize source db text
      (if mode = .apply then c.pending batchSize source mode db else db) := by
  unfold Mode.parse at htext
  split_ifs at htext with hcheck happly hverify
  · obtain rfl := Option.some.inj htext
    subst hcheck
    exact .checked (copied_of_attempts h nofun)
  · obtain rfl := Option.some.inj htext
    subst happly
    exact .applied (copied_of_attempts h nofun)
  · obtain rfl := Option.some.inj htext
    subst hverify
    exact .verified (equal_of_attempts h)

theorem safe_cases (failure : Failure) :
    (∃ message, safe failure = transferError message) ∨
      ∃ message, safe failure = .schemaState message := by
  cases failure with
  | transfer failure =>
    cases failure with
    | transferError message => exact .inl ⟨message, rfl⟩
    | overflowError => exact .inl ⟨_, rfl⟩
  | schemaState message => exact .inr ⟨message, rfl⟩
  | other => exact .inl ⟨_, rfl⟩

/-- **A transfer takes effect whole or not at all.** Whatever statement raises an exception and
whatever the insertions store, a transfer leaves the database as it is, or it has been applied to an
empty one that then holds the rows of the backup with their types, with sequences behind their
identifiers. What it returns are the summaries of the backup, and then the copy was equal, or the
database is. -/
theorem transferDatabase_atomic (c : Connections schema) (source : Backup schema)
    (db : Database schema) (mode : String) (batchSize : ℤ) :
    ((c.transferDatabase source db mode batchSize).1 = db ∨ mode = "apply" ∧
      c.Copied batchSize.toNat source db (c.transferDatabase source db mode batchSize).1) ∧
    (∀ answer, (c.transferDatabase source db mode batchSize).2 = .ok answer →
      answer = summaries source ∧
      (∀ t, summarize (schema.table t) batchSize.toNat (source t) = .ok (summary (source t))) ∧
      c.Answered batchSize.toNat source db mode
        (c.transferDatabase source db mode batchSize).1) ∧
    ∀ failure, (c.transferDatabase source db mode batchSize).2 = .error failure →
      (∃ message, failure = transferError message) ∨ ∃ message, failure = .schemaState message := by
  unfold transferDatabase
  cases hparse : Mode.parse mode with
  | none => exact ⟨.inl rfl, nofun, fun failure h => .inl ⟨_, (Except.error.inj h).symm⟩⟩
  | some parsed =>
    dsimp only
    by_cases hsize : 1 ≤ batchSize ∧ batchSize ≤ 500
    · rw [if_neg (not_not.2 hsize)]
      cases hattempt : c.attempt batchSize.toNat source parsed db with
      | error failure =>
        refine ⟨.inl rfl, nofun, fun failure' h => ?_⟩
        obtain rfl := Except.error.inj h
        exact safe_cases failure
      | ok pair =>
        obtain ⟨hattempts, hpair⟩ := (succeeds_attempt parsed db).of_ok hattempt
        subst hpair
        have hanswered := answered_of_attempts hparse hattempts
        dsimp only
        cases c.call .closed with
        | ok u =>
          refine ⟨hanswered.whole, fun answer h => ?_, nofun⟩
          obtain rfl := Except.ok.inj h
          exact ⟨rfl, summarize_of_attempts hattempts, hanswered⟩
        | error failure =>
          refine ⟨hanswered.whole, nofun, fun failure' h => ?_⟩
          obtain rfl := Except.error.inj h
          exact safe_cases failure
    · rw [if_pos hsize]
      exact ⟨.inl rfl, nofun, fun failure h => .inl ⟨_, (Except.error.inj h).symm⟩⟩

/-! ## When a transfer succeeds -/

section

variable {κ : Type} [LinearOrder κ] {key : Fin n → List (String × Typed) → κ}

/-- The destination stores what it is given, and both databases read the rows of a table in the
order of their keys. -/
structure Faithful (c : Connections schema) (batchSize : ℕ) (source : Backup schema)
    (key : Fin n → List (String × Typed) → κ) : Prop where
  stores : ∀ t, ∀ insert ∈ insertions batchSize (source t),
    (c.insert t insert).map (fun row => some row.typed) = insert.stored (schema.table t)
  reads : ∀ t rows, c.order t rows = sortedBy (fun row => key t row.typed) rows
  keyed : ∀ t, (source t).Pairwise fun row row' => key t row.typed < key t row'.typed

theorem Faithful.perm (h : c.Faithful batchSize source key) (t : Fin n) :
    ((c.storedBy t (insertions batchSize (source t))).map Row.typed).Perm
      ((source t).map Row.typed) := by
  have hstored : (c.storedBy t (insertions batchSize (source t))).map
      (fun row => some row.typed) =
        stored (schema.table t) (insertions batchSize (source t)) := by
    unfold storedBy stored
    rw [List.map_flatMap]
    exact List.flatMap_congr fun insert hinsert => h.stores t insert hinsert
  have hperm := perm_insertions batchSize (source t)
  rw [← hstored] at hperm
  have hsome := hperm.filterMap id
  rw [List.filterMap_map, List.filterMap_map] at hsome
  rw [← List.filterMap_eq_map]
  exact hsome

/-- **What is copied is read as it was in the backup.** -/
theorem Faithful.typed_eq (h : c.Faithful batchSize source key) (t : Fin n)
    (hempty : db.rows t = []) :
    (c.order t ((c.copied batchSize source db).rows t)).map Row.typed =
      (source t).map Row.typed := by
  have hrows : (c.copied batchSize source db).rows t =
      c.storedBy t (insertions batchSize (source t)) := by
    unfold copied
    dsimp only
    rw [hempty, List.nil_append]
  have hkeyed : ((source t).map Row.typed).Pairwise fun row row' => key t row < key t row' :=
    List.pairwise_map.2 (h.keyed t)
  have hperm : ((c.order t ((c.copied batchSize source db).rows t)).map Row.typed).Perm
      ((source t).map Row.typed) := by
    rw [hrows]
    exact ((c.order_perm t _).map Row.typed).trans (h.perm t)
  have hsorted : ((c.order t ((c.copied batchSize source db).rows t)).map Row.typed).Pairwise
      fun row row' => key t row ≤ key t row' := by
    rw [h.reads]
    exact List.pairwise_map.2 (pairwise_sortedBy _ _)
  have hdistinct : (((source t).map Row.typed).map (key t)).Nodup :=
    List.pairwise_map.2 (hkeyed.imp fun hlt => ne_of_lt hlt)
  refine List.Perm.eq_of_pairwise ?_ hsorted (hkeyed.imp fun hlt => le_of_lt hlt) hperm
  intro row row' hrow hrow' hle hge
  exact List.inj_on_of_nodup_map hdistinct (hperm.mem_iff.1 hrow) hrow' (le_antisymm hle hge)

/-- Whether a value can be compared. -/
def Typed.Comparable : Typed → Prop
  | .null => True
  | .instant t => InRange t
  | .value v => v.all Scalar.encodable

theorem comparable_typed (row : Row table) :
    row.Comparable ↔ ∀ field ∈ row.typed, Typed.Comparable field.2 := by
  unfold Row.Comparable Row.typed
  rw [List.forall_mem_map]
  refine forall₂_congr fun cell _ => ?_
  cases cell.2 with
  | null => rfl
  | datetime wall offset => rfl
  | value v =>
    change _ ↔ (v.canonical.all Scalar.encodable = true)
    rw [Tree.all_canonical]
    rfl

theorem hashable_of_typed {row row' : Row table} (h : row.typed = row'.typed)
    (hrow : row.Hashable) : row'.Hashable := by
  have hcomparable : row'.Comparable := by
    rw [comparable_typed, ← h, ← comparable_typed]
    exact hrow.1
  refine ⟨hcomparable, ?_⟩
  rw [← (bytes_row_iff hrow.1 hcomparable).2 h]
  exact hrow.2

theorem Faithful.compares (h : c.Faithful batchSize source key) {t : Fin n}
    (hempty : db.rows t = []) (hquiet : ∀ statement, c.raises statement = none)
    (hhashable : ∀ row ∈ source t, row.Hashable) :
    c.Compares source (c.copied batchSize source db) t := by
  have htyped := h.typed_eq t hempty
  have hdestination : ∀ row ∈ c.order t ((c.copied batchSize source db).rows t),
      row.Hashable := by
    intro row hrow
    have hmem : row.typed ∈ (source t).map Row.typed := htyped ▸ List.mem_map_of_mem hrow
    obtain ⟨row', hrow', heq⟩ := List.mem_map.1 hmem
    exact hashable_of_typed heq (hhashable row' hrow')
  refine ⟨hquiet _, hhashable, hquiet _, hdestination, ?_⟩
  have hlength := congrArg List.length htyped
  rw [List.length_map, List.length_map] at hlength
  unfold summary
  rw [(frames_eq_iff hhashable hdestination).2 htyped.symm, hlength]

/-- The conditions under which a transfer is accepted. -/
structure Accepts (c : Connections schema) (source : Backup schema) (db : Database schema)
    (batchSize : ℤ) : Prop where
  size : 1 ≤ batchSize ∧ batchSize ≤ 500
  drivername : c.drivername = "postgresql+asyncpg"
  isFile : c.isFile = true
  dialects : c.sourceDialect = "sqlite" ∧ c.destinationDialect = "postgresql"
  quickCheck : c.quickCheck = ["ok"]
  violations : c.violations = 0
  empty : ∀ t, db.rows t = []
  hashable : ∀ t, ∀ row ∈ source t, row.Hashable
  hasSchema : c.hasSchema = true
  hasSequence : ∀ t, (schema.serial t).isSome → c.hasSequence t = true

theorem attempts_of_accepts {mode : Mode} {batchSize : ℤ}
    (h : c.Accepts source db batchSize) (hmode : mode ≠ .verify)
    (hquiet : ∀ statement, c.raises statement = none)
    (hfaithful : c.Faithful batchSize.toNat source key) :
    c.Attempts batchSize.toNat source mode db := by
  have hcompared : c.compared batchSize.toNat source mode db =
      c.copied batchSize.toNat source db := if_neg hmode
  refine ⟨⟨h.drivername, h.isFile, hquiet _, hquiet _, hquiet _, hquiet _⟩,
    ⟨h.dialects, h.quickCheck, h.violations, hquiet _, hquiet _, hquiet _, hquiet _, hquiet _,
      hquiet _, hquiet _⟩, fun _ => ⟨fun t => ⟨hquiet _, h.empty t⟩, fun t => ?_, hquiet _,
      h.hasSchema, fun t hserial => ?_⟩, fun t => ?_, hquiet _⟩
  · exact ⟨hquiet _, fun row hrow => (h.hashable t row hrow).1, fun insert _ => hquiet _⟩
  · exact ⟨hquiet _, h.hasSequence t hserial, hquiet _, hquiet _, hquiet _⟩
  · rw [hcompared]
    exact hfaithful.compares (h.empty t) hquiet (h.hashable t)

theorem accepts_of_attempts {mode : Mode} {batchSize : ℤ}
    (h : c.Attempts batchSize.toNat source mode db) (hmode : mode ≠ .verify)
    (hsize : 1 ≤ batchSize ∧ batchSize ≤ 500) : c.Accepts source db batchSize := by
  have hwrites := h.writes hmode
  exact ⟨hsize, h.opens.drivername, h.opens.isFile, h.preflight.dialects, h.preflight.quickCheck,
    h.preflight.violations, fun t => (hwrites.empty t).2, fun t => (h.compares t).sourceRows,
    hwrites.restart.hasSchema, fun t hserial => (hwrites.restart.restarts t hserial).2.1⟩

theorem parse_of_trial_or_apply {mode : String} (hmode : mode = "check" ∨ mode = "apply") :
    ∃ parsed, Mode.parse mode = some parsed ∧ parsed ≠ .verify ∧
      (mode = "apply" ↔ parsed = .apply) := by
  rcases hmode with rfl | rfl
  · exact ⟨.check, rfl, nofun, iff_of_false (by decide) nofun⟩
  · exact ⟨.apply, rfl, nofun, iff_of_true rfl rfl⟩

/-- **A transfer succeeds exactly if it is accepted**: with databases that store what they are given
and whose statements raise nothing, when the destination is empty and the rows of the backup can be
hashed. Applied, the database then has the rows of the backup, one by one. -/
theorem transferDatabase_succeeds_iff (db : Database schema) {mode : String} {batchSize : ℤ}
    (hmode : mode = "check" ∨ mode = "apply") (hquiet : ∀ statement, c.raises statement = none)
    (hfaithful : c.Faithful batchSize.toNat source key) :
    ((∃ answer, (c.transferDatabase source db mode batchSize).2 = .ok answer) ↔
      c.Accepts source db batchSize) ∧
    (c.Accepts source db batchSize → mode = "apply" → ∀ t,
      (c.order t ((c.transferDatabase source db mode batchSize).1.rows t)).map Row.typed =
        (source t).map Row.typed) := by
  obtain ⟨parsed, hparse, hverify, happly⟩ := parse_of_trial_or_apply hmode
  have hclosed : c.call .closed = .ok () := by
    unfold call
    rw [hquiet]
  have hdone : c.Accepts source db batchSize → c.transferDatabase source db mode batchSize =
      (if parsed = .apply then c.pending batchSize.toNat source parsed db else db,
        .ok (summaries source)) := by
    intro haccepts
    have hattempt := (succeeds_attempt parsed db).ok
      (attempts_of_accepts haccepts hverify hquiet hfaithful)
    unfold transferDatabase
    rw [hparse]
    dsimp only
    rw [if_neg (not_not.2 haccepts.size), hattempt]
    dsimp only
    rw [hclosed]
  refine ⟨⟨fun ⟨answer, h⟩ => ?_, fun haccepts => ⟨_, congrArg Prod.snd (hdone haccepts)⟩⟩, ?_⟩
  · unfold transferDatabase at h
    rw [hparse] at h
    dsimp only at h
    by_cases hsize : 1 ≤ batchSize ∧ batchSize ≤ 500
    · rw [if_neg (not_not.2 hsize)] at h
      cases hattempt : c.attempt batchSize.toNat source parsed db with
      | error failure =>
        rw [hattempt] at h
        cases h
      | ok pair =>
        exact accepts_of_attempts ((succeeds_attempt parsed db).of_ok hattempt).1 hverify hsize
    · rw [if_pos hsize] at h
      cases h
  · intro haccepts hmode' t
    rw [hdone haccepts]
    dsimp only
    rw [if_pos (happly.1 hmode')]
    unfold pending
    rw [if_neg hverify]
    exact hfaithful.typed_eq t (haccepts.empty t)

end

end Connections

/-! ## A backup with two minutes

The summary of the first minute is SQL NULL and that of the second the JSON literal null. -/

def sampleSchema : Schema 1 := ⟨fun _ => "edge_v2_minutes", fun _ => edgeV2Minutes, fun _ => none⟩

def sampleRows : List (Row edgeV2Minutes) :=
  [minute .null, minuteAt 1767225660000000 (.value (.leaf .null))]

def sampleBackup : Backup sampleSchema := fun _ => sampleRows

def sampleEmpty : Database sampleSchema := ⟨fun _ => [], fun _ _ => nofun, fun _ => 1⟩

/-- The time under the key column of a row to insert, and of one that is read. -/
def bucketOf (row : List (String × Param)) : Option ℤ :=
  match row.lookup "bucket_start" with
  | some (.object (.datetime wall offset)) => some (wall - offset.getD 0)
  | _ => none

def sampleKey (row : List (String × Typed)) : ℤ :=
  match row.lookup "bucket_start" with
  | some (.instant t) => t
  | _ => 0

/-- The minutes of the backup that an insertion names. -/
def insertedRows (insert : Insert) : List (Row edgeV2Minutes) :=
  insert.rows.filterMap fun values =>
    sampleRows.find? fun row => bucketOf (Transfer.values edgeV2Minutes row.dict) = bucketOf values

theorem identified_insertedRows (insert : Insert) :
    ∀ row ∈ insertedRows insert, row.hasScalar := by
  intro row hrow
  obtain ⟨values, -, hfind⟩ := List.mem_filterMap.1 hrow
  have hscalar : ∀ row ∈ sampleRows, row.hasScalar := by decide
  exact hscalar row (List.mem_of_find?_eq_some hfind)

/-- Databases whose statements raise nothing. -/
def sampleConnections : Connections sampleSchema where
  drivername := "postgresql+asyncpg"
  sourceDialect := "sqlite"
  destinationDialect := "postgresql"
  raises _ := none
  isFile := true
  quickCheck := ["ok"]
  violations := 0
  hasSchema := true
  hasSequence _ := false
  insert _ := insertedRows
  identified _ := identified_insertedRows
  order _ := sortedBy fun row : Row edgeV2Minutes => sampleKey row.typed
  order_perm _ := sortedBy_perm fun row : Row edgeV2Minutes => sampleKey row.typed

theorem sample_faithful :
    sampleConnections.Faithful (1 : ℤ).toNat sampleBackup fun _ => sampleKey := by
  have hkeyed : sampleRows.Pairwise fun row row' => sampleKey row.typed < sampleKey row'.typed := by
    decide
  refine ⟨fun t insert hinsert => ?_, fun _ _ => rfl, fun _ => hkeyed⟩
  have hinsertions : insertions (1 : ℤ).toNat (sampleBackup t) = sampleRows.map fun row =>
      ⟨missing row.dict, [values edgeV2Minutes row.dict]⟩ := rfl
  rw [hinsertions] at hinsert
  obtain ⟨row, hrow, rfl⟩ := List.mem_map.1 hinsert
  have hinserted : insertedRows ⟨missing row.dict, [values edgeV2Minutes row.dict]⟩ = [row] := by
    rcases List.mem_pair.1 hrow with rfl | rfl <;> rfl
  unfold Insert.stored
  rw [List.map_singleton]
  change (insertedRows _).map _ = _
  rw [hinserted]
  exact congrArg (fun row => [row]) (storedRow_eq row).symm

/-- The two minutes are transferred, in a batch of their own each. -/
theorem transferDatabase_succeeds_minute :
    (∃ answer, (sampleConnections.transferDatabase sampleBackup sampleEmpty "apply" 1).2 =
      .ok answer) ∧
    (sampleConnections.order 0
      ((sampleConnections.transferDatabase sampleBackup sampleEmpty "apply" 1).1.rows 0)).map
        Row.typed = sampleRows.map Row.typed := by
  obtain ⟨hiff, hrows⟩ := Connections.transferDatabase_succeeds_iff sampleEmpty
    (.inr rfl) (fun _ => rfl) sample_faithful
  have hhashable : ∀ row ∈ sampleRows, row.Hashable := by decide +kernel
  have haccepts : sampleConnections.Accepts sampleBackup sampleEmpty 1 :=
    ⟨by decide, rfl, rfl, ⟨rfl, rfl⟩, rfl, rfl, fun _ => rfl, fun _ => hhashable, rfl, nofun⟩
  exact ⟨hiff.2 haccepts, hrows haccepts rfl 0⟩

end ScrapMonitoring.Transfer
