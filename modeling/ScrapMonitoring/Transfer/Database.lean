import Mathlib.Data.Fintype.Basic
import ScrapMonitoring.Transfer.Faithful

/-!
# The transfer of a database

`transfer_database` of `db/transfer.py`: in one transaction the tables of a SQLite backup are copied
to an empty PostgreSQL database, compared, and the sequences of identifiers are restarted. What the
databases do is a parameter (`Connections`): any statement may raise an exception, and an insertion
may store any rows.
-/

namespace ScrapMonitoring.Transfer

/-! ## Databases -/

/-- The tables of the application, in the order of their references; `serial` is the column whose
values a sequence draws. -/
structure Schema (n : ℕ) where
  name : Fin n → String
  table : Fin n → Table
  serial : Fin n → Option String

/-- What `scalar` gives for a row, the value under its first column, is not `None`. -/
def Row.hasScalar {table : Table} (row : Row table) : Bool :=
  match row.cells with
  | [] => false
  | cell :: _ =>
    match cell.2.fetched with
    | .value (.leaf .null) => false
    | _ => true

/-- The integer under a column. -/
def Row.integer {table : Table} (column : String) (row : Row table) : Option ℤ :=
  (row.cells.find? fun cell => cell.1.name = column).bind fun cell =>
    match cell.2 with
    | .value (.leaf (.int k)) => some k
    | _ => none

variable {n : ℕ} {schema : Schema n}

/-- The rows of the tables, and the next value of each sequence. The first column of a table is one
of its primary key. -/
@[ext] structure Database (schema : Schema n) where
  rows : ∀ t, List (Row (schema.table t))
  identified : ∀ t, ∀ row ∈ rows t, row.hasScalar
  next : Fin n → ℤ

/-- The rows of a backup, as they are read in the order of their keys. -/
abbrev Backup (schema : Schema n) := ∀ t, List (Row (schema.table t))

namespace Database

/-- The table with more rows. -/
def add (db : Database schema) (t : Fin n) (rows : List (Row (schema.table t)))
    (hrows : ∀ row ∈ rows, row.hasScalar) : Database schema where
  rows := Function.update db.rows t (db.rows t ++ rows)
  identified := by
    intro u row hrow
    by_cases hu : u = t
    · subst hu
      rw [Function.update_self] at hrow
      rcases List.mem_append.1 hrow with hrow | hrow
      · exact db.identified u row hrow
      · exact hrows row hrow
    · rw [Function.update_of_ne hu] at hrow
      exact db.identified u row hrow
  next := db.next

/-- `select(table).limit(1)` gives something. -/
def holds (db : Database schema) (t : Fin n) : Bool :=
  match db.rows t with
  | [] => false
  | row :: _ => row.hasScalar

/-- `max(1, int(maximum or 0) + 1)` -/
def nextId (db : Database schema) (t : Fin n) (column : String) : ℤ :=
  max 1 (((db.rows t).filterMap (Row.integer column)).max?.getD 0 + 1)

/-- `ALTER SEQUENCE ... RESTART WITH next_id` -/
def restart (db : Database schema) (t : Fin n) (column : String) : Database schema :=
  { db with next := Function.update db.next t (db.nextId t column) }

end Database

/-! ## Exceptions and statements -/

inductive Failure
  | transfer (failure : TransferFailure)
  | schemaState (message : String)
  /-- Any other exception. -/
  | other
  deriving DecidableEq

def transferError (message : String) : Failure := .transfer (.transferError message)

def lift {α : Type} : Except TransferFailure α → Except Failure α
  | .ok a => .ok a
  | .error failure => .error (.transfer failure)

/-- The calls to the databases. `closed` is all that follows the end of the transaction: its answer,
and closing the connections. -/
inductive Statement (n : ℕ)
  | makeUrl
  | resolve
  | connect
  | begin
  | sourceSchema
  | lockTimeout
  | destinationSchema
  | quickCheck
  | foreignKeyCheck
  | lock
  | lockedSchema
  | select (t : Fin n)
  | copy (t : Fin n)
  | insert (t : Fin n) (insert : Insert)
  | summarizeSource (t : Fin n)
  | summarizeDestination (t : Fin n)
  | currentSchema
  | sequence (t : Fin n)
  | sequenceName (t : Fin n)
  | maximum (t : Fin n)
  | restart (t : Fin n)
  | commit
  | rollback
  | closed

/-- What the databases do and answer. -/
structure Connections (schema : Schema n) where
  drivername : String
  sourceDialect : String
  destinationDialect : String
  /-- The exception that a statement raises. -/
  raises : Statement n → Option Failure
  isFile : Bool
  quickCheck : List String
  /-- Rows that violate a foreign key. -/
  violations : ℕ
  hasSchema : Bool
  hasSequence : Fin n → Bool
  /-- The rows that an insertion stores. -/
  insert : ∀ t, Insert → List (Row (schema.table t))
  identified : ∀ t i, ∀ row ∈ insert t i, row.hasScalar
  /-- The order in which rows are read. -/
  order : ∀ t, List (Row (schema.table t)) → List (Row (schema.table t))
  order_perm : ∀ t rows, (order t rows).Perm rows

inductive Mode
  | check
  | apply
  | verify
  deriving DecidableEq

def Mode.parse (mode : String) : Option Mode :=
  if mode = "check" then some .check
  else if mode = "apply" then some .apply
  else if mode = "verify" then some .verify
  else none

abbrev Summaries := List (String × TableSummary)

namespace Connections

variable (c : Connections schema) (batchSize : ℕ) (source : Backup schema)

def call (statement : Statement n) : Except Failure Unit :=
  match c.raises statement with
  | none => .ok ()
  | some failure => .error failure

/-! ## Copying and comparing -/

def execute (t : Fin n) (db : Database schema) (insert : Insert) :
    Except Failure (Database schema) := do
  c.call (.insert t insert)
  .ok (db.add t (c.insert t insert) (c.identified t insert))

def copyBatch (t : Fin n) (db : Database schema) (partition : List (Row (schema.table t))) :
    Except Failure (Database schema) := do
  let rows ← lift (batch (schema.table t) partition)
  let groups ← lift (rows.foldlM (group (schema.table t)) [])
  groups.foldlM (c.execute t) db

def copyTable (db : Database schema) (t : Fin n) : Except Failure (Database schema) := do
  c.call (.copy t)
  (partitions batchSize (source t)).foldlM (c.copyBatch t) db

def compareTable (db : Database schema) (t : Fin n) : Except Failure (String × TableSummary) := do
  c.call (.summarizeSource t)
  let expected ← lift (summarize (schema.table t) batchSize (source t))
  c.call (.summarizeDestination t)
  let actual ← lift (summarize (schema.table t) batchSize (c.order t (db.rows t)))
  refuse (expected ≠ actual)
    (transferError ("Data comparison failed in " ++ schema.name t ++ "; no changes saved"))
  .ok (schema.name t, expected)

def compare (db : Database schema) : Except Failure Summaries :=
  (List.finRange n).mapM (c.compareTable batchSize source db)

def restartSequence (db : Database schema) (t : Fin n) : Except Failure (Database schema) :=
  match schema.serial t with
  | none => .ok db
  | some column => do
    c.call (.sequence t)
    refuse (c.hasSequence t = false) (transferError ("ID sequence missing in " ++ schema.name t))
    c.call (.sequenceName t)
    c.call (.maximum t)
    c.call (.restart t)
    .ok (db.restart t column)

def restartSequences (db : Database schema) : Except Failure (Database schema) := do
  c.call .currentSchema
  refuse (c.hasSchema = false) (transferError "Destination schema is unavailable")
  (List.finRange n).foldlM c.restartSequence db

/-! ## The transaction -/

/-- The checks before anything is read. -/
def preflight : Except Failure Unit := do
  refuse (c.sourceDialect ≠ "sqlite" ∨ c.destinationDialect ≠ "postgresql")
    (transferError "Only SQLite to PostgreSQL transfer is supported")
  c.call .sourceSchema
  c.call .lockTimeout
  c.call .destinationSchema
  c.call .quickCheck
  refuse (c.quickCheck ≠ ["ok"]) (transferError "SQLite integrity check failed")
  c.call .foreignKeyCheck
  refuse (c.violations ≠ 0)
    (transferError "SQLite foreign-key check failed; review source data")
  c.call .lock
  c.call .lockedSchema

def requireEmpty (db : Database schema) (t : Fin n) : Except Failure Unit := do
  c.call (.select t)
  refuse (db.holds t = true)
    (transferError "Destination contains data; merging/overwriting is forbidden")

def copyTables (db : Database schema) : Except Failure (Database schema) := do
  (List.finRange n).forM (c.requireEmpty db)
  (List.finRange n).foldlM (c.copyTable batchSize source) db

/-- The summaries, and the database as the transaction has it. -/
def transferConnections (mode : Mode) (db : Database schema) :
    Except Failure (Database schema × Summaries) := do
  c.preflight
  let db ← if mode = .verify then .ok db else c.copyTables batchSize source db
  let summaries ← c.compare batchSize source db
  let db ← if mode = .verify then .ok db else c.restartSequences db
  .ok (db, summaries)

/-- The summaries, and the database as it is committed. -/
def attempt (mode : Mode) (db : Database schema) :
    Except Failure (Database schema × Summaries) := do
  c.call .makeUrl
  refuse (c.drivername ≠ "postgresql+asyncpg")
    (transferError "Destination must use postgresql+asyncpg")
  c.call .resolve
  refuse (c.isFile = false) (transferError "Source must be an existing SQLite backup file")
  c.call .connect
  c.call .begin
  let (db', summaries) ← c.transferConnections batchSize source mode db
  if mode = .apply then do
    c.call .commit
    .ok (db', summaries)
  else do
    c.call .rollback
    .ok (db, summaries)

/-- An exception without a message of its own. -/
def safe : Failure → Failure
  | .transfer (.transferError message) => .transfer (.transferError message)
  | .schemaState message => .schemaState message
  | .transfer .overflowError => unconfirmed
  | .other => unconfirmed
where
  unconfirmed := transferError
    "Transfer failed; no success confirmed. Check DB state before retrying"

/-- The database after a transfer, and what is returned or raised. -/
def transferDatabase (c : Connections schema) (source : Backup schema) (db : Database schema)
    (mode : String) (batchSize : ℤ) : Database schema × Except Failure Summaries :=
  match Mode.parse mode with
  | none => (db, .error (transferError "Invalid transfer mode or batch size"))
  | some mode =>
    if ¬(1 ≤ batchSize ∧ batchSize ≤ 500) then
      (db, .error (transferError "Invalid transfer mode or batch size"))
    else
      match c.attempt batchSize.toNat source mode db with
      | .error failure => (db, .error (safe failure))
      | .ok (db', summaries) =>
        match c.call .closed with
        | .ok () => (db', .ok summaries)
        | .error failure => (db', .error (safe failure))

end Connections

end ScrapMonitoring.Transfer
