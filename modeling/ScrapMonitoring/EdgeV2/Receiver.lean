import ScrapMonitoring.EdgeV2.Artifacts
import ScrapMonitoring.Foundations.Interleaving
import Mathlib.Data.List.Basic

/-!
# The receiver

Any number of calls of `accept_message` share one database. A call is a sequence of statements;
between two of them any other call may act. What a transaction has written is its own until it
commits (`Transaction`), every statement sees what was committed before it, and a rollback
forgets the transaction.

The database answers a statement with success, with a violated constraint or with a failure, and
nothing but the following is known of its answers: a row is not inserted, and a transaction not
committed, when a committed row has the same unique columns; a lookup violates no constraint; the
filter row of a device is locked for one transaction at a time, until it ends. The rows that two
open transactions have inserted may clash; then one of them fails at its commit. A commit that
raises is taken not to have taken effect.

`project` is what `edge_v2_projection.project` makes of the observation of a device, given the
database as the transaction sees it.
-/

namespace ScrapMonitoring.EdgeV2

variable {ι H P : Type*}

/-! ## The database -/

structure Database (H P : Type*) where
  messages : List (EdgeV2Message H)
  artifacts : List (EdgeV2Artifact H)
  /-- The observation of every device. -/
  projections : String × String → P

/-- What a transaction has written. -/
structure Transaction (H P : Type*) where
  message : EdgeV2Message H
  artifacts : List (EdgeV2Artifact H)
  projection : Option P

/-- The committed rows, and for every device the call that holds its filter row. -/
structure Server (ι H P : Type*) where
  db : Database H P
  locks : String × String → Option ι

/-- `message_query`. -/
def Database.receipt? (db : Database H P) (payload : Payload) : Option (EdgeV2Message H) :=
  db.messages.find? fun message => message.key = payload.key

/-- The rows of a device with the given identities. -/
def Database.select [DecidableEq H] (db : Database H P) (payload : Payload)
    (identities : List (Identity H)) : List (EdgeV2Artifact H) :=
  db.artifacts.filter fun row =>
    (row.siteId, row.edgeId) = payload.source ∧ (row.kind, row.keyHash) ∈ identities

/-- The unique columns of the new artifacts are new. -/
def Database.admits [DecidableEq H] (db : Database H P) (rows : List (EdgeV2Artifact H)) : Bool :=
  ((db.artifacts ++ rows).map EdgeV2Artifact.key).Nodup

/-- The database with the writes of a transaction, as the transaction sees it, and as every other
does once it has committed. -/
def Database.write (db : Database H P) (source : String × String) (tx : Transaction H P) :
    Database H P where
  messages := db.messages ++ [tx.message]
  artifacts := db.artifacts ++ tx.artifacts
  projections :=
    match tx.projection with
    | none => db.projections
    | some projection => Function.update db.projections source projection

def Server.lock (srv : Server ι H P) (source : String × String) (i : ι) : Server ι H P :=
  { srv with locks := Function.update srv.locks source (some i) }

/-- The transaction of the call has ended. -/
def Server.release [DecidableEq ι] (srv : Server ι H P) (i : ι) : Server ι H P :=
  { srv with locks := fun source => if srv.locks source = some i then none else srv.locks source }

/-! ## A call -/

structure Call where
  payload : Payload
  original : Json
  device : EdgeV2Device
  /-- `EDGE_V2_COMPACT_STORAGE_ENABLED`. -/
  compact : Bool

/-- How a call ends: with an acknowledgment, with an error, or with an exception that it does not
handle, after which the owner of its session rolls back. -/
inductive Outcome
  | acknowledged (ack : StorageAck)
  | raised (error : EdgeV2Error)
  | crashed
  deriving DecidableEq

/-- Where a call stands. -/
inductive Progress (H P : Type*)
  | called
  | locking
  | inserting
  /-- The message was rejected by the unique constraint. -/
  | rejected
  | collecting (tx : Transaction H P)
  | finding (tx : Transaction H P) (artifacts : Artifacts H) (attempt : ℕ)
      (chunks : List (List (Identity H))) (found : List (EdgeV2Artifact H))
  | saving (tx : Transaction H P) (artifacts : Artifacts H) (attempt : ℕ)
      (rows : List (EdgeV2Artifact H))
  | projecting (tx : Transaction H P)
  | flushing (tx : Transaction H P)
  | committing (tx : Transaction H P)
  | done (outcome : Outcome)

/-- How the database answers a statement. -/
inductive Answer
  | ok
  | integrityError
  | failure
  deriving DecidableEq

structure Reply where
  answer : Answer
  /-- What the clock of the call shows. -/
  now : ℤ

def unavailable : EdgeV2Error := ⟨503, "STORAGE_UNAVAILABLE", none, true⟩

def idempotencyConflict : EdgeV2Error := ⟨409, "IDEMPOTENCY_CONFLICT", none, false⟩

def receipt (message : EdgeV2Message H) (duplicate : Bool) : StorageAck :=
  ⟨message.messageId, duplicate, message.receivedAt⟩

/-- The answer to a message of which there is a receipt. -/
def replay [DecidableEq H] (existing : EdgeV2Message H) (bodyHash : H) : Outcome :=
  if existing.bodyHash ≠ bodyHash then .raised idempotencyConflict
  else .acknowledged (receipt existing true)

def newMessage (hash : Json → H) (call : Call) (now : ℤ) : EdgeV2Message H where
  siteId := call.payload.siteId
  edgeId := call.payload.edgeId
  messageId := call.payload.messageId
  messageType := call.payload.body.messageType
  configRevision := call.payload.configRevision
  generatedAt := call.payload.generatedAt
  receivedAt := now
  bodyHash := digest hash call.original
  payload := if call.compact then receiptPayload call.payload else call.original
  compact := call.compact
  instanceId := call.payload.statusReport?.map StatusReport.orchestratorInstanceId
  sequence := call.payload.statusReport?.map StatusReport.sequence

/-- `keys[start : start + 400]` for every `start`. -/
def chunks (artifacts : Artifacts H) : List (List (Identity H)) :=
  (artifacts.map Prod.fst).toChunks 400

section

variable [DecidableEq ι] [DecidableEq H]

/-- What a statement leads to: the server, where the call stands, and its outcome when it ends. -/
abbrev Next (ι H P : Type*) := Option (Server ι H P × Progress H P × Option Outcome)

/-- The call goes on. -/
def goOn (srv : Server ι H P) (progress : Progress H P) : Next ι H P := some (srv, progress, none)

/-- The call ends without a commit. -/
def finish (i : ι) (srv : Server ι H P) (outcome : Outcome) : Next ι H P :=
  some (srv.release i, .done outcome, some outcome)

/-- A lookup: it violates no constraint. -/
def looked (i : ι) (srv : Server ι H P) (reply : Reply) (next : Next ι H P) : Next ι H P :=
  match reply.answer with
  | .ok => next
  | .integrityError => none
  | .failure => finish i srv (.raised unavailable)

/-- A statement that must succeed. -/
def executed (i : ι) (srv : Server ι H P) (reply : Reply) (next : Next ι H P) : Next ι H P :=
  match reply.answer with
  | .ok => next
  | .integrityError | .failure => finish i srv (.raised unavailable)

/-- One statement of `accept_message`, together with what the call computes around it. -/
def act (hash : Json → H) (project : Call → EdgeV2Message H → Database H P → Option P)
    (calls : ι → Call) (i : ι) (srv : Server ι H P) :
    Progress H P → Reply → Next ι H P
  | .called, reply =>
    match validateScope (calls i).payload (calls i).device with
    | .error error => finish i srv (.raised error)
    | .ok () =>
      looked i srv reply <|
        match srv.db.receipt? (calls i).payload with
        | some existing => finish i srv (replay existing (digest hash (calls i).original))
        | none => goOn srv (if (calls i).compact then .locking else .inserting)
  | .locking, reply =>
    looked i srv reply <|
      if srv.locks (calls i).payload.source = none then
        goOn (srv.lock (calls i).payload.source i) .inserting
      else none
  | .inserting, reply =>
    match reply.answer with
    | .ok =>
      if srv.db.receipt? (calls i).payload = none then
        goOn srv (.collecting ⟨newMessage hash (calls i) reply.now, [], none⟩)
      else none
    | .integrityError => goOn (srv.release i) .rejected
    | .failure => finish i srv (.raised unavailable)
  | .rejected, reply =>
    looked i srv reply <|
      match srv.db.receipt? (calls i).payload with
      | none => finish i srv (.raised unavailable)
      | some existing => finish i srv (replay existing (digest hash (calls i).original))
  | .collecting tx, _ =>
    match collect hash (calls i).payload with
    | .error error => finish i srv (.raised error)
    | .ok artifacts => goOn srv (.finding tx artifacts 0 (chunks artifacts) [])
  | .finding tx artifacts attempt (chunk :: rest) found, reply =>
    looked i srv reply <|
      goOn srv (.finding tx artifacts attempt rest
        ((srv.db.select (calls i).payload chunk).reverse ++ found))
  | .finding tx artifacts attempt [] found, _ =>
    match missing hash (calls i).compact (calls i).payload found artifacts with
    | .error error => finish i srv (.raised error)
    | .ok [] => goOn srv (.projecting tx)
    | .ok (row :: rows) => goOn srv (.saving tx artifacts attempt (row :: rows))
  | .saving tx artifacts attempt rows, reply =>
    match reply.answer with
    | .ok =>
      if srv.db.admits rows then goOn srv (.projecting { tx with artifacts := rows }) else none
    | .integrityError =>
      -- the savepoint is rolled back: the rows of another writer are found next time
      if attempt = 2 then finish i srv (.raised unavailable)
      else goOn srv (.finding tx artifacts (attempt + 1) (chunks artifacts) [])
    | .failure => finish i srv (.raised unavailable)
  | .projecting tx, reply =>
    if (calls i).compact then
      executed i srv reply <|
        match project (calls i) tx.message (srv.db.write (calls i).payload.source tx) with
        | none => finish i srv .crashed
        | some projection => goOn srv (.flushing { tx with projection := some projection })
    else goOn srv (.flushing tx)
  | .flushing tx, reply => executed i srv reply <| goOn srv (.committing tx)
  | .committing tx, reply =>
    executed i srv reply <|
      if srv.db.receipt? (calls i).payload = none ∧ srv.db.admits tx.artifacts then
        let ack := Outcome.acknowledged (receipt tx.message false)
        some ({ srv with db := srv.db.write (calls i).payload.source tx }.release i, .done ack,
          some ack)
      else none
  | .done _, _ => none

/-- The calls in any order. -/
abbrev System (ι H P : Type*) := Shared ι (Server ι H P) (Progress H P)

abbrev CallStep (ι H P : Type*) := Entry (System ι H P) (ι × Reply) (Option Outcome)

/-- Every call is yet to begin. -/
def System.initial (db : Database H P) : System ι H P := ⟨⟨db, fun _ => none⟩, fun _ => .called⟩

end

end ScrapMonitoring.EdgeV2
