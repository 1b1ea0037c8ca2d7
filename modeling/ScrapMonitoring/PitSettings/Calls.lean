import ScrapMonitoring.Foundations.Interleaving
import ScrapMonitoring.Foundations.WriteLock
import ScrapMonitoring.PitSettings.Rows

/-!
# The two writers of the settings

Any number of calls of `replace_settings` and of `update_pit_config` share the rows of one pit. A
call is a sequence of statements, each with what the call computes until the next; between two
statements any other call may act. The rows are those of `WriteLock`: a call reads what is
committed, is the only writer from its first change on, and sees its own changes.

The database answers a statement with success, with a violated constraint or with a failure. A
statement that writes does not succeed while another call is the writer: it waits, or it fails. A
commit that raises is taken not to have taken effect.
-/

namespace ScrapMonitoring.PitSettings

open Monitoring (PitConfig Settings)

variable {ι : Type*}

/-! ## Calls -/

inductive Request
  | replaceSettings (payload : AlertSettingsUpdate) (ifMatch : String)
  | updatePitConfig (payload : PitConfigUpdateRequest)

structure Call where
  actor : User
  request : Request

/-- How a call ends: with the settings and their ETag, with the configuration, with an HTTP error,
or with an exception that it does not handle. -/
inductive Outcome
  | settings (result : Fields × String)
  | config (pit : PitConfig)
  | raised (status : ℕ) (detail : String)
  | crashed
  deriving DecidableEq

/-- Where a call of `replace_settings` stands. -/
inductive Replacing
  | lockingPit
  | lockingPolicy (pit : PitConfig)
  | updatingPolicy (pit : PitConfig) (policy : AlertPolicy) (before : Fields)
  | updatingPit (pit : PitConfig) (policy : AlertPolicy) (before : Fields) (policyChanged : Bool)
  | refreshingPit (before : Fields)
  | refreshingPolicy (before : Fields) (pit : PitConfig)
  | recording (change : Change) (result : Fields × String)
  | committing (result : Fields × String)

/-- Where a call of `update_pit_config` stands. -/
inductive Configuring
  | selecting
  | inserting (pit : PitConfig)
  | updating (pit : PitConfig)
  | refreshing (before : Fields)
  | recording (change : Change)
  | committing
  /-- The refresh after the commit. -/
  | reloading

/-- Where a call stands. -/
inductive Progress
  | replacing (progress : Replacing)
  | configuring (progress : Configuring)
  | done (outcome : Outcome)

/-- How the database answers a statement. -/
inductive Answer
  | ok
  | integrityError
  | failure
  deriving DecidableEq

structure Reply where
  answer : Answer
  /-- What the clock of the call shows. -/
  now : ℤ

def unavailable : Outcome := .raised 503 "Settings storage unavailable"

def notRetrieved : Outcome := .raised 412 "Retrieve the current settings before updating"

def notMatched : Outcome := .raised 412 "Precondition failed: ETag does not match current version"

def replacedConcurrently : Outcome :=
  .raised 412 "Precondition failed: settings changed concurrently"

def updatedConcurrently : Outcome :=
  .raised 409 "Pit settings changed concurrently; retrieve and retry"

def invalidThresholds : Outcome :=
  .raised 422 "Warning threshold must be at least 5 percentage points below collection threshold"

def accessDenied : Outcome := .raised 403 "Administrator access required"

/-! ## Statements -/

section

variable [DecidableEq ι]

/-- What a statement leads to: the rows, where the call stands, and its outcome when it ends. -/
abbrev Next (ι : Type*) := Option (WriteLock ι Rows × Progress × Option Outcome)

def goOn (db : WriteLock ι Rows) (progress : Progress) : Next ι := some (db, progress, none)

/-- The call ends; what it has not committed is rolled back. -/
def finish (i : ι) (db : WriteLock ι Rows) (outcome : Outcome) : Next ι :=
  some (db.rollback i, .done outcome, some outcome)

/-- A statement that reads: it violates no constraint. -/
def looked (i : ι) (db : WriteLock ι Rows) (reply : Reply) (failed : Outcome) (next : Next ι) :
    Next ι :=
  match reply.answer with
  | .ok => next
  | .integrityError => none
  | .failure => finish i db failed

/-- A statement that writes. -/
def written (i : ι) (db : WriteLock ι Rows) (reply : Reply) (violated : Outcome) (next : Next ι) :
    Next ι :=
  match reply.answer with
  | .ok => if db.free i then next else none
  | .integrityError => finish i db violated
  | .failure => finish i db unavailable

/-- `SELECT ... FROM pit_configs`. -/
def Rows.selectPit (rows : Rows) (pitId : String) : Option PitConfig :=
  rows.pit.filter fun pit => pit.id = pitId

/-- `UPDATE pit_configs`: the rows, if the row meets the condition. -/
def Rows.updatePit (rows : Rows) (pitId : String) (condition : PitConfig → Bool)
    (values : PitConfig → PitConfig) : Option Rows :=
  ((rows.selectPit pitId).filter condition).map fun pit => { rows with pit := some (values pit) }

/-- `UPDATE alert_policies`: the rows, if the row meets the condition. -/
def Rows.updatePolicy (rows : Rows) (condition : AlertPolicy → Bool)
    (values : AlertPolicy → AlertPolicy) : Option Rows :=
  (rows.policy.filter condition).map fun policy => { rows with policy := some (values policy) }

/-- `INSERT INTO settings_history`. -/
def Rows.record (rows : Rows) (change : Change) (now : ℤ) : Rows :=
  { rows with history := rows.history ++ [⟨change, now⟩] }

/-! ## `replace_settings` -/

/-- One statement of `replace_settings`. -/
def replaceSettings (texts : Texts) (pitId : String) (actor : User) (payload : AlertSettingsUpdate)
    (ifMatch : String) (i : ι) (db : WriteLock ι Rows) : Replacing → Reply → Next ι
  | .lockingPit, reply =>
    looked i db reply unavailable <|
      match (db.view i).selectPit pitId with
      | none => finish i db notRetrieved
      | some pit => goOn db (.replacing (.lockingPolicy pit))
  | .lockingPolicy pit, reply =>
    looked i db reply unavailable <|
      match (db.view i).policy with
      | none => finish i db notRetrieved
      | some policy =>
        if ifMatch ≠ generateAlertEtag texts pit policy then finish i db notMatched
        else
          match snapshot texts pit policy with
          | none => finish i db .crashed
          | some (before, _) => goOn db (.replacing (.updatingPolicy pit policy before))
  | .updatingPolicy pit policy before, reply =>
    written i db reply unavailable <|
      match (db.view i).updatePolicy (fun current => current.versionId = policy.versionId)
        (fun _ => policy.replaced payload reply.now) with
      | none => goOn db (.replacing (.updatingPit pit policy before false))
      | some rows => goOn (db.write i rows) (.replacing (.updatingPit pit policy before true))
  | .updatingPit pit _ before policyChanged, reply =>
    written i db reply unavailable <|
      match (db.view i).updatePit pitId
        (fun current => current.updatedAt = pit.updatedAt ∧
          current.criticalThresholdPercent = pit.criticalThresholdPercent ∧
            current.warningThresholdPercent = pit.warningThresholdPercent)
        (fun current => replacedPit current payload reply.now) with
      | none => finish i db replacedConcurrently
      | some rows =>
        if policyChanged then goOn (db.write i rows) (.replacing (.refreshingPit before))
        else finish i (db.write i rows) replacedConcurrently
  | .refreshingPit before, reply =>
    looked i db reply unavailable <|
      match (db.view i).selectPit pitId with
      | none => finish i db unavailable
      | some pit => goOn db (.replacing (.refreshingPolicy before pit))
  | .refreshingPolicy before pit, reply =>
    looked i db reply unavailable <|
      match (db.view i).policy with
      | none => finish i db unavailable
      | some policy =>
        match snapshot texts pit policy with
        | none => finish i db .crashed
        | some result =>
          match recordChange actor pitId .alertSettings (some before) result.1 with
          | none => finish i db accessDenied
          | some none => goOn db (.replacing (.committing result))
          | some (some change) => goOn db (.replacing (.recording change result))
  | .recording change result, reply =>
    written i db reply unavailable <|
      goOn (db.write i ((db.view i).record change reply.now)) (.replacing (.committing result))
  | .committing result, reply =>
    written i db reply unavailable <|
      some (db.commit i, .done (.settings result), some (.settings result))

/-! ## `update_pit_config` -/

/-- The row that is created. -/
def newPit (settings : Settings) (pitId : String) (payload : PitConfigUpdateRequest) (now : ℤ) :
    PitConfig where
  id := pitId
  name := (payload.name.filter (· ≠ "")).getD ("구덩이 " ++ pitId)
  totalDepthCm := (payload.totalDepthCm.filter (· ≠ 0)).getD 300
  warningThresholdPercent := payload.warningThresholdPercent.getD settings.defaultWarningThreshold
  criticalThresholdPercent :=
    payload.criticalThresholdPercent.getD settings.defaultCriticalThreshold
  updatedAt := now

/-- The values of the `UPDATE`, on the row that it finds. -/
def configured (pit : PitConfig) (payload : PitConfigUpdateRequest) (now : ℤ)
    (current : PitConfig) :
    PitConfig :=
  { updatedPit pit payload with
    id := current.id
    updatedAt := if sameValues (updatedPit pit payload) pit then pit.updatedAt else now }

/-- The change is recorded, and the call goes on to its commit. -/
def recordConfig (pitId : String) (actor : User) (i : ι) (db : WriteLock ι Rows)
    (before : Option Fields) (pit : PitConfig) : Next ι :=
  match recordChange actor pitId .pitConfig before (pitValues pit) with
  | none => finish i db accessDenied
  | some none => goOn db (.configuring .committing)
  | some (some change) => goOn db (.configuring (.recording change))

/-- One statement of `update_pit_config`. -/
def updatePitConfig (settings : Settings) (pitId : String) (actor : User)
    (payload : PitConfigUpdateRequest) (i : ι) (db : WriteLock ι Rows) :
    Configuring → Reply → Next ι
  | .selecting, reply =>
    looked i db reply .crashed <|
      match (db.view i).selectPit pitId with
      | none =>
        let pit := newPit settings pitId payload reply.now
        if validThresholds pit.warningThresholdPercent pit.criticalThresholdPercent then
          goOn db (.configuring (.inserting pit))
        else finish i db invalidThresholds
      | some pit =>
        let pit' := updatedPit pit payload
        if validThresholds pit'.warningThresholdPercent pit'.criticalThresholdPercent then
          goOn db (.configuring (.updating pit))
        else finish i db invalidThresholds
  | .inserting pit, reply =>
    written i db reply updatedConcurrently <|
      match (db.view i).pit with
      -- the key is unique
      | some _ => none
      | none =>
        let pit := { pit with updatedAt := reply.now }
        recordConfig pitId actor i (db.write i { db.view i with pit := some pit }) none pit
  | .updating pit, reply =>
    written i db reply unavailable <|
      match (db.view i).updatePit pitId
        (fun current => current.updatedAt = pit.updatedAt ∧ sameValues current pit)
        (configured pit payload reply.now) with
      | none => finish i db updatedConcurrently
      | some rows => goOn (db.write i rows) (.configuring (.refreshing (pitValues pit)))
  | .refreshing before, reply =>
    looked i db reply unavailable <|
      match (db.view i).selectPit pitId with
      | none => finish i db unavailable
      | some pit => recordConfig pitId actor i db (some before) pit
  | .recording change, reply =>
    written i db reply updatedConcurrently <|
      goOn (db.write i ((db.view i).record change reply.now)) (.configuring .committing)
  | .committing, reply =>
    written i db reply updatedConcurrently <| goOn (db.commit i) (.configuring .reloading)
  | .reloading, reply =>
    looked i db reply unavailable <|
      match (db.view i).selectPit pitId with
      | none => finish i db unavailable
      | some pit => finish i db (.config pit)

/-! ## The calls in any order -/

/-- One statement of a call. -/
def act (texts : Texts) (settings : Settings) (pitId : String) (calls : ι → Call) (i : ι)
    (db : WriteLock ι Rows) : Progress → Reply → Next ι
  | .replacing progress, reply =>
    match (calls i).request with
    | .replaceSettings payload ifMatch =>
      replaceSettings texts pitId (calls i).actor payload ifMatch i db progress reply
    | .updatePitConfig _ => none
  | .configuring progress, reply =>
    match (calls i).request with
    | .replaceSettings _ _ => none
    | .updatePitConfig payload =>
      updatePitConfig settings pitId (calls i).actor payload i db progress reply
  | .done _, _ => none

/-- Where a call begins. -/
def Request.start : Request → Progress
  | .replaceSettings _ _ => .replacing .lockingPit
  | .updatePitConfig _ => .configuring .selecting

abbrev System (ι : Type*) := Shared ι (WriteLock ι Rows) Progress

abbrev CallStep (ι : Type*) := Entry (System ι) (ι × Reply) (Option Outcome)

/-- Every call is yet to begin. -/
def System.initial (calls : ι → Call) (rows : Rows) : System ι :=
  ⟨⟨rows, none⟩, fun i => (calls i).request.start⟩

end

end ScrapMonitoring.PitSettings
