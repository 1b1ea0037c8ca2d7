import ScrapMonitoring.Foundations.Sorted
import ScrapMonitoring.Media.Jobs
import ScrapMonitoring.Operations.Store

/-!
# How jobs are queued

`enqueueEventClip` adds the job of an event, unless there is one. `queueRecentEvents` is the sweep
of the worker: it starts from the present when the session or the assignment of the device is new,
and otherwise queues a job for each fresh transition of the device.
-/

namespace ScrapMonitoring.Media

open EdgeV2 (digest)
open Operations (AlertLog EdgeV2AlertLink)

/-! ## Tables -/

inductive TransitionKind
  | alertCreated
  | collectionDetected
  | deviceStateChanged
  | measurementValidityChanged
  | other (name : String)
  deriving DecidableEq

/-- The row of `edge_v2_transitions`. -/
structure EdgeV2Transition where
  id : ℕ
  siteId : String
  edgeId : String
  occurredAt : ℤ
  kind : TransitionKind
  payload : Fields
  deriving DecidableEq

/-- The row of `event_export_aliases`. -/
structure EventExportAlias where
  owner : String
  requestId : String
  jobId : ℕ
  deriving DecidableEq

/-- The row of `edge_v2_latest` with the cursor of a device. -/
structure Cursor where
  generatedAt : ℤ
  sessionToken : String
  afterId : ℕ
  deriving DecidableEq

/-- The tables that the media jobs live in and are made from. -/
structure Db where
  jobs : List MediaClipJob
  aliases : List EventExportAlias
  transitions : List EdgeV2Transition
  alerts : List AlertLog
  links : List EdgeV2AlertLink
  /-- By site and edge. -/
  cursors : String × String → Option Cursor

namespace Db

variable (db : Db)

/-- `db.get(MediaClipJob, id)`. -/
def job? (id : ℕ) : Option MediaClipJob := db.jobs.find? fun job => job.id = id

/-- The job of an event. -/
def jobOf? (cameraId eventId : String) : Option MediaClipJob :=
  db.jobs.find? fun job => job.eventId = eventId ∧ job.cameraId = cameraId

/-- The job of a clip. -/
def jobOfClip? (clipId : String) : Option MediaClipJob :=
  db.jobs.find? fun job => job.clipId = some clipId

def nextId : ℕ := (db.jobs.map MediaClipJob.id).foldr max 0 + 1

def insertJob (job : MediaClipJob) : Db := { db with jobs := db.jobs ++ [job] }

def updateJob (job : MediaClipJob) : Db :=
  { db with jobs := db.jobs.map fun row => if row.id = job.id then job else row }

def setCursor (device : String × String) (cursor : Cursor) : Db :=
  { db with cursors := Function.update db.cursors device (some cursor) }

end Db

/-! ## The job of an event -/

section

variable (hash : Json → String) (settings : Settings)

/-- The job that is added. -/
def newEventJob (now : ℤ) (db : Db) (eventId pitId : String) (category : JobCategory)
    (occurredAt : ℤ) (useEventTime : Bool) : MediaClipJob where
  id := db.nextId
  eventId := eventId
  cameraId := settings.mediaCameraId
  pitId := pitId
  category := category
  occurredAt := occurredAt
  clipId := none
  status := .pending
  attempts := 0
  nextAttemptAt := some now
  errorCode := none
  snapshot :=
    if useEventTime then
      some
        { clip := none
          eventTimeRequest := some ⟨1, eventTimeText occurredAt, eventTimeSource hash settings⟩
          rangeExport := none
          v2Context := none
          v2Simulated := none
          v2Collection := none }
    else none

/-- `enqueue_event_clip`. -/
def enqueueEventClip (now : ℤ) (db : Db) (eventId pitId : String) (category : JobCategory)
    (occurredAt : ℤ) (useEventTime : Bool) : Db × Option MediaClipJob :=
  if settings.mediaServiceUrl = none ∨ pitId ≠ settings.mediaPitId then (db, none)
  else
    match db.jobOf? settings.mediaCameraId eventId with
    | some job => (db, some job)
    | none =>
      let job := newEventJob hash settings now db eventId pitId category occurredAt useEventTime
      (db.insertJob job, some job)

end

/-! ## Transitions -/

namespace EdgeV2Transition

variable (row : EdgeV2Transition)

/-- `payload.get(key)`. -/
def get (key : String) : Json := (row.payload.lookup key).getD .null

/-- `as_string()`. -/
def text? (key : String) : Option String :=
  match row.get key with
  | .str text => some text
  | .int n => some (toString n)
  | _ => none

/-- The reasons that are texts. -/
def reasons : List String :=
  match row.get "reasonCodes" with
  | .arr items => items.filterMap fun item =>
      match item with
      | .str reason => some reason
      | _ => none
  | _ => []

/-- `PREPARING_REASONS`. -/
def preparingReasons : List String :=
  ["SCAN_RECOVERING", "FILTER_WARMING", "MEDIAN_WARMING", "INITIALIZING"]

def preparing : Bool := row.reasons.any (· ∈ preparingReasons)

end EdgeV2Transition

inductive StateAtOccurrence
  | unavailable
  | recovered
  | preparing
  | degraded
  | unknown
  deriving DecidableEq

/-- `error_transition_event`: the state that the transition tells of. -/
def errorTransitionState (row : EdgeV2Transition) : Option StateAtOccurrence :=
  match row.kind with
  | .deviceStateChanged =>
    if row.get "previous" = row.get "current" then none
    else if row.get "current" = .str "MEASUREMENT_UNAVAILABLE" ∨
        row.get "current" = .str "CONFIG_ERROR" then
      some .unavailable
    else if row.get "current" = .str "HEALTHY" then some .recovered
    else if row.get "current" = .str "DEGRADED" then
      some (if row.preparing then .preparing else .degraded)
    else if row.get "current" = .str "UNKNOWN" then some .unknown
    else none
  | .measurementValidityChanged =>
    match row.get "previousValid", row.get "currentValid" with
    | .bool previous, .bool current =>
      if previous = current then none
      else if current then some .recovered
      else if row.preparing then some .preparing
      else some .unavailable
    | _, _ => none
  | _ => none

/-- `identifier_sql`. -/
def sqlIdentifier (row : EdgeV2Transition) : Option String :=
  match row.kind with
  | .alertCreated => (row.text? "alertId").map ("evt-alt-" ++ ·)
  | .collectionDetected => some ("evt-auto-col-start-" ++ toString row.id)
  | _ => some ("evt-v2-transition-" ++ toString row.id)

/-! ## The sweep -/

section

variable (hash : Json → String) (settings : Settings)

/-- `KINDS`. -/
def kinds : List TransitionKind :=
  [.alertCreated, .collectionDetected, .deviceStateChanged, .measurementValidityChanged]

/-- `query`: the transitions of the device. -/
def Db.deviceTransitions (db : Db) (context : ClipContext) : List EdgeV2Transition :=
  db.transitions.filter fun row =>
    row.siteId = context.siteId ∧ row.edgeId = context.edgeId ∧ row.kind ∈ kinds

/-- `latest`. -/
def Db.latestId (db : Db) (context : ClipContext) : ℕ :=
  ((db.deviceTransitions context).map EdgeV2Transition.id).foldr max 0

/-- `rows`: the fresh transitions that have no job. -/
def Db.freshTransitions (db : Db) (context : ClipContext) (cursor : Cursor) (now : ℤ) :
    List EdgeV2Transition :=
  ((sortedBy EdgeV2Transition.id <| (db.deviceTransitions context).filter fun row =>
    cursor.afterId < row.id ∧ max cursor.generatedAt (now - settings.maxDelay) ≤ row.occurredAt ∧
      row.occurredAt ≤ now ∧ row.text? "pitId" = some settings.mediaPitId ∧
        ¬(sqlIdentifier row).any fun eventId =>
          (db.jobOf? settings.mediaCameraId eventId).isSome)).take 1000

/-- The category and the identifier of the event of a transition. -/
def identify (db : Db) (context : ClipContext) (row : EdgeV2Transition) :
    Option (JobCategory × String) :=
  match row.kind with
  | .alertCreated =>
    match row.get "alertId" with
    | .int alertId =>
      (db.alerts.find? fun alert => alert.id = alertId ∧ alert.pitId = settings.mediaPitId ∧
        alert.triggeredAt = row.occurredAt ∧ db.links.any fun link => link.alertId = alert.id ∧
          link.pitId = settings.mediaPitId ∧ link.siteId = context.siteId ∧
            link.edgeId = context.edgeId).map
        fun alert => (.v2Alert, "evt-alt-" ++ toString alert.id)
    | _ => none
  | .collectionDetected =>
    match row.get "confirmedCompletion", row.get "detectionId", row.get "scopeToken" with
    | .bool false, .str _, .str _ =>
      some (.v2Collection, "evt-auto-col-start-" ++ toString row.id)
    | _, _, _ => none
  | _ =>
    if errorTransitionState row = some .unavailable then
      some (.v2Error, "evt-v2-transition-" ++ toString row.id)
    else none

/-- What is recorded of the context of an automatic job. -/
def automaticSnapshot (context : ClipContext) (category : JobCategory) (row : EdgeV2Transition) :
    Snapshot where
  clip := none
  eventTimeRequest := none
  rangeExport := none
  v2Context := some context.scope
  v2Simulated := some <|
    match row.get "simulated" with
    | .bool simulated => some simulated
    | _ => none
  v2Collection :=
    if category = .v2Collection then
      some ⟨context.siteId, context.edgeId, (row.text? "detectionId").getD "",
        (row.text? "scopeToken").getD ""⟩
    else none

/-- The body of the loop: the tables with one more automatic job, if the transition gets one. -/
def queueRow (context : ClipContext) (now : ℤ) (db : Db) (row : EdgeV2Transition) : Option Db :=
  if row.get "pitId" ≠ .str settings.mediaPitId ∨
      ¬(0 ≤ now - row.occurredAt ∧ now - row.occurredAt ≤ settings.maxDelay) then none
  else
    match identify settings db context row with
    | none => none
    | some (category, identifier) =>
      match enqueueEventClip hash settings now db identifier settings.mediaPitId category
        row.occurredAt false with
      | (_, none) => none
      | (db', some job) =>
        if job.category = category ∧ job.clipId = none ∧ job.snapshot = none then
          some (db'.updateJob
            { job with snapshot := some (automaticSnapshot context category row) })
        else none

/-- The loop, which ends when `limit` jobs are queued. -/
def queueRows (context : ClipContext) (now : ℤ) : ℕ → List EdgeV2Transition → Db → Db
  | 0, _, db => db
  | _ + 1, [], db => db
  | limit + 1, row :: rows, db =>
    match queueRow hash settings context now db row with
    | some db' => queueRows context now limit rows db'
    | none => queueRows context now (limit + 1) rows db

/-- `token`: the session and the assignment that a cursor is for. -/
def cursorToken (sessionToken : String) (context : ClipContext) : String :=
  digest hash (.arr [.str sessionToken, .str context.scope])

/-- `queue_recent_events`, in an assignment. -/
def queueInContext (context : ClipContext) (sessionToken : String) (now : ℤ) (db : Db) : Db :=
  let token := cursorToken hash sessionToken context
  match (db.cursors (context.siteId, context.edgeId)).filter fun cursor =>
    cursor.sessionToken = token with
  -- a new session or assignment starts from the present
  | none => db.setCursor (context.siteId, context.edgeId) ⟨now, token, db.latestId context⟩
  | some cursor =>
    queueRows hash settings context now 20 (db.freshTransitions settings context cursor now) db

/-- `queue_recent_events`. -/
def queueRecentEvents (sessionToken : String) (now : ℤ) (db : Db) : Db :=
  if settings.v2EventClipsEnabled = false then db
  else
    match clipContext hash settings with
    | none => db
    | some context => queueInContext hash settings context sessionToken now db

end

end ScrapMonitoring.Media
