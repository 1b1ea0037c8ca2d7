import ScrapMonitoring.Media.Processing

/-!
# Exports

A user requests the window of an event as a file. The request is bound to a job: to the job that an
earlier request of the user has created for the same window, if its file is under way or ready, and
to a new job otherwise. A request that is bound is answered from its job.
-/

namespace ScrapMonitoring.Media

/-! ## Answers -/

/-- The answer to a request for an export. -/
structure EventExportResponse where
  requestId : String
  eventId : String
  status : JobStatus
  requestedFrom : ℤ
  requestedTo : ℤ
  statusPath : String
  downloadPath : Option String
  clipId : Option String
  coverage : Option ClipCoverage
  actualFrom : Option ℤ
  actualTo : Option ℤ
  availableIntervals : List ClipGap
  gaps : List ClipGap
  extractionMode : Option ExtractionMode
  sizeBytes : Option ℕ
  expiresAt : Option ℤ
  attemptCount : Option ℕ
  errorCode : Option String
  deriving DecidableEq

/-- `allowed_reasons`. -/
def allowedReasons : List String :=
  ["CAMERA_DISCONNECTED", "RECORDING_UNAVAILABLE", "FUTURE_NOT_RECORDED", "CAMERA_UNAVAILABLE",
    "NO_FRAMES_AVAILABLE", "RECORDING_EXPIRED"]

/-- `allowed_errors`. -/
def allowedErrors : List String :=
  ["EXPORT_INCOMPATIBLE_MEDIA", "RECORDING_BOUNDARY_UNAVAILABLE", "INSUFFICIENT_STORAGE",
    "EXPORT_CAPACITY_EXCEEDED", "RECORDING_STORAGE_ERROR", "NO_FRAMES_AVAILABLE", "EXPORT_FAILED",
    "CLIP_PREPARATION_FAILED"]

/-- The gap with a reason that may be shown. -/
def ClipGap.shown (gap : ClipGap) : ClipGap :=
  { gap with reasonCode := some <|
      (gap.reasonCode.filter (· ∈ allowedReasons)).getD "RECORDING_UNAVAILABLE" }

/-- The path of a ready file that has not expired. -/
def downloadPath (now : ℤ) (detail : ClipDetail) : Option String :=
  if detail.status = .ready ∧ detail.contentPath.any (· ≠ "") ∧ detail.expiresAt.any (now < ·) then
    some ("/media/clips/" ++ detail.clipId ++ "/content?download=true")
  else none

/-- The part of the answer that comes from a detail. -/
def EventExportResponse.describe (response : EventExportResponse) (now : ℤ) (detail : ClipDetail) :
    EventExportResponse :=
  { response with
    coverage := detail.coverage
    actualFrom := detail.actualStartAt
    actualTo := detail.actualEndAt
    extractionMode := detail.extractionMode
    sizeBytes := detail.sizeBytes
    expiresAt := detail.expiresAt
    availableIntervals := detail.availableIntervals.map fun gap => { gap with reasonCode := none }
    gaps := detail.gaps.map ClipGap.shown
    errorCode :=
      match detail.error with
      | some error =>
        some (if error.code ∈ allowedErrors then error.code else "EVENT_EXPORT_FAILED")
      | none => response.errorCode
    downloadPath := Media.downloadPath now detail }

section

variable (hash : Json → String) (settings : Settings)

/-- `export_response`. -/
def exportResponse (now : ℤ) (job : MediaClipJob) : Except MediaServiceError EventExportResponse :=
  (exportContext hash settings job).map fun context =>
    let response : EventExportResponse :=
      { requestId := context.requestId
        eventId := context.eventId
        status := job.status
        requestedFrom := context.startAt
        requestedTo := context.endAt
        statusPath := "/api/v2/recordings/events/" ++ context.eventId ++ "/exports/" ++
          context.requestId
        downloadPath := none
        clipId := job.clipId
        coverage := none
        actualFrom := none
        actualTo := none
        availableIntervals := []
        gaps := []
        extractionMode := none
        sizeBytes := none
        expiresAt := none
        attemptCount := job.keys.clip.bind fun clip => clip.base.attemptCount
        errorCode := job.errorCode }
    match job.keys.clip with
    | some (.detail detail) => response.describe now detail
    | _ => response

/-! ## Jobs of requests -/

/-- `bound_export`. -/
def boundExport (db : Db) (owner requestId : String) : Option MediaClipJob :=
  match db.aliases.find? fun row => row.owner = owner ∧ row.requestId = requestId with
  | some row => db.job? row.jobId
  | none => db.jobs.find? fun job => job.eventId = exportIdentifier hash owner requestId

/-- `matching_exports`: the newest first. -/
def matchingExports (db : Db) (owner eventId : String) (before after : ℕ) : List MediaClipJob :=
  (sortedBy MediaClipJob.id <| db.jobs.filter fun job =>
    job.category = .eventExport ∧ job.cameraId = settings.mediaCameraId ∧
      job.pitId = settings.mediaPitId ∧ job.keys.rangeExport.any fun context =>
        context.owner = owner ∧ context.eventId = eventId ∧ context.before = before ∧
          context.after = after ∧ context.source = exportSource hash settings).reverse

end

/-! ## Requests -/

inductive WindowState
  | closed
  | point
  | openEnded
  | unknown
  deriving DecidableEq

/-- What `event_reference` resolves of an event, and when. -/
structure EventReference where
  windowState : WindowState
  windowFrom : ℤ
  windowTo : Option ℤ
  pitId : String
  occurredAt : ℤ
  now : ℤ
  deriving DecidableEq

/-- The body of a request for an export, and who requests it for which event. -/
structure ExportRequest where
  owner : String
  eventId : String
  requestId : String
  beforeSeconds : ℕ
  afterSeconds : ℕ
  retryFailed : Bool
  deriving DecidableEq

/-- A request that is not bound yet, with the window of its event. -/
structure ExportCall where
  request : ExportRequest
  reference : EventReference
  startAt : ℤ
  endAt : ℤ
  deriving DecidableEq

/-- The window of the event of a request, if it can be exported. -/
def exportCall (request : ExportRequest) (reference : EventReference) : Except Raise ExportCall :=
  match reference.windowTo with
  | none => .error (.http 409 "EVENT_WINDOW_NOT_CLOSED")
  | some windowTo =>
    let startAt := eventTimeUtc reference.windowFrom
    let endAt := eventTimeUtc windowTo
    if reference.windowState ≠ .closed ∧ reference.windowState ≠ .point then
      .error (.http 409 "EVENT_WINDOW_NOT_CLOSED")
    else if endAt ≤ startAt ∨ seconds 3600 < endAt - startAt then
      .error (.http 422 "EVENT_EXPORT_RANGE_TOO_LONG")
    else if reference.now ≤ startAt then .error (.http 409 "EVENT_WINDOW_IN_FUTURE")
    else .ok ⟨request, reference, startAt, endAt⟩

section

variable (hash : Json → String) (settings : Settings)

/-- The context that a request is bound to. -/
def ExportCall.context (call : ExportCall) : ExportContext where
  version := 1
  owner := call.request.owner
  requestId := call.request.requestId
  eventId := call.request.eventId
  before := call.request.beforeSeconds
  after := call.request.afterSeconds
  startAt := call.startAt
  endAt := call.endAt
  source := exportSource hash settings
  retryFailed := false

/-- The job of a request that finds none to reuse. -/
def newExportJob (db : Db) (call : ExportCall) : MediaClipJob where
  id := db.nextId
  eventId := exportIdentifier hash call.request.owner call.request.requestId
  cameraId := settings.mediaCameraId
  pitId := call.reference.pitId
  category := .eventExport
  occurredAt := call.reference.occurredAt
  clipId := none
  status := .pending
  attempts := 0
  nextAttemptAt := some call.reference.now
  errorCode := none
  snapshot := some
    { clip := none
      eventTimeRequest := none
      rangeExport := some (call.context hash settings)
      v2Context := none
      v2Simulated := none
      v2Collection := none }

/-- The status of a job whose file is under way. -/
def JobStatus.inFlight : JobStatus → Bool
  | .pending | .clip .collecting | .clip .processing => true
  | _ => false

/-- A candidate that is reused: it is in flight, or it is ready and can be downloaded. -/
def reusable (now : ℤ) (job : MediaClipJob) : Bool :=
  job.status.inFlight ∨ job.status = .clip .ready ∧
    (exportResponse hash settings now job).toOption.any fun response => response.downloadPath.isSome

/-- The tables with one more alias, unless the request has one. -/
def Db.insertAlias (db : Db) (new : EventExportAlias) : Option Db :=
  if db.aliases.any fun row => row.owner = new.owner ∧ row.requestId = new.requestId then none
  else some { db with aliases := db.aliases ++ [new] }

end

end ScrapMonitoring.Media
