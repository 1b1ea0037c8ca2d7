import ScrapMonitoring.Media.Clips
import ScrapMonitoring.Monitoring.Rows

/-!
# Media jobs

A media job is the durable request for the clip of one event. Its `snapshot` column holds what is
known of the remote clip, and besides it the origin of the job: on what time basis or for which
export it was requested, or from which context it was queued. Every writer of the column builds it
anew.

An automatic job is one that the worker has queued for a transition of the attached device; an
export is the job of a user's request for the window of an event.
-/

namespace ScrapMonitoring.Media

open EdgeV2 (digest)
open Monitoring (MonitoringSource)

/-! ## Settings -/

/-- The settings that the media jobs depend on. -/
structure Settings where
  mediaServiceUrl : Option String
  mediaApiToken : Option String
  mediaCameraId : String
  mediaPitId : String
  monitoringSources : List MonitoringSource
  v2EventClipsEnabled : Bool
  v2EventClipMaxDelaySeconds : ℕ
  /-- `MEDIA_POLL_INTERVAL_SECONDS`, as a duration. -/
  pollInterval : ℤ
  configured_together : mediaServiceUrl.isSome = mediaApiToken.isSome
  delay_range : 1 ≤ v2EventClipMaxDelaySeconds ∧ v2EventClipMaxDelaySeconds ≤ 300

namespace Settings

def maxDelay (settings : Settings) : ℤ := seconds settings.v2EventClipMaxDelaySeconds

/-- The media service, the camera and the pit. -/
def mediaSource (settings : Settings) : Json :=
  .arr [(settings.mediaServiceUrl.map Json.str).getD .null, .str settings.mediaCameraId,
    .str settings.mediaPitId]

end Settings

def sampleSettings : Settings where
  mediaServiceUrl := some "https://media.example"
  mediaApiToken := some "token"
  mediaCameraId := "cam-1"
  mediaPitId := "pit-01"
  monitoringSources := [⟨"pit-01", "site-1", "edge-1"⟩]
  v2EventClipsEnabled := true
  v2EventClipMaxDelaySeconds := 60
  pollInterval := seconds 2
  configured_together := rfl
  delay_range := by decide

/-- `event_time_source`. -/
def eventTimeSource (hash : Json → String) (settings : Settings) : String :=
  digest hash settings.mediaSource

/-- `export_source`. -/
def exportSource (hash : Json → String) (settings : Settings) : String :=
  digest hash settings.mediaSource

/-! ## Rows -/

inductive JobCategory
  | alert
  | collection
  | v2Alert
  | v2Collection
  | v2Error
  | eventExport
  deriving DecidableEq

/-- `AUTO_CATEGORIES`. -/
def JobCategory.automatic : JobCategory → Bool
  | v2Alert | v2Collection | v2Error => true
  | alert | collection | eventExport => false

/-- The status of the job; the status of its clip once there is one. -/
inductive JobStatus
  | pending
  | blocked
  | refreshing
  | clip (status : ClipStatus)
  deriving DecidableEq

/-- `_eventTimeRequest`. -/
structure EventTimeRequest where
  version : ℕ
  eventAt : String
  sourceToken : String
  deriving DecidableEq

/-- `_rangeExport`. -/
structure ExportContext where
  version : ℕ
  owner : String
  requestId : String
  eventId : String
  before : ℕ
  after : ℕ
  startAt : ℤ
  endAt : ℤ
  source : String
  retryFailed : Bool
  deriving DecidableEq

/-- `_v2Collection`. -/
structure V2Collection where
  siteId : String
  edgeId : String
  detectionId : String
  scopeToken : String
  deriving DecidableEq

/-- The `snapshot` column, by its keys. -/
structure Snapshot where
  clip : Option ClipSnapshot
  eventTimeRequest : Option EventTimeRequest
  rangeExport : Option ExportContext
  v2Context : Option String
  /-- What is recorded may be unknown. -/
  v2Simulated : Option (Option Bool)
  v2Collection : Option V2Collection
  deriving DecidableEq

/-- The row of `media_clip_jobs`. -/
structure MediaClipJob where
  id : ℕ
  eventId : String
  cameraId : String
  pitId : String
  category : JobCategory
  occurredAt : ℤ
  clipId : Option String
  status : JobStatus
  attempts : ℕ
  nextAttemptAt : Option ℤ
  errorCode : Option String
  snapshot : Option Snapshot
  deriving DecidableEq

/-- `job.snapshot or {}`. -/
def MediaClipJob.keys (job : MediaClipJob) : Snapshot :=
  job.snapshot.getD ⟨none, none, none, none, none, none⟩

/-! ## The origin of a job -/

/-- How a call ends that does not succeed: with an HTTP error, with an error of the media service,
or with an exception that nobody handles. -/
inductive Raise
  | http (statusCode : ℕ) (detail : String)
  | media (error : MediaServiceError)
  | crash
  deriving DecidableEq

def sourceChanged : MediaServiceError := ⟨409, "MEDIA_CLIP_SOURCE_CHANGED", false⟩

def timeContextInvalid : MediaServiceError := ⟨409, "MEDIA_TIME_CONTEXT_INVALID", false⟩

def rangeContextInvalid : MediaServiceError := ⟨409, "MEDIA_RANGE_CONTEXT_INVALID", false⟩

def rangeBasisMismatch : MediaServiceError := ⟨502, "MEDIA_RANGE_BASIS_MISMATCH", false⟩

def timeBasisMismatch : MediaServiceError := ⟨502, "MEDIA_TIME_BASIS_MISMATCH", false⟩

variable (hash : Json → String) (settings : Settings)

/-- `requested_event_time`. -/
def requestedEventTime (job : MediaClipJob) : Except MediaServiceError (Option ℤ) :=
  match job.keys.eventTimeRequest with
  | none => .ok none
  | some context =>
    if context.version ≠ 1 then .error timeContextInvalid
    else if context.sourceToken ≠ eventTimeSource hash settings then .error sourceChanged
    else if context.eventAt ≠ eventTimeText (eventTimeUtc job.occurredAt) then
      .error timeContextInvalid
    else .ok (some (eventTimeUtc job.occurredAt))

/-- `export_identifier`. -/
def exportIdentifier (owner requestId : String) : String :=
  "event-export-" ++ digest hash (.arr [.str owner, .str requestId])

/-- `export_context`. -/
def exportContext (job : MediaClipJob) : Except MediaServiceError ExportContext :=
  match job.keys.rangeExport with
  | none => .error rangeContextInvalid
  | some context =>
    if context.source ≠ exportSource hash settings ∨
        job.cameraId ≠ settings.mediaCameraId ∨ job.pitId ≠ settings.mediaPitId then
      .error sourceChanged
    else if context.version ≠ 1 ∨
      job.eventId ≠ exportIdentifier hash context.owner context.requestId ∨
        context.endAt ≤ context.startAt ∨ seconds 3600 < context.endAt - context.startAt then
      .error rangeContextInvalid
    else .ok context

/-- `range_request`. -/
def rangeRequest (job : MediaClipJob) : Except Raise (Option RangeClipRequest) :=
  if job.category ≠ .eventExport then .ok none
  else
    match exportContext hash settings job with
    | .error error => .error (.media error)
    | .ok context =>
      if h : eventTimeUtc context.startAt < eventTimeUtc context.endAt ∧
          eventTimeUtc context.endAt - eventTimeUtc context.startAt ≤ seconds 3600 then
        .ok (some ⟨job.eventId, job.cameraId, context.startAt, context.endAt, context.retryFailed,
          h⟩)
      else .error .crash

/-! ## What the media service tells of a clip -/

/-- What a ready clip of a range must be like. -/
def ClipDetail.fits (detail : ClipDetail) (context : ExportContext) : Bool :=
  detail.extractionMode = some .streamCopy ∧ detail.sizeBytes.any (0 < ·) ∧
    detail.availableIntervals ≠ [] ∧
    detail.actualStartAt.any fun startAt => detail.actualEndAt.any fun endAt =>
      startAt < endAt ∧ context.startAt - seconds 1 ≤ startAt ∧ endAt ≤ context.endAt + seconds 1 ∧
        detail.availableIntervals.all fun interval =>
          startAt ≤ interval.startAt ∧ interval.endAt ≤ endAt

/-- `validate_range_snapshot`. -/
def validateRangeSnapshot (job : MediaClipJob) (snapshot : ClipSnapshot) :
    Except MediaServiceError Unit :=
  if job.category ≠ .eventExport then .ok ()
  else
    match exportContext hash settings job with
    | .error error => .error error
    | .ok context =>
      if snapshot.base.requestMode ≠ some .timeRange ∨ snapshot.base.attemptCount = none ∨
          snapshot.base.requestedStartAt ≠ context.startAt ∨
          snapshot.base.requestedEndAt ≠ context.endAt ∨ snapshot.base.eventAt ≠ none then
        .error rangeBasisMismatch
      else if (job.keys.clip.bind fun clip => clip.base.attemptCount).any fun previous =>
          snapshot.base.attemptCount.any (· < previous) then
        .error rangeBasisMismatch
      else
        match snapshot with
        | .receipt _ => .ok ()
        | .detail detail =>
          if (detail.availableIntervals ++ detail.gaps).any fun gap => gap.endAt ≤ gap.startAt then
            .error rangeBasisMismatch
          else if detail.status = .ready ∧ ¬detail.fits context then .error rangeBasisMismatch
          else .ok ()

/-- `origin`: what `apply_snapshot` keeps of the column. -/
def MediaClipJob.origin (job : MediaClipJob) : Snapshot where
  clip := none
  eventTimeRequest := job.keys.eventTimeRequest
  rangeExport := job.keys.rangeExport
  v2Context := if job.category.automatic then job.keys.v2Context else none
  v2Simulated := if job.category.automatic then job.keys.v2Simulated else none
  v2Collection := if job.category.automatic then job.keys.v2Collection else none

/-- When a clip is to be polled next: a file that is ready is read when somebody asks for it. -/
def nextPoll (now : ℤ) : ClipSnapshot → Option ℤ
  | .receipt _ => some (now + settings.pollInterval)
  | .detail detail =>
    if detail.status = .collecting ∨ detail.status = .processing then
      some (now + settings.pollInterval)
    else none

/-- `apply_snapshot`. -/
def applySnapshot (now : ℤ) (job : MediaClipJob) (snapshot : ClipSnapshot) :
    Except MediaServiceError MediaClipJob :=
  if snapshot.base.eventId ≠ job.eventId ∨ snapshot.base.cameraId ≠ job.cameraId then
    .error identityMismatch
  else if job.clipId.any (· ≠ snapshot.base.clipId) then .error identityMismatch
  else
    match validateRangeSnapshot hash settings job snapshot with
    | .error error => .error error
    | .ok () =>
      match requestedEventTime hash settings job with
      | .error error => .error error
      | .ok expected =>
        if snapshot.base.eventAt ≠ expected then .error timeBasisMismatch
        else .ok
          { job with
            clipId := some snapshot.base.clipId
            status := .clip snapshot.base.status
            snapshot := some { job.origin with clip := some snapshot }
            errorCode := none
            nextAttemptAt := nextPoll settings now snapshot }

/-! ## The context of automatic jobs -/

/-- The device that is attached to the pit of the camera, and the token of this assignment. -/
structure ClipContext where
  siteId : String
  edgeId : String
  scope : String
  deriving DecidableEq

/-- `source.model_dump()`. -/
def sourceDump (source : MonitoringSource) : Json :=
  .obj [("pit_id", .str source.pitId), ("site_id", .str source.siteId),
    ("edge_id", .str source.edgeId)]

/-- `clip_context`. -/
def clipContext : Option ClipContext :=
  match settings.mediaServiceUrl,
      settings.monitoringSources.find? fun source => source.pitId = settings.mediaPitId with
  | some url, some source =>
    some ⟨source.siteId, source.edgeId,
      digest hash (.arr [.str url, .str settings.mediaCameraId, sourceDump source])⟩
  | _, _ => none

/-- Why an automatic clip is not requested. -/
inductive Block
  | sourceChanged
  | disabled
  | windowExpired
  deriving DecidableEq

def Block.code : Block → String
  | sourceChanged => "MEDIA_CLIP_SOURCE_CHANGED"
  | disabled => "V2_EVENT_CLIPS_DISABLED"
  | windowExpired => "EVENT_CLIP_WINDOW_EXPIRED"

def Block.error (block : Block) : MediaServiceError := ⟨409, block.code, false⟩

/-- `automatic_request_block`. -/
def automaticRequestBlock (job : MediaClipJob) (now : ℤ) : Option Block :=
  if (clipContext hash settings).all fun context => job.pitId ≠ settings.mediaPitId ∨
      job.cameraId ≠ settings.mediaCameraId ∨ job.keys.v2Context ≠ some context.scope then
    some .sourceChanged
  else if settings.v2EventClipsEnabled = false then some .disabled
  else if ¬(0 ≤ now - job.occurredAt ∧ now - job.occurredAt ≤ settings.maxDelay) then
    some .windowExpired
  else none

end ScrapMonitoring.Media
