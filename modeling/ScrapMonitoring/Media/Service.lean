import ScrapMonitoring.Foundations.Run
import ScrapMonitoring.Media.Export

/-!
# What can happen to the media jobs

All that works on media jobs holds one lock: the sweep of the worker, the processing of a job, reads
of a clip, its deletion, and the requests for exports. While the holder waits for the media service,
other transactions commit transitions, alerts and jobs of events, the settings may change, and the
process may restart, which forgets what has not been committed. `Work` is what the holder is waiting
for, and `step` is everything that can happen next.
-/

namespace ScrapMonitoring.Media

open Operations (AlertLog EdgeV2AlertLink)

/-! ## The state -/

/-- Who has a job processed. -/
inductive Caller
  | worker
  | requestClip
  | requestExport
  deriving DecidableEq

/-- Who has the clip of a job read. -/
inductive Reader
  | recording
  | lookupExport
  /-- A request for an export that may reuse the job, or one of the jobs that come after it. -/
  | choosing (call : ExportCall) (rest : List ℕ)
  deriving DecidableEq

/-- What the holder of the lock is waiting for. -/
inductive Work
  | idle
  | processing (jobId : ℕ) (dispatch : Dispatch) (caller : Caller)
  | refreshing (jobId : ℕ) (clipId : String) (reader : Reader)
  | reading (clipId : String)
  | deleting (clipId : String)
  deriving DecidableEq

structure Service where
  settings : Settings
  /-- The session of the worker. -/
  token : Option String
  db : Db
  work : Work

/-- The service before its first step. -/
def sampleService : Service where
  settings := sampleSettings
  token := none
  db := ⟨[], [], [], [], [], fun _ => none⟩
  work := .idle

/-- What a step tells. -/
inductive Out
  | silent
  | requested (request : RemoteRequest)
  | processed (statusCode : ℕ)
  | refreshed
  | export (statusCode : ℕ) (response : EventExportResponse)
  | noExport
  | detail (detail : ClipDetail)
  | deleted
  | raised (error : Raise)
  deriving DecidableEq

abbrev Next := Option (Service × Out)

/-- The lock is released. -/
def finish (s : Service) (out : Out) : Next := some ({ s with work := .idle }, out)

/-- The job is stored, and the lock is released. -/
def store (s : Service) (job : MediaClipJob) (out : Out) : Next :=
  match s.db.saveJob job with
  | none => finish s (.raised .crash)
  | some db => finish { s with db := db } out

section

variable (hash : Json → String)

/-! ## Processing -/

def exportOut (settings : Settings) (now : ℤ) (statusCode : ℕ) (job : MediaClipJob) : Out :=
  match exportResponse hash settings now job with
  | .error error => .raised (.media error)
  | .ok response => .export statusCode response

def Caller.respond (settings : Settings) (now : ℤ) (statusCode : ℕ) (job : MediaClipJob) :
    Caller → Out
  | worker | requestClip => .processed statusCode
  | requestExport => exportOut hash settings now statusCode job

/-- `process_job`, until it asks. -/
def startProcess (s : Service) (now : ℤ) (jobId : ℕ) (caller : Caller) : Next :=
  match s.db.job? jobId with
  | none => none
  | some row =>
    match dispatch hash s.settings now row.attempt with
    | .ok dispatch =>
      some ({ s with work := .processing jobId dispatch caller }, .requested dispatch.request)
    | .error (.media error) => store s (failJob now row.attempt error) (.raised (.media error))
    | .error error => finish s (.raised error)

/-- `process_job`, from the answer on. -/
def endProcess (s : Service) (now : ℤ) (jobId : ℕ) (dispatch : Dispatch) (caller : Caller)
    (answer : RemoteAnswer) : Next :=
  match s.db.job? jobId, dispatch.answered answer with
  | some row, some (.error error) =>
    store s (failJob now row.attempt error) (.raised (.media error))
  | some row, some (.ok (statusCode, snapshot)) =>
    match settleJob hash s.settings now row.attempt dispatch snapshot with
    | (job, some error) => store s job (.raised (.media error))
    | (job, none) => store s job (caller.respond hash s.settings now statusCode job)
  | _, _ => none

/-! ## Clips of events -/

/-- An alert or a collection that has been logged. -/
structure LoggedEvent where
  isAlert : Bool
  number : ℕ
  pitId : String
  occurredAt : ℤ
  deriving DecidableEq

def LoggedEvent.eventId (event : LoggedEvent) : String :=
  (if event.isAlert then "evt-alt-" else "evt-col-") ++ toString event.number

def LoggedEvent.category (event : LoggedEvent) : JobCategory :=
  if event.isAlert then .alert else .collection

/-- `request_event_clip`, when there is a job. -/
def requestJob (s : Service) (now : ℤ) (job : MediaClipJob) (useEventTime : Bool) : Next :=
  if job.pitId ≠ s.settings.mediaPitId then finish s (.raised (.http 404 "EVENT_NOT_FOUND"))
  else if job.category = .eventExport then
    finish s (.raised (.http 409 "EVENT_EXPORT_REQUIRES_EXPORT_API"))
  else if job.keys.eventTimeRequest.isSome ≠ useEventTime then
    finish s (.raised (.http 409 "CLIP_TIME_BASIS_CONFLICT"))
  else startProcess hash s now job.id .requestClip

/-- `request_event_clip`; `event` is the logged event of the identifier, if there is one. -/
def requestClip (s : Service) (now : ℤ) (eventId : String) (useEventTime : Bool)
    (event : Option LoggedEvent) : Next :=
  if s.settings.mediaServiceUrl = none then
    finish s (.raised (.media ⟨503, "MEDIA_NOT_CONFIGURED", false⟩))
  else
    match s.db.jobOf? s.settings.mediaCameraId eventId, event with
    | some job, _ => requestJob hash s now job useEventTime
    | none, none => finish s (.raised (.http 404 "EVENT_NOT_FOUND"))
    | none, some event =>
      if event.pitId ≠ s.settings.mediaPitId then finish s (.raised (.http 404 "EVENT_NOT_FOUND"))
      else
        match enqueueEventClip hash s.settings now s.db eventId event.pitId event.category
          event.occurredAt useEventTime with
        | (_, none) => finish s (.raised .crash)
        | (db, some job) => requestJob hash { s with db := db } now job useEventTime

/-- `delete_media_clip`, on the job of the clip. -/
def deletedJob (now : ℤ) (job : MediaClipJob) : MediaClipJob :=
  { job with
    status := .refreshing
    snapshot :=
      if job.category = .eventExport ∧ job.keys.rangeExport.isSome then
        some
          { clip := none
            eventTimeRequest := none
            rangeExport := job.keys.rangeExport
            v2Context := none
            v2Simulated := none
            v2Collection := none }
      else none
    nextAttemptAt := some now }

/-- `delete_media_clip`, from the answer on. -/
def endDelete (s : Service) (now : ℤ) (clipId : String) (answer : RemoteAnswer) : Next :=
  match MediaClient.deleteClip answer with
  | none => none
  | some (.error error) => finish s (.raised (.media error))
  | some (.ok ()) =>
    match s.db.jobOfClip? clipId with
    | none => finish s .deleted
    | some job => store s (deletedJob now job) .deleted

/-- `get_media_clip`, from the answer on. -/
def endRead (s : Service) (now : ℤ) (clipId : String) (answer : RemoteAnswer) : Next :=
  match MediaClient.getClip clipId answer with
  | none => none
  | some (.error error) => finish s (.raised (.media error))
  | some (.ok detail) =>
    match s.db.jobOfClip? clipId with
    | none => finish s (.detail detail)
    | some row =>
      match applySnapshot hash s.settings now row (.detail detail) with
      | .error error => finish s (.raised (.media error))
      | .ok job => store s job (.detail detail)

/-! ## Exports -/

/-- The request is bound: to the job that it reuses, or to a new one, which is then processed. -/
def bindExport (s : Service) (now : ℤ) (call : ExportCall) : Option MediaClipJob → Next
  | some job =>
    match s.db.insertAlias ⟨call.request.owner, call.request.requestId, job.id⟩ with
    | none => finish s (.raised .crash)
    | some db => finish { s with db := db } (exportOut hash s.settings now 200 job)
  | none =>
    let job := newExportJob hash s.settings s.db call
    if (s.db.jobOf? job.cameraId job.eventId).isSome then finish s (.raised .crash)
    else
      match (s.db.insertJob job).insertAlias ⟨call.request.owner, call.request.requestId,
        job.id⟩ with
      | none => finish s (.raised .crash)
      | some db => startProcess hash { s with db := db } now job.id .requestExport

/-- The loop over the candidates, until it asks for the clip of one of them. -/
def chooseExport (s : Service) (now : ℤ) (call : ExportCall) : List ℕ → Next
  | [] => bindExport hash s now call none
  | jobId :: rest =>
    match s.db.job? jobId with
    | none => none
    | some job =>
      match exportContext hash s.settings job with
      | .error error => finish s (.raised (.media error))
      | .ok stored =>
        if stored.startAt ≠ call.startAt ∨ stored.endAt ≠ call.endAt then
          chooseExport s now call rest
        else if job.status.inFlight = false ∧ job.status ≠ .clip .ready then
          chooseExport s now call rest
        else
          match job.clipId with
          | some clipId => some ({ s with work := .refreshing jobId clipId (.choosing call rest) },
              .requested (.getClip clipId))
          | none =>
            if reusable hash s.settings now job then bindExport hash s now call (some job)
            else chooseExport s now call rest

/-- A reader goes on with the refreshed job. -/
def Reader.resume (s : Service) (now : ℤ) (job : MediaClipJob) : Reader → Next
  | recording => finish s .refreshed
  | lookupExport => finish s (exportOut hash s.settings now 200 job)
  | choosing call rest =>
    if reusable hash s.settings now job then bindExport hash s now call (some job)
    else chooseExport hash s now call rest

/-- `refresh_export`, from the answer on. -/
def endRefresh (s : Service) (now : ℤ) (jobId : ℕ) (clipId : String) (reader : Reader)
    (answer : RemoteAnswer) : Next :=
  match s.db.job? jobId, MediaClient.getClip clipId answer with
  | some _, some (.error error) => finish s (.raised (.media error))
  | some row, some (.ok detail) =>
    match applySnapshot hash s.settings now row (.detail detail) with
    | .error error => finish s (.raised (.media error))
    | .ok job =>
      match s.db.saveJob job with
      | none => finish s (.raised .crash)
      | some db => reader.resume hash { s with db := db } now job
  | _, _ => none

def exportNotFound : Raise := .http 404 "EVENT_EXPORT_NOT_FOUND"

def requestConflict : Raise := .http 409 "EVENT_EXPORT_REQUEST_CONFLICT"

/-- `request_export`, when the request is bound. -/
def replayExport (s : Service) (now : ℤ) (request : ExportRequest) (job : MediaClipJob) : Next :=
  if job.category ≠ .eventExport then finish s (.raised requestConflict)
  else
    match exportContext hash s.settings job with
    | .error error => finish s (.raised (.media error))
    | .ok context =>
      if (context.owner, context.eventId, context.before, context.after) ≠
          (request.owner, request.eventId, request.beforeSeconds, request.afterSeconds) then
        finish s (.raised requestConflict)
      else if request.retryFailed then
        match setRetry hash s.settings job true with
        | .error error => finish s (.raised (.media error))
        | .ok job' =>
          startProcess hash { s with db := s.db.updateJob job' } now job.id .requestExport
      else startProcess hash s now job.id .requestExport

/-- `request_export`, until it asks. -/
def requestExport (s : Service) (now : ℤ) (request : ExportRequest)
    (reference : Except Raise EventReference) : Next :=
  if s.settings.mediaServiceUrl = none then
    finish s (.raised (.media ⟨503, "MEDIA_NOT_CONFIGURED", false⟩))
  else
    match boundExport hash s.db request.owner request.requestId with
    | none =>
      if request.retryFailed then finish s (.raised exportNotFound)
      else
        match reference with
        | .error error => finish s (.raised error)
        | .ok reference =>
          match exportCall request reference with
          | .error error => finish s (.raised error)
          | .ok call =>
            chooseExport hash s now call <|
              (matchingExports hash s.settings s.db request.owner request.eventId
                request.beforeSeconds request.afterSeconds).map MediaClipJob.id
    | some job => replayExport hash s now request job

/-- A read of an export: its clip is asked for, if there is one. -/
def readJob (s : Service) (now : ℤ) (job : MediaClipJob) : Next :=
  match job.clipId with
  | some clipId =>
    some ({ s with work := .refreshing job.id clipId .lookupExport }, .requested (.getClip clipId))
  | none => finish s (exportOut hash s.settings now 200 job)

/-- `lookup_export`, until it asks. -/
def lookupExport (s : Service) (now : ℤ) (owner eventId : String) (before after : ℕ)
    (reference : Except Raise EventReference) : Next :=
  match reference with
  | .error error => finish s (.raised error)
  | .ok _ =>
    match matchingExports hash s.settings s.db owner eventId before after with
    | [] => finish s .noExport
    | job :: _ =>
      match exportContext hash s.settings job with
      | .error error => finish s (.raised (.media error))
      | .ok _ => readJob hash s now job

/-- `read_export`, until it asks. -/
def readExport (s : Service) (now : ℤ) (owner eventId requestId : String) : Next :=
  match boundExport hash s.db owner requestId with
  | none => finish s (.raised exportNotFound)
  | some job =>
    if job.category ≠ .eventExport then finish s (.raised exportNotFound)
    else
      match exportContext hash s.settings job with
      | .error error => finish s (.raised (.media error))
      | .ok context =>
        if context.owner ≠ owner ∨ context.eventId ≠ eventId then finish s (.raised exportNotFound)
        else readJob hash s now job

/-! ## Steps -/

/-- `run_once`, its sweep; `uuid` is the name of the session if it is new, and the sweep may fail to
be stored. -/
def sweep (s : Service) (now : ℤ) (uuid : String) (stored : Bool) : Service :=
  if s.settings.v2EventClipsEnabled then
    { s with
      token := some (s.token.getD uuid)
      db :=
        if stored then queueRecentEvents hash s.settings (s.token.getD uuid) now s.db else s.db }
  else { s with token := none }

/-- What can happen. -/
inductive Op
  | configure (settings : Settings)
  | restart
  /-- The call that holds the lock ends with an exception. -/
  | abort
  | transition (row : EdgeV2Transition)
  | alert (alert : AlertLog) (link : Option EdgeV2AlertLink)
  /-- An event is logged, and its job with it. -/
  | enqueue (now : ℤ) (event : LoggedEvent)
  | sweep (now : ℤ) (uuid : String) (stored : Bool)
  | process (now : ℤ) (jobId : ℕ)
  | requestClip (now : ℤ) (eventId : String) (useEventTime : Bool) (event : Option LoggedEvent)
  | getClip (clipId : String)
  | getRecording (clipId : String)
  | deleteClip (clipId : String)
  | requestExport (now : ℤ) (request : ExportRequest) (reference : Except Raise EventReference)
  | lookupExport (now : ℤ) (owner eventId : String) (before after : ℕ)
      (reference : Except Raise EventReference)
  | readExport (now : ℤ) (owner eventId requestId : String)
  /-- The media service answers. -/
  | answer (now : ℤ) (answer : RemoteAnswer)

/-- An operation that takes the lock. -/
def locked (s : Service) (next : Next) : Next := if s.work = .idle then next else none

/-- `get_recording`, until it asks. -/
def getRecording (s : Service) (clipId : String) : Next :=
  match s.db.jobOfClip? clipId with
  | none => finish s .silent
  | some job =>
    if job.category = .eventExport then finish s .silent
    else some ({ s with work := .refreshing job.id clipId .recording },
      .requested (.getClip clipId))

def step (s : Service) : Op → Next
  | .configure settings => some ({ s with settings := settings }, .silent)
  | .restart => some ({ s with token := none, work := .idle }, .silent)
  | .abort => if s.work = .idle then none else finish s (.raised .crash)
  | .transition row =>
    if s.db.transitions.any (·.id = row.id) then none
    else some ({ s with db := { s.db with transitions := s.db.transitions ++ [row] } }, .silent)
  | .alert alert link =>
    some ({ s with db :=
      { s.db with alerts := s.db.alerts ++ [alert], links := s.db.links ++ link.toList } }, .silent)
  | .enqueue now event =>
    some ({ s with db := (enqueueEventClip hash s.settings now s.db event.eventId event.pitId
      event.category event.occurredAt false).1 }, .silent)
  | .sweep now uuid stored => locked s <| some (sweep hash s now uuid stored, .silent)
  | .process now jobId => locked s <| startProcess hash s now jobId .worker
  | .requestClip now eventId useEventTime event =>
    if event.all (·.eventId = eventId) then
      locked s <| requestClip hash s now eventId useEventTime event
    else none
  | .getClip clipId => locked s <|
      some ({ s with work := .reading clipId }, .requested (.getClip clipId))
  | .getRecording clipId => locked s <| getRecording s clipId
  | .deleteClip clipId => locked s <|
      some ({ s with work := .deleting clipId }, .requested (.deleteClip clipId))
  | .requestExport now request reference => locked s <| requestExport hash s now request reference
  | .lookupExport now owner eventId before after reference =>
    locked s <| lookupExport hash s now owner eventId before after reference
  | .readExport now owner eventId requestId =>
    locked s <| readExport hash s now owner eventId requestId
  | .answer now answer =>
    match s.work with
    | .idle => none
    | .processing jobId dispatch caller => endProcess hash s now jobId dispatch caller answer
    | .refreshing jobId clipId reader => endRefresh hash s now jobId clipId reader answer
    | .reading clipId => endRead hash s now clipId answer
    | .deleting clipId => endDelete s now clipId answer

abbrev ServiceStep := Entry Service Op Out

end

end ScrapMonitoring.Media
