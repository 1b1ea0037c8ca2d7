import ScrapMonitoring.Media.Queue

/-!
# Processing a job

`process_job` counts an attempt, asks the media service for the clip of the job or for its state,
and stores what comes back. `dispatch` is what it asks for, `settleJob` what it stores.
-/

namespace ScrapMonitoring.Media

/-- What `process_job` asks the media service for. -/
inductive Dispatch
  | create (request : ClipRequest)
  | createRange (request : RangeClipRequest)
  | poll (clipId : String)
  /-- The clip of a request whose answer was lost, where a new request is blocked. -/
  | recover (cameraId eventId : String) (block : Block)
  deriving DecidableEq

def Dispatch.request : Dispatch → RemoteRequest
  | create request => .createClip request
  | createRange request => .createRangeClip request
  | poll clipId => .getClip clipId
  | recover cameraId eventId _ => .listClips cameraId eventId

/-- What the media service has answered. -/
def Dispatch.answered : Dispatch → RemoteAnswer →
    Option (Except MediaServiceError (ℕ × ClipSnapshot))
  | create request, answer => (MediaClient.createClip request.eventId request.cameraId answer).map
      fun result => result.map fun accepted => (accepted.1, .receipt accepted.2)
  | createRange request, answer =>
      (MediaClient.createClip request.eventId request.cameraId answer).map
        fun result => result.map fun accepted => (accepted.1, .receipt accepted.2)
  | poll clipId, answer => (MediaClient.getClip clipId answer).map
      fun result => result.map fun detail => (200, .detail detail)
  | recover _ _ block, answer => (MediaClient.listClips answer).map fun result =>
      match result with
      | .error error => .error error
      | .ok [] => .error block.error
      | .ok (detail :: _) => .ok (200, .detail detail)

section

variable (hash : Json → String) (settings : Settings)

/-- What `process_job` does before it asks. -/
def dispatch (now : ℤ) (job : MediaClipJob) : Except Raise Dispatch :=
  match requestedEventTime hash settings job with
  | .error error => .error (.media error)
  | .ok eventAt =>
    match rangeRequest hash settings job with
    | .error error => .error error
    | .ok extraction =>
      match extraction.filter fun extraction => job.clipId = none ∨ extraction.retryFailed with
      | some extraction => .ok (.createRange extraction)
      | none =>
        match job.clipId with
        | some clipId => .ok (.poll clipId)
        | none =>
          if job.category.automatic then
            match automaticRequestBlock hash settings job now with
            | some block =>
              if 1 < job.attempts ∧ block ≠ .sourceChanged then
                .ok (.recover job.cameraId job.eventId block)
              else .error (.media block.error)
            | none => .ok (.create ⟨job.eventId, job.cameraId, eventAt⟩)
          else .ok (.create ⟨job.eventId, job.cameraId, eventAt⟩)

/-- A failure is recorded: it is retried later, or the job is blocked. -/
def failJob (now : ℤ) (job : MediaClipJob) (error : MediaServiceError) : MediaClipJob :=
  if error.retryable then
    { job with
      errorCode := some error.code
      nextAttemptAt := some (now + seconds (min 30 (2 ^ min (job.attempts - 1) 5))) }
  else { job with errorCode := some error.code, nextAttemptAt := none, status := .blocked }

/-- The job with another export context. -/
def MediaClipJob.withExport (job : MediaClipJob) (context : ExportContext) : MediaClipJob :=
  { job with snapshot := some { job.keys with rangeExport := some context } }

/-- `export_context(job).model_copy(update={"retry_failed": ...})`, stored. -/
def setRetry (job : MediaClipJob) (retryFailed : Bool) : Except MediaServiceError MediaClipJob :=
  (exportContext hash settings job).map fun context =>
    job.withExport { context with retryFailed := retryFailed }

/-- What `process_job` does with the clip: the job as it is stored, after the error if there is
one. -/
def settleJob (now : ℤ) (job : MediaClipJob) (dispatch : Dispatch) (snapshot : ClipSnapshot) :
    MediaClipJob × Option MediaServiceError :=
  match applySnapshot hash settings now job snapshot with
  | .error error => (failJob now job error, some error)
  | .ok job' =>
    match dispatch with
    | .createRange extraction =>
      if extraction.retryFailed then
        match setRetry hash settings job' false with
        | .error error => (failJob now job' error, some error)
        | .ok job'' => (job'', none)
      else (job', none)
    | _ => (job', none)

end

/-- The next attempt. -/
def MediaClipJob.attempt (job : MediaClipJob) : MediaClipJob :=
  { job with attempts := job.attempts + 1 }

/-- The tables with the changed job, unless its clip is that of another job. -/
def Db.saveJob (db : Db) (job : MediaClipJob) : Option Db :=
  if db.jobs.any fun row => row.id ≠ job.id ∧ row.clipId ≠ none ∧ row.clipId = job.clipId then none
  else some (db.updateJob job)

end ScrapMonitoring.Media
