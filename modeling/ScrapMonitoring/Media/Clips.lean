import ScrapMonitoring.Foundations.Calendar

/-!
# Clips of the media service

A receipt tells that the media service has accepted a request for a clip, a detail tells all that it
knows of the clip. Both are read from JSON and validated; what cannot be validated is an error of
the media service. `RemoteRequest` and `RemoteAnswer` are what is sent to it and what comes back.
-/

namespace ScrapMonitoring.Media

/-! ## Event times -/

/-- `event_time_utc`: the instant, to the millisecond. -/
def eventTimeUtc (t : ℤ) : ℤ := t / 1000 * 1000

/-- `event_time_text`. -/
def eventTimeText (t : ℤ) : String :=
  let date := civil (t / dayLength)
  let millis := ((t % dayLength) / 1000).toNat
  let s := millis / 1000
  String.ofList <| padDigits 4 date.year.toNat ++ '-' :: padDigits 2 date.month.toNat ++
    '-' :: padDigits 2 date.day.toNat ++ 'T' :: padDigits 2 (s / 3600) ++
      ':' :: padDigits 2 (s / 60 % 60) ++ ':' :: padDigits 2 (s % 60) ++
        '.' :: padDigits 3 (millis % 1000) ++ ['Z']

/-! ## Receipts and details -/

inductive ClipStatus
  | collecting
  | processing
  | ready
  | failed
  | deleted
  | expired
  deriving DecidableEq

inductive RequestMode
  | timeRange
  | eventAt
  | acceptedAt
  deriving DecidableEq

/-- `ClipReceipt`. -/
structure ClipReceipt where
  clipId : String
  eventId : String
  cameraId : String
  status : ClipStatus
  acceptedAt : ℤ
  requestedStartAt : ℤ
  requestedEndAt : ℤ
  eventAt : Option ℤ
  requestMode : Option RequestMode
  attemptCount : Option ℕ
  window : requestedStartAt < requestedEndAt
  event_in_window : ∀ t ∈ eventAt, requestedStartAt ≤ t ∧ t ≤ requestedEndAt
  attempt_pos : ∀ n ∈ attemptCount, 1 ≤ n
  deriving DecidableEq

inductive ClipCoverage
  | complete
  | incomplete
  | uncovered
  deriving DecidableEq

inductive ExtractionMode
  | streamCopy
  deriving DecidableEq

structure ClipGap where
  startAt : ℤ
  endAt : ℤ
  reasonCode : Option String
  deriving DecidableEq

structure ClipError where
  code : String
  message : String
  deriving DecidableEq

/-- `ClipDetail`. -/
structure ClipDetail extends ClipReceipt where
  coverage : Option ClipCoverage
  actualStartAt : Option ℤ
  actualEndAt : Option ℤ
  gaps : List ClipGap
  completedAt : Option ℤ
  expiresAt : Option ℤ
  contentPath : Option String
  error : Option ClipError
  availableIntervals : List ClipGap
  extractionMode : Option ExtractionMode
  sizeBytes : Option ℕ
  range_gaps : requestMode = some .timeRange → ∀ gap ∈ gaps, gap.startAt ≠ gap.endAt
  content : ∀ path ∈ contentPath, path = "/api/v1/clips/" ++ clipId ++ "/content" ∧ status = .ready
  actual_interval : ∀ t ∈ actualStartAt, ∀ u ∈ actualEndAt, t ≤ u
  ready : status = .ready → contentPath.isSome ∧ completedAt.isSome ∧ expiresAt.isSome ∧
    actualStartAt.isSome ∧ actualEndAt.isSome ∧
      (coverage = some .complete ∨ coverage = some .incomplete)
  deriving DecidableEq

/-- What is known of a clip: a receipt, or all of it. -/
inductive ClipSnapshot
  | receipt (receipt : ClipReceipt)
  | detail (detail : ClipDetail)
  deriving DecidableEq

/-- The part that receipts and details have in common. -/
def ClipSnapshot.base : ClipSnapshot → ClipReceipt
  | .receipt r => r
  | .detail d => d.toClipReceipt

/-! ## Requests and answers -/

/-- `MediaServiceError`. -/
structure MediaServiceError where
  statusCode : ℕ
  code : String
  retryable : Bool
  deriving DecidableEq

structure ClipRequest where
  eventId : String
  cameraId : String
  eventAt : Option ℤ
  deriving DecidableEq

/-- `RangeClipRequest`. -/
structure RangeClipRequest where
  eventId : String
  cameraId : String
  startAt : ℤ
  endAt : ℤ
  retryFailed : Bool
  ordered : eventTimeUtc startAt < eventTimeUtc endAt ∧
    eventTimeUtc endAt - eventTimeUtc startAt ≤ seconds 3600
  deriving DecidableEq

/-- What is sent to the media service. -/
inductive RemoteRequest
  | createClip (request : ClipRequest)
  | createRangeClip (request : RangeClipRequest)
  | getClip (clipId : String)
  | listClips (cameraId eventId : String)
  | deleteClip (clipId : String)
  deriving DecidableEq

/-- What the media service answers, or that it does not, or not as it should. -/
inductive RemoteAnswer
  | failed (error : MediaServiceError)
  | accepted (statusCode : ℕ) (receipt : ClipReceipt)
  | found (detail : ClipDetail)
  | listed (items : List ClipDetail)
  | removed
  deriving DecidableEq

def identityMismatch : MediaServiceError := ⟨502, "MEDIA_IDENTITY_MISMATCH", false⟩

namespace MediaClient

/-- `create_clip` and `create_range_clip`, on what comes back; `none` is no answer to such a
request. -/
def createClip (eventId cameraId : String) :
    RemoteAnswer → Option (Except MediaServiceError (ℕ × ClipReceipt))
  | .failed error => some (.error error)
  | .accepted statusCode receipt =>
    if receipt.eventId ≠ eventId ∨ receipt.cameraId ≠ cameraId then some (.error identityMismatch)
    else some (.ok (statusCode, receipt))
  | _ => none

/-- `get_clip`. -/
def getClip (clipId : String) : RemoteAnswer → Option (Except MediaServiceError ClipDetail)
  | .failed error => some (.error error)
  | .found detail =>
    if detail.clipId ≠ clipId then some (.error identityMismatch) else some (.ok detail)
  | _ => none

/-- `list_clips`. -/
def listClips : RemoteAnswer → Option (Except MediaServiceError (List ClipDetail))
  | .failed error => some (.error error)
  | .listed items => some (.ok items)
  | _ => none

/-- `delete_clip`. -/
def deleteClip : RemoteAnswer → Option (Except MediaServiceError Unit)
  | .failed error => some (.error error)
  | .removed => some (.ok ())
  | _ => none

end MediaClient

end ScrapMonitoring.Media
