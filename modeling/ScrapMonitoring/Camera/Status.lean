import ScrapMonitoring.Foundations.Time
import Mathlib.Order.MinMax

/-!
# The status of the camera

`CameraStatusService.get` asks the media service for its evidence of the camera and keeps the answer
for a while. The service has two clocks: a wall clock, which may be set to any time, and a steady
one, which never goes back. Instants of the wall clock are microseconds since the epoch, readings of
the steady clock are seconds. Evidence comes with a lease, from its assessment until it is no longer
valid; `interpret` turns this into a deadline on the steady clock.

Calls of `get` may overlap, but one at a time fetches: it holds the lock from the reading with which
it starts (`enter`) until it has the answer (`finish`) or is timed out (`giveUp`).
-/

namespace ScrapMonitoring.Camera

/-! ## Evidence -/

inductive ObservedStatus
  | healthy | interrupted | unknown
  deriving DecidableEq

inductive ConnectionState
  | connected | disconnected | unknown
  deriving DecidableEq

inductive ReasonCode
  | frameReceived | noObservation | awaitingFrame | frameStale | frameTimeout | connectionClosed
  | connectionError | cancelled | textFrameRejected | invalidJpeg | frameTooLarge
  deriving DecidableEq

def ReasonCode.text : ReasonCode → String
  | .frameReceived => "FRAME_RECEIVED"
  | .noObservation => "NO_OBSERVATION"
  | .awaitingFrame => "AWAITING_FRAME"
  | .frameStale => "FRAME_STALE"
  | .frameTimeout => "FRAME_TIMEOUT"
  | .connectionClosed => "CONNECTION_CLOSED"
  | .connectionError => "CONNECTION_ERROR"
  | .cancelled => "CANCELLED"
  | .textFrameRejected => "TEXT_FRAME_REJECTED"
  | .invalidJpeg => "INVALID_JPEG"
  | .frameTooLarge => "FRAME_TOO_LARGE"

/-- What the status, the connection, the reason and the last frame say fits together. -/
def consistent (connection : ConnectionState) (reason : ReasonCode) (lastFrame : Bool) :
    ObservedStatus → Bool
  | .healthy => connection = .connected ∧ reason = .frameReceived ∧ lastFrame
  | .unknown => !lastFrame ∧
      (connection = .unknown ∧ reason = .noObservation ∨
        connection = .connected ∧ reason = .awaitingFrame)
  | .interrupted =>
    if reason = .frameStale ∨ reason = .frameTimeout then
      connection = .connected ∧ lastFrame = decide (reason = .frameStale)
    else
      connection = .disconnected ∧ reason ∉ [.frameReceived, .noObservation, .awaitingFrame]

/-- An answer of the media service that has been validated. -/
structure CameraObservation where
  cameraId : String
  status : ObservedStatus
  connectionState : ConnectionState
  lastFrameReceivedAt : Option ℤ
  assessedAt : ℤ
  validUntilAt : ℤ
  reasonCode : ReasonCode
  freshnessSeconds : ℚ
  freshness_range : 0 < freshnessSeconds ∧ freshnessSeconds ≤ 5
  lease_range : 0 < totalSeconds (validUntilAt - assessedAt) ∧
    totalSeconds (validUntilAt - assessedAt) ≤ freshnessSeconds
  isConsistent : consistent connectionState reasonCode lastFrameReceivedAt.isSome status = true

/-- For how long the evidence holds from its assessment. -/
def CameraObservation.lease (obs : CameraObservation) : ℚ :=
  totalSeconds (obs.validUntilAt - obs.assessedAt)

/-! ## Statuses -/

inductive CameraState
  | healthy | interrupted | unknown | unsupported
  deriving DecidableEq

def ObservedStatus.state : ObservedStatus → CameraState
  | .healthy => .healthy
  | .interrupted => .interrupted
  | .unknown => .unknown

inductive StatusBasis
  | acceptedJpegReceipt
  deriving DecidableEq

structure CameraStatusV2 where
  pitId : String
  cameraId : Option String
  state : CameraState
  connectionState : ConnectionState := .unknown
  statusBasis : Option StatusBasis := none
  computedAt : ℤ
  assessedAt : Option ℤ := none
  validUntilAt : Option ℤ := none
  validForSeconds : Option ℚ := none
  lastFrameReceivedAt : Option ℤ := none
  reasonCodes : List String
  deriving DecidableEq

/-- What a status says of the camera, rather than that nothing is known of it. -/
def CameraStatusV2.Live (status : CameraStatusV2) : Prop :=
  status.state = .healthy ∨ status.state = .interrupted

instance (status : CameraStatusV2) : Decidable status.Live :=
  inferInstanceAs (Decidable (_ ∨ _))

/-- The pit, the address of its media service and the camera. -/
structure Binding where
  pit : String
  base : String
  camera : String
  deriving DecidableEq

def unknown (pit : String) (camera : Option String) (reason : String) (wall : ℤ) :
    CameraStatusV2 where
  pitId := pit
  cameraId := camera
  state := .unknown
  computedAt := wall
  reasonCodes := [reason]

structure CachedStatus where
  binding : Binding
  value : CameraStatusV2
  refreshAt : ℚ
  deadline : ℚ
  receivedAt : ℤ

/-- The newest evidence that has been accepted, and its deadline. -/
structure LastEvidence where
  binding : Binding
  assessedAt : ℤ
  deadline : ℚ

/-- The cached status at the given readings, if it may still be used. -/
def cached (binding : Binding) (saved : Option CachedStatus) (wall : ℤ) (steady : ℚ) :
    Option CameraStatusV2 :=
  match saved with
  | none => none
  | some saved =>
    if saved.binding ≠ binding ∨ saved.refreshAt ≤ steady ∨ wall < saved.receivedAt then none
    else
      match saved.value.validUntilAt with
      | none => some { saved.value with computedAt := wall, validForSeconds := none }
      | some validUntil =>
        if validUntil ≤ wall ∨ saved.deadline ≤ steady then none
        else some { saved.value with
          computedAt := wall
          validForSeconds :=
            some (max 0 (min (saved.deadline - steady) (totalSeconds (validUntil - wall)))) }

/-- The deadline of evidence by its lease: nothing of the lease that has passed since the request
started counts, and nothing after the end of it on the wall clock. -/
def leaseDeadline (obs : CameraObservation) (started : ℚ) (wall : ℤ) (steady : ℚ) : ℚ :=
  steady + min (totalSeconds (obs.validUntilAt - wall)) (obs.lease - (steady - started))

/-- A deadline that is no later than the one held for the same assessment. -/
def heldDeadline (last : Option LastEvidence) (assessedAt : ℤ) (deadline : ℚ) : ℚ :=
  match last with
  | some last => if assessedAt = last.assessedAt then min deadline last.deadline else deadline
  | none => deadline

/-- The status that evidence stands for, with its deadline, or the code of its rejection. -/
def interpret (binding : Binding) (last : Option LastEvidence) (obs : CameraObservation)
    (started : ℚ) (wall : ℤ) (steady : ℚ) : Except String (CameraStatusV2 × ℚ) :=
  if obs.cameraId ≠ binding.camera then .error "CAMERA_STATUS_IDENTITY_MISMATCH"
  else if wall + seconds 1 < obs.assessedAt ∨
      obs.lastFrameReceivedAt.any fun t => obs.assessedAt + seconds 1 < t then
    .error "CAMERA_STATUS_CLOCK_UNTRUSTED"
  else
    let last := last.filter fun last => last.binding = binding
    if last.any fun last => obs.assessedAt < last.assessedAt then
      .error "CAMERA_STATUS_CLOCK_UNTRUSTED"
    else
      let deadline := heldDeadline last obs.assessedAt (leaseDeadline obs started wall steady)
      if deadline ≤ steady then .error "CAMERA_STATUS_EXPIRED"
      else .ok
        ({ pitId := binding.pit
           cameraId := some binding.camera
           state := obs.status.state
           connectionState := obs.connectionState
           statusBasis := some .acceptedJpegReceipt
           computedAt := wall
           assessedAt := some obs.assessedAt
           validUntilAt := some (wall + ofSeconds (deadline - steady))
           validForSeconds := some (deadline - steady)
           lastFrameReceivedAt := obs.lastFrameReceivedAt
           reasonCodes := [obs.reasonCode.text] }, deadline)

/-! ## Calls -/

/-- What `observe` comes to. -/
inductive Reply
  | observed (obs : CameraObservation)
  | timeout
  | requestError
  | failed (code : String)
  | invalid

/-- The readings of the clocks from an answer to the end of the call, in their order. -/
structure Readings where
  interpretWall : ℤ
  interpretSteady : ℚ
  failedWall : ℤ
  failedSteady : ℚ
  refreshSteady : ℚ
  receivedWall : ℤ
  wall : ℤ
  steady : ℚ
  expiredWall : ℤ

/-- The steady clock does not go back. -/
structure Readings.Steady (r : Readings) (started : ℚ) : Prop where
  interpreted : started ≤ r.interpretSteady
  failed : r.interpretSteady ≤ r.failedSteady
  refreshed : r.failedSteady ≤ r.refreshSteady
  returned : r.refreshSteady ≤ r.steady

instance (r : Readings) (started : ℚ) : Decidable (r.Steady started) :=
  decidable_of_iff (started ≤ r.interpretSteady ∧ r.interpretSteady ≤ r.failedSteady ∧
    r.failedSteady ≤ r.refreshSteady ∧ r.refreshSteady ≤ r.steady)
    ⟨fun ⟨h₁, h₂, h₃, h₄⟩ => ⟨h₁, h₂, h₃, h₄⟩, fun ⟨h₁, h₂, h₃, h₄⟩ => ⟨h₁, h₂, h₃, h₄⟩⟩

/-- The service, the reading with which the fetch in progress has started, and the last reading of
the steady clock. -/
structure Service where
  cached : Option CachedStatus
  last : Option LastEvidence
  fetching : Option ℚ
  now : ℚ

def refreshSeconds : ℚ := 2

/-- What a reply comes to: a status, its deadline, and the newest evidence. -/
def settle (binding : Binding) (last : Option LastEvidence) (started : ℚ) (r : Readings) :
    Reply → CameraStatusV2 × ℚ × Option LastEvidence
  | .observed obs =>
    match interpret binding last obs started r.interpretWall r.interpretSteady with
    | .ok (value, deadline) => (value, deadline, some ⟨binding, obs.assessedAt, deadline⟩)
    | .error code => (failure code, r.failedSteady, last)
  | .timeout => (failure "CAMERA_STATUS_TIMEOUT", r.failedSteady, last)
  | .requestError => (failure "CAMERA_STATUS_UNAVAILABLE", r.failedSteady, last)
  | .failed code => (failure code, r.failedSteady, last)
  | .invalid => (failure "CAMERA_STATUS_BAD_RESPONSE", r.failedSteady, last)
where
  failure (code : String) : CameraStatusV2 :=
    unknown binding.pit (some binding.camera) code r.failedWall

/-- The statements of `get` between which other calls may act. -/
inductive Op
  /-- A look at the cache without the lock. -/
  | look (wall : ℤ) (steady : ℚ)
  /-- A look at the cache with the lock, and the start of a fetch where nothing is found. -/
  | enter (wall : ℤ) (steady started : ℚ)
  /-- The answer to the fetch, and the end of the call. -/
  | finish (reply : Reply) (readings : Readings)
  /-- The call that fetches is timed out. -/
  | giveUp (wall : ℤ)
  /-- A call that waits for the lock is timed out. -/
  | busy (wall : ℤ)

/-- A status, with the readings of the clocks at which it has been returned. -/
structure Returned where
  status : CameraStatusV2
  wall : ℤ
  steady : ℚ

def step (binding : Binding) (s : Service) : Op → Option (Service × Option Returned)
  | .look wall steady =>
    if s.now ≤ steady then
      some ({ s with now := steady },
        (cached binding s.cached wall steady).map fun status => ⟨status, wall, steady⟩)
    else none
  | .enter wall steady started =>
    if s.fetching = none ∧ s.now ≤ steady ∧ steady ≤ started then
      match cached binding s.cached wall steady with
      | some status => some ({ s with now := steady }, some ⟨status, wall, steady⟩)
      | none => some ({ s with now := started, fetching := some started }, none)
    else none
  | .finish reply r =>
    match s.fetching with
    | none => none
    | some started =>
      if s.now ≤ r.interpretSteady ∧ r.Steady started then
        let (value, deadline, last) := settle binding s.last started r reply
        let refresh :=
          if value.validUntilAt.isSome then min (r.refreshSteady + refreshSeconds) deadline
          else r.refreshSteady + refreshSeconds
        let saved : CachedStatus := ⟨binding, value, refresh, deadline, r.receivedWall⟩
        let status := (cached binding (some saved) r.wall r.steady).getD
          (unknown binding.pit (some binding.camera) "CAMERA_STATUS_EXPIRED" r.expiredWall)
        some (⟨some saved, last, none, r.steady⟩, some ⟨status, r.wall, r.steady⟩)
      else none
  | .giveUp wall =>
    some ({ s with fetching := none },
      some ⟨unknown binding.pit (some binding.camera) "CAMERA_STATUS_BUSY" wall, wall, s.now⟩)
  | .busy wall =>
    some (s,
      some ⟨unknown binding.pit (some binding.camera) "CAMERA_STATUS_BUSY" wall, wall, s.now⟩)

/-- A service that has not been asked. -/
def Service.initial (now : ℚ) : Service := ⟨none, none, none, now⟩

/-! ## Delivery -/

/-- A status that has been read for a stream. -/
structure CameraStreamRead where
  pitId : String
  binding : Option Binding
  status : CameraStatusV2
  receivedAt : ℚ

/-- The status that a stream hands out at the given readings; `binding` is that of the pit by
then. -/
def deliveryStatus (binding : Option Binding) (reading : CameraStreamRead) (wall : ℤ) (steady : ℚ) :
    CameraStatusV2 :=
  let status := reading.status
  if binding ≠ reading.binding ∨ status.pitId ≠ reading.pitId then
    unknown reading.pitId none "CAMERA_STATUS_SOURCE_CHANGED" wall
  else if wall < status.computedAt ∨ steady < reading.receivedAt then
    unknown reading.pitId status.cameraId "CAMERA_STATUS_CLOCK_UNTRUSTED" wall
  else
    match status.validUntilAt, status.validForSeconds with
    | some validUntil, some validFor =>
      let remaining :=
        min (validFor - (steady - reading.receivedAt)) (totalSeconds (validUntil - wall))
      if remaining ≤ 0 then unknown reading.pitId status.cameraId "CAMERA_STATUS_EXPIRED" wall
      else { status with computedAt := wall, validForSeconds := some remaining }
    | _, _ =>
      if status.Live then unknown reading.pitId status.cameraId "CAMERA_STATUS_EXPIRED" wall
      else { status with computedAt := wall }

end ScrapMonitoring.Camera
