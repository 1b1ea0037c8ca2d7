import ScrapMonitoring.Foundations.Sorted
import ScrapMonitoring.Replay.Daily
import Mathlib.Data.Prod.Lex
import Mathlib.Algebra.Order.Field.Rat

/-!
# Resolving an event's window into parts of the archive

`resolveEventReplay` cuts the window of an event into days and each day into parts that can be
played and intervals that are unavailable, for one of the reasons that the metadata of the day give.
The parts are then put in order and on one playback timeline.
-/

namespace ScrapMonitoring.Replay

/-! ## Intervals -/

/-- What the intervals, sorted, leave of `[cursor, stop)`. -/
def remainingFrom (start stop : ℤ) : ℤ → List (ℤ × ℤ) → List (ℤ × ℤ)
  | cursor, [] => if cursor < stop then [(cursor, stop)] else []
  | cursor, interval :: intervals =>
    let left := max interval.1 start
    let right := min interval.2 stop
    (if cursor < left then [(cursor, left)] else []) ++
      remainingFrom start stop (max cursor right) intervals

def remaining (start stop : ℤ) (intervals : List (ℤ × ℤ)) : List (ℤ × ℤ) :=
  remainingFrom start stop start (sortedBy toLex intervals)

/-- The seconds of the intervals, sorted, after the end of those before. -/
def durationFrom : Option ℤ → List (ℤ × ℤ) → ℚ
  | _, [] => 0
  | previous, (left, right) :: intervals =>
    let left := (previous.map (max left)).getD left
    (if left < right then totalSeconds (right - left) else 0) +
      durationFrom (some ((previous.map fun p => max p right).getD right)) intervals

def duration (intervals : List (ℤ × ℤ)) : ℚ := durationFrom none (sortedBy toLex intervals)

/-! ## Events and replays -/

inductive WindowState
  | closed | opened | unknown | point
  deriving DecidableEq

inductive ReplayState
  | available | partly | processing | unavailable
  deriving DecidableEq

/-- The summary of a list; it has no state while the archive is not known. -/
structure EventPlaybackSummary where
  state : Option ReplayState
  playbackSeconds : Option ℚ := none
  reasonCodes : List String
  deriving DecidableEq

structure EventRecording where
  eventId : String
  windowState : WindowState
  windowFrom : ℤ
  windowTo : Option ℤ
  reasonCodes : List String := []
  playback : Option EventPlaybackSummary := none

inductive Mapping
  | linear | pointTimestamp
  deriving DecidableEq

structure ReplayPart where
  recordingId : String
  recordingDate : ℤ
  playbackPath : String
  fromAt : ℤ
  toAt : ℤ
  startSeconds : ℚ
  endSeconds : ℚ
  relativeStartSeconds : ℚ := 0
  relativeEndSeconds : ℚ := 0
  mapping : Mapping := .linear

inductive UnavailableKind
  | gap | unconfirmed | future | missing | expired
  deriving DecidableEq

structure UnavailableInterval where
  fromAt : ℤ
  toAt : ℤ
  kind : UnavailableKind
  reasonCode : String

structure EventRecordingReplay where
  event : EventRecording
  state : ReplayState := .unavailable
  asOf : ℤ
  effectiveTo : Option ℤ := none
  requestedSeconds : Option ℚ := none
  coveredSeconds : ℚ := 0
  playbackSeconds : ℚ := 0
  parts : List ReplayPart := []
  unavailableIntervals : List UnavailableInterval := []
  reasonCodes : List String := []

/-! ## A day -/

/-- What a piece of the window adds to the replay, and what of it is covered. -/
structure DayReplay where
  parts : List ReplayPart := []
  unavailable : List UnavailableInterval := []
  reasonCodes : List String := []
  covered : List (ℤ × ℤ) := []

def DayReplay.append (r s : DayReplay) : DayReplay :=
  ⟨r.parts ++ s.parts, r.unavailable ++ s.unavailable, r.reasonCodes ++ s.reasonCodes,
    r.covered ++ s.covered⟩

def missing (left right : ℤ) (kind : UnavailableKind) (reason : String) :
    List UnavailableInterval :=
  if left ≤ right then [⟨left, right, kind, reason⟩] else []

/-- A gap within the piece; one without length counts at its own time. -/
def clipGap (start confirmed : ℤ) (gap : DailyGap) : Option (ℤ × ℤ) :=
  let left := max start gap.startAt
  let right := min confirmed gap.endAt
  if left < right ∨ left = right ∧ (start ≤ gap.startAt ∧ gap.startAt < confirmed) ∧
      gap.startAt = gap.endAt then
    some (left, right)
  else none

/-- What an available interval adds. -/
structure IntervalReplay where
  part : Option ReplayPart := none
  reasonCode : Option String := none
  covered : Option (ℤ × ℤ) := none

def resolveInterval (day : DailyRecording) (gaps : List (ℤ × ℤ)) (start confirmed availableTo : ℤ)
    (interval : DailyAvailableInterval) : IntervalReplay :=
  let part : ReplayPart :=
    { recordingId := day.recordingId
      recordingDate := day.recordingDate
      playbackPath := day.playbackPath.getD ""
      fromAt := interval.startAt
      toAt := interval.startAt
      startSeconds := interval.playbackStartSeconds
      endSeconds := interval.playbackEndSeconds
      mapping := .pointTimestamp }
  if interval.startAt = interval.endAt then
    if (start ≤ interval.startAt ∧ interval.startAt < confirmed) ∧
        interval.startAt ≤ availableTo then
      { part := some part }
    else {}
  else
    let left := max start interval.startAt
    let right := min availableTo interval.endAt
    if right ≤ left then {}
    else if ∃ gap ∈ gaps, gap.1 < right ∧ left < gap.2 then
      { reasonCode := some "COVERAGE_METADATA_CONFLICT" }
    else
      let wallSeconds := totalSeconds (interval.endAt - interval.startAt)
      let playbackSeconds := interval.playbackEndSeconds - interval.playbackStartSeconds
      let begin := interval.playbackStartSeconds +
        playbackSeconds * totalSeconds (left - interval.startAt) / wallSeconds
      let finish := interval.playbackStartSeconds +
        playbackSeconds * totalSeconds (right - interval.startAt) / wallSeconds
      if finish ≤ begin then { reasonCode := some "PLAYBACK_MAPPING_PRECISION" }
      else
        { part := some { part with
            fromAt := left, toAt := right, startSeconds := begin, endSeconds := finish,
            mapping := .linear }
          covered := some (left, right) }

/-- A piece of the window that is over, from the metadata of its day. -/
def resolveRecording (day : DailyRecording) (start confirmed : ℤ) : DayReplay :=
  let gaps := day.gaps.filterMap (clipGap start confirmed)
  let availableTo :=
    min confirmed (min day.coverageAsOfAt (day.playableUntilAt.getD day.windowStartAt))
  let playable : Bool :=
    day.playbackState = .ready ∧ day.playbackPath.isSome ∧ day.playableUntilAt.isSome
  let found :=
    if playable then
      day.availableIntervals.map (resolveInterval day gaps start confirmed availableTo)
    else []
  let covered := found.filterMap IntervalReplay.covered
  let reason (left : ℤ) : String :=
    if day.coverageAsOfAt ≤ left then "COVERAGE_PENDING"
    else if !playable then "PLAYBACK_NOT_READY"
    else "COVERAGE_UNCONFIRMED"
  { parts := found.filterMap IntervalReplay.part
    unavailable :=
      (day.gaps.flatMap fun gap => ((clipGap start confirmed gap).map fun span =>
        missing span.1 span.2 .gap gap.reasonCode).getD []) ++
      (remaining start confirmed (covered ++ gaps)).flatMap fun span =>
        missing span.1 span.2 .unconfirmed (reason span.1)
    reasonCodes := day.error.toList ++ found.filterMap IntervalReplay.reasonCode
    covered := covered }

/-- A piece of the window that lies in one day. -/
def resolveDay (day : Option DailyRecording) (start stop now : ℤ) : DayReplay :=
  let confirmed := min stop now
  let future : DayReplay :=
    { unavailable :=
        if now < stop then missing (max start now) stop .future "FUTURE_INTERVAL" else [] }
  if confirmed ≤ start then future
  else future.append
    (match day with
    | none =>
      { unavailable := missing start confirmed .missing "DAILY_RECORDING_NOT_FOUND" }
    | some day =>
      if (day.status = .deleted ∨ day.status = .expired) ∨ day.expiresAt.any (· ≤ now) then
        { unavailable := missing start confirmed .expired "DAILY_RECORDING_EXPIRED" }
      else resolveRecording day start confirmed)

/-! ## The window -/

def maxParts : ℕ := 2000

/-- The days of the window from `current` on; `none` is a replay of too many parts. -/
def resolveDays (dayAt : ℤ → Option DailyRecording) (stop now : ℤ) :
    ℕ → ℤ → DayReplay → Option DayReplay
  | 0, _, result => some result
  | fuel + 1, current, result =>
    if current < stop then
      let date := kstDate current
      let next := min stop (midnight (date + 1))
      let result := result.append (resolveDay (dayAt date) current next now)
      if maxParts < result.parts.length + result.unavailable.length then none
      else resolveDays dayAt stop now fuel next result
    else some result

/-- `{day.recording_date: day for day in days}`: of two recordings of one date the last counts. -/
def byDate (days : List DailyRecording) (date : ℤ) : Option DailyRecording :=
  days.reverse.find? fun day => day.recordingDate = date

/-- The days of the window, a loop for each of its dates. -/
def resolveWindow (days : List DailyRecording) (start stop now : ℤ) : Option DayReplay :=
  resolveDays (byDate days) stop now (kstDate stop - kstDate start + 1).toNat start {}

/-- The parts on one timeline from `time`, and where it ends. -/
def timeline : ℚ → List ReplayPart → List ReplayPart × ℚ
  | time, [] => ([], time)
  | time, part :: parts =>
    let next := time + (part.endSeconds - part.startSeconds)
    let rest := timeline next parts
    ({ part with relativeStartSeconds := time, relativeEndSeconds := next } :: rest.1, rest.2)

/-- Whether footage may still come. -/
def UnavailableInterval.pending (interval : UnavailableInterval) : Bool :=
  interval.kind = .future ∨ interval.reasonCode ∈ ["COVERAGE_PENDING", "PLAYBACK_NOT_READY"]

def resolveEventReplay (event : EventRecording) (now : ℤ) (days : List DailyRecording) :
    EventRecordingReplay :=
  let result : EventRecordingReplay := { event := event, asOf := now }
  if event.windowState = .unknown then { result with reasonCodes := event.reasonCodes }
  else
    let stop := event.windowTo.getD now
    let start := event.windowFrom
    let result := { result with
      effectiveTo := some stop, requestedSeconds := some (totalSeconds (stop - start)) }
    if stop ≤ start then { result with reasonCodes := ["EVENT_WINDOW_EMPTY"] }
    else
      match resolveWindow days start stop now with
      | none => { result with reasonCodes := ["EVENT_REPLAY_SEGMENT_LIMIT"] }
      | some found =>
        let parts := timeline 0 (sortedBy (fun part : ReplayPart =>
          toLex (part.fromAt, toLex (part.recordingDate, part.startSeconds))) found.parts)
        let complete := remaining start stop found.covered = [] ∧ found.unavailable = []
        { result with
          coveredSeconds := duration found.covered
          playbackSeconds := parts.2
          parts := parts.1
          unavailableIntervals := found.unavailable
          state :=
            if complete ∧ event.windowState ≠ .opened then .available
            else if parts.1 ≠ [] then .partly
            else if found.unavailable ≠ [] ∧ found.unavailable.all UnavailableInterval.pending then
              .processing
            else .unavailable
          reasonCodes :=
            (found.reasonCodes ++
              (if event.windowState = .opened then ["COLLECTION_IN_PROGRESS"] else []) ++
              found.unavailable.map UnavailableInterval.reasonCode).eraseDups }

end ScrapMonitoring.Replay
