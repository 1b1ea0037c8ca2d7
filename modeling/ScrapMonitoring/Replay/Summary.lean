import ScrapMonitoring.Replay.Resolve

/-!
# Summaries of the playback of a page of events

`addPlaybackSummaries` gives every event of a page a summary of its replay. The dates of all events
are loaded once, each run of consecutive dates by one listing of the archive, and an event is
resolved from the intervals and gaps of its dates that can overlap it. The work is bounded: where a
limit, a timeout or a failure of the archive is met, the summaries concerned have no state.
-/

namespace ScrapMonitoring.Replay

def maxDates : ℕ := 7

def maxRequests : ℕ := 8

def maxIntervals : ℕ := 20000

def maxResolutionWork : ℕ := 200000

/-! ## Listing the archive -/

structure Params where
  fromDate : ℤ
  toDate : ℤ
  limit : ℕ := 100
  cursor : Option String := none

structure DailyPage where
  items : List DailyRecording
  nextCursor : Option String

/-- Of a failure of the media service only its code is read, one of the codes of the contract. -/
structure MediaServiceError where
  code : String
  code_ne : code ≠ ""

def badResponse : MediaServiceError := ⟨"MEDIA_BAD_RESPONSE", by decide⟩

/-- What a request to the media service comes to. -/
inductive Answer
  | page (page : DailyPage)
  | failed (error : MediaServiceError)
  | timedOut

/-- What ends a listing without a result. -/
inductive Interruption
  | media (error : MediaServiceError)
  | summaryLimit | timeout | tooManyDates

/-- One request, with what is counted of requests. -/
abbrev Fetch (σ : Type) := Params → σ → Except Interruption DailyPage × σ

/-- The recordings so far and those of a page; `none` if one is not what has been asked for. -/
def addItems (first last : ℤ) :
    List DailyRecording → List DailyRecording → Option (List DailyRecording)
  | items, [] => some items
  | items, item :: page =>
    if item.recordingId ∈ items.map DailyRecording.recordingId ∨
        item.recordingDate ∈ items.map DailyRecording.recordingDate ∨
        ¬(first ≤ item.recordingDate ∧ item.recordingDate ≤ last) then
      none
    else addItems first last (items ++ [item]) page

section Listing

variable {σ : Type} (fetch : Fetch σ)

/-- The pages from `cursor` on, of which there may be `fuel`. -/
def archivePages (first last : ℤ) : ℕ → Option String → List DailyRecording → List String → σ →
    Except Interruption (List DailyRecording) × σ
  | 0, _, _, _, s => (.error (.media badResponse), s)
  | fuel + 1, cursor, items, cursors, s =>
    match fetch { fromDate := first, toDate := last + 1, cursor := cursor } s with
    | (.error interruption, s) => (.error interruption, s)
    | (.ok page, s) =>
      match addItems first last items page.items with
      | none => (.error (.media badResponse), s)
      | some items =>
        match page.nextCursor with
        | none => (.ok items, s)
        | some cursor =>
          if cursor ∈ cursors then (.error (.media badResponse), s)
          else archivePages first last fuel (some cursor) items (cursor :: cursors) s

/-- The recordings of the dates of `[start, stop)` until now. -/
def archiveDays (start stop now : ℤ) (s : σ) : Except Interruption (List DailyRecording) × σ :=
  let stop := min stop now
  if stop ≤ start then (.ok [], s)
  else
    let first := kstDate start
    let last := kstDate (stop - 1)
    if maxDates < last - first + 1 then (.error .tooManyDates, s)
    else archivePages fetch first last 8 none [] [] s

end Listing

/-! ## Selecting dates -/

def unknown (event : EventRecording) (reason : String) : EventRecording :=
  { event with playback := some { state := none, reasonCodes := [reason] } }

/-- The dates of an event's window until now; `none` if they are too many. -/
def eventDates (event : EventRecording) (now : ℤ) : Option (List ℤ) :=
  let stop := min (event.windowTo.getD now) now
  if event.windowState = .unknown ∨ stop ≤ event.windowFrom then some []
  else
    let first := kstDate event.windowFrom
    let last := kstDate (stop - 1)
    let count := (last - first + 1).toNat
    if maxDates < count then none else some ((List.range count).map fun n : ℕ => first + n)

/-- The dates of all events, and those of each event by its id. -/
structure Selection where
  selected : List ℤ := []
  windows : String → List ℤ := fun _ => []

/-- Events get their dates as long as the dates of all are not too many. -/
def selectDates (now : ℤ) : List EventRecording → Selection → List EventRecording × Selection
  | [], selection => ([], selection)
  | event :: events, selection =>
    let dates := (eventDates event now).filter fun dates =>
      (dates ∪ selection.selected).length ≤ maxDates
    match dates with
    | none =>
      let rest := selectDates now events selection
      (unknown event "PLAYBACK_SUMMARY_DATE_LIMIT" :: rest.1, rest.2)
    | some dates =>
      let rest := selectDates now events
        { selected := dates ∪ selection.selected
          windows := Function.update selection.windows event.eventId dates }
      (event :: rest.1, rest.2)

/-- Consecutive dates are in one group. -/
def addDate (groups : List (List ℤ)) (day : ℤ) : List (List ℤ) :=
  match groups.getLast? with
  | none => [[day]]
  | some group =>
    if group.getLast? = some (day - 1) then groups.dropLast ++ [group ++ [day]]
    else groups ++ [[day]]

def dateGroups (selected : List ℤ) : List (List ℤ) := (sortedBy id selected).foldl addDate []

/-! ## Loading dates -/

/-- What the summaries have used of their limits. -/
structure Usage where
  requests : ℕ := 0
  intervals : ℕ := 0

def DailyRecording.size (day : DailyRecording) : ℕ :=
  day.availableIntervals.length + day.gaps.length

/-- A request within the limits; `service` has the answer to each request. -/
def fetch (service : ℕ → Params → Answer) : Fetch Usage := fun params usage =>
  if maxRequests ≤ usage.requests then (.error .summaryLimit, usage)
  else
    let requested := { usage with requests := usage.requests + 1 }
    match service usage.requests params with
    | .failed error => (.error (.media error), requested)
    | .timedOut => (.error .timeout, requested)
    | .page page =>
      let intervals := requested.intervals + (page.items.map DailyRecording.size).sum
      let counted := { requested with intervals := intervals }
      if maxIntervals < intervals then (.error .summaryLimit, counted) else (.ok page, counted)

structure Loading where
  metadata : ℤ → Option DailyRecording := fun _ => none
  errors : ℤ → Option String := fun _ => none
  confirmed : List ℤ := []

/-- The recordings of a group, of which the others are confirmed to be missing. -/
def Loading.confirm (loading : Loading) (group : List ℤ) (days : List DailyRecording) : Loading :=
  { loading with
    metadata := fun date => (byDate days date).or (loading.metadata date)
    confirmed := loading.confirmed ++ group }

def Loading.fail (loading : Loading) (group : List ℤ) (error : MediaServiceError) : Loading :=
  { loading with
    errors := fun date => if date ∈ group then some error.code else loading.errors date }

/-- Of the dates that have not been loaded absence is not confirmed. -/
def Loading.interrupt (loading : Loading) (selected : List ℤ) (reason : String) : Loading :=
  { loading with
    errors := fun date =>
      if date ∈ selected ∧ date ∉ loading.confirmed ∧ loading.errors date = none then some reason
      else loading.errors date }

/-- The groups one after another, until something other than a failed listing stops this. -/
def loadGroups {σ : Type} (fetch : Fetch σ) (now : ℤ) :
    List (List ℤ) → Loading → σ → Loading × Option Interruption
  | [], loading, _ => (loading, none)
  | group :: groups, loading, s =>
    let start := midnight (group.headD 0)
    let stop := midnight (group.getLastD 0 + 1)
    match archiveDays fetch start stop now s with
    | (.ok days, s) => loadGroups fetch now groups (loading.confirm group days) s
    | (.error interruption, s) =>
      match interruption with
      | .media error => loadGroups fetch now groups (loading.fail group error) s
      | interruption => (loading, some interruption)

/-- The selected dates; an exception that is not caught is `none`. -/
def load (service : ℕ → Params → Answer) (selected : List ℤ) (now : ℤ) : Option Loading :=
  let loaded := loadGroups (fetch service) now (dateGroups selected) {} {}
  match loaded.2 with
  | none => some loaded.1
  | some .timeout => some (loaded.1.interrupt selected "PLAYBACK_SUMMARY_TIMEOUT")
  | some .summaryLimit => some (loaded.1.interrupt selected "PLAYBACK_SUMMARY_LIMIT")
  | some (.media _) | some .tooManyDates => none

/-! ## Summarizing -/

/-- A day with the intervals and gaps that can overlap `[start, stop)`. -/
def overlapping (start stop : ℤ) (day : DailyRecording) : DailyRecording :=
  { day with
    availableIntervals := day.availableIntervals.filter fun span =>
      span.startAt < stop ∧ start ≤ span.endAt
    gaps := day.gaps.filter fun gap => gap.startAt < stop ∧ start ≤ gap.endAt
    gapsOrdered := day.gapsOrdered.sublist (List.filter_sublist.map _) (le_refl _)
    intervalsOrdered := day.intervalsOrdered.sublist (List.filter_sublist.map _) (le_refl _) }

/-- An event with its summary, and the work until then. -/
def summarizeEvent (loading : Loading) (windows : String → List ℤ) (now : ℤ) (work : ℕ)
    (event : EventRecording) : EventRecording × ℕ :=
  if event.playback.isSome then (event, work)
  else
    let dates := windows event.eventId
    match (dates.findSome? loading.errors).filter (· ≠ "") with
    | some error => (unknown event error, work)
    | none =>
      let days := dates.filterMap loading.metadata
      let scan := (days.map DailyRecording.size).sum
      if maxResolutionWork < work + scan then (unknown event "PLAYBACK_SUMMARY_WORK_LIMIT", work)
      else
        let work := work + scan
        let days := days.map
          (overlapping event.windowFrom (min (event.windowTo.getD now) now))
        let cost := (days.map fun day =>
          (day.availableIntervals.length + 1) * (day.gaps.length + 1)).sum
        if maxResolutionWork < work + cost then (unknown event "PLAYBACK_SUMMARY_WORK_LIMIT", work)
        else
          let work := work + cost
          let replay := resolveEventReplay event now days
          if "EVENT_REPLAY_SEGMENT_LIMIT" ∈ replay.reasonCodes then
            (unknown event "EVENT_REPLAY_SEGMENT_LIMIT", work)
          else
            let playback : EventPlaybackSummary :=
              { state := some replay.state
                playbackSeconds := some replay.playbackSeconds
                reasonCodes := replay.reasonCodes }
            ({ event with playback := some playback }, work)

def summarize (loading : Loading) (windows : String → List ℤ) (now : ℤ) :
    ℕ → List EventRecording → List EventRecording
  | _, [] => []
  | work, event :: events =>
    let summarized := summarizeEvent loading windows now work event
    summarized.1 :: summarize loading windows now summarized.2 events

/-- The events of a page with their summaries; an exception that is not caught is `none`. -/
def addPlaybackSummaries (service : ℕ → Params → Answer) (events : List EventRecording)
    (now : ℤ) : Option (List EventRecording) :=
  let selection := selectDates now events {}
  (load service selection.2.selected now).map fun loading =>
    summarize loading selection.2.windows now 0 selection.1

end ScrapMonitoring.Replay
