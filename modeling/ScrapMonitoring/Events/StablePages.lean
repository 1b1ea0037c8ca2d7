import ScrapMonitoring.Events.Listing
import ScrapMonitoring.Events.PageStore
import ScrapMonitoring.Foundations.Succeeds
import ScrapMonitoring.Foundations.Traverse

/-!
# Pages of a frozen listing

`stable_event_page` of `services/stable_event_pages.py` freezes the listing of events once, in the
store of event lists, and answers the later requests that give its token with pages of it. A first
request begins a build and waits for the database (`request`); the answer of the database ends the
build, which puts the list and answers with its first page (`reply`). Other requests are served
between the two, and the database may change between the two selections of a build.

The texts of events are the ones of a `Codec`, and `digest` is the digest of a binding as JSON. The
summaries of playback are left out.
-/

namespace ScrapMonitoring.Events

open Monitoring (MonitoringSource PitConfig)

def EventCategory.name : EventCategory → String
  | all => "all"
  | collection => "collection"
  | alert => "alert"
  | error => "error"

namespace Stable

def maxItems : ℕ := 10000

def maxSnapshotBytes : ℕ := 8 * 1024 * 1024

/-- `model_dump_json` in UTF-8, and `model_validate_json`. -/
structure Codec where
  encode : EventRecording → Bytes
  decode : Bytes → Option EventRecording

/-! ## Requests -/

/-- The settings that a request reads. -/
structure Settings where
  mediaPitId : String
  mediaCameraId : String
  mediaServiceUrl : Option String
  mediaDailyServiceUrl : Option String
  monitoringSources : List MonitoringSource

def Settings.playback (settings : Settings) : PlaybackSettings where
  dailyServiceConfigured := settings.mediaDailyServiceUrl.isSome
  serviceConfigured := settings.mediaServiceUrl.isSome
  mediaPitId := settings.mediaPitId
  monitoringSources := settings.monitoringSources

/-- `source.model_dump()`, or null without a source. -/
def sourceDump : Option MonitoringSource → Json
  | none => .null
  | some source => .obj [("pit_id", .str source.pitId), ("site_id", .str source.siteId),
      ("edge_id", .str source.edgeId)]

def textOrNull : Option String → Json
  | none => .null
  | some s => .str s

/-- What a list is bound to. -/
def Settings.bound (settings : Settings) (pit : String) (source : Option MonitoringSource) :
    Json :=
  .arr [.str pit, sourceDump source, .str settings.mediaCameraId,
    textOrNull settings.mediaServiceUrl, textOrNull settings.mediaDailyServiceUrl]

/-- A request; its times are the instants of datetimes with offsets. -/
structure PageRequest where
  owner : String
  token : Option String
  pitId : Option String
  category : EventCategory
  fromTime : Option ℤ
  toTime : Option ℤ
  page : ℕ
  pageSize : ℕ
  before : ℕ
  after : ℕ
  page_pos : 1 ≤ page
  size_range : 1 ≤ pageSize ∧ pageSize ≤ 100

/-- `_utc`: an instant may leave the range of datetimes when its offset is taken off. -/
def utc (value : ℤ) : Except ApiError Datetime :=
  if h : datetimeMin ≤ value ∧ value ≤ datetimeMax then .ok ⟨value, h⟩
  else .error ⟨422, "EVENT_LIST_TIME_OUT_OF_RANGE"⟩

def queryChanged : ApiError := ⟨409, "EVENT_LIST_QUERY_CHANGED"⟩

/-- A time that is given must be the one of the list. -/
def sameTime (expected : ℤ) : Option ℤ → Except ApiError Unit
  | none => .ok ()
  | some value =>
    match utc value with
    | .error e => .error e
    | .ok value => if value.1 = expected then .ok () else .error queryChanged

/-- A request with a token must ask for the list as it was frozen. -/
def sameQuery (ctx : PageContext) (binding : String) (r : PageRequest) : Except ApiError Unit := do
  refuse (ctx.binding ≠ binding) ⟨409, "EVENT_LIST_SOURCE_CHANGED"⟩
  refuse (r.category.name ≠ ctx.category ∨ r.pageSize ≠ ctx.pageSize ∨ r.before ≠ ctx.before ∨
    r.after ≠ ctx.after) queryChanged
  sameTime ctx.lower r.fromTime
  sameTime ctx.upper r.toTime

/-- A listing that is to be frozen. -/
structure Listing where
  pit : String
  source : Option MonitoringSource
  binding : String
  category : EventCategory
  pageSize : ℕ
  before : ℕ
  after : ℕ
  lower : Datetime
  upper : Datetime
  now : Datetime
  size_pos : 0 < pageSize

/-- The context under which the list is kept. -/
def Listing.context (listing : Listing) : PageContext where
  pit := listing.pit
  binding := listing.binding
  category := listing.category.name
  pageSize := listing.pageSize
  before := listing.before
  after := listing.after
  lower := listing.lower.1
  upper := listing.upper.1
  asOf := listing.now.1

/-- The arguments of `event_table`. -/
def Listing.query (listing : Listing) (active : Option (String × String)) : EventQuery where
  pit := listing.pit
  source := listing.source
  category := listing.category
  lower := some listing.lower
  upper := some listing.upper
  now := listing.now
  before := listing.before
  after := listing.after
  active := active

/-- A time of a request, or a default. -/
def timeOr (default : Datetime) : Option ℤ → Except ApiError Datetime
  | none => .ok default
  | some value => utc value

/-- The listing that a request without a token asks for. -/
def listingOf (r : PageRequest) (pit : String) (source : Option MonitoringSource)
    (binding : String) (now : Datetime) : Except ApiError Listing := do
  refuse (r.page ≠ 1) ⟨422, "EVENT_LIST_START_AT_FIRST_PAGE"⟩
  let upper ← timeOr now r.toTime
  let lower ← timeOr (shifted upper (-7 * 86400)) r.fromTime
  refuse (upper ≤ lower ∨ seconds (90 * 86400) < upper.1 - lower.1)
    ⟨422, "Use an increasing range of at most 90 days"⟩
  return ⟨pit, source, binding, r.category, r.pageSize, r.before, r.after, lower, upper, now,
    r.size_range.1⟩

/-! ## Freezing -/

/-- What comes of waiting for the database: the rows that the two selections read, each at its own
time, or an error; `interrupted` is any other exception, such as that of a request that is
cancelled. -/
inductive Reading
  | rows (config : Collection.Configuration) (tracker : Option Collection.TrackerRow)
      (pitConfig : Option PitConfig) (store : Store)
  | timeout
  | sqlError (sqlstate : Option String)
  | interrupted

/-- The loop of `_freeze`, with the items and the size so far. -/
def freezeLoop (encode : EventRecording → Bytes) :
    List EventRecording → List Bytes → ℕ → Option (List Bytes)
  | [], items, _ => some items
  | event :: rest, items, size =>
    if maxItems ≤ items.length then none
    else
      let size := size + (encode event).length + 64
      if maxSnapshotBytes < size then none
      else freezeLoop encode rest (items ++ [encode event]) size

/-- The collection that goes on while the listing is frozen. -/
def activeAt (hash : Json → String) (listing : Listing) (config : Collection.Configuration)
    (tracker : Option Collection.TrackerRow) (pitConfig : Option PitConfig) :
    Option (String × String) :=
  activeCollection hash config listing.source tracker pitConfig listing.now

/-- The rows of the one selection, as references. -/
def selected (text hash : Json → String) (listing : Listing) (config : Collection.Configuration)
    (tracker : Option Collection.TrackerRow) (pitConfig : Option PitConfig) (store : Store) :
    List EventRecording :=
  let q := listing.query (activeAt hash listing config tracker pitConfig)
  ((arranged (eventTable text store q)).take (maxItems + 1)).map fun row =>
    reference row listing.pit listing.before listing.after q.active

/-- What a request is answered with; `failed` is an exception without a status of its own. -/
inductive Answer (α : Type)
  | page (page : α)
  | raised (error : ApiError)
  | waiting
  | failed

def timedOut : ApiError := ⟨503, "EVENT_LIST_QUERY_TIMEOUT"⟩

/-- `_freeze`. -/
def freeze {α : Type} (text hash : Json → String) (encode : EventRecording → Bytes)
    (listing : Listing) : Reading → Except (Answer α) (List Bytes)
  | .rows config tracker pitConfig store =>
    match freezeLoop encode (selected text hash listing config tracker pitConfig store) [] 1024 with
    | none => .error (.raised ⟨422, "EVENT_LIST_SNAPSHOT_TOO_LARGE"⟩)
    | some items => .ok items
  | .timeout => .error (.raised timedOut)
  | .sqlError sqlstate =>
    .error (.raised (if sqlstate = some "57014" then timedOut
      else ⟨503, "EVENT_LIST_STORAGE_UNAVAILABLE"⟩))
  | .interrupted => .error .failed

/-! ## Pages -/

structure StablePage where
  items : List EventRecording
  page : ℕ
  pageSize : ℕ
  totalItems : ℕ
  totalPages : ℕ
  fromTime : ℤ
  toTime : ℤ
  asOf : ℤ
  snapshotToken : String
  snapshotExpiresAt : ℤ

/-- `_page`. -/
def servePage (decode : Bytes → Option EventRecording) (saved : FrozenEventList) (page : ℕ) :
    Answer StablePage :=
  let start := (page - 1) * saved.context.pageSize
  match ((saved.items.drop start).take saved.context.pageSize).mapM decode with
  | none => .failed
  | some items => .page
    { items := items
      page := page
      pageSize := saved.context.pageSize
      totalItems := saved.items.length
      totalPages := totalPages saved.items.length saved.context.pageSize
      fromTime := saved.context.lower
      toTime := saved.context.upper
      asOf := saved.context.asOf
      snapshotToken := saved.token
      snapshotExpiresAt := saved.expiresAt }

/-! ## The service in steps -/

/-- A request that waits for the database. -/
structure Build where
  owner : String
  listing : Listing

structure State where
  store : EventPageStore := {}
  pending : List Build := []

inductive Op
  | request (r : PageRequest) (settings : Settings) (clock : ℚ) (now : Datetime)
  | reply (i : ℕ) (reading : Reading) (clock clock' : ℚ) (drawn : List String) (now : ℤ)

/-- The first step of a request that has passed the checks of its scope. -/
def serve (codec : Codec) (s : State) (r : PageRequest) (pit : String)
    (source : Option MonitoringSource) (binding : String) (clock : ℚ) (now : Datetime) :
    Option (State × Answer StablePage) :=
  match r.token with
  | some token =>
    match get s.store clock token r.owner with
    | none => none
    | some (store, .value saved) =>
      match sameQuery saved.context binding r with
      | .error e => some ({ s with store := store }, .raised e)
      | .ok _ => some ({ s with store := store }, servePage codec.decode saved r.page)
    | some (store, .raised status detail) =>
      some ({ s with store := store }, .raised ⟨status, detail⟩)
    | some (store, .none) => some ({ s with store := store }, .failed)
  | none =>
    match listingOf r pit source binding now with
    | .error e => some (s, .raised e)
    | .ok listing =>
      if 2 ≤ s.store.builds then some (s, .raised ⟨503, "EVENT_LIST_SNAPSHOT_BUSY"⟩)
      else some (⟨{ s.store with builds := s.store.builds + 1 },
        s.pending ++ [⟨r.owner, listing⟩]⟩, .waiting)

/-- `stable_event_page` up to its first wait. -/
def request (digest : Json → String) (codec : Codec) (s : State)
    (r : PageRequest) (settings : Settings) (clock : ℚ) (now : Datetime) :
    Option (State × Answer StablePage) :=
  match contextError r.before r.after with
  | some e => some (s, .raised e)
  | none =>
    match playbackScope settings.playback r.pitId with
    | .error e => some (s, .raised e)
    | .ok (pit, source) =>
      serve codec s r pit source (digest (settings.bound pit source)) clock now

/-- `store.end()`, which is called however the build ends. -/
def endBuild (store : EventPageStore) : EventPageStore := { store with builds := store.builds - 1 }

/-- `stable_event_page` from its wait on. -/
def reply (text hash : Json → String) (limits : Limits) (codec : Codec) (s : State) (i : ℕ)
    (reading : Reading) (clock clock' : ℚ) (drawn : List String) (now : ℤ) :
    Option (State × Answer StablePage) :=
  match s.pending[i]? with
  | none => none
  | some build =>
    match freeze text hash codec.encode build.listing reading with
    | .error answer => some (⟨endBuild s.store, s.pending.eraseIdx i⟩, answer)
    | .ok items =>
      match put limits s.store clock clock' drawn build.owner build.listing.context items now with
      | none => none
      | some (store, .value saved) =>
        some (⟨endBuild store, s.pending.eraseIdx i⟩, servePage codec.decode saved 1)
      | some (store, .raised status detail) =>
        some (⟨endBuild store, s.pending.eraseIdx i⟩, .raised ⟨status, detail⟩)
      | some (store, .none) => some (⟨endBuild store, s.pending.eraseIdx i⟩, .failed)

def step (text hash digest : Json → String) (limits : Limits) (codec : Codec) (s : State) :
    Op → Option (State × Answer StablePage)
  | .request r settings clock now => request digest codec s r settings clock now
  | .reply i reading clock clock' drawn now =>
    reply text hash limits codec s i reading clock clock' drawn now

end Stable

end ScrapMonitoring.Events
