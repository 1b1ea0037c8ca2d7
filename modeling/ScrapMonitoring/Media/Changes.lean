import Mathlib.Logic.Relation
import ScrapMonitoring.Media.Rows

/-!
# What a step does to the tables

`Change` is one change of the tables: facts that the jobs are made from are recorded, the worker
activates its cursor or queues a transition, an event gets a job, a row becomes another of its job,
a clip is deleted, a request for an export is bound. `step_stepped`: a step does nothing to the
tables but a few such changes.
-/

namespace ScrapMonitoring.Media

/-! ## Changes -/

/-- The context is that of the event of the request, for the same user and spans. -/
def ExportContext.isFor (context : ExportContext) (request : ExportRequest) : Prop :=
  context.owner = request.owner ∧ context.eventId = request.eventId ∧
    context.before = request.beforeSeconds ∧ context.after = request.afterSeconds

/-- The context is that of the request, with the same window. -/
def ExportContext.isOf (context : ExportContext) (call : ExportCall) : Prop :=
  context.isFor call.request ∧ context.startAt = call.startAt ∧ context.endAt = call.endAt

/-- The holder of the lock is choosing the job of the request. -/
def Work.Chooses (work : Work) (call : ExportCall) : Prop :=
  ∃ jobId clipId rest, work = .refreshing jobId clipId (.choosing call rest)

/-- The request is made, for an event whose window can be exported. -/
def Op.Requests (op : Op) (call : ExportCall) : Prop :=
  ∃ now reference, op = .requestExport now call.request (.ok reference) ∧
    exportCall call.request reference = .ok call

/-- The request that an operation makes, or that the holder of the lock is serving. -/
def Service.Serves (s : Service) (op : Op) (call : ExportCall) : Prop :=
  op.Requests call ∨ s.work.Chooses call

/-- When an operation takes place, if that matters. -/
def Op.time? : Op → Option ℤ
  | .enqueue now _ | .sweep now _ _ | .process now _ | .requestClip now _ _ _ |
    .requestExport now _ _ | .lookupExport now _ _ _ _ _ | .readExport now _ _ _ |
    .answer now _ => some now
  | .configure _ | .restart | .abort | .transition _ | .alert _ _ | .getClip _ | .getRecording _ |
    .deleteClip _ => none

section

variable (hash : Json → String)

/-- The row of a job as it is stored, or as the answer that has come tells. -/
def Current (s : Service) (op : Op) (now : ℤ) (job : MediaClipJob) : Prop :=
  job ∈ s.db.jobs ∨ ∃ detail, op = .answer now (.found detail) ∧ ∃ row ∈ s.db.jobs,
    applySnapshot hash s.settings now row (.detail detail) = .ok job

/-- The automatic job of a transition. -/
def automaticJob (settings : Settings) (now : ℤ) (db : Db) (context : ClipContext)
    (row : EdgeV2Transition) (category : JobCategory) (identifier : String) : MediaClipJob :=
  { newEventJob hash settings now db identifier settings.mediaPitId category row.occurredAt
    false with
    snapshot := some (automaticSnapshot context category row) }

/-- The worker sweeps the transitions of the device, in the session `session`. -/
structure Sweeps (s : Service) (op : Op) (context : ClipContext) (now : ℤ) (session : String) :
    Prop where
  op : ∃ uuid, op = .sweep now uuid true ∧ session = s.token.getD uuid
  enabled : s.settings.v2EventClipsEnabled = true
  context : clipContext hash s.settings = some context

/-- The transition is fresh, and is that of an event that gets a clip. -/
structure Queues (s : Service) (op : Op) (db : Db) (context : ClipContext) (now : ℤ)
    (cursor : Cursor)
    (row : EdgeV2Transition) (category : JobCategory) (identifier : String) : Prop where
  sweeps : ∃ session, Sweeps hash s op context now session ∧
    cursor.sessionToken = cursorToken hash session context
  activated : s.db.cursors (context.siteId, context.edgeId) = some cursor
  fresh : row ∈ s.db.freshTransitions s.settings context cursor now
  pit : row.get "pitId" = .str s.settings.mediaPitId
  identified : identify s.settings s.db context row = some (category, identifier)
  missing : db.jobOf? s.settings.mediaCameraId identifier = none

/-- One change of the tables by a step. -/
inductive Change (s : Service) (op : Op) : Db → Db → Prop
  | record {db db' : Db} (hjobs : db'.jobs = db.jobs) (haliases : db'.aliases = db.aliases)
      (hcursors : db'.cursors = db.cursors) : Change s op db db'
  | activate (context : ClipContext) (now : ℤ) (session : String)
      (hsweeps : Sweeps hash s op context now session) :
      Change s op s.db (s.db.setCursor (context.siteId, context.edgeId)
        ⟨now, cursorToken hash session context, s.db.latestId context⟩)
  | queue {db : Db} (context : ClipContext) (now : ℤ) (cursor : Cursor) (row : EdgeV2Transition)
      (category : JobCategory) (identifier : String)
      (hqueues : Queues hash s op db context now cursor row category identifier) :
      Change s op db
        (db.insertJob (automaticJob hash s.settings now db context row category identifier))
  | enqueue {db : Db} (now : ℤ) (event : LoggedEvent) (useEventTime : Bool)
      (hmissing : db.jobOf? s.settings.mediaCameraId event.eventId = none) :
      Change s op db (db.insertJob (newEventJob hash s.settings now db event.eventId event.pitId
        event.category event.occurredAt useEventTime))
  | update {db : Db} (row job : MediaClipJob) (hrow : row ∈ db.jobs) (hkeeps : Keeps row job)
      (hclip : ∀ other ∈ db.jobs, other.clipId ≠ none → other.clipId = job.clipId →
        other.id = job.id) :
      Change s op db (db.updateJob job)
  | delete (row : MediaClipJob) (clipId : String) (now : ℤ) (hwork : s.work = .deleting clipId)
      (hop : op = .answer now .removed) (hrow : s.db.jobOfClip? clipId = some row) :
      Change s op s.db (s.db.updateJob (deletedJob now row))
  | create {db db' : Db} (call : ExportCall) (hserves : s.Serves op call)
      (hbound : boundExport hash db call.request.owner call.request.requestId = none)
      (hmissing : db.jobOf? s.settings.mediaCameraId
        (exportIdentifier hash call.request.owner call.request.requestId) = none)
      (hnew : (db.insertJob (newExportJob hash s.settings db call)).insertAlias
        ⟨call.request.owner, call.request.requestId, db.nextId⟩ = some db') :
      Change s op db db'
  | reuse {db db' : Db} (call : ExportCall) (job : MediaClipJob) (context : ExportContext) (now : ℤ)
      (hserves : s.Serves op call) (hnow : op.time? = some now)
      (hbound : boundExport hash db call.request.owner call.request.requestId = none)
      (hjob : job ∈ db.jobs) (hcategory : job.category = .eventExport)
      (hcontext : exportContext hash s.settings job = .ok context) (hof : context.isOf call)
      (hreusable : reusable hash s.settings now job = true) (hcurrent : Current hash s op now job)
      (hnew : db.insertAlias ⟨call.request.owner, call.request.requestId, job.id⟩ = some db') :
      Change s op db db'

abbrev Changes (s : Service) (op : Op) : Db → Db → Prop := Relation.ReflTransGen (Change hash s op)

end

variable {hash : Json → String} {s : Service} {op : Op} {db db' : Db}

theorem insertAlias_some {new : EventExportAlias} (h : db.insertAlias new = some db') :
    db' = { db with aliases := db.aliases ++ [new] } ∧
      ∀ row ∈ db.aliases, row.owner = new.owner → row.requestId ≠ new.requestId := by
  unfold Db.insertAlias at h
  split_ifs at h with hany
  refine ⟨(Option.some.inj h).symm, fun row hrow howner hrequest => hany ?_⟩
  exact List.any_eq_true.2 ⟨row, hrow, by simp [howner, hrequest]⟩

/-! ## What changes keep -/

theorem identify_automatic {settings : Settings} {context : ClipContext} {row : EdgeV2Transition}
    {category : JobCategory} {identifier : String}
    (h : identify settings db context row = some (category, identifier)) :
    category.automatic = true := by
  unfold identify at h
  split at h
  · split at h
    · obtain ⟨alert, -, heq⟩ := Option.map_eq_some_iff.1 h
      rw [← (Prod.mk.inj heq).1]
      rfl
    · cases h
  · split at h
    · rw [← (Prod.mk.inj (Option.some.inj h)).1]
      rfl
    · cases h
  · split_ifs at h
    rw [← (Prod.mk.inj (Option.some.inj h)).1]
    rfl

theorem formed_automaticJob {settings : Settings} {now : ℤ} {context : ClipContext}
    {row : EdgeV2Transition} {category : JobCategory} {identifier : String}
    (h : category.automatic = true) :
    (automaticJob hash settings now db context row category identifier).Formed where
  device hcategory := by
    rw [show category.automatic = false from hcategory] at h
    cases h
  exported _ := rfl
  queued _ _ hnone := by cases hnone

theorem formed_newEventJob {settings : Settings} {now : ℤ} {event : LoggedEvent}
    {useEventTime : Bool} :
    (newEventJob hash settings now db event.eventId event.pitId event.category event.occurredAt
      useEventTime).Formed := by
  have hcategory : event.category.automatic = false := by
    unfold LoggedEvent.category
    split_ifs <;> rfl
  constructor
  · intro _
    cases useEventTime <;> exact ⟨rfl, rfl, rfl⟩
  · intro _
    cases useEventTime <;> rfl
  · intro hautomatic
    rw [show event.category.automatic = true from hautomatic] at hcategory
    cases hcategory

theorem formed_newExportJob {settings : Settings} {call : ExportCall} :
    (newExportJob hash settings db call).Formed where
  device _ := ⟨rfl, rfl, rfl⟩
  exported hcategory := absurd rfl hcategory
  queued hautomatic := by cases hautomatic

theorem Change.valid (h : Change hash s op db db') (hdb : db.Valid) : db'.Valid := by
  cases h with
  | record hjobs haliases =>
    constructor
    · rw [hjobs]
      exact hdb.formed
    · rw [hjobs]
      exact hdb.ids
    · rw [hjobs]
      exact hdb.events
    · rw [hjobs]
      exact hdb.clips
    · rw [hjobs, haliases]
      exact hdb.aliases
  | activate => exact ⟨hdb.formed, hdb.ids, hdb.events, hdb.clips, hdb.aliases⟩
  | queue context now cursor row category identifier hqueues =>
    exact hdb.insertJob (formed_automaticJob (identify_automatic hqueues.identified)) rfl rfl
      hqueues.missing
  | enqueue now event useEventTime hmissing =>
    exact hdb.insertJob formed_newEventJob rfl rfl hmissing
  | update row job hrow hkeeps hclip =>
    exact hdb.updateJob hrow hkeeps.toSameJob (hkeeps.formed (hdb.formed row hrow)) hclip
  | delete row clipId now hwork hop hrow =>
    obtain ⟨hmem, hclip⟩ := Db.mem_of_jobOfClip? hrow
    have hformed := hdb.formed row hmem
    refine hdb.updateJob hmem (follows_deletedJob hformed).toSameJob
      (formed_deletedJob hformed (by simp [hclip])) ?_
    exact fun other hother hsome hsame => hdb.clips other hother row hmem hsome hsame
  | create call hserves hbound hmissing hnew =>
    obtain ⟨rfl, -⟩ := insertAlias_some hnew
    have hvalid : (db.insertJob (newExportJob hash s.settings db call)).Valid :=
      hdb.insertJob formed_newExportJob rfl rfl hmissing
    refine ⟨hvalid.formed, hvalid.ids, hvalid.events, hvalid.clips, fun row hrow => ?_⟩
    rcases List.mem_append.1 hrow with hold | hlast
    · exact hvalid.aliases row hold
    · rw [List.mem_singleton.1 hlast]
      exact ⟨_, Db.mem_insertJob.2 (.inr rfl), rfl⟩
  | reuse call job context now hserves hnow hbound hjob hcategory hcontext hof hreusable hcurrent
    hnew =>
    obtain ⟨rfl, -⟩ := insertAlias_some hnew
    refine ⟨hdb.formed, hdb.ids, hdb.events, hdb.clips, fun row hrow => ?_⟩
    rcases List.mem_append.1 hrow with hold | hlast
    · exact hdb.aliases row hold
    · rw [List.mem_singleton.1 hlast]
      exact ⟨job, hjob, rfl⟩

theorem Changes.valid (h : Changes hash s op db db') (hdb : db.Valid) : db'.Valid := by
  induction h with
  | refl => exact hdb
  | tail _ hchange ih => exact hchange.valid ih

/-- Rows stay, each as it may become. -/
theorem Change.grows {R : MediaClipJob → MediaClipJob → Prop} (h : Change hash s op db db')
    (hdb : db.Valid) (hkeeps : ∀ row job, Keeps row job → R row job)
    (hdelete : ∀ row clipId now, s.work = .deleting clipId → op = .answer now .removed →
      s.db.jobOfClip? clipId = some row → R row (deletedJob now row)) :
    Grows R db.jobs db'.jobs := by
  have hrefl : ∀ job, R job job := fun job => hkeeps job job (Keeps.refl job)
  cases h with
  | record hjobs =>
    rw [hjobs]
    exact .refl hrefl _
  | activate => exact .refl hrefl _
  | queue | enqueue => exact .of_append hrefl _ _
  | update row job hrow hupdate =>
    exact hdb.grows_updateJob hrefl hrow hupdate.id (hkeeps row job hupdate)
  | delete row clipId now hwork hop hrow =>
    exact hdb.grows_updateJob hrefl (Db.mem_of_jobOfClip? hrow).1 rfl
      (hdelete row clipId now hwork hop hrow)
  | create call hserves hbound hmissing hnew =>
    obtain ⟨rfl, -⟩ := insertAlias_some hnew
    exact .of_append hrefl _ _
  | reuse call job context now hserves hnow hbound hjob hcategory hcontext hof hreusable hcurrent
    hnew =>
    obtain ⟨rfl, -⟩ := insertAlias_some hnew
    exact .refl hrefl _

theorem Changes.grows {R : MediaClipJob → MediaClipJob → Prop} (h : Changes hash s op db db')
    (hdb : db.Valid) (htrans : ∀ a b c, R a b → R b c → R a c)
    (hkeeps : ∀ row job, Keeps row job → R row job)
    (hdelete : ∀ row clipId now, s.work = .deleting clipId → op = .answer now .removed →
      s.db.jobOfClip? clipId = some row → R row (deletedJob now row)) :
    Grows R db.jobs db'.jobs := by
  induction h with
  | refl => exact .refl (fun job => hkeeps job job (Keeps.refl job)) _
  | tail hchanges hchange ih =>
    exact ih.trans htrans (hchange.grows (Changes.valid hchanges hdb) hkeeps hdelete)

theorem Changes.grows_follows (h : Changes hash s op s.db db') (hdb : s.db.Valid) :
    Grows Follows s.db.jobs db'.jobs := by
  refine Changes.grows h hdb (fun _ _ _ => Follows.trans) (fun _ _ => Keeps.follows) ?_
  intro row clipId now _ _ hrow
  exact follows_deletedJob (hdb.formed row (Db.mem_of_jobOfClip? hrow).1)

/-! ## The holder of the lock -/

/-- The job may be one that the request has asked for before. -/
def Offered (request : ExportRequest) (job : MediaClipJob) : Prop :=
  job.category = .eventExport ∧ ∃ context, job.keys.rangeExport = some context ∧
    context.isFor request

theorem isFor_of_settled {request : ExportRequest} {context context' : ExportContext}
    (h : context'.settled = context.settled) (hfor : context.isFor request) :
    context'.isFor request := by
  simp only [ExportContext.settled, ExportContext.mk.injEq] at h
  obtain ⟨-, howner, -, hevent, hbefore, hafter, -⟩ := h
  obtain ⟨howner', hevent', hbefore', hafter'⟩ := hfor
  exact ⟨howner.trans howner', hevent.trans hevent', hbefore.trans hbefore', hafter.trans hafter'⟩

theorem Offered.follows {request : ExportRequest} {row job : MediaClipJob} (h : Offered request row)
    (hfollows : Follows row job) : Offered request job := by
  obtain ⟨hcategory, context, hstored, hfor⟩ := h
  obtain ⟨context', hstored', hsettled⟩ := hfollows.rangeExport_some hstored
  exact ⟨hfollows.category.trans hcategory, context', hstored', isFor_of_settled hsettled hfor⟩

/-- The job is one that the request may be bound to. -/
def Matching (call : ExportCall) (job : MediaClipJob) : Prop :=
  job.category = .eventExport ∧ ∃ context, job.keys.rangeExport = some context ∧ context.isOf call

theorem Matching.follows {call : ExportCall} {row job : MediaClipJob} (h : Matching call row)
    (hfollows : Follows row job) : Matching call job := by
  obtain ⟨hcategory, context, hstored, hfor, hstart, hend⟩ := h
  obtain ⟨context', hstored', hsettled⟩ := hfollows.rangeExport_some hstored
  have hwindow := hsettled
  simp only [ExportContext.settled, ExportContext.mk.injEq] at hwindow
  obtain ⟨-, -, -, -, -, -, hstart', hend', -, -⟩ := hwindow
  exact ⟨hfollows.category.trans hcategory, context', hstored', isFor_of_settled hsettled hfor,
    hstart'.trans hstart, hend'.trans hend⟩

/-- The row of a job, as it is now. -/
theorem job?_grows {p : MediaClipJob → Prop} {id : ℕ} (h : Grows Follows db.jobs db'.jobs)
    (hp : ∀ row job, Follows row job → p row → p job)
    (hjob : ∃ job, db.job? id = some job ∧ p job) :
    ∃ job, db'.job? id = some job ∧ p job := by
  obtain ⟨row, hrow, hprop⟩ := hjob
  obtain ⟨job, hfind, hfollows⟩ := h.find?_some (fun a b hab => by simp [hab.id]) hrow
  exact ⟨job, hfind, hp row job hfollows hprop⟩

/-- What the holder of the lock knows: a request that chooses a job is not bound yet, its candidates
are exports of the same event, and the job that is being refreshed is one of the same window. -/
def Work.Sound (hash : Json → String) (db : Db) : Work → Prop
  | .refreshing jobId _ (.choosing call rest) =>
    boundExport hash db call.request.owner call.request.requestId = none ∧
      (∀ id ∈ rest, ∃ job, db.job? id = some job ∧ Offered call.request job) ∧
      ∃ job, db.job? jobId = some job ∧ Matching call job
  | _ => True

theorem Work.Sound.grows {work : Work} (h : work.Sound hash db)
    (hgrows : Grows Follows db.jobs db'.jobs)
    (hbound : ∀ owner requestId, boundExport hash db owner requestId = none →
      boundExport hash db' owner requestId = none) :
    work.Sound hash db' := by
  match work, h with
  | .refreshing _ _ (.choosing call rest), ⟨hnone, hrest, hjob⟩ =>
    exact ⟨hbound _ _ hnone,
      fun id hid =>
        job?_grows hgrows (fun _ _ hfollows hrow => hrow.follows hfollows) (hrest id hid),
      job?_grows hgrows (fun _ _ hfollows hrow => hrow.follows hfollows) hjob⟩
  | .refreshing _ _ .recording, _ | .refreshing _ _ .lookupExport, _ | .idle, _ |
    .processing _ _ _, _ | .reading _, _ | .deleting _, _ => trivial

/-- The step has come to the state `t`, with the lock still to be released or handed on. -/
structure Reaches (hash : Json → String) (s : Service) (op : Op) (t : Service) : Prop where
  settings : t.settings = s.settings
  token : t.token = s.token
  changes : Changes hash s op s.db t.db
  valid : t.db.Valid

/-- A clip is requested that has none yet, and that is not blocked if it is automatic. -/
def Permitted (hash : Json → String) (s : Service) (op : Op) (t : Service) (request : ClipRequest) :
    Prop :=
  ∃ job now, op.time? = some now ∧ job ∈ t.db.jobs ∧ job.cameraId = request.cameraId ∧
    job.eventId = request.eventId ∧ job.clipId = none ∧
      (job.category.automatic = true → automaticRequestBlock hash s.settings job now = none)

/-- The step has come to its end. -/
structure Lands (hash : Json → String) (s : Service) (op : Op) (t : Service) (out : Out) : Prop
    extends Reaches hash s op t where
  work : t.work.Sound hash t.db
  serving : ∀ call, t.work.Chooses call → s.Serves op call
  permitted : ∀ request, out = .requested (.createClip request) → Permitted hash s op t request

section

variable {t : Service} {now : ℤ} {row job : MediaClipJob} {out : Out}

theorem Reaches.refl (hdb : s.db.Valid) : Reaches hash s op s := ⟨rfl, rfl, .refl, hdb⟩

theorem Reaches.step (h : Reaches hash s op t) (hchange : Change hash s op t.db db) :
    Reaches hash s op { t with db := db } :=
  ⟨h.settings, h.token, h.changes.tail hchange, hchange.valid h.valid⟩

@[simp] theorem exportOut_ne {settings : Settings} {statusCode : ℕ} {request : RemoteRequest} :
    exportOut hash settings now statusCode job ≠ .requested request := by
  unfold exportOut
  split <;> simp

@[simp] theorem respond_ne {settings : Settings} {statusCode : ℕ} {caller : Caller}
    {request : RemoteRequest} :
    caller.respond hash settings now statusCode job ≠ .requested request := by
  cases caller with
  | worker | requestClip => simp [Caller.respond]
  | requestExport => exact exportOut_ne

theorem Reaches.finish (h : Reaches hash s op t) (hout : ∀ request, out ≠ .requested request) :
    After (finish t out) fun t' out => Lands hash s op t' out := by
  unfold Media.finish
  rw [after_some]
  refine ⟨⟨h.settings, h.token, h.changes, h.valid⟩, trivial, fun call hchooses => ?_,
    fun request heq => absurd heq (hout _)⟩
  obtain ⟨_, _, _, hwork⟩ := hchooses
  cases hwork

/-- What is asked is not for a new clip. -/
theorem Reaches.ask {work : Work} {request : RemoteRequest} (h : Reaches hash s op t)
    (hwork : work.Sound hash t.db)
    (hserving : ∀ call, work.Chooses call → s.Serves op call)
    (hrequest : ∀ new, request ≠ .createClip new) :
    After (some ({ t with work := work }, .requested request)) fun t' out =>
    Lands hash s op t' out := by
  rw [after_some]
  exact ⟨⟨h.settings, h.token, h.changes, h.valid⟩, hwork, hserving,
    fun new heq => absurd (Out.requested.inj heq) (hrequest new)⟩

theorem saveJob_some (h : db.saveJob job = some db') :
    db' = db.updateJob job ∧
      ∀ other ∈ db.jobs, other.clipId ≠ none → other.clipId = job.clipId → other.id = job.id := by
  unfold Db.saveJob at h
  split_ifs at h with hany
  refine ⟨(Option.some.inj h).symm, fun other hother hsome hsame => ?_⟩
  by_contra hid
  exact hany (List.any_eq_true.2 ⟨other, hother, decide_eq_true ⟨hid, hsome, hsame⟩⟩)

theorem Reaches.store (h : Reaches hash s op t) (hrow : row ∈ t.db.jobs) (hkeeps : Keeps row job)
    (hout : ∀ request, out ≠ .requested request) :
    After (store t job out) fun t' out => Lands hash s op t' out := by
  unfold Media.store
  cases hsave : t.db.saveJob job with
  | none => exact h.finish (by simp)
  | some db =>
    obtain ⟨rfl, hclip⟩ := saveJob_some hsave
    exact (h.step (.update row job hrow hkeeps hclip)).finish hout

/-! ## Processing -/

/-- A clip is requested only for a job that has none, and is not blocked if it is automatic. -/
theorem dispatch_create {settings : Settings} {request : ClipRequest}
    (h : dispatch hash settings now job = .ok (.create request)) :
    job.cameraId = request.cameraId ∧ job.eventId = request.eventId ∧ job.clipId = none ∧
      (job.category.automatic = true → automaticRequestBlock hash settings job now = none) := by
  unfold dispatch at h
  split at h
  · cases h
  split at h
  · cases h
  split at h
  · cases h
  split at h
  · cases h
  · rename_i hclip
    split_ifs at h with hautomatic
    · split at h
      · split_ifs at h
        cases h
      · rename_i hblock
        obtain rfl := Dispatch.create.inj (Except.ok.inj h)
        exact ⟨rfl, rfl, hclip, fun _ => hblock⟩
    · obtain rfl := Dispatch.create.inj (Except.ok.inj h)
      exact ⟨rfl, rfl, hclip, fun hcategory => absurd hcategory hautomatic⟩

theorem Reaches.startProcess {jobId : ℕ} {caller : Caller} (h : Reaches hash s op t)
    (hnow : op.time? = some now) :
    After (startProcess hash t now jobId caller) fun t' out => Lands hash s op t' out := by
  unfold Media.startProcess
  cases hrow : t.db.job? jobId with
  | none => exact after_none
  | some row =>
    dsimp only
    cases hdispatch : dispatch hash t.settings now row.attempt with
    | ok dispatch =>
      rw [after_some]
      refine ⟨⟨h.settings, h.token, h.changes, h.valid⟩, trivial, ?_, fun request heq => ?_⟩
      · rintro call ⟨_, _, _, hwork⟩
        cases hwork
      cases dispatch with
      | createRange | poll | recover => cases heq
      | create new =>
        obtain rfl := RemoteRequest.createClip.inj (Out.requested.inj heq)
        obtain ⟨hcamera, hevent, hclip, hblock⟩ := dispatch_create hdispatch
        rw [h.settings] at hblock
        exact ⟨row, now, hnow, Db.mem_of_job? hrow, hcamera, hevent, hclip, hblock⟩
    | error error =>
      cases error with
      | media error =>
        exact h.store (Db.mem_of_job? hrow) ((keeps_attempt row).trans (keeps_failJob now _ error))
          (by simp)
      | http | crash => exact h.finish (by simp)

theorem Reaches.endProcess {jobId : ℕ} {dispatch : Dispatch} {caller : Caller}
    {answer : RemoteAnswer} (h : Reaches hash s op t) :
    After (endProcess hash t now jobId dispatch caller answer) fun t' out =>
    Lands hash s op t' out := by
  unfold Media.endProcess
  cases hrow : t.db.job? jobId with
  | none => exact after_none
  | some row =>
    have hmem := Db.mem_of_job? hrow
    have hattempt := keeps_attempt row
    cases hanswer : dispatch.answered answer with
    | none => exact after_none
    | some result =>
      cases result with
      | error error => exact h.store hmem (hattempt.trans (keeps_failJob now _ error)) (by simp)
      | ok accepted =>
        have hsettle :
            Keeps row (settleJob hash t.settings now row.attempt dispatch accepted.2).1 :=
          hattempt.trans (keeps_settleJob (hattempt.formed (h.valid.formed row hmem)))
        dsimp only
        generalize settleJob hash t.settings now row.attempt dispatch accepted.2 =
          settled at hsettle
        obtain ⟨job, error⟩ := settled
        cases error with
        | none => exact h.store hmem hsettle (by simp)
        | some error => exact h.store hmem hsettle (by simp)

/-! ## Clips of events -/

/-- A job is added, or is there already. -/
theorem enqueueEventClip_cases {settings : Settings} {eventId pitId : String}
    {category : JobCategory} {occurredAt : ℤ} {useEventTime : Bool} {found : Option MediaClipJob}
    (h : enqueueEventClip hash settings now db eventId pitId category occurredAt useEventTime =
      (db', found)) :
    db' = db ∧ found = none ∨
      db' = db ∧ found = db.jobOf? settings.mediaCameraId eventId ∨
        ∃ job,
          job = newEventJob hash settings now db eventId pitId category occurredAt useEventTime ∧
          db.jobOf? settings.mediaCameraId eventId = none ∧ db' = db.insertJob job ∧
          found = some job := by
  unfold enqueueEventClip at h
  split_ifs at h
  · obtain ⟨rfl, rfl⟩ := Prod.mk.inj h
    exact .inl ⟨rfl, rfl⟩
  · cases hjob : db.jobOf? settings.mediaCameraId eventId with
    | some job =>
      rw [hjob] at h
      obtain ⟨rfl, rfl⟩ := Prod.mk.inj h
      exact .inr (.inl ⟨rfl, rfl⟩)
    | none =>
      rw [hjob] at h
      obtain ⟨rfl, rfl⟩ := Prod.mk.inj h
      exact .inr (.inr ⟨_, rfl, rfl, rfl, rfl⟩)

theorem Reaches.enqueue {event : LoggedEvent} {useEventTime : Bool} {found : Option MediaClipJob}
    (h : Reaches hash s op t)
    (henqueue : enqueueEventClip hash t.settings now t.db event.eventId event.pitId event.category
      event.occurredAt useEventTime = (db, found)) :
    Reaches hash s op { t with db := db } := by
  rcases enqueueEventClip_cases henqueue with ⟨rfl, -⟩ | ⟨rfl, -⟩ | ⟨job, rfl, hmissing, rfl, -⟩
  · exact h
  · exact h
  · have hchange : Change hash s op t.db (t.db.insertJob (newEventJob hash t.settings now t.db
        event.eventId event.pitId event.category event.occurredAt useEventTime)) := by
      rw [h.settings] at hmissing ⊢
      exact .enqueue now event useEventTime hmissing
    exact h.step hchange

theorem Reaches.requestJob {useEventTime : Bool} (h : Reaches hash s op t)
    (hnow : op.time? = some now) :
    After (requestJob hash t now job useEventTime) fun t' out => Lands hash s op t' out := by
  unfold Media.requestJob
  split_ifs
  · exact h.finish (by simp)
  · exact h.finish (by simp)
  · exact h.finish (by simp)
  · exact h.startProcess hnow

theorem Reaches.requestClip {eventId : String} {useEventTime : Bool} {event : Option LoggedEvent}
    (h : Reaches hash s op t) (hnow : op.time? = some now)
    (hevent : ∀ e ∈ event, e.eventId = eventId) :
    After (requestClip hash t now eventId useEventTime event) fun t' out =>
    Lands hash s op t' out := by
  unfold Media.requestClip
  split_ifs
  · exact h.finish (by simp)
  cases t.db.jobOf? t.settings.mediaCameraId eventId with
  | some job => exact h.requestJob hnow
  | none =>
    cases event with
    | none => exact h.finish (by simp)
    | some event =>
      dsimp only
      split_ifs
      · exact h.finish (by simp)
      · obtain rfl := hevent event rfl
        cases henqueue : enqueueEventClip hash t.settings now t.db event.eventId event.pitId
          event.category event.occurredAt useEventTime with
        | mk db found =>
          cases found with
          | none => exact h.finish (by simp)
          | some job => exact (h.enqueue henqueue).requestJob hnow

theorem Reaches.endRead {clipId : String} {answer : RemoteAnswer} (h : Reaches hash s op t) :
    After (endRead hash t now clipId answer) fun t' out => Lands hash s op t' out := by
  unfold Media.endRead
  cases MediaClient.getClip clipId answer with
  | none => exact after_none
  | some result =>
    cases result with
    | error error => exact h.finish (by simp)
    | ok detail =>
      dsimp only
      cases hrow : t.db.jobOfClip? clipId with
      | none => exact h.finish (by simp)
      | some row =>
        dsimp only
        have hmem := (Db.mem_of_jobOfClip? hrow).1
        cases happly : applySnapshot hash t.settings now row (.detail detail) with
        | error error => exact h.finish (by simp)
        | ok job =>
          exact h.store hmem ((applySnapshot_ok.1 happly).keeps (h.valid.formed row hmem)) (by simp)

theorem lands_endDelete {clipId : String} {answer : RemoteAnswer} (hdb : s.db.Valid)
    (hwork : s.work = .deleting clipId) :
    After (endDelete s now clipId answer) fun t out => Lands hash s (.answer now answer) t out := by
  have h : Reaches hash s (.answer now answer) s := .refl hdb
  unfold endDelete
  cases answer with
  | accepted | found | listed => exact after_none
  | failed error => exact h.finish (by simp)
  | removed =>
    dsimp only [MediaClient.deleteClip]
    cases hrow : s.db.jobOfClip? clipId with
    | none => exact h.finish (by simp)
    | some row =>
      dsimp only
      unfold Media.store
      cases hsave : s.db.saveJob (deletedJob now row) with
      | none => exact h.finish (by simp)
      | some db =>
        obtain ⟨rfl, -⟩ := saveJob_some hsave
        exact (h.step (.delete row clipId now hwork rfl hrow)).finish (by simp)

/-! ## Exports -/

theorem Reaches.bindExport_some {call : ExportCall} {context : ExportContext}
    (h : Reaches hash s op t) (hserves : s.Serves op call) (hnow : op.time? = some now)
    (hbound : boundExport hash t.db call.request.owner call.request.requestId = none)
    (hjob : job ∈ t.db.jobs) (hcategory : job.category = .eventExport)
    (hcontext : exportContext hash t.settings job = .ok context) (hof : context.isOf call)
    (hreusable : reusable hash t.settings now job = true) (hcurrent : Current hash s op now job) :
    After (bindExport hash t now call (some job)) fun t' out => Lands hash s op t' out := by
  unfold bindExport
  dsimp only
  cases hnew : t.db.insertAlias ⟨call.request.owner, call.request.requestId, job.id⟩ with
  | none => exact h.finish (by simp)
  | some db =>
    rw [h.settings] at hcontext hreusable
    exact (h.step (.reuse call job context now hserves hnow hbound hjob hcategory hcontext hof
      hreusable hcurrent hnew)).finish (by simp)

theorem Reaches.bindExport_none {call : ExportCall} (h : Reaches hash s op t)
    (hnow : op.time? = some now) (hserves : s.Serves op call)
    (hbound : boundExport hash t.db call.request.owner call.request.requestId = none) :
    After (bindExport hash t now call none) fun t' out => Lands hash s op t' out := by
  unfold bindExport
  dsimp only
  split_ifs with hsome
  · exact h.finish (by simp)
  · have hmissing := Option.not_isSome_iff_eq_none.1 hsome
    cases hnew : (t.db.insertJob (newExportJob hash t.settings t.db call)).insertAlias
        ⟨call.request.owner, call.request.requestId,
          (newExportJob hash t.settings t.db call).id⟩ with
    | none => exact h.finish (by simp)
    | some db =>
      rw [h.settings] at hmissing hnew
      exact (h.step (.create call hserves hbound hmissing hnew)).startProcess hnow

theorem isOf_of_isFor {call : ExportCall} {context : ExportContext}
    (hfor : context.isFor call.request)
    (hwindow : ¬(context.startAt ≠ call.startAt ∨ context.endAt ≠ call.endAt)) :
    context.isOf call := by
  simp only [ne_eq, not_or, not_not] at hwindow
  exact ⟨hfor, hwindow⟩

theorem Reaches.chooseExport {call : ExportCall} {ids : List ℕ} (h : Reaches hash s op t)
    (hserves : s.Serves op call) (hnow : op.time? = some now)
    (hbound : boundExport hash t.db call.request.owner call.request.requestId = none)
    (hcurrent : ∀ job ∈ t.db.jobs, Current hash s op now job)
    (hoffered : ∀ id ∈ ids, ∃ job, t.db.job? id = some job ∧ Offered call.request job) :
    After (chooseExport hash t now call ids) fun t' out => Lands hash s op t' out := by
  induction ids with
  | nil =>
    unfold Media.chooseExport
    exact h.bindExport_none hnow hserves hbound
  | cons id ids ih =>
    have hrest : ∀ id ∈ ids, ∃ job, t.db.job? id = some job ∧ Offered call.request job :=
      fun id hid => hoffered id (List.mem_cons_of_mem _ hid)
    obtain ⟨job, hjob, hcategory, context, hstored, hfor⟩ := hoffered id List.mem_cons_self
    unfold Media.chooseExport
    rw [hjob]
    dsimp only
    have hmem := Db.mem_of_job? hjob
    · cases hcontext : exportContext hash t.settings job with
      | error error => exact h.finish (by simp)
      | ok stored =>
        obtain rfl := Option.some.inj (hstored.symm.trans (exportContext_stored hcontext))
        dsimp only
        by_cases hwindow : context.startAt ≠ call.startAt ∨ context.endAt ≠ call.endAt
        · rw [if_pos hwindow]
          exact ih hrest
        rw [if_neg hwindow]
        have hof := isOf_of_isFor hfor hwindow
        by_cases hstatus : job.status.inFlight = false ∧ job.status ≠ .clip .ready
        · rw [if_pos hstatus]
          exact ih hrest
        rw [if_neg hstatus]
        cases job.clipId with
        | some clipId =>
          dsimp only
          refine h.ask ⟨hbound, hrest, job, hjob, hcategory, context, hstored, hof⟩ ?_ (by simp)
          rintro call' ⟨_, _, _, hwork⟩
          cases hwork
          exact hserves
        | none =>
          dsimp only
          by_cases hreusable : reusable hash t.settings now job = true
          · rw [if_pos hreusable]
            exact h.bindExport_some hserves hnow hbound hmem hcategory hcontext hof hreusable
              (hcurrent job hmem)
          · rw [if_neg hreusable]
            exact ih hrest

/-- A request that is not bound is not bound either when a row has changed. -/
theorem boundExport_updateJob {owner requestId : String} (hrow : row ∈ db.jobs)
    (hsame : SameJob row job) (h : boundExport hash db owner requestId = none) :
    boundExport hash (db.updateJob job) owner requestId = none := by
  have hnone : ∀ p : MediaClipJob → Bool, p job = p row → db.jobs.find? p = none →
      (db.updateJob job).jobs.find? p = none := by
    intro p hp hfind
    rw [List.find?_eq_none] at hfind ⊢
    intro other hother
    rcases Db.mem_updateJob hother with rfl | ⟨hold, -⟩
    · rw [hp]
      exact hfind row hrow
    · exact hfind other hold
  unfold boundExport at h ⊢
  simp only [Db.updateJob] at h ⊢
  cases halias : db.aliases.find? fun row => row.owner = owner ∧ row.requestId = requestId with
  | some found =>
    rw [halias] at h
    exact hnone _ (by simp [hsame.id]) h
  | none =>
    rw [halias] at h
    exact hnone _ (by simp [hsame.eventId]) h

theorem answer_of_getClip {clipId : String} {answer : RemoteAnswer} {detail : ClipDetail}
    (h : MediaClient.getClip clipId answer = some (.ok detail)) : answer = .found detail := by
  unfold MediaClient.getClip at h
  split at h
  · cases h
  · split_ifs at h
    · cases h
    · rw [Except.ok.inj (Option.some.inj h)]
  · cases h

theorem lands_endRefresh {jobId : ℕ} {clipId : String} {reader : Reader} {answer : RemoteAnswer}
    (hdb : s.db.Valid) (hwork : s.work = .refreshing jobId clipId reader)
    (hsound : s.work.Sound hash s.db) :
    After (endRefresh hash s now jobId clipId reader answer) fun t out =>
      Lands hash s (.answer now answer) t out := by
  have h : Reaches hash s (.answer now answer) s := .refl hdb
  unfold endRefresh
  cases hrow : s.db.job? jobId with
  | none => exact after_none
  | some row =>
    have hmem := Db.mem_of_job? hrow
    have hformed := hdb.formed row hmem
    cases hanswer : MediaClient.getClip clipId answer with
    | none => exact after_none
    | some result =>
      cases result with
      | error error => exact h.finish (by simp)
      | ok detail =>
        obtain rfl := answer_of_getClip hanswer
        dsimp only
        cases happly : applySnapshot hash s.settings now row (.detail detail) with
        | error error => exact h.finish (by simp)
        | ok job =>
          dsimp only
          have hcurrent : Current hash s (.answer now (.found detail)) now job :=
            .inr ⟨detail, rfl, row, hmem, happly⟩
          have happlied := applySnapshot_ok.1 happly
          have hkeeps := happlied.keeps hformed
          cases hsave : s.db.saveJob job with
          | none => exact h.finish (by simp)
          | some db =>
            dsimp only
            obtain ⟨rfl, hclip⟩ := saveJob_some hsave
            have hstep := h.step (.update row job hmem hkeeps hclip)
            cases reader with
            | recording | lookupExport => exact hstep.finish (by simp)
            | choosing call rest =>
              rw [hwork] at hsound
              obtain ⟨other, hother, hcategory, context, hstored, hof⟩ := hsound.2.2
              obtain rfl := Option.some.inj (hrow.symm.trans hother)
              have hgrows : Grows Follows s.db.jobs (s.db.updateJob job).jobs :=
                hdb.grows_updateJob Follows.refl hmem hkeeps.id hkeeps.follows
              obtain ⟨hbound, hrest, -⟩ := hsound.grows hgrows fun _ _ =>
                boundExport_updateJob hmem hkeeps.toSameJob
              have hserves : s.Serves (.answer now (.found detail)) call :=
                .inr ⟨jobId, clipId, rest, hwork⟩
              unfold Reader.resume
              dsimp only
              by_cases hreusable : reusable hash s.settings now job = true
              · rw [if_pos hreusable]
                obtain ⟨context', hcontext⟩ := happlied.exportContext_ok hcategory
                obtain rfl := Option.some.inj (hstored.symm.trans (exportContext_stored hcontext))
                rw [← happlied.exportContext_eq hformed] at hcontext
                have hjob : job ∈ (s.db.updateJob job).jobs := by
                  refine List.mem_map.2 ⟨row, hmem, ?_⟩
                  rw [if_pos hkeeps.id.symm]
                exact hstep.bindExport_some hserves rfl hbound hjob
                  (hkeeps.category.trans hcategory)
                  hcontext hof hreusable hcurrent
              · rw [if_neg hreusable]
                refine hstep.chooseExport hserves rfl hbound (fun other hother => ?_) hrest
                rcases Db.mem_updateJob hother with rfl | ⟨hold, -⟩
                · exact hcurrent
                · exact .inl hold

theorem mem_matchingExports {settings : Settings} {owner eventId : String} {before after : ℕ}
    (h : job ∈ matchingExports hash settings db owner eventId before after) :
    job ∈ db.jobs ∧ job.category = .eventExport ∧
      ∃ context, job.keys.rangeExport = some context ∧ context.owner = owner ∧
        context.eventId = eventId ∧ context.before = before ∧ context.after = after := by
  unfold matchingExports at h
  rw [List.mem_reverse, mem_sortedBy, List.mem_filter, decide_eq_true_eq] at h
  obtain ⟨hmem, hcategory, -, -, hany⟩ := h
  obtain ⟨context, hstored, hcontext⟩ := (Option.any_eq_true _ _).1 hany
  simp only [decide_eq_true_eq] at hcontext
  obtain ⟨howner, hevent, hbefore, hafter, -⟩ := hcontext
  exact ⟨hmem, hcategory, context, hstored, howner, hevent, hbefore, hafter⟩

theorem mem_of_boundExport {owner requestId : String}
    (h : boundExport hash db owner requestId = some job) : job ∈ db.jobs := by
  unfold boundExport at h
  split at h
  · exact Db.mem_of_job? h
  · exact List.mem_of_find?_eq_some h

theorem request_of_exportCall {request : ExportRequest} {reference : EventReference}
    {call : ExportCall} (h : exportCall request reference = .ok call) : call.request = request := by
  unfold exportCall at h
  cases hto : reference.windowTo with
  | none =>
    rw [hto] at h
    cases h
  | some windowTo =>
    rw [hto] at h
    dsimp only at h
    split_ifs at h
    rw [← Except.ok.inj h]

/-- A request that is bound is answered from its job. -/
theorem Reaches.replayExport {request : ExportRequest} (h : Reaches hash s op t)
    (hnow : op.time? = some now)
    (hjob : job ∈ t.db.jobs) :
    After (replayExport hash t now request job) fun t' out => Lands hash s op t' out := by
  unfold Media.replayExport
  by_cases hcategory : job.category ≠ .eventExport
  · rw [if_pos hcategory]
    exact h.finish (by simp)
  rw [if_neg hcategory]
  cases hcontext : exportContext hash t.settings job with
  | error error => exact h.finish (by simp)
  | ok context =>
    dsimp only
    split_ifs
    · exact h.finish (by simp)
    · cases hretry : setRetry hash t.settings job true with
      | error error => exact h.finish (by simp)
      | ok job' =>
        obtain ⟨hkeeps, hclip⟩ := keeps_setRetry hretry
        refine (h.step (.update job job' hjob hkeeps ?_)).startProcess hnow
        intro other hother hsome hsame
        rw [hkeeps.id]
        exact h.valid.clips other hother job hjob hsome (hsame.trans hclip)
    · exact h.startProcess hnow

theorem lands_requestExport {request : ExportRequest} {reference : Except Raise EventReference}
    (hdb : s.db.Valid) (hop : op = .requestExport now request reference) :
    After (requestExport hash s now request reference) fun t out => Lands hash s op t out := by
  have h : Reaches hash s op s := .refl hdb
  unfold requestExport
  by_cases hconfigured : s.settings.mediaServiceUrl = none
  · rw [if_pos hconfigured]
    exact h.finish (by simp)
  rw [if_neg hconfigured]
  cases hbound : boundExport hash s.db request.owner request.requestId with
  | some job => exact h.replayExport (by rw [hop]; rfl) (mem_of_boundExport hbound)
  | none =>
    dsimp only
    by_cases hretry : request.retryFailed = true
    · rw [if_pos hretry]
      exact h.finish (by simp)
    rw [if_neg hretry]
    cases reference with
    | error error => exact h.finish (by simp)
    | ok reference =>
      dsimp only
      cases hcall : exportCall request reference with
      | error error => exact h.finish (by simp)
      | ok call =>
        obtain rfl := request_of_exportCall hcall
        refine h.chooseExport (.inl ⟨now, reference, hop, hcall⟩) (by rw [hop]; rfl) hbound
          (fun job hjob => .inl hjob) ?_
        intro id hid
        obtain ⟨job, hjob, rfl⟩ := List.mem_map.1 hid
        obtain ⟨hmem, hcategory, context, hstored, hfor⟩ := mem_matchingExports hjob
        exact ⟨job, hdb.job?_eq hmem, hcategory, context, hstored, hfor⟩

theorem Reaches.readJob (h : Reaches hash s op t) :
    After (readJob hash t now job) fun t' out => Lands hash s op t' out := by
  unfold Media.readJob
  cases job.clipId with
  | none => exact h.finish (by simp)
  | some clipId =>
    exact h.ask trivial (by simp [Work.Chooses]) (by simp)

theorem Reaches.lookupExport {owner eventId : String} {before after : ℕ}
    {reference : Except Raise EventReference} (h : Reaches hash s op t) :
    After (lookupExport hash t now owner eventId before after reference) fun t' out =>
      Lands hash s op t' out := by
  unfold Media.lookupExport
  cases reference with
  | error error => exact h.finish (by simp)
  | ok _ =>
    dsimp only
    cases matchingExports hash t.settings t.db owner eventId before after with
    | nil => exact h.finish (by simp)
    | cons job _ =>
      dsimp only
      cases exportContext hash t.settings job with
      | error error => exact h.finish (by simp)
      | ok _ => exact h.readJob

theorem Reaches.readExport {owner eventId requestId : String} (h : Reaches hash s op t) :
    After (readExport hash t now owner eventId requestId) fun t' out => Lands hash s op t' out := by
  unfold Media.readExport
  cases boundExport hash t.db owner requestId with
  | none => exact h.finish (by simp)
  | some job =>
    dsimp only
    by_cases hcategory : job.category ≠ .eventExport
    · rw [if_pos hcategory]
      exact h.finish (by simp)
    rw [if_neg hcategory]
    cases exportContext hash t.settings job with
    | error error => exact h.finish (by simp)
    | ok context =>
      dsimp only
      split_ifs
      · exact h.finish (by simp)
      · exact h.readJob

end

/-! ## The sweep -/

section

variable {settings : Settings} {context : ClipContext} {now : ℤ} {row : EdgeV2Transition}

theorem updateJob_insertJob {job job' : MediaClipJob} (hid : job.id = db.nextId)
    (hsame : job'.id = job.id) : (db.insertJob job).updateJob job' = db.insertJob job' := by
  have hold : db.jobs.map (fun row => if row.id = job'.id then job' else row) = db.jobs := by
    refine (List.map_congr_left fun row hrow => ?_).trans (List.map_id _)
    have hlt := Db.lt_nextId hrow
    exact if_neg (by omega)
  unfold Db.updateJob Db.insertJob
  dsimp only
  rw [List.map_append, hold, List.map_singleton, if_pos hsame.symm]

/-- A transition gets a job that it has not had. -/
theorem queueRow_some (hdb : db.Valid) (h : queueRow hash settings context now db row = some db') :
    row.get "pitId" = .str settings.mediaPitId ∧
      ∃ category identifier, identify settings db context row = some (category, identifier) ∧
      db.jobOf? settings.mediaCameraId identifier = none ∧
        db' = db.insertJob (automaticJob hash settings now db context row category identifier) := by
  unfold queueRow at h
  split_ifs at h with hskip
  simp only [ne_eq, not_or, not_not] at hskip
  refine ⟨hskip.1, ?_⟩
  cases hidentify : identify settings db context row with
  | none =>
    rw [hidentify] at h
    cases h
  | some identified =>
    obtain ⟨category, identifier⟩ := identified
    rw [hidentify] at h
    dsimp only at h
    cases henqueue : enqueueEventClip hash settings now db identifier settings.mediaPitId category
        row.occurredAt false with
    | mk added found =>
      rw [henqueue] at h
      cases found with
      | none => cases h
      | some job =>
        dsimp only at h
        split_ifs at h with hqueued
        obtain ⟨hcategory, hclip, hsnapshot⟩ := hqueued
        rcases enqueueEventClip_cases henqueue with ⟨-, hnone⟩ | ⟨-, hfound⟩ | hnew
        · cases hnone
        · -- a job that is there already has its snapshot
          have hmem := (Db.mem_of_jobOf? hfound.symm).1
          have hautomatic := identify_automatic hidentify
          rw [← hcategory] at hautomatic
          have hcontext := (hdb.formed job hmem).queued hautomatic hclip
          rw [MediaClipJob.keys, hsnapshot] at hcontext
          exact absurd rfl hcontext
        · obtain ⟨job', rfl, hmissing, rfl, hjob⟩ := hnew
          obtain rfl := Option.some.inj hjob
          refine ⟨category, identifier, rfl, hmissing, ?_⟩
          rw [← Option.some.inj h]
          exact updateJob_insertJob rfl rfl

theorem identify_congr (halerts : db'.alerts = db.alerts) (hlinks : db'.links = db.links) :
    identify settings db' context row = identify settings db context row := by
  unfold identify
  rw [halerts, hlinks]

theorem Reaches.queueRows {cursor : Cursor} {session : String} {rows : List EdgeV2Transition}
    {limit : ℕ} {t : Service} (h : Reaches hash s op t)
    (hsweeps : Sweeps hash s op context now session)
    (htoken : cursor.sessionToken = cursorToken hash session context)
    (hcursor : s.db.cursors (context.siteId, context.edgeId) = some cursor)
    (halerts : t.db.alerts = s.db.alerts) (hlinks : t.db.links = s.db.links)
    (hrows : ∀ row ∈ rows, row ∈ s.db.freshTransitions s.settings context cursor now) :
    Reaches hash s op { t with db := queueRows hash s.settings context now limit rows t.db } := by
  induction rows generalizing limit t with
  | nil => cases limit <;> exact h
  | cons row rows ih =>
    have hrest : ∀ row ∈ rows, row ∈ s.db.freshTransitions s.settings context cursor now :=
      fun row hrow => hrows row (List.mem_cons_of_mem _ hrow)
    cases limit with
    | zero => exact h
    | succ limit =>
      unfold Media.queueRows
      cases hqueue : queueRow hash s.settings context now t.db row with
      | none => exact ih h halerts hlinks hrest
      | some db =>
        obtain ⟨hpit, category, identifier, hidentify, hmissing, rfl⟩ :=
          queueRow_some h.valid hqueue
        rw [identify_congr halerts hlinks] at hidentify
        have hqueues : Queues hash s op t.db context now cursor row category identifier :=
          ⟨⟨session, hsweeps, htoken⟩, hcursor, hrows row List.mem_cons_self, hpit, hidentify,
            hmissing⟩
        exact ih (h.step (.queue context now cursor row category identifier hqueues)) halerts hlinks
          hrest

theorem reaches_queueRecentEvents {uuid : String} (hdb : s.db.Valid)
    (henabled : s.settings.v2EventClipsEnabled = true) (hop : op = .sweep now uuid true) :
    Reaches hash s op
      { s with db := queueRecentEvents hash s.settings (s.token.getD uuid) now s.db } := by
  have h : Reaches hash s op s := .refl hdb
  unfold queueRecentEvents
  rw [if_neg (by simp [henabled])]
  cases hcontext : clipContext hash s.settings with
  | none => exact h
  | some context =>
    have hsweeps : Sweeps hash s op context now (s.token.getD uuid) :=
      ⟨⟨uuid, hop, rfl⟩, henabled, hcontext⟩
    dsimp only
    unfold queueInContext
    dsimp only
    cases hcursor : (s.db.cursors (context.siteId, context.edgeId)).filter fun cursor =>
        cursor.sessionToken = cursorToken hash (s.token.getD uuid) context with
    | none => exact h.step (.activate context now _ hsweeps)
    | some cursor =>
      obtain ⟨hstored, htoken⟩ := Option.filter_eq_some_iff.1 hcursor
      exact h.queueRows hsweeps (by simpa using htoken) hstored rfl rfl fun row hrow => hrow

end

/-! ## Steps -/

theorem eventId_ne_exportIdentifier (event : LoggedEvent) (owner requestId : String) :
    event.eventId ≠ exportIdentifier hash owner requestId := by
  intro heq
  have htake := congrArg (fun text => text.toList.take 3) heq
  unfold LoggedEvent.eventId exportIdentifier at htake
  split_ifs at htake <;> simp [String.toList_append] at htake

/-- A request that is not bound has no alias, and no job of its own. -/
theorem boundExport_none {owner requestId : String} (hdb : db.Valid) :
    boundExport hash db owner requestId = none ↔
      (∀ row ∈ db.aliases, row.owner = owner → row.requestId ≠ requestId) ∧
        ∀ job ∈ db.jobs, job.eventId ≠ exportIdentifier hash owner requestId := by
  unfold boundExport
  cases halias : db.aliases.find? fun row => row.owner = owner ∧ row.requestId = requestId with
  | some found =>
    have hkey := List.find?_some halias
    have hmem := List.mem_of_find?_eq_some halias
    simp only [decide_eq_true_eq] at hkey
    obtain ⟨job, hjob, hid⟩ := hdb.aliases found hmem
    dsimp only
    rw [← hid, hdb.job?_eq hjob]
    constructor
    · intro h
      cases h
    · intro h
      exact absurd hkey.2 (h.1 found hmem hkey.1)
  | none =>
    simp only [List.find?_eq_none, decide_eq_true_eq, not_and] at halias ⊢
    exact ⟨fun h => ⟨halias, h⟩, fun h => h.2⟩

/-- The job of a logged event binds no request. -/
theorem boundExport_insertJob {owner requestId : String} {job : MediaClipJob} (hdb : db.Valid)
    (hdb' : (db.insertJob job).Valid) (hevent : job.eventId ≠ exportIdentifier hash owner requestId)
    (h : boundExport hash db owner requestId = none) :
    boundExport hash (db.insertJob job) owner requestId = none := by
  rw [boundExport_none hdb] at h
  rw [boundExport_none hdb']
  refine ⟨h.1, fun row hrow => ?_⟩
  rcases Db.mem_insertJob.1 hrow with hold | rfl
  · exact h.2 row hold
  · exact hevent

/-- The session of the worker after a step. -/
def Service.nextToken (s : Service) : Op → Option String
  | .restart => none
  | .sweep _ uuid _ =>
    if s.settings.v2EventClipsEnabled then some (s.token.getD uuid) else none
  | _ => s.token

/-- What a step does. -/
structure Stepped (hash : Json → String) (s : Service) (op : Op) (t : Service) (out : Out) :
    Prop where
  token : t.token = s.nextToken op
  changes : Changes hash s op s.db t.db
  valid : t.db.Valid
  work : t.work.Sound hash t.db
  serving : ∀ call, t.work.Chooses call → s.Serves op call
  permitted : ∀ request, out = .requested (.createClip request) → Permitted hash s op t request

theorem Lands.stepped {t : Service} {out : Out} (h : Lands hash s op t out)
    (htoken : s.nextToken op = s.token) : Stepped hash s op t out :=
  ⟨h.token.trans htoken.symm, h.changes, h.valid, h.work, h.serving, h.permitted⟩

/-- An operation that takes the lock. -/
theorem stepped_locked {next : Next} (htoken : s.nextToken op = s.token)
    (h : After next fun t out => Lands hash s op t out) :
    After (locked s next) fun t out => Stepped hash s op t out := by
  unfold locked
  split_ifs
  · exact h.imp fun t out ht => ht.stepped htoken
  · exact after_none

/-- Facts are recorded, or the lock is released. -/
structure Records (s : Service) (op : Op) (t : Service) : Prop where
  token : t.token = s.nextToken op
  jobs : t.db.jobs = s.db.jobs
  aliases : t.db.aliases = s.db.aliases
  cursors : t.db.cursors = s.db.cursors
  work : t.work = s.work ∨ t.work = .idle

theorem stepped_record {t : Service} {out : Out} (hdb : s.db.Valid)
    (hsound : s.work.Sound hash s.db)
    (hrecords : Records s op t) (hout : ∀ request, out ≠ .requested request) :
    After (some (t, out)) fun t out => Stepped hash s op t out := by
  obtain ⟨htoken, hjobs, haliases, hcursors, hwork⟩ := hrecords
  have hchange : Change hash s op s.db t.db := .record hjobs haliases hcursors
  rw [after_some]
  refine ⟨htoken, .single hchange, hchange.valid hdb, ?_, ?_, fun request heq =>
    absurd heq (hout _)⟩
  · rcases hwork with hwork | hwork
    · rw [hwork]
      refine hsound.grows (hjobs ▸ .refl Follows.refl _) fun owner requestId h => ?_
      rw [boundExport_none hdb, ← hjobs, ← haliases] at h
      rw [boundExport_none (hchange.valid hdb)]
      exact h
    · rw [hwork]
      trivial
  · intro call hchooses
    rcases hwork with hwork | hwork
    · exact .inr (hwork ▸ hchooses)
    · rw [hwork] at hchooses
      obtain ⟨_, _, _, hidle⟩ := hchooses
      cases hidle

/-- The job of a logged event is added, whoever holds the lock. -/
theorem stepped_enqueue {now : ℤ} {event : LoggedEvent} (hdb : s.db.Valid)
    (hsound : s.work.Sound hash s.db) :
    After (step hash s (.enqueue now event)) fun t out =>
      Stepped hash s (.enqueue now event) t out := by
  unfold step
  rw [after_some]
  cases henqueue : enqueueEventClip hash s.settings now s.db event.eventId event.pitId
    event.category
      event.occurredAt false with
  | mk db found =>
    rcases enqueueEventClip_cases henqueue with ⟨rfl, -⟩ | ⟨rfl, -⟩ | ⟨job, rfl, hmissing, rfl, -⟩
    · exact ⟨rfl, .refl, hdb, hsound, fun _ => .inr, fun _ heq => by cases heq⟩
    · exact ⟨rfl, .refl, hdb, hsound, fun _ => .inr, fun _ heq => by cases heq⟩
    · have hchange : Change hash s (.enqueue now event) s.db _ := .enqueue now event false hmissing
      have hvalid := hchange.valid hdb
      refine ⟨rfl, .single hchange, hvalid, hsound.grows (.of_append Follows.refl _ _) ?_,
        fun _ => .inr, fun _ heq => by cases heq⟩
      exact fun owner requestId => boundExport_insertJob hdb hvalid
        (eventId_ne_exportIdentifier event owner requestId)

theorem stepped_sweep {now : ℤ} {uuid : String} {stored : Bool} (hdb : s.db.Valid) :
    After (step hash s (.sweep now uuid stored)) fun t out =>
      Stepped hash s (.sweep now uuid stored) t out := by
  unfold step locked
  dsimp only
  split_ifs with hidle
  · refine after_some.2 ?_
    have hwork : (sweep hash s now uuid stored).work = .idle := by
      unfold sweep
      split_ifs <;> exact hidle
    have htoken : (sweep hash s now uuid stored).token = s.nextToken (.sweep now uuid stored) := by
      unfold sweep Service.nextToken
      split_ifs <;> rfl
    have hreaches :
        Changes hash s (.sweep now uuid stored) s.db (sweep hash s now uuid stored).db := by
      unfold sweep
      split_ifs with henabled hstored
      · rw [hstored]
        exact (reaches_queueRecentEvents hdb henabled rfl).changes
      · exact .refl
      · exact .refl
    refine ⟨htoken, hreaches, hreaches.valid hdb, by rw [hwork]; trivial, ?_,
      fun _ heq => by cases heq⟩
    rintro call ⟨_, _, _, hchooses⟩
    rw [hwork] at hchooses
    cases hchooses
  · exact after_none

/-- **A step does nothing to the tables but a few changes, and leaves the holder of the lock with
what it knows.** -/
theorem step_stepped (hdb : s.db.Valid) (hsound : s.work.Sound hash s.db) :
    After (step hash s op) fun t out => Stepped hash s op t out := by
  have h : Reaches hash s op s := .refl hdb
  cases op with
  | configure settings =>
    unfold step
    exact stepped_record hdb hsound ⟨rfl, rfl, rfl, rfl, .inl rfl⟩ (by simp)
  | restart =>
    unfold step
    exact stepped_record hdb hsound ⟨rfl, rfl, rfl, rfl, .inr rfl⟩ (by simp)
  | abort =>
    unfold step finish
    dsimp only
    split_ifs
    · exact after_none
    · exact stepped_record hdb hsound ⟨rfl, rfl, rfl, rfl, .inr rfl⟩ (by simp)
  | transition row =>
    unfold step
    dsimp only
    split_ifs
    · exact after_none
    · exact stepped_record hdb hsound ⟨rfl, rfl, rfl, rfl, .inl rfl⟩ (by simp)
  | alert alert link =>
    unfold step
    exact stepped_record hdb hsound ⟨rfl, rfl, rfl, rfl, .inl rfl⟩ (by simp)
  | enqueue now event => exact stepped_enqueue hdb hsound
  | sweep now uuid stored => exact stepped_sweep hdb
  | process now jobId => exact stepped_locked rfl (h.startProcess rfl)
  | requestClip now eventId useEventTime event =>
    unfold step
    dsimp only
    split_ifs with hevent
    · refine stepped_locked rfl (h.requestClip rfl fun e he => ?_)
      rw [Option.mem_def.1 he] at hevent
      simpa using hevent
    · exact after_none
  | getClip clipId => exact stepped_locked rfl (h.ask trivial (by simp [Work.Chooses]) (by simp))
  | getRecording clipId =>
    refine stepped_locked rfl ?_
    unfold getRecording
    cases s.db.jobOfClip? clipId with
    | none => exact h.finish (by simp)
    | some job =>
      dsimp only
      split_ifs
      · exact h.finish (by simp)
      · exact h.ask trivial (by simp [Work.Chooses]) (by simp)
  | deleteClip clipId => exact stepped_locked rfl (h.ask trivial (by simp [Work.Chooses]) (by simp))
  | requestExport now request reference => exact stepped_locked rfl (lands_requestExport hdb rfl)
  | lookupExport now owner eventId before after reference => exact stepped_locked rfl h.lookupExport
  | readExport now owner eventId requestId => exact stepped_locked rfl h.readExport
  | answer now answer =>
    have hstepped : ∀ {next : Next},
        After next (fun t out => Lands hash s (.answer now answer) t out) →
          After next fun t out => Stepped hash s (.answer now answer) t out :=
      fun hnext => hnext.imp fun t out ht => ht.stepped rfl
    unfold step
    cases hwork : s.work with
    | idle => exact after_none
    | processing jobId dispatch caller => exact hstepped h.endProcess
    | refreshing jobId clipId reader => exact hstepped (lands_endRefresh hdb hwork hsound)
    | reading clipId => exact hstepped h.endRead
    | deleting clipId => exact hstepped (lands_endDelete hdb hwork)

/-! ## Runs -/

/-- What holds at any time: the tables are valid, and the holder of the lock knows what it needs. -/
structure Service.Sound (hash : Json → String) (s : Service) : Prop where
  db : s.db.Valid
  work : s.work.Sound hash s.db

theorem Service.Sound.step {s' : Service} {out : Out} (h : s.Sound hash)
    (hstep : step hash s op = some (s', out)) : s'.Sound hash := by
  have hstepped := step_stepped h.db h.work s' out hstep
  exact ⟨hstepped.valid, hstepped.work⟩

theorem run_sound {s₀ : Service} {es : List ServiceStep} (h : Run (step hash) s₀ es s)
    (hsound : s₀.Sound hash) : s.Sound hash :=
  h.invariant hsound fun _ _ _ _ hs hstep => hs.step hstep

theorem changes_of_step {s' : Service} {out : Out} (h : s.Sound hash)
    (hstep : step hash s op = some (s', out)) : Changes hash s op s.db s'.db :=
  (step_stepped h.db h.work s' out hstep).changes

/-- Rows stay over a run, each as it may become. -/
theorem run_grows {R : MediaClipJob → MediaClipJob → Prop} {s₀ : Service} {es : List ServiceStep}
    (h : Run (step hash) s₀ es s) (hsound : s₀.Sound hash)
    (htrans : ∀ a b c, R a b → R b c → R a c) (hkeeps : ∀ row job, Keeps row job → R row job)
    (hdelete : ∀ e ∈ es, e.pre.Sound hash → ∀ row clipId now, e.pre.work = .deleting clipId →
      e.op = .answer now .removed → e.pre.db.jobOfClip? clipId = some row →
        R row (deletedJob now row)) :
    Grows R s₀.db.jobs s.db.jobs := by
  induction h with
  | nil => exact .refl (fun job => hkeeps job job (Keeps.refl job)) _
  | snoc h hs ih =>
    have hpre := run_sound h hsound
    refine (ih fun e he => hdelete e (List.mem_append_left _ he)).trans htrans ?_
    exact (changes_of_step hpre hs).grows hpre.db htrans hkeeps
      (hdelete _ (List.mem_append_right _ (List.mem_singleton_self _)) hpre)

end ScrapMonitoring.Media
