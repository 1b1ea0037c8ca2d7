import ScrapMonitoring.Media.Automatic

/-!
# Requests for exports

A request for an export is bound to its job when its alias is stored. `Binds` is what is then true
of the job: it is a new one, or one for the same event, spans, window and media source whose file is
under way or can be downloaded. `export_bound` follows the requests of all users through a run: none
is ever bound to another job, its job stays one for the same, and a request that is made again for
something else is refused.
-/

namespace ScrapMonitoring.Media

variable {hash : Json → String} {s : Service} {op : Op} {db db' : Db} {job job' : MediaClipJob}
variable {call : ExportCall} {settings : Settings} {now : ℤ}

/-! ## What a job serves -/

/-- The job is one for the event, the spans and the window of the request, for the same user and
with the same media source. -/
def Serving (hash : Json → String) (settings : Settings) (call : ExportCall) (job : MediaClipJob) :
    Prop :=
  job.category = .eventExport ∧ ∃ context, job.keys.rangeExport = some context ∧ context.isOf call ∧
    context.source = exportSource hash settings

theorem Serving.follows (h : Serving hash settings call job) (hfollows : Follows job job') :
    Serving hash settings call job' := by
  obtain ⟨hcategory, context, hstored, hof, hsource⟩ := h
  obtain ⟨context', hstored', hsettled⟩ := hfollows.rangeExport_some hstored
  obtain ⟨-, other, hother, hof'⟩ := Matching.follows ⟨hcategory, context, hstored, hof⟩ hfollows
  obtain rfl := Option.some.inj (hother.symm.trans hstored')
  refine ⟨hfollows.category.trans hcategory, other, hstored', hof', ?_⟩
  simp only [ExportContext.settled, ExportContext.mk.injEq] at hsettled
  obtain ⟨-, -, -, -, -, -, -, -, hsource', -⟩ := hsettled
  exact hsource'.trans hsource

theorem serving_newExportJob :
    Serving hash settings call (newExportJob hash settings db call) :=
  ⟨rfl, call.context hash settings, rfl, ⟨⟨rfl, rfl, rfl, rfl⟩, rfl, rfl⟩, rfl⟩

theorem source_of_exportContext {context : ExportContext}
    (h : exportContext hash settings job = .ok context) :
    context.source = exportSource hash settings := by
  unfold exportContext at h
  cases hstored : job.keys.rangeExport with
  | none =>
    rw [hstored] at h
    cases h
  | some stored =>
    rw [hstored] at h
    dsimp only at h
    split_ifs at h with hsource
    simp only [ne_eq, not_or, not_not] at hsource
    rw [← Except.ok.inj h]
    exact hsource.1

/-- The file of the job is under way, or it is ready and has not expired. -/
def Usable (now : ℤ) (job : MediaClipJob) : Prop :=
  job.status.inFlight = true ∨
    job.status = .clip .ready ∧ ∃ detail, job.keys.clip = some (.detail detail) ∧
      detail.status = .ready ∧ ∃ expiresAt, detail.expiresAt = some expiresAt ∧ now < expiresAt

theorem usable_of_reusable (h : reusable hash settings now job = true) : Usable now job := by
  unfold reusable at h
  rw [decide_eq_true_eq] at h
  rcases h with hflight | ⟨hready, hpath⟩
  · exact .inl hflight
  · refine .inr ⟨hready, ?_⟩
    unfold exportResponse at hpath
    cases hcontext : exportContext hash settings job with
    | error error =>
      rw [hcontext] at hpath
      cases hpath
    | ok context =>
      rw [hcontext] at hpath
      cases hclip : job.keys.clip with
      | none => simp [hclip, Except.map, Except.toOption] at hpath
      | some clip =>
        cases clip with
        | receipt receipt => simp [hclip, Except.map, Except.toOption] at hpath
        | detail detail =>
          simp only [hclip, Except.map, Except.toOption, Option.any_some,
            EventExportResponse.describe, downloadPath] at hpath
          split_ifs at hpath with hdownload
          · obtain ⟨hstatus, -, hexpires⟩ := hdownload
            obtain ⟨expiresAt, hsome, hlt⟩ := (Option.any_eq_true _ _).1 hexpires
            exact ⟨detail, rfl, hstatus, expiresAt, hsome, by simpa using hlt⟩
          · cases hpath

/-! ## Bindings stay -/

/-- A step adds aliases only for requests that are not bound. -/
theorem Change.aliases (h : Change hash s op db db') :
    db'.aliases = db.aliases ∨ ∃ row, db'.aliases = db.aliases ++ [row] ∧
      boundExport hash db row.owner row.requestId = none := by
  cases h with
  | record hjobs haliases => exact .inl haliases
  | activate | queue | enqueue | update | delete => exact .inl rfl
  | create call hserves hbound hmissing hnew =>
    obtain ⟨rfl, -⟩ := insertAlias_some hnew
    exact .inr ⟨_, rfl, hbound⟩
  | reuse call other context now hserves hnow hbound hother hcategory hcontext hof hreusable
    hcurrent hnew =>
    obtain ⟨rfl, -⟩ := insertAlias_some hnew
    exact .inr ⟨_, rfl, hbound⟩

/-- The job of a request stays its job. -/
theorem boundExport_grows {owner requestId : String} (hgrows : Grows Follows db.jobs db'.jobs)
    (haliases : db'.aliases = db.aliases ∨ ∃ row, db'.aliases = db.aliases ++ [row] ∧
      boundExport hash db row.owner row.requestId = none)
    (h : boundExport hash db owner requestId = some job) :
    ∃ job', boundExport hash db' owner requestId = some job' ∧ Follows job job' := by
  have hfind : db'.aliases.find? (fun row => row.owner = owner ∧ row.requestId = requestId) =
      db.aliases.find? fun row => row.owner = owner ∧ row.requestId = requestId := by
    rcases haliases with heq | ⟨row, heq, hnone⟩
    · rw [heq]
    · rw [heq, List.find?_append]
      have hother : ¬(row.owner = owner ∧ row.requestId = requestId) := by
        rintro ⟨rfl, rfl⟩
        rw [hnone] at h
        cases h
      simp [hother]
  unfold boundExport at h ⊢
  rw [hfind]
  cases halias : db.aliases.find? fun row => row.owner = owner ∧ row.requestId = requestId with
  | some found =>
    rw [halias] at h
    exact hgrows.find?_some (fun a b hab => by simp [hab.id]) h
  | none =>
    rw [halias] at h
    exact hgrows.find?_some (fun a b hab => by simp [hab.eventId]) h

theorem Changes.bound {owner requestId : String} (h : Changes hash s op s.db db) (hdb : s.db.Valid)
    (hbound : boundExport hash s.db owner requestId = some job) :
    ∃ job', boundExport hash db owner requestId = some job' ∧ Follows job job' := by
  induction h with
  | refl => exact ⟨job, hbound, Follows.refl job⟩
  | tail hchanges hchange ih =>
    obtain ⟨job', hbound', hfollows⟩ := ih
    have hvalid := Changes.valid hchanges hdb
    have hgrows := hchange.grows hvalid (fun _ _ => Keeps.follows) fun row clipId now _ _ hrow =>
      follows_deletedJob (hdb.formed row (Db.mem_of_jobOfClip? hrow).1)
    obtain ⟨job'', hbound'', hfollows'⟩ := boundExport_grows hgrows hchange.aliases hbound'
    exact ⟨job'', hbound'', hfollows.trans hfollows'⟩

theorem run_bound {s₀ : Service} {es : List ServiceStep} {owner requestId : String}
    (h : Run (step hash) s₀ es s) (hsound : s₀.Sound hash)
    (hbound : boundExport hash s₀.db owner requestId = some job) :
    ∃ job', boundExport hash s.db owner requestId = some job' ∧ Follows job job' := by
  induction h with
  | nil => exact ⟨job, hbound, Follows.refl job⟩
  | snoc h hs ih =>
    obtain ⟨job', hbound', hfollows⟩ := ih
    have hpre := run_sound h hsound
    obtain ⟨job'', hbound'', hfollows'⟩ := (changes_of_step hpre hs).bound hpre.db hbound'
    exact ⟨job'', hbound'', hfollows.trans hfollows'⟩

/-! ## Bindings -/

/-- The request is bound: to a new job, or to one that serves it and is usable. -/
structure Binds (hash : Json → String) (s : Service) (op : Op) (db : Db) (row : EventExportAlias)
    (call : ExportCall) : Prop where
  owner : row.owner = call.request.owner
  requestId : row.requestId = call.request.requestId
  serves : s.Serves op call
  job : ∃ job, boundExport hash db row.owner row.requestId = some job ∧ job.id = row.jobId ∧
    Serving hash s.settings call job
  new : (∀ job ∈ s.db.jobs, job.id ≠ row.jobId) ∨ ∃ now job, op.time? = some now ∧
    Current hash s op now job ∧ job.id = row.jobId ∧ Serving hash s.settings call job ∧
      Usable now job

theorem Binds.of_bound {row : EventExportAlias} (h : Binds hash s op db row call)
    (hbound : ∀ owner requestId job, boundExport hash db owner requestId = some job →
      ∃ job', boundExport hash db' owner requestId = some job' ∧ Follows job job') :
    Binds hash s op db' row call := by
  obtain ⟨job, hjob, hid, hserving⟩ := h.job
  obtain ⟨job', hjob', hfollows⟩ := hbound _ _ job hjob
  exact ⟨h.owner, h.requestId, h.serves,
    ⟨job', hjob', hfollows.id.trans hid, hserving.follows hfollows⟩, h.new⟩

/-- The alias that is stored is found. -/
theorem boundExport_insertAlias {new : EventExportAlias} (hvalid : db.Valid) (hjob : job ∈ db.jobs)
    (hid : job.id = new.jobId) (hnew : db.insertAlias new = some db') :
    boundExport hash db' new.owner new.requestId = some job := by
  obtain ⟨rfl, hother⟩ := insertAlias_some hnew
  have hnone : db.aliases.find? (fun row => row.owner = new.owner ∧ row.requestId = new.requestId) =
      none := by
    rw [List.find?_eq_none]
    intro row hrow
    simpa using hother row hrow
  unfold boundExport
  simp only [List.find?_append, hnone, Option.none_or, List.find?_cons, and_self, decide_true]
  rw [← hid]
  exact hvalid.job?_eq hjob

theorem Change.binds (h : Change hash s op db db') (hdb : db.Valid) (hs : Changes hash s op s.db db)
    (hsdb : s.db.Valid) :
    ∀ row ∈ db'.aliases, row ∈ db.aliases ∨ ∃ call, Binds hash s op db' row call := by
  intro row hrow
  cases h with
  | record hjobs haliases => exact .inl (haliases ▸ hrow)
  | activate | queue | enqueue | update | delete => exact .inl hrow
  | create call hserves hbound hmissing hnew =>
    have hvalid : (db.insertJob (newExportJob hash s.settings db call)).Valid :=
      hdb.insertJob formed_newExportJob rfl rfl hmissing
    have hfound : boundExport hash db' call.request.owner call.request.requestId =
        some (newExportJob hash s.settings db call) :=
      boundExport_insertAlias hvalid (Db.mem_insertJob.2 (.inr rfl)) rfl hnew
    obtain ⟨rfl, -⟩ := insertAlias_some hnew
    rcases List.mem_append.1 hrow with hold | hlast
    · exact .inl hold
    · rw [List.mem_singleton.1 hlast]
      refine .inr ⟨call, rfl, rfl, hserves, ⟨_, hfound, rfl, serving_newExportJob⟩,
        .inl fun job hjob => ?_⟩
      obtain ⟨job', hjob', hfollows⟩ := (Changes.grows_follows hs hsdb).mem hjob
      have hlt := Db.lt_nextId hjob'
      rw [hfollows.id] at hlt
      exact hlt.ne
  | reuse call job context now hserves hnow hbound hjob hcategory hcontext hof hreusable hcurrent
    hnew =>
    have hfound : boundExport hash db' call.request.owner call.request.requestId = some job :=
      boundExport_insertAlias hdb hjob rfl hnew
    obtain ⟨rfl, -⟩ := insertAlias_some hnew
    rcases List.mem_append.1 hrow with hold | hlast
    · exact .inl hold
    · rw [List.mem_singleton.1 hlast]
      have hserving : Serving hash s.settings call job :=
        ⟨hcategory, context, exportContext_stored hcontext, hof, source_of_exportContext hcontext⟩
      exact .inr ⟨call, rfl, rfl, hserves, ⟨job, hfound, rfl, hserving⟩,
        .inr ⟨now, job, hnow, hcurrent, rfl, hserving, usable_of_reusable hreusable⟩⟩

theorem Changes.binds (h : Changes hash s op s.db db) (hdb : s.db.Valid) :
    ∀ row ∈ db.aliases, row ∈ s.db.aliases ∨ ∃ call, Binds hash s op db row call := by
  induction h with
  | refl => exact fun row => .inl
  | tail hchanges hchange ih =>
    have hvalid := Changes.valid hchanges hdb
    have hgrows := hchange.grows hvalid (fun _ _ => Keeps.follows) fun row clipId now _ _ hrow =>
      follows_deletedJob (hdb.formed row (Db.mem_of_jobOfClip? hrow).1)
    intro row hrow
    rcases hchange.binds hvalid hchanges hdb row hrow with hold | hbinds
    · rcases ih row hold with hfirst | ⟨call, hbinds⟩
      · exact .inl hfirst
      · exact .inr ⟨call, hbinds.of_bound fun _ _ _ => boundExport_grows hgrows hchange.aliases⟩
    · exact .inr hbinds

theorem run_binds {s₀ : Service} {es : List ServiceStep} (h : Run (step hash) s₀ es s)
    (hsound : s₀.Sound hash) :
    ∀ row ∈ s.db.aliases, row ∈ s₀.db.aliases ∨ ∃ before e after, es = before ++ e :: after ∧
      ∃ call, Binds hash e.pre e.op s.db row call := by
  induction h with
  | nil => exact fun row => .inl
  | snoc h hs ih =>
    have hpre := run_sound h hsound
    have hchanges := changes_of_step hpre hs
    intro row hrow
    rcases hchanges.binds hpre.db row hrow with hold | ⟨call, hbinds⟩
    · rcases ih row hold with hfirst | ⟨before, e, after, rfl, call, hbinds⟩
      · exact .inl hfirst
      · exact .inr ⟨before, e, after ++ [_], List.append_assoc _ _ _, call,
          hbinds.of_bound fun _ _ _ => hchanges.bound hpre.db⟩
    · exact .inr ⟨_, _, [], rfl, call, hbinds⟩

/-- A request that is being served has been made. -/
theorem run_chooses {s₀ : Service} {es : List ServiceStep} (h : Run (step hash) s₀ es s)
    (hsound : s₀.Sound hash) (hidle : s₀.work = .idle) (hchooses : s.work.Chooses call) :
    ∃ f ∈ es, f.op.Requests call := by
  induction h with
  | nil =>
    rw [hidle] at hchooses
    obtain ⟨_, _, _, hwork⟩ := hchooses
    cases hwork
  | snoc h hs ih =>
    have hpre := run_sound h hsound
    rcases (step_stepped hpre.db hpre.work _ _ hs).serving call hchooses with hrequests | hbefore
    · exact ⟨_, List.mem_append_right _ (List.mem_singleton_self _), hrequests⟩
    · obtain ⟨f, hf, hrequests⟩ := ih hbefore
      exact ⟨f, List.mem_append_left _ hf, hrequests⟩

/-! ## Replays -/

/-- The job is recorded as one for the event and the spans of the request, with the media source of
the settings. -/
def Recorded (hash : Json → String) (settings : Settings) (request : ExportRequest)
    (job : MediaClipJob) : Prop :=
  ∃ context, job.keys.rangeExport = some context ∧ context.isFor request ∧
    context.source = exportSource hash settings

/-- The error is a conflict. -/
def Raise.Conflict : Raise → Prop
  | .http statusCode _ => statusCode = 409
  | .media error => error.statusCode = 409
  | .crash => False

theorem conflict_of_exportContext {error : MediaServiceError}
    (h : exportContext hash settings job = .error error) : (Raise.media error).Conflict := by
  unfold exportContext at h
  cases hstored : job.keys.rangeExport with
  | none =>
    rw [hstored] at h
    rw [← Except.error.inj h]
    rfl
  | some stored =>
    rw [hstored] at h
    dsimp only at h
    split_ifs at h
    · rw [← Except.error.inj h]
      rfl
    · rw [← Except.error.inj h]
      rfl

/-- A request that is bound to a job for something else is refused, and changes nothing. -/
theorem replayExport_conflict {request : ExportRequest}
    (h : ¬Recorded hash s.settings request job) :
    ∃ error, replayExport hash s now request job = finish s (.raised error) ∧ error.Conflict := by
  unfold replayExport
  by_cases hcategory : job.category ≠ .eventExport
  · rw [if_pos hcategory]
    exact ⟨_, rfl, rfl⟩
  rw [if_neg hcategory]
  cases hcontext : exportContext hash s.settings job with
  | error error => exact ⟨_, rfl, conflict_of_exportContext hcontext⟩
  | ok context =>
    dsimp only
    by_cases hfor : (context.owner, context.eventId, context.before, context.after) ≠
        (request.owner, request.eventId, request.beforeSeconds, request.afterSeconds)
    · rw [if_pos hfor]
      exact ⟨_, rfl, rfl⟩
    · simp only [ne_eq, Prod.mk.injEq, not_not] at hfor
      obtain ⟨howner, hevent, hbefore, hafter⟩ := hfor
      exact absurd ⟨context, exportContext_stored hcontext, ⟨howner, hevent, hbefore, hafter⟩,
        source_of_exportContext hcontext⟩ h

/-- What a replay for something else does: it is refused, unless no media service is configured at
all, and leaves the tables as they are. -/
theorem step_replay {request : ExportRequest} {reference : Except Raise EventReference}
    {s' : Service}
    {out : Out} (hstep : step hash s (.requestExport now request reference) = some (s', out))
    (hbound : boundExport hash s.db request.owner request.requestId = some job)
    (hrecorded : ¬Recorded hash s.settings request job) :
    s'.db = s.db ∧ ∃ error, out = .raised error ∧
      (s.settings.mediaServiceUrl ≠ none → error.Conflict) := by
  unfold step locked at hstep
  dsimp only at hstep
  split_ifs at hstep
  unfold requestExport at hstep
  by_cases hconfigured : s.settings.mediaServiceUrl = none
  · rw [if_pos hconfigured] at hstep
    obtain ⟨rfl, rfl⟩ := Prod.mk.inj (Option.some.inj hstep)
    exact ⟨rfl, _, rfl, fun hsome => absurd hconfigured hsome⟩
  · rw [if_neg hconfigured, hbound] at hstep
    obtain ⟨error, hreplay, hconflict⟩ :
        ∃ error, replayExport hash s now request job = finish s (.raised error) ∧ error.Conflict :=
      replayExport_conflict hrecorded
    dsimp only at hstep
    rw [hreplay] at hstep
    obtain ⟨rfl, rfl⟩ := Prod.mk.inj (Option.some.inj hstep)
    exact ⟨rfl, error, rfl, fun _ => hconflict⟩

/-! ## Runs -/

/-- **A request for an export is bound once, to a job for the same**: over every run, the job of a
request stays its job, with the export it was made for; an alias that is new was bound for a request
of its user to a new job, or to one that served the request and was usable; and a request identifier
that is used again for something else is refused and changes nothing. -/
theorem export_bound {s₀ : Service} {es : List ServiceStep} (h : Run (step hash) s₀ es s)
    (hsound : s₀.Sound hash) (hidle : s₀.work = .idle) :
    (∀ e ∈ es, ∀ owner requestId job, boundExport hash e.pre.db owner requestId = some job →
      ∃ job', boundExport hash s.db owner requestId = some job' ∧ job'.id = job.id ∧
        job'.context.rangeExport = job.context.rangeExport) ∧
      (∀ row ∈ s.db.aliases, row ∈ s₀.db.aliases ∨ ∃ before e after, es = before ++ e :: after ∧
        ∃ call, (∃ f ∈ before ++ [e], f.op.Requests call) ∧ Binds hash e.pre e.op s.db row call) ∧
        ∀ e ∈ es, ∀ now request reference, e.op = .requestExport now request reference →
          ∀ job, boundExport hash e.pre.db request.owner request.requestId = some job →
            ¬Recorded hash e.pre.settings request job →
              e.post.db = e.pre.db ∧ ∃ error, e.out = .raised error ∧
                (e.pre.settings.mediaServiceUrl ≠ none → error.Conflict) := by
  refine ⟨fun e he owner requestId job hbound => ?_, fun row hrow => ?_, ?_⟩
  · obtain ⟨before, after, rfl⟩ := List.append_of_mem he
    obtain ⟨hpre, hstep⟩ := h.of_append_cons
    have hrest : Run (step hash) e.pre (e :: after) s := h.rest.cons hstep
    obtain ⟨job', hbound', hfollows⟩ := run_bound hrest (run_sound hpre hsound) hbound
    exact ⟨job', hbound', hfollows.id, hfollows.rangeExport⟩
  · rcases run_binds h hsound row hrow with hold | ⟨before, e, after, rfl, call, hbinds⟩
    · exact .inl hold
    · refine .inr ⟨before, e, after, rfl, call, ?_, hbinds⟩
      obtain ⟨hpre, hstep⟩ := h.of_append_cons
      rcases hbinds.serves with hrequests | hchooses
      · exact ⟨e, List.mem_append_right _ (List.mem_singleton_self _), hrequests⟩
      · obtain ⟨f, hf, hrequests⟩ := run_chooses hpre hsound hidle hchooses
        exact ⟨f, List.mem_append_left _ hf, hrequests⟩
  · intro e he now request reference hop job hbound hrecorded
    have hstep := h.step_of_mem he
    rw [hop] at hstep
    exact step_replay hstep hbound hrecorded

/-! ## A run -/

def sampleExportReceipt : ClipReceipt where
  clipId := "clip-1"
  eventId := exportIdentifier pairHash "alice" "r-1"
  cameraId := "cam-1"
  status := .processing
  acceptedAt := seconds 1700000700
  requestedStartAt := seconds 1700000000
  requestedEndAt := seconds 1700000060
  eventAt := none
  requestMode := some .timeRange
  attemptCount := some 1
  window := by decide
  event_in_window := by simp
  attempt_pos := by simp

def sampleExportDetail : ClipDetail where
  toClipReceipt := sampleExportReceipt
  coverage := none
  actualStartAt := none
  actualEndAt := none
  gaps := []
  completedAt := none
  expiresAt := none
  contentPath := none
  error := none
  availableIntervals := []
  extractionMode := none
  sizeBytes := none
  range_gaps := by simp
  content := by simp
  actual_interval := by simp
  ready h := by cases h

def sampleReference : EventReference where
  windowState := .closed
  windowFrom := seconds 1700000000
  windowTo := some (seconds 1700000060)
  pitId := "pit-01"
  occurredAt := seconds 1700000030
  now := seconds 1700000600

/-- A user requests an export, requests it again under another identifier while it is under way, and
uses the first identifier again for another event. -/
def sampleRequests : List Op :=
  [.requestExport (seconds 1700000600) ⟨"alice", "evt-1", "r-1", 30, 30, false⟩
    (.ok sampleReference), .answer (seconds 1700000601) (.accepted 202 sampleExportReceipt),
    .requestExport (seconds 1700000610) ⟨"alice", "evt-1", "r-2", 30, 30, false⟩
      (.ok sampleReference),
    .answer (seconds 1700000611) (.found sampleExportDetail),
    .requestExport (seconds 1700000620) ⟨"alice", "evt-2", "r-1", 30, 30, false⟩
      (.ok sampleReference)]

theorem export_bound_sample : ∃ es s, Run (step pairHash) sampleService es s ∧
    s.db.jobs.length = 1 ∧
    s.db.aliases = [⟨"alice", "r-1", 1⟩, ⟨"alice", "r-2", 1⟩] ∧
    (∃ e ∈ es, e.out = .raised requestConflict) ∧
    ∀ row ∈ s.db.aliases, ∃ before e after, es = before ++ e :: after ∧
      ∃ call, (∃ f ∈ before ++ [e], f.op.Requests call) ∧
      Binds pairHash e.pre e.op s.db row call := by
  have hresult : (exec (step pairHash) sampleService sampleRequests).map (fun r =>
      (r.2.db.jobs.length, r.2.db.aliases, r.1.any fun e => e.out = .raised requestConflict)) =
      some (1, [⟨"alice", "r-1", 1⟩, ⟨"alice", "r-2", 1⟩], true) := by decide +kernel
  obtain ⟨⟨es, s⟩, hexec, hs⟩ := Option.map_eq_some_iff.1 hresult
  simp only [Prod.mk.injEq, List.any_eq_true, decide_eq_true_eq] at hs
  obtain ⟨hjobs, haliases, hconflict⟩ := hs
  have hrun := Run.of_exec hexec
  refine ⟨es, s, hrun, hjobs, haliases, hconflict, fun row hrow => ?_⟩
  rcases (export_bound hrun sampleService_fresh.sound rfl).2.1 row hrow with hold | hbinds
  · cases hold
  · exact hbinds

end ScrapMonitoring.Media
