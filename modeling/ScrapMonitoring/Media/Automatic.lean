import ScrapMonitoring.Foundations.Session
import ScrapMonitoring.Media.Changes

/-!
# Automatic clips

The worker queues a job for a transition of the attached device while its session is active.
`Queued` is what a sweep has seen when it queues a job, `Activates` what it has done when it
activates the cursor, and `automatic_once_in_time` follows them through the runs of a fresh service:
every automatic job goes back to one sweep, the cursor of this sweep to one activation in the same
session, and a clip of an automatic job is requested only in the context that the job was queued
from.
-/

namespace ScrapMonitoring.Media

variable {hash : Json → String} {s : Service} {op : Op} {db db' : Db} {job : MediaClipJob}

/-! ## Queued jobs -/

/-- The step has queued the job. -/
def Queued (hash : Json → String) (s : Service) (op : Op) (context : ClipContext) (now : ℤ)
    (cursor : Cursor) (row : EdgeV2Transition) (job : MediaClipJob) : Prop :=
  ∃ db category identifier, Queues hash s op db context now cursor row category identifier ∧
    Follows (automaticJob hash s.settings now db context row category identifier) job

theorem Queued.follows {context : ClipContext} {now : ℤ} {cursor : Cursor} {row : EdgeV2Transition}
    {job' : MediaClipJob} (h : Queued hash s op context now cursor row job)
    (hfollows : Follows job job') :
    Queued hash s op context now cursor row job' := by
  obtain ⟨db, category, identifier, hqueues, hjob⟩ := h
  exact ⟨db, category, identifier, hqueues, hjob.trans hfollows⟩

/-- An automatic job was there before, or has been queued. -/
def Traced (hash : Json → String) (s : Service) (op : Op) (job : MediaClipJob) : Prop :=
  (∃ row ∈ s.db.jobs, Follows row job) ∨
    ∃ context now cursor row, Queued hash s op context now cursor row job

theorem Traced.follows {job' : MediaClipJob} (h : Traced hash s op job)
    (hfollows : Follows job job') :
    Traced hash s op job' := by
  rcases h with ⟨row, hrow, hjob⟩ | ⟨context, now, cursor, row, hqueued⟩
  · exact .inl ⟨row, hrow, hjob.trans hfollows⟩
  · exact .inr ⟨context, now, cursor, row, hqueued.follows hfollows⟩

theorem Change.traced (h : Change hash s op db db') (hdb : db.Valid)
    (htraced : ∀ job ∈ db.jobs, job.category.automatic = true → Traced hash s op job) :
    ∀ job ∈ db'.jobs, job.category.automatic = true → Traced hash s op job := by
  intro job hjob hautomatic
  cases h with
  | record hjobs => exact htraced job (hjobs ▸ hjob) hautomatic
  | activate => exact htraced job hjob hautomatic
  | queue context now cursor row category identifier hqueues =>
    rcases Db.mem_insertJob.1 hjob with hold | rfl
    · exact htraced job hold hautomatic
    · exact .inr ⟨context, now, cursor, row, db, category, identifier, hqueues, Follows.refl _⟩
  | enqueue now event useEventTime hmissing =>
    rcases Db.mem_insertJob.1 hjob with hold | rfl
    · exact htraced job hold hautomatic
    · have hcategory : event.category.automatic = true := hautomatic
      unfold LoggedEvent.category at hcategory
      split_ifs at hcategory <;> cases hcategory
  | update row job' hrow hkeeps hclip =>
    rcases Db.mem_updateJob hjob with rfl | ⟨hold, -⟩
    · have hcategory := hkeeps.category ▸ hautomatic
      exact (htraced row hrow hcategory).follows hkeeps.follows
    · exact htraced job hold hautomatic
  | delete row clipId now hwork hop hrow =>
    rcases Db.mem_updateJob hjob with rfl | ⟨hold, -⟩
    · have hmem := (Db.mem_of_jobOfClip? hrow).1
      exact (htraced row hmem hautomatic).follows (follows_deletedJob (hdb.formed row hmem))
    · exact htraced job hold hautomatic
  | create call hserves hbound hmissing hnew =>
    obtain ⟨rfl, -⟩ := insertAlias_some hnew
    rcases Db.mem_insertJob.1 hjob with hold | rfl
    · exact htraced job hold hautomatic
    · cases hautomatic
  | reuse call other context now hserves hnow hbound hother hcategory hcontext hof hreusable
    hcurrent hnew =>
    obtain ⟨rfl, -⟩ := insertAlias_some hnew
    exact htraced job hjob hautomatic

theorem Changes.traced (h : Changes hash s op s.db db) (hdb : s.db.Valid) :
    ∀ job ∈ db.jobs, job.category.automatic = true → Traced hash s op job := by
  induction h with
  | refl => exact fun job hjob _ => .inl ⟨job, hjob, Follows.refl job⟩
  | tail hchanges hchange ih => exact hchange.traced (Changes.valid hchanges hdb) ih

/-! ## Cursors -/

/-- The step has activated the cursor of the device. -/
structure Activates (hash : Json → String) (s : Service) (op : Op) (context : ClipContext)
    (session : String) (cursor : Cursor) : Prop where
  sweeps : Sweeps hash s op context cursor.generatedAt session
  token : cursor.sessionToken = cursorToken hash session context
  baseline : cursor.afterId = s.db.latestId context

/-- A cursor was there before, or has been activated. -/
theorem Changes.cursors {device : String × String} {cursor : Cursor}
    (h : Changes hash s op s.db db) (hcursor : db.cursors device = some cursor) :
    s.db.cursors device = some cursor ∨ ∃ context session,
      (context.siteId, context.edgeId) = device ∧ Activates hash s op context session cursor := by
  induction h with
  | refl => exact .inl hcursor
  | tail _ hchange ih =>
    cases hchange with
    | record hjobs haliases hcursors => exact ih (hcursors ▸ hcursor)
    | activate context now session hsweeps =>
      unfold Db.setCursor at hcursor
      dsimp only at hcursor
      by_cases hdevice : device = (context.siteId, context.edgeId)
      · subst hdevice
        rw [Function.update_self] at hcursor
        obtain rfl := Option.some.inj hcursor
        exact .inr ⟨context, session, rfl, hsweeps, rfl, rfl⟩
      · rw [Function.update_of_ne hdevice] at hcursor
        exact .inl hcursor
    | queue | enqueue | update | delete => exact ih hcursor
    | create call hserves hbound hmissing hnew =>
      obtain ⟨rfl, -⟩ := insertAlias_some hnew
      exact ih hcursor
    | reuse call other context now hserves hnow hbound hother hcategory hcontext hof hreusable
      hcurrent hnew =>
      obtain ⟨rfl, -⟩ := insertAlias_some hnew
      exact ih hcursor

/-! ## Sessions -/

/-- The name of the session that the step opens. -/
def ServiceStep.opened (e : ServiceStep) : Option String :=
  match e.op with
  | .sweep _ uuid _ =>
    if e.pre.settings.v2EventClipsEnabled = true ∧ e.pre.token = none then some uuid else none
  | _ => none

/-- The process restarts, or the worker finds the feature disabled. -/
def ServiceStep.Closes (e : ServiceStep) : Prop :=
  e.op = .restart ∨
    (∃ now uuid stored, e.op = .sweep now uuid stored) ∧ e.pre.settings.v2EventClipsEnabled = false

theorem nextToken_some {e : ServiceStep} {t : String} (h : e.pre.nextToken e.op = some t) :
    e.opened = some t ∨ e.pre.token = some t ∧ ¬e.Closes := by
  unfold Service.nextToken at h
  unfold ServiceStep.opened ServiceStep.Closes
  cases hop : e.op with
  | restart =>
    rw [hop] at h
    cases h
  | sweep now uuid stored =>
    rw [hop] at h
    dsimp only at h ⊢
    split_ifs at h with henabled
    cases htoken : e.pre.token with
    | none =>
      rw [htoken] at h
      rw [if_pos ⟨henabled, rfl⟩]
      exact .inl h
    | some t' =>
      rw [htoken] at h
      refine .inr ⟨h, ?_⟩
      rintro (hrestart | ⟨-, hdisabled⟩)
      · cases hrestart
      · rw [henabled] at hdisabled
        cases hdisabled
  | configure | abort | transition | alert | enqueue | process | requestClip | getClip |
    getRecording | deleteClip | requestExport | lookupExport | readExport | answer =>
    rw [hop] at h
    refine .inr ⟨h, ?_⟩
    rintro (hrestart | ⟨⟨now, uuid, stored, hsweep⟩, -⟩)
    · cases hrestart
    · cases hsweep

/-- The session of the worker is open. -/
theorem run_since {s₀ : Service} {es : List ServiceStep} {t : String} (h : Run (step hash) s₀ es s)
    (hsound : s₀.Sound hash) (h₀ : s₀.token = none) (htoken : s.token = some t) :
    Since ServiceStep.opened ServiceStep.Closes t es := by
  induction h with
  | nil =>
    rw [h₀] at htoken
    cases htoken
  | snoc h hs ih =>
    have hstepped := step_stepped (run_sound h hsound).db (run_sound h hsound).work _ _ hs
    rw [hstepped.token] at htoken
    rcases nextToken_some (e := ⟨_, _, _, _⟩) htoken with hopened | ⟨hpre, hcloses⟩
    · exact .start _ hopened
    · exact (ih hpre).extend hcloses

/-- A sweep names its session. -/
theorem Sweeps.token {e : ServiceStep} {context : ClipContext} {now : ℤ} {session : String}
    (h : Sweeps hash e.pre e.op context now session) : e.pre.nextToken e.op = some session := by
  obtain ⟨uuid, hop, rfl⟩ := h.op
  unfold Service.nextToken
  rw [hop]
  exact if_pos h.enabled

theorem Sweeps.time {context : ClipContext} {now : ℤ} {session : String}
    (h : Sweeps hash s op context now session) : op.time? = some now := by
  obtain ⟨uuid, rfl, -⟩ := h.op
  rfl

/-! ## Runs -/

/-- The service of a new installation. -/
structure Service.Fresh (s : Service) : Prop where
  jobs : s.db.jobs = []
  aliases : s.db.aliases = []
  cursors : ∀ device, s.db.cursors device = none
  token : s.token = none
  work : s.work = .idle

theorem Service.Fresh.sound (h : s.Fresh) : s.Sound hash where
  db := by constructor <;> simp [h.jobs, h.aliases]
  work := by
    rw [h.work]
    trivial

/-- Sweeps in other sessions or contexts have other tokens. -/
def TokensDiffer (hash : Json → String) (es : List ServiceStep) : Prop :=
  ∀ e ∈ es, ∀ f ∈ es, ∀ context context' now now' session session',
    Sweeps hash e.pre e.op context now session → Sweeps hash f.pre f.op context' now' session' →
      cursorToken hash session context = cursorToken hash session' context' →
        session = session' ∧ context.scope = context'.scope

section

variable {s₀ : Service} {es : List ServiceStep}

/-- Every automatic job has been queued by a sweep. -/
theorem run_queued (h : Run (step hash) s₀ es s) (hfresh : s₀.Fresh) :
    ∀ job ∈ s.db.jobs, job.category.automatic = true → ∃ before e after, es = before ++ e :: after ∧
      ∃ context now cursor row, Queued hash e.pre e.op context now cursor row job := by
  induction h with
  | nil =>
    intro job hjob
    rw [hfresh.jobs] at hjob
    cases hjob
  | snoc h hs ih =>
    intro job hjob hautomatic
    have hsound := run_sound h hfresh.sound
    rcases (changes_of_step hsound hs).traced hsound.db job hjob hautomatic with
      ⟨row, hrow, hfollows⟩ | ⟨context, now, cursor, row, hqueued⟩
    · obtain ⟨before, e, after, rfl, context, now, cursor, row', hqueued⟩ :=
        ih row hrow (hfollows.category ▸ hautomatic)
      exact ⟨before, e, after ++ [_], List.append_assoc _ _ _, context, now, cursor, row',
        hqueued.follows hfollows⟩
    · exact ⟨_, _, [], rfl, context, now, cursor, row, hqueued⟩

/-- Every cursor has been activated by a sweep. -/
theorem run_activated {device : String × String} {cursor : Cursor} (h : Run (step hash) s₀ es s)
    (hfresh : s₀.Fresh) (hcursor : s.db.cursors device = some cursor) :
    ∃ before f after, es = before ++ f :: after ∧ ∃ context session,
      (context.siteId, context.edgeId) = device ∧
        Activates hash f.pre f.op context session cursor := by
  induction h with
  | nil =>
    rw [hfresh.cursors device] at hcursor
    cases hcursor
  | snoc h hs ih =>
    have hsound := run_sound h hfresh.sound
    rcases (changes_of_step hsound hs).cursors hcursor with hold |
      ⟨context, session, hdevice, hactivates⟩
    · obtain ⟨before, f, after, rfl, hactivated⟩ := ih hold
      exact ⟨before, f, after ++ [_], List.append_assoc _ _ _, hactivated⟩
    · exact ⟨_, _, [], rfl, context, session, hdevice, hactivates⟩

/-- The session of a sweep is open after it. -/
theorem since_sweep {before after : List ServiceStep} {e : ServiceStep} {context : ClipContext}
    {now : ℤ} {session : String} (h : Run (step hash) s₀ (before ++ e :: after) s)
    (hfresh : s₀.Fresh) (hsweeps : Sweeps hash e.pre e.op context now session) :
    Since ServiceStep.opened ServiceStep.Closes session (before ++ [e]) := by
  obtain ⟨hpre, hstep⟩ := h.of_append_cons
  have hsound := run_sound hpre hfresh.sound
  have htoken := (step_stepped hsound.db hsound.work _ _ hstep).token
  exact run_since (hpre.snoc hstep) hfresh.sound hfresh.token (htoken.trans hsweeps.token)

end

/-! ## Once, and in time -/

/-- The job was queued by the step `e`, for the transition `row` of the attached device: after the
baseline that `cursor` got when it was activated, which was earlier in the session, and not too
late. -/
structure QueuedInTime (hash : Json → String) (before : List ServiceStep) (e : ServiceStep)
    (context : ClipContext) (now : ℤ) (cursor : Cursor) (row : EdgeV2Transition) (session : String)
    (job : MediaClipJob) : Prop where
  sweeps : Sweeps hash e.pre e.op context now session
  transition : row ∈ e.pre.db.transitions
  device : row.siteId = context.siteId ∧ row.edgeId = context.edgeId
  pit : row.get "pitId" = .str e.pre.settings.mediaPitId
  event : identify e.pre.settings e.pre.db context row = some (job.category, job.eventId)
  camera : job.cameraId = e.pre.settings.mediaCameraId ∧ job.pitId = e.pre.settings.mediaPitId
  occurredAt : job.occurredAt = row.occurredAt
  recorded : job.keys.v2Context = some context.scope ∨ job.keys.v2Context = none
  above : cursor.afterId < row.id
  since : cursor.generatedAt ≤ row.occurredAt
  past : row.occurredAt ≤ now
  age : now - row.occurredAt ≤ e.pre.settings.maxDelay
  activated : ∃ first f mid context', before = first ++ f :: mid ∧
    Activates hash f.pre f.op context' session cursor ∧ context'.scope = context.scope ∧
      (context'.siteId, context'.edgeId) = (context.siteId, context.edgeId) ∧ ∀ g ∈ mid, ¬g.Closes

theorem mem_freshTransitions {settings : Settings} {context : ClipContext} {cursor : Cursor}
    {now : ℤ} {row : EdgeV2Transition} (h : row ∈ db.freshTransitions settings context cursor now) :
    row ∈ db.transitions ∧ (row.siteId = context.siteId ∧ row.edgeId = context.edgeId) ∧
      cursor.afterId < row.id ∧ cursor.generatedAt ≤ row.occurredAt ∧ row.occurredAt ≤ now ∧
        now - row.occurredAt ≤ settings.maxDelay := by
  have hsorted := List.mem_of_mem_take h
  rw [mem_sortedBy, List.mem_filter, decide_eq_true_eq] at hsorted
  obtain ⟨hdevice, habove, hearliest, hpast, -⟩ := hsorted
  unfold Db.deviceTransitions at hdevice
  rw [List.mem_filter, decide_eq_true_eq] at hdevice
  obtain ⟨hmem, hsite, hedge, -⟩ := hdevice
  have hage := (le_max_right _ _).trans hearliest
  exact ⟨hmem, ⟨hsite, hedge⟩, habove, (le_max_left _ _).trans hearliest, hpast, by omega⟩

theorem queuedInTime {s₀ : Service} {es before after : List ServiceStep} {e : ServiceStep}
    {context : ClipContext} {now : ℤ} {cursor : Cursor} {row : EdgeV2Transition}
    (h : Run (step hash) s₀ es s) (hfresh : s₀.Fresh) (hes : es = before ++ e :: after)
    (hnames : (es.filterMap ServiceStep.opened).Nodup) (htokens : TokensDiffer hash es)
    (hqueued : Queued hash e.pre e.op context now cursor row job) :
    ∃ session, QueuedInTime hash before e context now cursor row session job := by
  subst hes
  obtain ⟨db, category, identifier, hqueues, hfollows⟩ := hqueued
  obtain ⟨session, hsweeps, htoken⟩ := hqueues.sweeps
  obtain ⟨hmem, hdevice, habove, hsince, hpast, hage⟩ := mem_freshTransitions hqueues.fresh
  obtain ⟨first, f, mid, rfl, context', session', hdevice', hactivates⟩ :=
    run_activated h.of_append_cons.1 hfresh hqueues.activated
  have hf : f ∈ first ++ f :: mid ++ e :: after := by simp
  obtain ⟨rfl, hscope⟩ := htokens f hf e (by simp) context' context _ _ session' session
    hactivates.sweeps hsweeps (hactivates.token.symm.trans htoken)
  have hrun : Run (step hash) s₀ (first ++ f :: (mid ++ e :: after)) s := by simpa using h
  have hopen := since_sweep hrun hfresh hactivates.sweeps
  have hopen' : Since ServiceStep.opened ServiceStep.Closes session'
      ((first ++ [f]) ++ (mid ++ [e])) := by
    have hsweep := since_sweep h hfresh hsweeps
    simpa using hsweep
  have hbetween := hopen.between hopen' (by
    refine hnames.sublist (List.Sublist.filterMap _ ?_)
    simp)
  refine ⟨session', hsweeps, hmem, hdevice, hqueues.pit, ?_, ⟨hfollows.cameraId, hfollows.pitId⟩,
    hfollows.occurredAt, hfollows.v2Context, habove, hsince, hpast, hage, first, f, mid, context',
    rfl, hactivates, hscope, hdevice', fun g hg => hbetween g (List.mem_append_left _ hg)⟩
  rw [hqueues.identified, hfollows.category, hfollows.eventId]
  rfl

/-- A clip of an automatic job is requested while the context that is recorded in the job is
attached, the feature is enabled and the event is not too old. -/
theorem permitted_automatic {settings : Settings} {now : ℤ}
    (h : automaticRequestBlock hash settings job now = none) :
    ∃ context, clipContext hash settings = some context ∧ job.pitId = settings.mediaPitId ∧
      job.cameraId = settings.mediaCameraId ∧ job.keys.v2Context = some context.scope ∧
        settings.v2EventClipsEnabled = true ∧ 0 ≤ now - job.occurredAt ∧
          now - job.occurredAt ≤ settings.maxDelay := by
  unfold automaticRequestBlock at h
  split_ifs at h with hcontext henabled hage
  cases hattached : clipContext hash settings with
  | none =>
    rw [hattached] at hcontext
    simp at hcontext
  | some context =>
    rw [hattached] at hcontext
    simp only [Option.all_some, decide_eq_true_eq, ne_eq, not_or, not_not] at hcontext
    obtain ⟨hpit, hcamera, hscope⟩ := hcontext
    exact ⟨context, rfl, hpit, hcamera, hscope, by simpa using henabled, hage⟩

/-- **Automatic clips are made once, never backfilled and never late**: in every run of a fresh
service, every event of a camera has one job at most; every automatic job was queued for a
transition of the attached device that came after the activation, and not too late; and its clip is
requested only while the context that it was queued from is attached, the feature is enabled and the
event is not too old. -/
theorem automatic_once_in_time {s₀ : Service} {es : List ServiceStep} (h : Run (step hash) s₀ es s)
    (hfresh : s₀.Fresh) (hnames : (es.filterMap ServiceStep.opened).Nodup)
    (htokens : TokensDiffer hash es) :
    (s.db.jobs.map fun job => (job.cameraId, job.eventId)).Nodup ∧
      (∀ job ∈ s.db.jobs, job.category.automatic = true →
        ∃ before e after, es = before ++ e :: after ∧ ∃ context now cursor row session,
          QueuedInTime hash before e context now cursor row session job) ∧
        ∀ e ∈ es, ∀ request, e.out = .requested (.createClip request) → ∀ job ∈ e.post.db.jobs,
          job.cameraId = request.cameraId → job.eventId = request.eventId →
            job.category.automatic = true →
              ∃ context now, e.op.time? = some now ∧
                clipContext hash e.pre.settings = some context ∧
                job.pitId = e.pre.settings.mediaPitId ∧
                job.cameraId = e.pre.settings.mediaCameraId ∧
                  e.pre.settings.v2EventClipsEnabled = true ∧ 0 ≤ now - job.occurredAt ∧
                    now - job.occurredAt ≤ e.pre.settings.maxDelay ∧
                      ∃ before f after, es = before ++ f :: after ∧
                        ∃ context' now' cursor row session,
                          QueuedInTime hash before f context' now' cursor row session job ∧
                            context'.scope = context.scope := by
  refine ⟨(run_sound h hfresh.sound).db.nodup_events, fun job hjob hautomatic => ?_, ?_⟩
  · obtain ⟨before, e, after, hes, context, now, cursor, row, hqueued⟩ :=
      run_queued h hfresh job hjob hautomatic
    obtain ⟨session, hintime⟩ := queuedInTime h hfresh hes hnames htokens hqueued
    exact ⟨before, e, after, hes, context, now, cursor, row, session, hintime⟩
  · intro e he request hout job hjob hcamera hevent hautomatic
    obtain ⟨before, after, rfl⟩ := List.append_of_mem he
    obtain ⟨hpre, hstep⟩ := h.of_append_cons
    have hsound := run_sound hpre hfresh.sound
    have hstepped := step_stepped hsound.db hsound.work _ _ hstep
    obtain ⟨row, now, hnow, hrow, hcamera', hevent', -, hblock⟩ := hstepped.permitted request hout
    obtain rfl := hstepped.valid.eq_of_id hrow hjob (hstepped.valid.events job hjob row hrow
      (hcamera.trans hcamera'.symm) (hevent.trans hevent'.symm))
    obtain ⟨context, hattached, hpit, hcam, hscope, henabled, hage⟩ :=
      permitted_automatic (hblock hautomatic)
    obtain ⟨before', f, after', hes, context', now', cursor, row', hqueued⟩ :=
      run_queued (hpre.snoc hstep) hfresh job hjob hautomatic
    have hes' : before ++ e :: after = before' ++ f :: (after' ++ after) := by
      rw [← List.singleton_append, ← List.append_assoc, hes]
      simp
    obtain ⟨session, hintime⟩ := queuedInTime h hfresh hes' hnames htokens hqueued
    refine ⟨context, now, hnow, hattached, hpit, hcam, henabled, hage.1, hage.2, before', f, _,
      hes', context', now', cursor, row', session, hintime, ?_⟩
    rcases hintime.recorded with hrecorded | hrecorded
    · exact Option.some.inj (hrecorded.symm.trans hscope)
    · rw [hrecorded] at hscope
      cases hscope

/-! ## A run -/

/-- A hash that tells pairs of texts apart. -/
def pairHash : Json → String
  | .arr [.str a, .str b] => String.ofList (a.toList.flatMap (fun c => ['x', c]) ++ 'y' :: b.toList)
  | _ => "scope"

theorem pair_injective {a a' b b' : List Char}
    (h : a.flatMap (fun c => ['x', c]) ++ 'y' :: b = a'.flatMap (fun c => ['x', c]) ++ 'y' :: b') :
    a = a' ∧ b = b' := by
  induction a generalizing a' with
  | nil =>
    cases a' with
    | nil => simpa using h
    | cons c a' => simp at h
  | cons c a ih =>
    cases a' with
    | nil => simp at h
    | cons c' a' =>
      simp only [List.flatMap_cons, List.cons_append, List.nil_append, List.cons.injEq,
        true_and] at h
      obtain ⟨rfl, hrest⟩ := h
      obtain ⟨rfl, rfl⟩ := ih hrest
      exact ⟨rfl, rfl⟩

theorem tokensDiffer_pairHash (es : List ServiceStep) : TokensDiffer pairHash es := by
  intro e _ f _ context context' now now' session session' _ _ htoken
  obtain ⟨hsession, hscope⟩ := pair_injective (String.ofList_injective htoken)
  exact ⟨String.toList_inj.1 hsession, String.toList_inj.1 hscope⟩

def sampleTransition : EdgeV2Transition where
  id := 1
  siteId := "site-1"
  edgeId := "edge-1"
  occurredAt := seconds 1700000001
  kind := .deviceStateChanged
  payload := [("pitId", .str "pit-01"), ("previous", .str "HEALTHY"),
    ("current", .str "MEASUREMENT_UNAVAILABLE"), ("simulated", .bool false)]

theorem sampleService_fresh : sampleService.Fresh := ⟨rfl, rfl, fun _ => rfl, rfl, rfl⟩

/-- The worker activates its cursor, queues a job for a transition that comes then, and requests its
clip. -/
theorem automatic_once_in_time_sample : ∃ es s, Run (step pairHash) sampleService es s ∧
    s.db.jobs.map (·.eventId) = ["evt-v2-transition-1"] ∧
    (∃ e ∈ es, e.out = .requested (.createClip ⟨"evt-v2-transition-1", "cam-1", none⟩)) ∧
    ∀ job ∈ s.db.jobs, job.category.automatic = true → ∃ before e after, es = before ++ e :: after ∧
      ∃ context now cursor row session,
        QueuedInTime pairHash before e context now cursor row session job := by
  have hresult : (exec (step pairHash) sampleService
      [.sweep (seconds 1700000000) "uuid-1" true, .transition sampleTransition,
        .sweep (seconds 1700000002) "uuid-2" true, .process (seconds 1700000003) 1]).map
      (fun r => (r.1.filterMap ServiceStep.opened, r.2.db.jobs.map (·.eventId),
        r.1.any fun e => e.out = .requested (.createClip ⟨"evt-v2-transition-1", "cam-1", none⟩))) =
      some (["uuid-1"], ["evt-v2-transition-1"], true) := by decide +kernel
  obtain ⟨⟨es, s⟩, hexec, hs⟩ := Option.map_eq_some_iff.1 hresult
  simp only [Prod.mk.injEq, List.any_eq_true, decide_eq_true_eq] at hs
  obtain ⟨hnames, hjobs, hrequested⟩ := hs
  have hrun := Run.of_exec hexec
  have hnodup : (es.filterMap ServiceStep.opened).Nodup := by
    rw [hnames]
    exact List.nodup_singleton _
  exact ⟨es, s, hrun, hjobs, hrequested,
    (automatic_once_in_time hrun sampleService_fresh hnodup (tokensDiffer_pairHash es)).2.1⟩

end ScrapMonitoring.Media
