import ScrapMonitoring.Media.Changes

/-!
# The origin of a job

Every writer of a row keeps the origin of its job but one: the deletion of the clip forgets on what
time basis the clip was requested, and from which context of the device. `origin_kept` is about the
runs in which no such job is deleted: there a job keeps its origin and its clip for ever, and a poll
of the clip brings back its state. `time_basis_forgotten` is a run with such a deletion: the poll
after it blocks the job.
-/

namespace ScrapMonitoring.Media

variable {hash : Json → String} {settings : Settings} {now : ℤ} {job job' : MediaClipJob}

/-! ## Deletions -/

/-- The job has been requested on no time basis, and queued from no context of the device. -/
def Forgettable (job : MediaClipJob) : Prop :=
  job.keys.eventTimeRequest = none ∧ job.keys.v2Context = none ∧ job.keys.v2Simulated = none ∧
    job.keys.v2Collection = none

instance (job : MediaClipJob) : Decidable (Forgettable job) :=
  inferInstanceAs (Decidable (_ ∧ _ ∧ _ ∧ _))

/-- Exactly the jobs without such an origin keep it when their clip is deleted. -/
theorem keeps_deletedJob_iff (hformed : job.Formed) :
    Keeps job (deletedJob now job) ↔ Forgettable job := by
  have hcontext : (deletedJob now job).context = job.context ↔ Forgettable job := by
    simp only [MediaClipJob.context, keys_deletedJob hformed, Snapshot.mk.injEq, Forgettable,
      eq_comm (a := none), true_and]
  constructor
  · intro h
    exact hcontext.1 h.context
  · intro h
    exact ⟨(follows_deletedJob hformed).toSameJob, hcontext.2 h⟩

/-- The job whose clip the step deletes. -/
def ServiceStep.deleted (e : ServiceStep) : Option MediaClipJob :=
  match e.pre.work, e.op with
  | .deleting clipId, .answer _ .removed => e.pre.db.jobOfClip? clipId
  | _, _ => none

/-- The step deletes no clip of a job that would not keep its origin. -/
def ServiceStep.Spares (e : ServiceStep) : Prop := ∀ job ∈ e.deleted, Forgettable job

instance (e : ServiceStep) : Decidable e.Spares :=
  inferInstanceAs (Decidable (∀ job ∈ e.deleted, Forgettable job))

theorem ServiceStep.Spares.forgettable {e : ServiceStep} {clipId : String} (h : e.Spares)
    (hwork : e.pre.work = .deleting clipId) (hop : e.op = .answer now .removed)
    (hjob : e.pre.db.jobOfClip? clipId = some job) : Forgettable job := by
  refine h job ?_
  unfold ServiceStep.deleted
  rw [hwork, hop]
  exact hjob

/-! ## Time bases and polls -/

/-- The time basis is read off what a job keeps. -/
theorem requestedEventTime_eq (h : Keeps job job') :
    requestedEventTime hash settings job' = requestedEventTime hash settings job := by
  unfold requestedEventTime
  rw [h.eventTimeRequest, h.occurredAt]

/-- What comes back is the clip of the job, on the time basis of the job. -/
structure Answers (hash : Json → String) (settings : Settings) (job : MediaClipJob)
    (detail : ClipDetail) : Prop where
  eventId : detail.eventId = job.eventId
  cameraId : detail.cameraId = job.cameraId
  clip : job.clipId = some detail.clipId
  range : validateRangeSnapshot hash settings job (.detail detail) = .ok ()
  time : requestedEventTime hash settings job = .ok detail.eventAt

/-- A poll that is answered so brings back the state of the clip. -/
theorem endProcess_answers {s : Service} {detail : ClipDetail} (now : ℤ) (caller : Caller)
    (hdb : s.db.Valid) (hjob : job ∈ s.db.jobs) (h : Answers hash s.settings job detail) :
    ∃ s' out, endProcess hash s now job.id (.poll detail.clipId) caller (.found detail) =
      some (s', out) ∧ ∃ job' ∈ s'.db.jobs, Keeps job job' ∧ job'.status = .clip detail.status := by
  let job' := job.attempt.withClip s.settings now (.detail detail)
  have happlied : Applied hash s.settings now job.attempt (.detail detail) job' := by
    refine ⟨h.eventId, h.cameraId, fun clipId hclip => ?_, h.range, h.time, rfl⟩
    exact Option.some.inj (h.clip.symm.trans hclip)
  have hkeeps : Keeps job job' := (keeps_attempt job).trans
    (happlied.keeps ((keeps_attempt job).formed (hdb.formed job hjob)))
  have hsave : s.db.saveJob job' = some (s.db.updateJob job') := by
    unfold Db.saveJob
    refine if_neg fun hany => ?_
    obtain ⟨other, hother, hconflict⟩ := List.any_eq_true.1 hany
    obtain ⟨hid, hsome, hsame⟩ := of_decide_eq_true hconflict
    rw [happlied.clipId] at hsame
    exact hid ((hdb.clips other hother job hjob hsome (hsame.trans h.clip.symm)).trans
      hkeeps.id.symm)
  have hsettle : settleJob hash s.settings now job.attempt (.poll detail.clipId) (.detail detail) =
      (job', none) := by
    unfold settleJob
    rw [applySnapshot_ok.2 happlied]
  have hanswered : (Dispatch.poll detail.clipId).answered (.found detail) =
      some (.ok (200, .detail detail)) := by
    simp [Dispatch.answered, MediaClient.getClip, Except.map]
  refine ⟨{ s with db := s.db.updateJob job', work := .idle },
    caller.respond hash s.settings now 200 job', ?_, job',
    List.mem_map.2 ⟨job, hjob, if_pos hkeeps.id.symm⟩, hkeeps, happlied.status⟩
  unfold endProcess
  rw [hdb.job?_eq hjob, hanswered]
  dsimp only
  rw [hsettle]
  dsimp only [store]
  rw [hsave]
  rfl

/-! ## Runs -/

/-- **A job keeps its origin and its clip, and a poll of the clip brings back its state**, in every
run that deletes no clip of a job with a time basis or with a context of the device. -/
theorem origin_kept {s₀ s : Service} {es : List ServiceStep} (h : Run (step hash) s₀ es s)
    (hsound : s₀.Sound hash) (hspares : ∀ e ∈ es, e.Spares) :
    ∀ e ∈ es, ∀ job ∈ e.pre.db.jobs ++ e.post.db.jobs, ∃ job' ∈ s.db.jobs, Keeps job job' ∧
      (∀ settings, requestedEventTime hash settings job' = requestedEventTime hash settings job) ∧
        ∀ now detail caller, s.work = .processing job'.id (.poll detail.clipId) caller →
          Answers hash s.settings job' detail →
            ∃ s' out, step hash s (.answer now (.found detail)) = some (s', out) ∧
              ∃ job'' ∈ s'.db.jobs, Keeps job job'' ∧ job''.status = .clip detail.status := by
  intro e he job hjob
  obtain ⟨before, after, rfl⟩ := List.append_of_mem he
  obtain ⟨hpre, hstep⟩ := h.of_append_cons
  have hspre := run_sound hpre hsound
  have hspost := hspre.step hstep
  have hkept : ∀ {a b : Service} {es' : List ServiceStep}, Run (step hash) a es' b → a.Sound hash →
      (∀ f ∈ es', f ∈ before ++ e :: after) → Grows Keeps a.db.jobs b.db.jobs := by
    intro a b es' hrun ha hsub
    refine run_grows hrun ha (fun _ _ _ => Keeps.trans) (fun _ _ => id) ?_
    intro f hf hfpre row clipId now hwork hop hrow
    refine (keeps_deletedJob_iff (hfpre.db.formed row (Db.mem_of_jobOfClip? hrow).1)).2 ?_
    exact (hspares f (hsub f hf)).forgettable hwork hop hrow
  have hlast : ∃ job' ∈ s.db.jobs, Keeps job job' := by
    rcases List.mem_append.1 hjob with hjob | hjob
    · have hrest : Run (step hash) e.pre (e :: after) s := h.rest.cons hstep
      exact (hkept hrest hspre fun f hf => List.mem_append_right _ hf).mem hjob
    · refine (hkept h.rest hspost fun f hf => ?_).mem hjob
      exact List.mem_append_right _ (List.mem_cons_of_mem _ hf)
  obtain ⟨job', hjob', hkeeps⟩ := hlast
  refine ⟨job', hjob', hkeeps, fun settings => requestedEventTime_eq hkeeps, ?_⟩
  intro now detail caller hwork hanswers
  obtain ⟨s', out, hend, job'', hjob'', hkeeps', hstatus⟩ :=
    endProcess_answers now caller (run_sound h hsound).db hjob' hanswers
  refine ⟨s', out, ?_, job'', hjob'', hkeeps.trans hkeeps', hstatus⟩
  unfold step
  rw [hwork]
  exact hend

/-! ## Two runs -/

def sampleReceipt (eventAt : Option ℤ) (heventAt : ∀ t ∈ eventAt, t = seconds 1700000000) :
    ClipReceipt where
  clipId := "clip-1"
  eventId := "evt-alt-7"
  cameraId := "cam-1"
  status := .collecting
  acceptedAt := seconds 1700000005
  requestedStartAt := seconds 1699999990
  requestedEndAt := seconds 1700000010
  eventAt := eventAt
  requestMode := none
  attemptCount := none
  window := by decide
  event_in_window t ht := by rw [heventAt t ht]; decide
  attempt_pos := by simp

theorem interval_of_none : ∀ t ∈ (none : Option ℤ), ∀ u ∈ (none : Option ℤ), t ≤ u := by simp

/-- The clip after its deletion. -/
def sampleDetail (eventAt : Option ℤ) (heventAt : ∀ t ∈ eventAt, t = seconds 1700000000) :
    ClipDetail where
  toClipReceipt := { sampleReceipt eventAt heventAt with status := .deleted }
  coverage := none
  actualStartAt := none
  actualEndAt := none
  gaps := []
  completedAt := none
  expiresAt := none
  contentPath := none
  error := none
  availableIntervals := []
  extractionMode := none
  sizeBytes := none
  range_gaps := by simp
  content := by simp
  actual_interval := interval_of_none
  ready h := by cases h

/-- A clip is requested for an alert, accepted, deleted, and polled. -/
def sampleOps (useEventTime : Bool) (eventAt : Option ℤ)
    (heventAt : ∀ t ∈ eventAt, t = seconds 1700000000) : List Op :=
  [.requestClip (seconds 1700000004) "evt-alt-7" useEventTime
      (some ⟨true, 7, "pit-01", seconds 1700000000⟩),
    .answer (seconds 1700000005) (.accepted 202 (sampleReceipt eventAt heventAt)),
    .deleteClip "clip-1", .answer (seconds 1700000020) .removed,
    .process (seconds 1700000021) 1,
    .answer (seconds 1700000022) (.found (sampleDetail eventAt heventAt))]

theorem sampleService_sound : sampleService.Sound hash where
  db := ⟨by simp [sampleService], by simp [sampleService], by simp [sampleService],
    by simp [sampleService], by simp [sampleService]⟩
  work := trivial

set_option synthInstance.maxSize 512 in
/-- The deletion of a clip that was requested for the time of its event forgets this time, and the
poll that follows, which is answered on the time basis of the job, blocks it. -/
theorem time_basis_forgotten : ∃ es s, Run (step fun _ => "hash") sampleService es s ∧
    (∃ e ∈ es, ∃ job ∈ e.post.db.jobs, job.keys.eventTimeRequest ≠ none ∧
      requestedEventTime (fun _ => "hash") sampleSettings job = .ok (some (seconds 1700000000)) ∧
        ∀ job' ∈ s.db.jobs, ¬Keeps job job') ∧
    s.db.jobs.map (fun job => (job.id, job.clipId, job.status, job.errorCode)) =
      [(1, some "clip-1", .blocked, some "MEDIA_TIME_BASIS_MISMATCH")] := by
  have hresult : (exec (step fun _ => "hash") sampleService
      (sampleOps true (some (seconds 1700000000)) (by simp))).map (fun r =>
        (r.1.any fun e => e.post.db.jobs.any fun job => job.keys.eventTimeRequest ≠ none ∧
          (requestedEventTime (fun _ => "hash") sampleSettings job).toOption =
            some (some (seconds 1700000000)),
        r.2.db.jobs.all fun job => job.keys.eventTimeRequest = none,
        r.2.db.jobs.map fun job => (job.id, job.clipId, job.status, job.errorCode))) =
      some (true, true, [(1, some "clip-1", .blocked, some "MEDIA_TIME_BASIS_MISMATCH")]) := by
    decide +kernel
  obtain ⟨⟨es, s⟩, hexec, hs⟩ := Option.map_eq_some_iff.1 hresult
  simp only [Prod.mk.injEq, List.any_eq_true, List.all_eq_true, decide_eq_true_eq] at hs
  obtain ⟨⟨e, he, job, hjob, hbasis, htime⟩, hforgotten, hjobs⟩ := hs
  replace htime : requestedEventTime (fun _ => "hash") sampleSettings job =
      .ok (some (seconds 1700000000)) := by
    cases hevent : requestedEventTime (fun _ => "hash") sampleSettings job with
    | error error =>
      rw [hevent] at htime
      cases htime
    | ok expected =>
      rw [hevent] at htime
      exact congrArg Except.ok (Option.some.inj htime)
  refine ⟨es, s, .of_exec hexec, ⟨e, he, job, hjob, hbasis, htime, fun job' hjob' hkeeps => ?_⟩,
    hjobs⟩
  rw [← hkeeps.eventTimeRequest] at hbasis
  exact hbasis (hforgotten job' hjob')

/-- The same run without a time basis: the job keeps its origin, and has the state of the clip. -/
theorem origin_kept_sample : ∃ es s, Run (step fun _ => "hash") sampleService es s ∧
    s.db.jobs.map (·.status) = [.clip .deleted] ∧
    ∀ e ∈ es, ∀ job ∈ e.pre.db.jobs ++ e.post.db.jobs, ∃ job' ∈ s.db.jobs, Keeps job job' := by
  have hresult : (exec (step fun _ => "hash") sampleService (sampleOps false none (by simp))).map
      (fun r => (r.1.all fun e => decide (ServiceStep.Spares e), r.2.db.jobs.map (·.status))) =
      some (true, [.clip .deleted]) := by decide +kernel
  obtain ⟨⟨es, s⟩, hexec, hs⟩ := Option.map_eq_some_iff.1 hresult
  simp only [Prod.mk.injEq, List.all_eq_true, decide_eq_true_eq] at hs
  obtain ⟨hspares, hjobs⟩ := hs
  have hrun := Run.of_exec hexec
  refine ⟨es, s, hrun, hjobs, fun e he job hjob => ?_⟩
  obtain ⟨job', hjob', hkeeps, -⟩ := origin_kept hrun sampleService_sound hspares e he job hjob
  exact ⟨job', hjob', hkeeps⟩

end ScrapMonitoring.Media
