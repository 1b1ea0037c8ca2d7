import ScrapMonitoring.Foundations.Growth
import ScrapMonitoring.Media.Service

/-!
# The rows of the media jobs

`SameJob job job'` says that a row has become another of the same job, and has kept its clip if it
had one. `Keeps` says that it has kept its origin too, but for the retry flag of an export; all that
`process_job` and the readers of clips do to a row is of this kind. `Follows` is what a deletion
leaves of the origin: the export, and nothing that contradicts the rest.

`Db.Valid` is what holds of the tables at any time: the rows are well formed, and their identifiers,
the events of the cameras and the clips are unique, and aliases are those of jobs.
-/

namespace ScrapMonitoring.Media

open EdgeV2 (digest)

variable {hash : Json → String} {settings : Settings} {now : ℤ}

/-! ## Rows -/

/-- The context of an export, apart from the retry flag. -/
def ExportContext.settled (context : ExportContext) : ExportContext :=
  { context with retryFailed := false }

/-- The origin of a job, apart from the retry flag. -/
def MediaClipJob.context (job : MediaClipJob) : Snapshot :=
  { job.keys with clip := none, rangeExport := job.keys.rangeExport.map ExportContext.settled }

/-- What is recorded in a row fits to its category. -/
structure MediaClipJob.Formed (job : MediaClipJob) : Prop where
  device : job.category.automatic = false →
    job.keys.v2Context = none ∧ job.keys.v2Simulated = none ∧ job.keys.v2Collection = none
  exported : job.category ≠ .eventExport → job.keys.rangeExport = none
  queued : job.category.automatic = true → job.clipId = none → job.keys.v2Context ≠ none

/-- The row has become another of the same job. -/
structure SameJob (job job' : MediaClipJob) : Prop where
  id : job'.id = job.id
  eventId : job'.eventId = job.eventId
  cameraId : job'.cameraId = job.cameraId
  pitId : job'.pitId = job.pitId
  category : job'.category = job.category
  occurredAt : job'.occurredAt = job.occurredAt
  clip : ∀ clipId, job.clipId = some clipId → job'.clipId = some clipId

theorem SameJob.refl (job : MediaClipJob) : SameJob job job :=
  ⟨rfl, rfl, rfl, rfl, rfl, rfl, fun _ h => h⟩

theorem SameJob.trans {a b c : MediaClipJob} (h : SameJob a b) (h' : SameJob b c) :
    SameJob a c where
  id := h'.id.trans h.id
  eventId := h'.eventId.trans h.eventId
  cameraId := h'.cameraId.trans h.cameraId
  pitId := h'.pitId.trans h.pitId
  category := h'.category.trans h.category
  occurredAt := h'.occurredAt.trans h.occurredAt
  clip clipId hclip := h'.clip clipId (h.clip clipId hclip)

/-- The row has become another of the same job, with the same origin. -/
structure Keeps (job job' : MediaClipJob) : Prop extends SameJob job job' where
  context : job'.context = job.context

/-- The row has become another of the same job, whose origin may have been forgotten but for its
export. -/
structure Follows (job job' : MediaClipJob) : Prop extends SameJob job job' where
  rangeExport : job'.context.rangeExport = job.context.rangeExport
  v2Context : job'.keys.v2Context = job.keys.v2Context ∨ job'.keys.v2Context = none

namespace Keeps

variable {a b c job job' : MediaClipJob}

theorem refl (job : MediaClipJob) : Keeps job job := ⟨SameJob.refl job, rfl⟩

theorem trans (h : Keeps a b) (h' : Keeps b c) : Keeps a c :=
  ⟨h.toSameJob.trans h'.toSameJob, h'.context.trans h.context⟩

theorem eventTimeRequest (h : Keeps job job') :
    job'.keys.eventTimeRequest = job.keys.eventTimeRequest :=
  show job'.context.eventTimeRequest = _ from h.context ▸ rfl

theorem v2Context (h : Keeps job job') : job'.keys.v2Context = job.keys.v2Context :=
  show job'.context.v2Context = _ from h.context ▸ rfl

theorem v2Simulated (h : Keeps job job') : job'.keys.v2Simulated = job.keys.v2Simulated :=
  show job'.context.v2Simulated = _ from h.context ▸ rfl

theorem v2Collection (h : Keeps job job') : job'.keys.v2Collection = job.keys.v2Collection :=
  show job'.context.v2Collection = _ from h.context ▸ rfl

theorem follows (h : Keeps job job') : Follows job job' :=
  ⟨h.toSameJob, congrArg Snapshot.rangeExport h.context, .inl h.v2Context⟩

end Keeps

namespace Follows

variable {a b c job job' : MediaClipJob}

theorem refl (job : MediaClipJob) : Follows job job := (Keeps.refl job).follows

theorem trans (h : Follows a b) (h' : Follows b c) : Follows a c where
  toSameJob := h.toSameJob.trans h'.toSameJob
  rangeExport := h'.rangeExport.trans h.rangeExport
  v2Context := by
    rcases h'.v2Context with heq | hnone
    · rw [heq]
      exact h.v2Context
    · exact .inr hnone

theorem rangeExport_none (h : Follows job job') (hnone : job.keys.rangeExport = none) :
    job'.keys.rangeExport = none := by
  have hexport := h.rangeExport
  simp only [MediaClipJob.context, hnone, Option.map_none, Option.map_eq_none_iff] at hexport
  exact hexport

/-- The context of an export, as it is now. -/
theorem rangeExport_some {context : ExportContext} (h : Follows job job')
    (hsome : job.keys.rangeExport = some context) :
    ∃ context', job'.keys.rangeExport = some context' ∧ context'.settled = context.settled := by
  have hexport := h.rangeExport
  simp only [MediaClipJob.context, hsome, Option.map_some, Option.map_eq_some_iff] at hexport
  exact hexport

end Follows

theorem Keeps.formed {job job' : MediaClipJob} (h : Keeps job job') (hformed : job.Formed) :
    job'.Formed where
  device hcategory := by
    rw [h.v2Context, h.v2Simulated, h.v2Collection]
    exact hformed.device (h.category ▸ hcategory)
  exported hcategory := h.follows.rangeExport_none (hformed.exported (h.category ▸ hcategory))
  queued hcategory hclip := by
    rw [h.v2Context]
    refine hformed.queued (h.category ▸ hcategory) ?_
    by_contra hsome
    obtain ⟨clipId, hjob⟩ := Option.ne_none_iff_exists'.1 hsome
    rw [h.clip clipId hjob] at hclip
    cases hclip

/-! ## What is done to a row -/

theorem keeps_attempt (job : MediaClipJob) : Keeps job job.attempt :=
  ⟨⟨rfl, rfl, rfl, rfl, rfl, rfl, fun _ => id⟩, rfl⟩

theorem keeps_failJob (now : ℤ) (job : MediaClipJob) (error : MediaServiceError) :
    Keeps job (failJob now job error) := by
  unfold failJob
  split_ifs <;> exact ⟨⟨rfl, rfl, rfl, rfl, rfl, rfl, fun _ => id⟩, rfl⟩

/-- The context that is read is the one that is stored. -/
theorem exportContext_stored {job : MediaClipJob} {context : ExportContext}
    (h : exportContext hash settings job = .ok context) : job.keys.rangeExport = some context := by
  unfold exportContext at h
  cases hstored : job.keys.rangeExport with
  | none =>
    rw [hstored] at h
    cases h
  | some stored =>
    rw [hstored] at h
    dsimp only at h
    split_ifs at h
    rw [Except.ok.inj h]

theorem keys_withExport (job : MediaClipJob) (context : ExportContext) :
    (job.withExport context).keys = { job.keys with rangeExport := some context } := rfl

theorem keeps_setRetry {job job' : MediaClipJob} {retryFailed : Bool}
    (h : setRetry hash settings job retryFailed = .ok job') :
    Keeps job job' ∧ job'.clipId = job.clipId := by
  unfold setRetry at h
  cases hcontext : exportContext hash settings job with
  | error error =>
    rw [hcontext] at h
    cases h
  | ok context =>
    rw [hcontext] at h
    obtain rfl := Except.ok.inj h
    refine ⟨⟨⟨rfl, rfl, rfl, rfl, rfl, rfl, fun _ => id⟩, ?_⟩, rfl⟩
    rw [MediaClipJob.context, keys_withExport, MediaClipJob.context, exportContext_stored hcontext]
    rfl

theorem origin_eq {job : MediaClipJob} (hformed : job.Formed) :
    job.origin = { job.keys with clip := none } := by
  unfold MediaClipJob.origin
  cases hcategory : job.category.automatic with
  | true => rfl
  | false =>
    obtain ⟨hcontext, hsimulated, hcollection⟩ := hformed.device hcategory
    simp [hcontext, hsimulated, hcollection]

/-- The job with what is known of its clip. -/
def MediaClipJob.withClip (settings : Settings) (now : ℤ) (job : MediaClipJob)
    (snapshot : ClipSnapshot) : MediaClipJob :=
  { job with
    clipId := some snapshot.base.clipId
    status := .clip snapshot.base.status
    snapshot := some { job.origin with clip := some snapshot }
    errorCode := none
    nextAttemptAt := nextPoll settings now snapshot }

/-- What is checked before a snapshot is stored, and what is stored then. -/
structure Applied (hash : Json → String) (settings : Settings) (now : ℤ) (job : MediaClipJob)
    (snapshot : ClipSnapshot) (job' : MediaClipJob) : Prop where
  eventId : snapshot.base.eventId = job.eventId
  cameraId : snapshot.base.cameraId = job.cameraId
  clip : ∀ clipId, job.clipId = some clipId → snapshot.base.clipId = clipId
  range : validateRangeSnapshot hash settings job snapshot = .ok ()
  time : requestedEventTime hash settings job = .ok snapshot.base.eventAt
  stored : job' = job.withClip settings now snapshot

theorem applySnapshot_ok {job job' : MediaClipJob} {snapshot : ClipSnapshot} :
    applySnapshot hash settings now job snapshot = .ok job' ↔
      Applied hash settings now job snapshot job' := by
  unfold applySnapshot
  constructor
  · intro h
    split_ifs at h with hidentity hclip
    simp only [ne_eq, not_or, not_not] at hidentity
    cases hrange : validateRangeSnapshot hash settings job snapshot with
    | error error =>
      rw [hrange] at h
      cases h
    | ok _ =>
      rw [hrange] at h
      cases htime : requestedEventTime hash settings job with
      | error error =>
        rw [htime] at h
        cases h
      | ok expected =>
        rw [htime] at h
        dsimp only at h
        split_ifs at h with hevent
        rw [not_not] at hevent
        refine ⟨hidentity.1, hidentity.2, fun clipId hjob => ?_, hrange, hevent ▸ htime,
          (Except.ok.inj h).symm⟩
        rw [hjob] at hclip
        simp only [Option.any_some, decide_eq_true_eq, not_not] at hclip
        exact hclip.symm
  · intro h
    have hidentity :
        ¬(snapshot.base.eventId ≠ job.eventId ∨ snapshot.base.cameraId ≠ job.cameraId) := by
      simp [h.eventId, h.cameraId]
    have hclip : ¬(job.clipId.any (· ≠ snapshot.base.clipId) = true) := by
      cases hjob : job.clipId with
      | none => simp
      | some clipId => simp [h.clip clipId hjob]
    rw [if_neg hidentity, if_neg hclip, h.range, h.time, h.stored]
    exact if_neg (not_not_intro rfl)

namespace Applied

variable {job job' : MediaClipJob} {snapshot : ClipSnapshot}

theorem clipId (h : Applied hash settings now job snapshot job') :
    job'.clipId = some snapshot.base.clipId := by rw [h.stored, MediaClipJob.withClip]

theorem status (h : Applied hash settings now job snapshot job') :
    job'.status = .clip snapshot.base.status := by rw [h.stored, MediaClipJob.withClip]

theorem keys (h : Applied hash settings now job snapshot job') (hformed : job.Formed) :
    job'.keys = { job.keys with clip := some snapshot } := by
  rw [h.stored, MediaClipJob.withClip, MediaClipJob.keys, Option.getD_some, origin_eq hformed]

/-- What comes back of a clip replaces what was known of it, and nothing of the origin. -/
theorem keeps (h : Applied hash settings now job snapshot job') (hformed : job.Formed) :
    Keeps job job' := by
  refine ⟨?_, ?_⟩
  · rw [h.stored]
    exact ⟨rfl, rfl, rfl, rfl, rfl, rfl, fun clipId hjob => congrArg some (h.clip clipId hjob)⟩
  · rw [MediaClipJob.context, h.keys hformed, MediaClipJob.context]

theorem exportContext_eq (h : Applied hash settings now job snapshot job') (hformed : job.Formed) :
    exportContext hash settings job' = exportContext hash settings job := by
  have hkeys := h.keys hformed
  have hsame := (h.keeps hformed).toSameJob
  unfold exportContext
  rw [hkeys, hsame.cameraId, hsame.pitId, hsame.eventId]

/-- The context of an export has been read. -/
theorem exportContext_ok (h : Applied hash settings now job snapshot job')
    (hcategory : job.category = .eventExport) :
    ∃ context, exportContext hash settings job = .ok context := by
  have hrange := h.range
  unfold validateRangeSnapshot at hrange
  rw [if_neg (not_not_intro hcategory)] at hrange
  cases hcontext : exportContext hash settings job with
  | error error =>
    rw [hcontext] at hrange
    cases hrange
  | ok context => exact ⟨context, rfl⟩

end Applied

theorem keeps_settleJob {job : MediaClipJob} {dispatch : Dispatch} {snapshot : ClipSnapshot}
    (hformed : job.Formed) : Keeps job (settleJob hash settings now job dispatch snapshot).1 := by
  unfold settleJob
  cases happly : applySnapshot hash settings now job snapshot with
  | error error => exact keeps_failJob now job error
  | ok job' =>
    have hkeeps := (applySnapshot_ok.1 happly).keeps hformed
    cases dispatch with
    | create | poll | recover => exact hkeeps
    | createRange extraction =>
      dsimp only
      split_ifs
      · cases hretry : setRetry hash settings job' false with
        | error error => exact hkeeps.trans (keeps_failJob now job' error)
        | ok job'' => exact hkeeps.trans (keeps_setRetry hretry).1
      · exact hkeeps

/-- A deletion keeps the context of an export, and nothing else. -/
theorem keys_deletedJob {job : MediaClipJob} (hformed : job.Formed) :
    (deletedJob now job).keys = ⟨none, none, job.keys.rangeExport, none, none, none⟩ := by
  unfold deletedJob
  split_ifs with hexport
  · rfl
  · have hnone : job.keys.rangeExport = none := by
      by_contra hsome
      have hcategory : job.category = .eventExport := by
        by_contra hcategory
        exact hsome (hformed.exported hcategory)
      exact hexport ⟨hcategory, Option.isSome_iff_ne_none.2 hsome⟩
    rw [hnone]
    rfl

theorem follows_deletedJob {job : MediaClipJob} (hformed : job.Formed) :
    Follows job (deletedJob now job) := by
  refine ⟨⟨rfl, rfl, rfl, rfl, rfl, rfl, fun _ => id⟩, ?_, .inr ?_⟩
  · simp only [MediaClipJob.context, keys_deletedJob hformed]
  · rw [keys_deletedJob hformed]

theorem formed_deletedJob {job : MediaClipJob} (hformed : job.Formed) (hclip : job.clipId ≠ none) :
    (deletedJob now job).Formed where
  device _ := by
    rw [keys_deletedJob hformed]
    exact ⟨rfl, rfl, rfl⟩
  exported hcategory := by
    rw [keys_deletedJob hformed]
    exact hformed.exported hcategory
  queued _ hnone := absurd hnone hclip

/-! ## Tables -/

namespace Db

variable {db : Db} {job row : MediaClipJob} {id : ℕ}

theorem mem_of_job? (h : db.job? id = some job) : job ∈ db.jobs := List.mem_of_find?_eq_some h

theorem mem_of_jobOfClip? {clipId : String} (h : db.jobOfClip? clipId = some job) :
    job ∈ db.jobs ∧ job.clipId = some clipId :=
  ⟨List.mem_of_find?_eq_some h, by simpa using List.find?_some h⟩

theorem mem_of_jobOf? {cameraId eventId : String} (h : db.jobOf? cameraId eventId = some job) :
    job ∈ db.jobs ∧ job.eventId = eventId ∧ job.cameraId = cameraId :=
  ⟨List.mem_of_find?_eq_some h, by simpa using List.find?_some h⟩

theorem le_foldr_max {l : List ℕ} {n : ℕ} (h : n ∈ l) : n ≤ l.foldr max 0 := by
  induction l with
  | nil => cases h
  | cons m l ih =>
    rcases List.mem_cons.1 h with rfl | h
    · exact le_max_left _ _
    · exact (ih h).trans (le_max_right _ _)

theorem lt_nextId (h : job ∈ db.jobs) : job.id < db.nextId :=
  Nat.lt_succ_of_le (le_foldr_max (List.mem_map_of_mem h))

/-- The rows after a change: the changed one, and those of other identifiers. -/
theorem mem_updateJob (h : row ∈ (db.updateJob job).jobs) :
    row = job ∨ row ∈ db.jobs ∧ row.id ≠ job.id := by
  obtain ⟨old, hold, rfl⟩ := List.mem_map.1 h
  split_ifs with heq
  · exact .inl rfl
  · exact .inr ⟨hold, heq⟩

theorem mem_insertJob : row ∈ (db.insertJob job).jobs ↔ row ∈ db.jobs ∨ row = job := by
  simp [insertJob]

end Db

/-- What holds of the tables at any time. -/
structure Db.Valid (db : Db) : Prop where
  formed : ∀ job ∈ db.jobs, job.Formed
  ids : (db.jobs.map MediaClipJob.id).Nodup
  events : ∀ a ∈ db.jobs, ∀ b ∈ db.jobs, a.cameraId = b.cameraId → a.eventId = b.eventId →
    a.id = b.id
  clips : ∀ a ∈ db.jobs, ∀ b ∈ db.jobs, a.clipId ≠ none → a.clipId = b.clipId → a.id = b.id
  aliases : ∀ row ∈ db.aliases, ∃ job ∈ db.jobs, job.id = row.jobId

namespace Db.Valid

variable {db : Db} {job row other : MediaClipJob}

theorem eq_of_id (h : db.Valid) (hjob : job ∈ db.jobs) (hrow : row ∈ db.jobs)
    (hid : row.id = job.id) :
    row = job := List.inj_on_of_nodup_map h.ids hrow hjob hid

theorem job?_eq (h : db.Valid) (hjob : job ∈ db.jobs) : db.job? job.id = some job := by
  apply find?_eq_of_unique hjob
  · simp
  · intro row hrow hid
    exact h.eq_of_id hjob hrow (by simpa using hid)

/-- Every event of a camera has one job at most. -/
theorem nodup_events (h : db.Valid) :
    (db.jobs.map fun job => (job.cameraId, job.eventId)).Nodup := by
  refine List.Nodup.map_on (fun a ha b hb hkey => ?_) (List.Nodup.of_map _ h.ids)
  obtain ⟨hcamera, hevent⟩ := Prod.mk.inj hkey
  exact h.eq_of_id hb ha (h.events a ha b hb hcamera hevent)

/-- A row is changed. -/
theorem grows_updateJob {R : MediaClipJob → MediaClipJob → Prop} (h : db.Valid)
    (hrefl : ∀ job, R job job) (hrow : row ∈ db.jobs) (hid : job.id = row.id) (hR : R row job) :
    Grows R db.jobs (db.updateJob job).jobs := by
  refine Grows.of_map fun old hold => ?_
  split_ifs with heq
  · obtain rfl := h.eq_of_id hrow hold (heq.trans hid)
    exact hR
  · exact hrefl old

theorem updateJob (h : db.Valid) (hrow : row ∈ db.jobs) (hsame : SameJob row job)
    (hformed : job.Formed)
    (hclip : ∀ other ∈ db.jobs, other.clipId ≠ none → other.clipId = job.clipId →
      other.id = job.id) :
    (db.updateJob job).Valid where
  formed other hother := by
    rcases Db.mem_updateJob hother with rfl | ⟨hold, -⟩
    · exact hformed
    · exact h.formed other hold
  ids := by
    have hids : (db.updateJob job).jobs.map MediaClipJob.id = db.jobs.map MediaClipJob.id := by
      simp only [Db.updateJob, List.map_map]
      refine List.map_congr_left fun old _ => ?_
      simp only [Function.comp_apply]
      split_ifs with heq
      · exact heq.symm
      · rfl
    rw [hids]
    exact h.ids
  events a ha b hb hcamera hevent := by
    rcases Db.mem_updateJob ha with rfl | ⟨hold, hane⟩ <;>
      rcases Db.mem_updateJob hb with rfl | ⟨hold', hbne⟩
    · rfl
    · rw [hsame.cameraId] at hcamera
      rw [hsame.eventId] at hevent
      exact absurd ((h.events row hrow b hold' hcamera hevent).symm.trans hsame.id.symm) hbne
    · rw [hsame.cameraId] at hcamera
      rw [hsame.eventId] at hevent
      exact absurd ((h.events a hold row hrow hcamera hevent).trans hsame.id.symm) hane
    · exact h.events a hold b hold' hcamera hevent
  clips a ha b hb hsome hsameClip := by
    rcases Db.mem_updateJob ha with rfl | ⟨hold, hane⟩ <;>
      rcases Db.mem_updateJob hb with rfl | ⟨hold', hbne⟩
    · rfl
    · exact absurd (hclip b hold' (hsameClip ▸ hsome) hsameClip.symm) hbne
    · exact absurd (hclip a hold hsome hsameClip) hane
    · exact h.clips a hold b hold' hsome hsameClip
  aliases row' halias := by
    obtain ⟨old, hold, hid⟩ := h.aliases row' halias
    refine ⟨_, List.mem_map_of_mem hold, ?_⟩
    split_ifs with heq
    · exact heq.symm.trans hid
    · exact hid

theorem insertJob (h : db.Valid) (hformed : job.Formed) (hid : job.id = db.nextId)
    (hclip : job.clipId = none) (hevent : db.jobOf? job.cameraId job.eventId = none) :
    (db.insertJob job).Valid := by
  have hnew : ∀ row ∈ db.jobs, row.cameraId = job.cameraId → row.eventId ≠ job.eventId := by
    intro row hrow hcamera heq
    have hnot := List.find?_eq_none.1 hevent row hrow
    simp [hcamera, heq] at hnot
  constructor
  · intro row hrow
    rcases Db.mem_insertJob.1 hrow with hrow | rfl
    · exact h.formed row hrow
    · exact hformed
  · simp only [Db.insertJob, List.map_append, List.map_singleton]
    rw [List.nodup_append_comm, List.singleton_append, List.nodup_cons]
    refine ⟨fun hmem => ?_, h.ids⟩
    obtain ⟨row, hrow, heq⟩ := List.mem_map.1 hmem
    have hlt := Db.lt_nextId hrow
    omega
  · intro a ha b hb hcamera heq
    rcases Db.mem_insertJob.1 ha with hold | rfl <;> rcases Db.mem_insertJob.1 hb with hold' | rfl
    · exact h.events a hold b hold' hcamera heq
    · exact absurd heq (hnew a hold hcamera)
    · exact absurd heq.symm (hnew b hold' hcamera.symm)
    · rfl
  · intro a ha b hb hsome hsameClip
    rcases Db.mem_insertJob.1 ha with hold | rfl <;> rcases Db.mem_insertJob.1 hb with hold' | rfl
    · exact h.clips a hold b hold' hsome hsameClip
    · exact absurd (hsameClip.trans hclip) hsome
    · exact absurd hclip hsome
    · rfl
  · intro row halias
    obtain ⟨old, hold, hid⟩ := h.aliases row halias
    exact ⟨old, Db.mem_insertJob.2 (.inl hold), hid⟩

end Db.Valid

end ScrapMonitoring.Media
