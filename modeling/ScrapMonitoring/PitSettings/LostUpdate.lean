import ScrapMonitoring.Monitoring.Freshness
import ScrapMonitoring.PitSettings.Effects

/-!
# No update of the settings is lost

`no_lost_update` is about every run of calls of `replace_settings` and of `update_pit_config` on one
pit. A call of `update_pit_config` reads its row again after it has committed, and when that fails
it answers that nothing could be stored (`failed_after_commit`); the runs of the theorem are those
in which this does not happen.
-/

namespace ScrapMonitoring.PitSettings

open Monitoring (PitConfig Settings sampleSettings)

variable {ι : Type*} [DecidableEq ι] {texts : Texts} {settings : Settings} {pitId : String}
variable {calls : ι → Call} {i : ι} {db : WriteLock ι Rows} {progress : Progress} {reply : Reply}
variable {rows : Rows} {es : List (CallStep ι)} {s s₀ : System ι}

/-- **What a statement does.** -/
theorem act_effect (h : Knows texts settings pitId calls i db progress) :
    Leads (act texts settings pitId calls i db progress reply)
      (Effect texts settings pitId calls i db progress reply) := by
  cases hrequest : (calls i).request with
  | replaceSettings payload ifMatch =>
    cases progress with
    | replacing progress =>
      simp only [act, hrequest]
      exact replaceSettings_effect hrequest ((knows_replacing hrequest).1 h)
    | configuring progress =>
      simp only [act, hrequest]
      exact leads_none
    | done outcome => exact leads_none
  | updatePitConfig payload =>
    cases progress with
    | replacing progress =>
      simp only [act, hrequest]
      exact leads_none
    | configuring progress =>
      simp only [act, hrequest]
      exact updatePitConfig_effect hrequest ((knows_configuring hrequest).1 h)
    | done outcome => exact leads_none

theorem Effect.advances {db' : WriteLock ι Rows} {progress' : Progress} {out : Option Outcome}
    (h : Effect texts settings pitId calls i db progress reply db' progress' out) :
    Advances pitId db.committed db'.committed := by
  rcases h.commits with ⟨heq, -⟩ | ⟨-, hchanges, -⟩
  · rw [heq]
    exact .refl pitId _
  · exact hchanges.advances

theorem guarded : Guarded (act texts settings pitId calls) (fun _ => True)
    (Knows texts settings pitId calls) (Rely pitId) where
  keeps _ hknows h := ⟨trivial, (act_effect hknows _ _ _ h).knows⟩
  guarantee _ hknows h _ hj :=
    ⟨(act_effect hknows _ _ _ h).move.others hj, (act_effect hknows _ _ _ h).advances⟩
  stable hknows hrely := hknows.stable hrely

omit [DecidableEq ι] in
theorem knows_start : Knows texts settings pitId calls i ⟨rows, none⟩ (calls i).request.start := by
  have hidle : WriteLock.Idle (⟨rows, none⟩ : WriteLock ι Rows) i := WriteLock.idle_of_none rfl i
  cases hrequest : (calls i).request with
  | replaceSettings payload ifMatch => exact (knows_replacing hrequest).2 hidle
  | updatePitConfig payload => exact (knows_configuring hrequest).2 hidle

theorem start_hasCommitted (request : Request) : request.start.hasCommitted = false := by
  cases request <;> rfl

/-- What a step of a run does. -/
theorem entry_effect
    (hrun : Run (interleave (act texts settings pitId calls)) (System.initial calls rows) es s)
    {e : CallStep ι} (he : e ∈ es) :
    Effect texts settings pitId calls e.op.1 e.pre.store (e.pre.locals e.op.1) e.op.2 e.post.store
      (e.post.locals e.op.1) e.out := by
  obtain ⟨before, after, rfl⟩ := List.append_of_mem he
  obtain ⟨hpre, hstep⟩ := hrun.of_append_cons
  have hknows := (guarded.of_run trivial (fun _ => knows_start) hpre).2 e.op.1
  exact act_effect hknows _ _ _ (interleave_cases hstep).1

omit [DecidableEq ι] in
theorem Commits.marks {request : Request} {progress' : Progress}
    (h : Commits request progress progress') :
    progress.hasCommitted = false ∧ progress'.hasCommitted = true := by
  cases request with
  | replaceSettings payload ifMatch =>
    obtain ⟨result, rfl, rfl⟩ := h
    exact ⟨rfl, rfl⟩
  | updatePitConfig payload =>
    obtain ⟨rfl, rfl⟩ := h
    exact ⟨rfl, rfl⟩

/-- The step leaves the committed rows as they are. -/
def Unchanged (e : CallStep ι) : Prop := e.post.store.committed = e.pre.store.committed

/-- **A call commits once, or not at all.** -/
theorem committed_once
    (hrun : Run (interleave (act texts settings pitId calls)) (System.initial calls rows) es s)
    (hreloads : ∀ e ∈ es, Reloads (e.pre.locals e.op.1) e.op.2) (i : ι) :
    (s.locals i).hasCommitted = false ∧ (∀ e ∈ es, e.op.1 = i → Unchanged e) ∨
      (s.locals i).hasCommitted = true ∧ Once i (fun e => Changes texts settings pitId (calls i)
        e.pre.store.committed e.post.store.committed) Unchanged es := by
  refine once_of_run hrun (start_hasCommitted _) fun e he hi => ?_
  subst hi
  rcases (entry_effect hrun he).commits with ⟨hsame, hmark⟩ | ⟨hcommits, hchanges, -⟩
  · exact .inl ⟨hmark (hreloads e he), hsame⟩
  · exact .inr ⟨hcommits.marks.1, hcommits.marks.2, hchanges⟩

/-! ## Versions -/

/-- The version of the policy. -/
def Rows.version (rows : Rows) : ℕ := (rows.policy.map AlertPolicy.versionId).getD 0

theorem Advances.version {pre post : Rows} (h : Advances pitId pre post) :
    pre.version ≤ post.version := by
  unfold Rows.version
  rcases h.policy with heq | ⟨policy, policy', hpolicy, hpolicy', hversion⟩
  · rw [heq]
  · rw [hpolicy, hpolicy', Option.map_some, Option.map_some, Option.getD_some, Option.getD_some]
    omega

/-- The text of the ETag of the rows. -/
def Rows.etagContent? (texts : Texts) (rows : Rows) : Option String :=
  rows.pit.bind fun pit => rows.policy.map (etagContent texts pit)

/-- The digests of the ETags of the rows that the run has committed do not collide. -/
def CollisionFree (texts : Texts) (es : List (CallStep ι)) : Prop :=
  ∀ e ∈ es, ∀ f ∈ es, ∀ content ∈ e.pre.store.committed.etagContent? texts,
    ∀ content' ∈ f.pre.store.committed.etagContent? texts,
      texts.hash content = texts.hash content' → content = content'

theorem hash_eq_of_etag {pit pit' : PitConfig} {policy policy' : AlertPolicy}
    (hid : pit.id = pit'.id)
    (h : generateAlertEtag texts pit policy = generateAlertEtag texts pit' policy') :
    texts.hash (etagContent texts pit policy) = texts.hash (etagContent texts pit' policy') := by
  have hlist := congrArg String.toList h
  simp only [generateAlertEtag, String.toList_append, hid, List.append_cancel_left_eq,
    List.append_cancel_right_eq] at hlist
  exact String.toList_inj.1 hlist

omit [DecidableEq ι] in
/-- Two replacements with one ETag replace one version. -/
theorem version_eq_of_replaces {e f : CallStep ι} (hhash : CollisionFree texts es) (he : e ∈ es)
    (hf : f ∈ es) {payload payload' : AlertSettingsUpdate} {ifMatch : String}
    (hreplaces : Replaces texts pitId payload ifMatch e.pre.store.committed e.post.store.committed)
    (hreplaces' : Replaces texts pitId payload' ifMatch f.pre.store.committed
      f.post.store.committed) :
    e.pre.store.committed.version = f.pre.store.committed.version := by
  obtain ⟨pit, policy, -, -, hselect, hpolicy, hetag, -, -⟩ := hreplaces
  obtain ⟨pit', policy', -, -, hselect', hpolicy', hetag', -, -⟩ := hreplaces'
  obtain ⟨hpit, hid⟩ := Rows.selectPit_eq_some.1 hselect
  obtain ⟨hpit', hid'⟩ := Rows.selectPit_eq_some.1 hselect'
  have hcontent : etagContent texts pit policy = etagContent texts pit' policy' := by
    apply hhash e he f hf
    · simp [Rows.etagContent?, hpit, hpolicy]
    · simp [Rows.etagContent?, hpit', hpolicy']
    · exact hash_eq_of_etag (hid.trans hid'.symm) (hetag.symm.trans hetag')
  rw [Rows.version, Rows.version, hpolicy, hpolicy', Option.map_some, Option.map_some,
    versionId_eq_of_etagContent hcontent]

theorem Replaces.version {payload : AlertSettingsUpdate} {ifMatch : String} {pre post : Rows}
    (h : Replaces texts pitId payload ifMatch pre post) : post.version = pre.version + 1 := by
  obtain ⟨pit, policy, now, now', -, hpolicy, -, -, hpolicy'⟩ := h
  rw [Rows.version, Rows.version, hpolicy, hpolicy']
  rfl

/-! ## The theorem -/

/-- What the commits of a run have done. -/
structure NoLostUpdate (texts : Texts) (settings : Settings) (pitId : String) (calls : ι → Call)
    (es : List (CallStep ι)) (s : System ι) : Prop where
  /-- Of two calls that replace the settings with one ETag at most one succeeds. -/
  once : ∀ i j payload payload' ifMatch, i ≠ j →
    (calls i).request = .replaceSettings payload ifMatch →
    (calls j).request = .replaceSettings payload' ifMatch →
    ∀ o o', s.locals i = .done o → s.locals j = .done o' → o.failed ∨ o'.failed
  /-- A call that has replaced the settings had the ETag of the rows before its commit, and the
  policy has the next version. -/
  replaced : ∀ i payload ifMatch, (calls i).request = .replaceSettings payload ifMatch →
    ∀ o, s.locals i = .done o → o.failed = false →
    Once i (fun e => Replaces texts pitId payload ifMatch e.pre.store.committed
      e.post.store.committed) Unchanged es
  /-- Nothing else changes the version. -/
  version : ∀ e ∈ es, e.post.store.committed.version ≠ e.pre.store.committed.version →
    ∃ payload ifMatch o, (calls e.op.1).request = .replaceSettings payload ifMatch ∧
      e.out = some o ∧ o.failed = false
  /-- A call that has updated the configuration has created the row, or it has changed the fields
  that it was given. -/
  configured : ∀ i payload, (calls i).request = .updatePitConfig payload →
    ∀ o, s.locals i = .done o → o.failed = false →
    Once i (fun e => Configures settings pitId payload e.pre.store.committed
      e.post.store.committed) Unchanged es
  /-- A new entry of the history has the values before the commit and those after it. -/
  history : ∀ e ∈ es, Logged e.pre.store.committed e.post.store.committed
  /-- A call that has failed has changed nothing. -/
  failed : ∀ i o, s.locals i = .done o → o.failed → ∀ e ∈ es, e.op.1 = i → Unchanged e

/-- A call that has succeeded has committed once. -/
theorem succeeded_once
    (hrun : Run (interleave (act texts settings pitId calls)) (System.initial calls rows) es s)
    (hreloads : ∀ e ∈ es, Reloads (e.pre.locals e.op.1) e.op.2) {o : Outcome}
    (ho : s.locals i = .done o) (hok : o.failed = false) :
    Once i (fun e => Changes texts settings pitId (calls i) e.pre.store.committed
      e.post.store.committed) Unchanged es := by
  rcases committed_once hrun hreloads i with ⟨hmark, -⟩ | ⟨-, honce⟩
  · rw [ho, Progress.hasCommitted, hok] at hmark
    cases hmark
  · exact honce

/-- **No update of the settings is lost.** -/
theorem no_lost_update
    (hrun : Run (interleave (act texts settings pitId calls)) (System.initial calls rows) es s)
    (hhash : CollisionFree texts es)
    (hreloads : ∀ e ∈ es, Reloads (e.pre.locals e.op.1) e.op.2) :
    NoLostUpdate texts settings pitId calls es s := by
  have hreplaced : ∀ i payload ifMatch, (calls i).request = .replaceSettings payload ifMatch →
      ∀ o, s.locals i = .done o → o.failed = false →
      Once i (fun e => Replaces texts pitId payload ifMatch e.pre.store.committed
        e.post.store.committed) Unchanged es := by
    intro i payload ifMatch hrequest o ho hok
    have honce := succeeded_once hrun hreloads ho hok
    simp only [Changes, hrequest] at honce
    exact honce
  refine ⟨?_, hreplaced, ?_, ?_, ?_, ?_⟩
  · intro i j payload payload' ifMatch hne hi hj o o' ho ho'
    by_contra hfailed
    simp only [not_or, Bool.not_eq_true] at hfailed
    obtain ⟨before, e, after, hes, hei, he, -⟩ := hreplaced i _ _ hi o ho hfailed.1
    obtain ⟨before', f, after', hes', hfj, hf, -⟩ := hreplaced j _ _ hj o' ho' hfailed.2
    have hemem : e ∈ es := by simp [hes]
    have hfmem : f ∈ es := by simp [hes']
    have hversions := version_eq_of_replaces hhash hemem hfmem he hf
    have hle : ∀ g ∈ es, g.pre.store.committed.version ≤ g.post.store.committed.version :=
      fun g hg => (entry_effect hrun hg).advances.version
    have horder := hrun.le_or_le_of_mem (f := fun s => s.store.committed.version) hle hemem hfmem
      (by rintro rfl; exact hne (hei.symm.trans hfj))
    have := he.version
    have := hf.version
    omega
  · intro e he hversion
    rcases (entry_effect hrun he).commits with ⟨hsame, -⟩ | ⟨hcommits, hchanges, -⟩
    · rw [hsame] at hversion
      exact absurd rfl hversion
    · cases hrequest : (calls e.op.1).request with
      | replaceSettings payload ifMatch =>
        rw [hrequest] at hcommits
        obtain ⟨result, -, hpost⟩ := hcommits
        exact ⟨payload, ifMatch, .settings result, rfl,
          ((entry_effect hrun he).outcome _).2 hpost, rfl⟩
      | updatePitConfig payload =>
        rw [Changes, hrequest] at hchanges
        rw [Rows.version, Rows.version, hchanges.1] at hversion
        exact absurd rfl hversion
  · intro i payload hrequest o ho hok
    have honce := succeeded_once hrun hreloads ho hok
    simp only [Changes, hrequest] at honce
    exact honce
  · intro e he
    rcases (entry_effect hrun he).commits with ⟨hsame, -⟩ | ⟨-, -, hlogged⟩
    · rw [hsame]
      exact .inl rfl
    · exact hlogged
  · intro i o ho hfailed
    rcases committed_once hrun hreloads i with ⟨-, hunchanged⟩ | ⟨hmark, -⟩
    · exact hunchanged
    · rw [ho, Progress.hasCommitted, hfailed] at hmark
      cases hmark

/-! ### Three calls

The first call replaces the settings, and the third has read the same settings before it commits.
The second raises the collection threshold afterwards. -/

/-- The outcome of a call that has ended. -/
def Progress.outcome? : Progress → Option Outcome
  | .done outcome => some outcome
  | _ => none

theorem Progress.outcome?_eq_some {progress : Progress} {o : Outcome} :
    progress.outcome? = some o ↔ progress = .done o := by
  cases progress <;> simp [Progress.outcome?]

def sampleTexts : Texts where
  float q := toString q.num
  hash := id

def samplePit : PitConfig := ⟨"pit-01", "pit", 300, 75, 90, 0⟩

def samplePolicy : AlertPolicy := ⟨true, 0, 30, 3, true, [.collectionRequired], 1, 0⟩

def sampleRows : Rows := ⟨some samplePit, some samplePolicy, []⟩

def samplePayload : AlertSettingsUpdate where
  collectionThresholdPercent := 85
  preAlertEnabled := true
  preAlertThresholdPercent := 70
  sendDelayMinutes := 5
  repeatIntervalMinutes := 30
  maximumRepeatCount := 3
  recoveryNotificationEnabled := true
  eventTypes := [.deviceError]
  delay_range := by decide
  interval_range := by decide
  count_range := by decide
  some_event := by decide
  valid_thresholds := by decide +kernel

theorem sampleThreshold_range : ∀ critical ∈ some (95 : ℚ), 0 ≤ critical ∧ critical ≤ 100 := by
  intro critical h
  obtain rfl := Option.some.inj h
  norm_num

theorem missingThreshold_range : ∀ warning ∈ (none : Option ℚ), 0 ≤ warning ∧ warning ≤ 100 := by
  simp

def sampleUpdate : PitConfigUpdateRequest where
  name := none
  totalDepthCm := none
  warningThresholdPercent := none
  criticalThresholdPercent := some 95
  name_length _ h := nomatch h
  depth_positive _ h := nomatch h
  warning_range := missingThreshold_range
  critical_range := sampleThreshold_range

def sampleCalls (i : ℕ) : Call where
  actor := ⟨"admin", "Admin", "administrator"⟩
  request :=
    if i = 1 then .updatePitConfig sampleUpdate
    else .replaceSettings samplePayload (generateAlertEtag sampleTexts samplePit samplePolicy)

def sampleOps : List (ℕ × Reply) :=
  [0, 2, 0, 2, 0, 0, 0, 0, 0, 0, 2, 2, 1, 1, 1, 1, 1, 1].map fun i => (i, ⟨.ok, 7⟩)

/-- The theorem on the three calls. -/
theorem no_lost_update_sample : ∃ es s,
    Run (interleave (act sampleTexts sampleSettings "pit-01" sampleCalls))
      (System.initial sampleCalls sampleRows) es s ∧
    NoLostUpdate sampleTexts sampleSettings "pit-01" sampleCalls es s ∧
      (∃ o, s.locals 0 = .done o ∧ o.failed = false) ∧
      (∃ o, s.locals 1 = .done o ∧ o.failed = false) ∧
      s.locals 2 = .done replacedConcurrently := by
  have hresult : (exec (interleave (act sampleTexts sampleSettings "pit-01" sampleCalls))
      (System.initial sampleCalls sampleRows) sampleOps).map
        (fun r => ((r.2.locals 0).outcome?.map Outcome.failed,
          (r.2.locals 1).outcome?.map Outcome.failed, (r.2.locals 2).outcome?)) =
      some (some false, some false, some replacedConcurrently) := by decide +kernel
  obtain ⟨⟨es, s⟩, hexec, hs⟩ := Option.map_eq_some_iff.1 hresult
  simp only [Prod.mk.injEq, Option.map_eq_some_iff, Progress.outcome?_eq_some] at hs
  refine ⟨es, s, .of_exec hexec, no_lost_update (.of_exec hexec) (fun _ _ _ _ _ _ _ _ h => h) ?_,
    hs⟩
  intro e he _
  have hop : e.op ∈ sampleOps := by
    rw [← exec_ops hexec]
    exact List.mem_map_of_mem he
  obtain ⟨i, -, heq⟩ := List.mem_map.1 hop
  rw [← heq]
  simp

/-- A call of `update_pit_config` whose refresh fails after its commit: the answer is that nothing
could be stored, but the threshold is raised and the history has its entry. -/
theorem failed_after_commit : ∃ es s,
    Run (interleave (act sampleTexts sampleSettings "pit-01" sampleCalls))
      (System.initial sampleCalls sampleRows) es s ∧
    s.locals 1 = .done unavailable ∧ s.store.committed.pit ≠ sampleRows.pit ∧
    s.store.committed.history.length = 1 ∧ ∃ e ∈ es, e.op.1 = 1 ∧ ¬Unchanged e := by
  have hresult : (exec (interleave (act sampleTexts sampleSettings "pit-01" sampleCalls))
      (System.initial sampleCalls sampleRows)
      [(1, ⟨.ok, 7⟩), (1, ⟨.ok, 7⟩), (1, ⟨.ok, 7⟩), (1, ⟨.ok, 7⟩), (1, ⟨.ok, 7⟩),
        (1, ⟨.failure, 8⟩)]).map
        (fun r => ((r.2.locals 1).outcome?, decide (r.2.store.committed.pit = sampleRows.pit),
          r.2.store.committed.history.length,
          r.1.any fun e => e.op.1 = 1 ∧ e.post.store.committed ≠ e.pre.store.committed)) =
      some (some unavailable, false, 1, true) := by decide +kernel
  obtain ⟨⟨es, s⟩, hexec, hs⟩ := Option.map_eq_some_iff.1 hresult
  simp only [Prod.mk.injEq, Progress.outcome?_eq_some, decide_eq_false_iff_not, List.any_eq_true,
    decide_eq_true_eq] at hs
  obtain ⟨houtcome, hpit, hhistory, e, he, hop, hchanged⟩ := hs
  exact ⟨es, s, .of_exec hexec, houtcome, hpit, hhistory, e, he, hop, hchanged⟩

end ScrapMonitoring.PitSettings
