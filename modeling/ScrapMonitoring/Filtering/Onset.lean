import ScrapMonitoring.Filtering.Sustained
import ScrapMonitoring.Operations.Runs

/-!
# A pit becomes critical

With a filter that is ready the worker takes a fill as critical only after it has been so for a
while, and reads that off the row of the filter. So when a pit becomes critical, the filtered values
of its device have been at or above the threshold for as long as the settings ask for
(`critical_onset`).
-/

namespace ScrapMonitoring.Filtering

open Monitoring Operations
open EdgeV2 (DeviceStatus EdgeV2Message)

variable {hash : Json → String} {H : Type*} {reader : Reader} {settings : Settings}
    {db : Database H}
  {source : MonitoringSource} {now : ℤ} {es : List FilterEntry} {state : Option FilterPayload}

/-! ## What is shown of a filter that is ready -/

theorem filteredReading_ready {key : String × String} {message : EdgeV2Message H}
    {data : DashboardDataState} {reasons : List String} {raw : Option ℚ}
    (h : (filteredReading db key message data reasons raw).filterState = .ready) :
    ∃ row, db.filter key = some row ∧ row.state = .ready ∧
      row.value = (filteredReading db key message data reasons raw).percent := by
  revert h
  unfold filteredReading
  split_ifs with hcompact hfresh
  · split
    · rename_i row hrow
      obtain ⟨hrow, -⟩ := Option.filter_eq_some_iff.1 hrow
      split
      · rename_i value hready hvalue
        exact fun _ => ⟨row, hrow, hready, hvalue⟩
      · exact fun h => by cases h
      · exact fun h => by cases h
    · exact fun h => by cases h
  · exact fun h => by cases h
  · exact fun h => by cases h

theorem heightSnapshot_ready {device : DeviceStatus} {pit : Option PitConfig}
    (h : (heightSnapshot reader settings db source device pit now).2.filterState = .ready) :
    ∃ row, db.filter source.device = some row ∧ row.state = .ready ∧
      row.value = (heightSnapshot reader settings db source device pit now).2.percent := by
  revert h
  unfold heightSnapshot
  cases db.heightFill source.device with
  | none => exact fun h => by cases h
  | some observation =>
    dsimp only
    split_ifs with hfresh
    · exact fun h => by cases h
    · split
      · exact fun h => by cases h
      · rename_i row hrow
        obtain ⟨hrow, -⟩ := Option.filter_eq_some_iff.1 hrow
        split
        · rename_i value hready hvalue
          exact fun _ => ⟨row, hrow, hready, hvalue⟩
        · exact fun h => by cases h
        · exact fun h => by cases h

/-- A snapshot whose filter is ready shows the value of the filter. -/
theorem buildSnapshot_ready {snapshot : MonitoringSnapshotV2}
    (h : buildSnapshot reader settings db source now = some snapshot)
    (hready : snapshot.summary.filterState = .ready) :
    ∃ row, db.filter source.device = some row ∧ row.state = .ready ∧
      row.value = snapshot.summary.loadPercent := by
  unfold buildSnapshot at h
  simp only [Option.bind_eq_bind, Option.bind_eq_some_iff] at h
  obtain ⟨assessment, -, device, -, h⟩ := h
  rw [Option.ite_none_right_eq_some] at h
  obtain rfl := Option.some.inj h.2
  revert hready
  dsimp only
  unfold currentInput
  split_ifs with henabled
  · exact heightSnapshot_ready
  · unfold edgeReading
    split
    · exact filteredReading_ready
    · exact fun h => by cases h

/-! ## What the worker waits for -/

section

variable {e : Evaluation} {previous : OperationalState} {observation : FillObservation}
    {observed : ℤ}
  {fill : ℚ}

theorem filterSince_eq_some {since : ℤ} (h : e.filterSince observation = some since) :
    ∃ row, e.filtered = some row ∧ row.messageId = observation.messageId ∧
      row.threshold = e.critical ∧ row.aboveSince = some since := by
  unfold Evaluation.filterSince at h
  obtain ⟨row, hrow, hsince⟩ := Option.bind_eq_some_iff.1 h
  obtain ⟨hfiltered, hmatch⟩ := Option.filter_eq_some_iff.1 hrow
  obtain ⟨hmessage, hthreshold⟩ := of_decide_eq_true hmatch
  exact ⟨row, hfiltered, hmessage, hthreshold, hsince⟩

/-- What is evaluated is the observation and the percentage that are shown. -/
theorem input_eq_some {load : ℚ} (h : e.input = some (observation, load)) :
    e.observation = some observation ∧ e.snapshot.summary.loadPercent = some load := by
  unfold Evaluation.input at h
  split_ifs at h
  cases hobservation : e.observation with
  | none =>
    rw [hobservation] at h
    cases h
  | some observation' =>
    cases hload : e.snapshot.summary.loadPercent with
    | none =>
      rw [hobservation, hload] at h
      cases h
    | some load' =>
      rw [hobservation, hload] at h
      obtain ⟨rfl, rfl⟩ := Prod.mk.inj (Option.some.inj h)
      exact ⟨rfl, rfl⟩

/-- With a filter that is ready, a pit that was not critical becomes so only with a fill that is,
and that the filter has confirmed if the settings ask for it. -/
theorem confirmed_of_current (hready : e.snapshot.summary.filterState = .ready)
    (hprevious : previous ≠ .critical)
    (h : e.current previous observation observed fill = .critical) :
    e.critical ≤ fill ∧ (e.settings.criticalConfirmSeconds = 0 ∨
      ∃ since, e.filterSince observation = some since ∧
        seconds e.settings.criticalConfirmSeconds ≤ observed - since) := by
  obtain ⟨hfill, hconfirmed⟩ | ⟨hcritical, -⟩ :=
    (current_eq_critical previous observation observed fill).1 h
  · refine ⟨hfill, ?_⟩
    have hawaits : e.awaitsConfirmation previous := decide_eq_true ⟨hready, hprevious⟩
    unfold Evaluation.confirmed at hconfirmed
    rw [if_pos hawaits, Evaluation.pending, if_pos ⟨hawaits, hfill⟩, Option.any_some,
      decide_eq_true_eq] at hconfirmed
    cases hsince : e.filterSince observation with
    | none =>
      left
      rw [hsince, Option.getD_none] at hconfirmed
      unfold seconds at hconfirmed
      omega
    | some since =>
      right
      rw [hsince, Option.getD_some] at hconfirmed
      exact ⟨since, rfl, hconfirmed⟩
  · exact absurd hcritical hprevious

end

/-- A message is of one observation: it is not projected with another time. -/
def OneObservation (es : List FilterEntry) (observation : FillObservation) : Prop :=
  ∀ x ∈ es, ∀ input row, Projects x input row →
    input.observation.messageId = observation.messageId →
      input.observation.observedTo = observation.observedTo

/-- The filter has been at or above the threshold for as long as the settings ask for, up to the
observation. -/
def Confirmed (es : List FilterEntry) (e : Evaluation) (observed : ℤ) : Prop :=
  e.settings.criticalConfirmSeconds = 0 ∨ ∃ scope since span, scope.threshold = e.critical ∧
    Sustained es scope since observed span ∧
      seconds e.settings.criticalConfirmSeconds ≤ observed - since

/-- The row that the worker reads confirms the observation. -/
theorem run_confirmed {e : Evaluation} {observation : FillObservation} {observed since : ℤ}
    (h : Run filterStep none es e.filtered) (hmessage : OneObservation es observation)
    (hobserved : observation.observedTo = some observed)
    (hsince : e.filterSince observation = some since)
    (hlong : seconds e.settings.criticalConfirmSeconds ≤ observed - since) :
    Confirmed es e observed := by
  obtain ⟨row, hrow, hid, hthreshold, habove⟩ := filterSince_eq_some hsince
  obtain ⟨x, hx, input, hprojects, heq⟩ := run_last h hrow
  obtain ⟨last, span, hlast, hspan⟩ := (run_sound h row hrow).above since habove
  have hsame : row.observedAt = observation.observedTo := by
    rw [heq] at hid ⊢
    exact hmessage x hx input row hprojects hid
  obtain rfl : last = observed := Option.some.inj (hlast.symm.trans (hsame.trans hobserved))
  refine .inr ⟨row.scope, since, span, ?_, hspan, hlong⟩
  rw [heq] at hthreshold ⊢
  exact hthreshold

/-- A pit becomes critical only with a fill that the filter has confirmed. -/
theorem step_onset {c : Call} {s s' : Store} {out : Option Unit} {pit : String}
    {device : String × String} (h : Run filterStep none es c.evaluation.filtered)
    (hstep : step hash s c = some (s', out))
    (hready : c.evaluation.snapshot.summary.filterState = .ready)
    (hbefore : ¬CriticalAt s pit device) (hafter : CriticalAt s' pit device) :
    ∃ observation observed fill, c.evaluation.observation = some observation ∧
      observation.observedTo = some observed ∧
      c.evaluation.snapshot.summary.loadPercent = some fill ∧ c.evaluation.critical ≤ fill ∧
      (OneObservation es observation → Confirmed es c.evaluation observed) := by
  obtain ⟨-, hquiet, -⟩ | ⟨observation, observed, fill, hjudges⟩ :=
    @entry_cases hash ⟨s, c, out, s'⟩ hstep pit
  · exact absurd ((hquiet.criticalAt_iff device).1 hafter) hbefore
  · obtain ⟨⟨value, load, hinput, hobserved, -, rfl⟩, -⟩ := task_judge hjudges.task
    obtain ⟨row, hrow, rfl, hcritical⟩ := hafter
    rw [show s'.operation = _ from hjudges.operation, Function.update_self] at hrow
    obtain rfl := Option.some.inj hrow
    obtain ⟨hdevice, hstate, -⟩ := judgedRow_eq c.evaluation (s.operation pit) observation observed
      (c.evaluation.fill value load)
    rw [hdevice, ← previous_eq_critical] at hbefore
    rw [hstate] at hcritical
    obtain ⟨hfill, hconfirmed⟩ := confirmed_of_current hready hbefore hcritical
    have hload : c.evaluation.fill value load = load := by
      unfold Evaluation.fill
      rw [hready]
      exact if_neg (by simp)
    obtain ⟨hobservation, hpercent⟩ := input_eq_some hinput
    rw [hload] at hfill
    refine ⟨observation, observed, load, hobservation, hobserved, hpercent, hfill,
      fun hmessage => ?_⟩
    obtain hzero | ⟨since, hsince, hlong⟩ := hconfirmed
    · exact .inl hzero
    · exact run_confirmed h hmessage hobserved hsince hlong

/-! ## The whole -/

/-- What a pit that has become critical was judged by: a fill that is critical, which is the value
of the filter if the filter is what the snapshot was built from, and which the filter has
confirmed. -/
structure Onset (H : Type*) (es : List FilterEntry) (state : Option FilterPayload) (e : Evaluation)
    (observation : FillObservation) (observed : ℤ) (fill : ℚ) : Prop where
  input : e.observation = some observation
  time : observation.observedTo = some observed
  critical : e.critical ≤ fill
  shown : ∀ reader (db : Database H), db.filter e.source.device = state →
    buildSnapshot reader e.settings db e.source e.now = some e.snapshot →
      ∃ row, state = some row ∧ row.state = .ready ∧ row.value = some fill
  confirmed : OneObservation es observation → Confirmed es e observed

/-- What holds of the filter of a device along a run of projections and resets. -/
structure FilterInvariants (H : Type*) (hash : Json → String) (es : List FilterEntry)
    (state : Option FilterPayload) : Prop where
  /-- The inputs that have been projected since the one at which the value came above the threshold
  are all valid, of the scope, above the threshold and without a gap, and there was no reset. -/
  sustained : ∀ row since, state = some row → row.aboveSince = some since →
    ∃ last span, row.observedAt = some last ∧ Sustained es row.scope since last span
  /-- A filtered value of assessments is the median of a window of one scope. -/
  median : ∀ pre x post, es = pre ++ x :: post → ∀ input row value, Projects x input row →
    input.observation.source = .edgeState → row.value = some value →
      MedianOf (pre ++ [x]) input.settings.medianWindowSeconds row value
  /-- With a filter that is ready, a pit becomes critical only when the filter confirms it. -/
  onset : ∀ (c : Call) s s' out pit device, c.evaluation.filtered = state →
    step hash s c = some (s', out) → c.evaluation.snapshot.summary.filterState = .ready →
      ¬CriticalAt s pit device → CriticalAt s' pit device → ∃ observation observed fill,
        Onset H es state c.evaluation observation observed fill

/-- **A pit becomes critical only after filtered values that are so for a while.** -/
theorem critical_onset {H : Type*} (hash : Json → String) (h : Run filterStep none es state) :
    FilterInvariants H hash es state where
  sustained := fun row since hrow => (run_sound h row hrow).above since
  median := by
    rintro pre x post rfl input row value hprojects hsource hvalue
    obtain ⟨hbefore, hstep⟩ := h.of_append_cons
    have hsound : Sound (pre ++ [x]) row :=
      run_sound (hbefore.snoc hstep) row hprojects.2
    exact hsound.medianOf (projects_eq hstep hprojects) hsource hvalue
  onset := by
    rintro c s s' out pit device rfl hstep hready hbefore hafter
    obtain ⟨observation, observed, fill, hobservation, hobserved, hpercent, hfill, hconfirmed⟩ :=
      step_onset h hstep hready hbefore hafter
    refine ⟨observation, observed, fill, hobservation, hobserved, hfill, ?_, hconfirmed⟩
    intro reader db hfilter hsnapshot
    obtain ⟨row, hrow, hstate, hvalue⟩ := buildSnapshot_ready hsnapshot hready
    exact ⟨row, hfilter.symm.trans hrow, hstate, hvalue.trans hpercent⟩

/-! ### An earlier projection of a later observation

An observation without a value is projected, then a reset empties the row, and messages that were
generated later bring observations from before that one. -/

def FilterOp.generatedAt? : FilterOp → Option ℤ
  | .project input => some input.observation.generatedAt
  | .reset => none

def sampleProjection (messageId : String) (generated observed : ℤ) (value : Option ℚ)
    (hvalue : ∀ v ∈ value, 0 ≤ v ∧ v ≤ 100) : Projection where
  settings :=
    { sampleSettings with
      medianWindowSeconds := 3, window_range := by decide, window_odd := by decide }
  observation :=
    { source := .edgeState
      siteId := "site"
      edgeId := "edge"
      configRevision := "cfg"
      messageId := messageId
      observationId := messageId
      generatedAt := generated
      receivedAt := seconds 104
      observedTo := some observed
      ruleVersion := some "rule"
      methodVersion := some "method"
      valuePercent := value
      reasonCodes := []
      value_range := hvalue }
  receivedAt := seconds 104
  status := ⟨"site", "edge", .reporting, some (seconds 104), .healthy, [], some sampleStatus⟩
  pitConfig _ := none
  heightFilteredPercent := none

def valuelessProjection : Projection :=
  sampleProjection "m-1" (seconds 103) (seconds 103) none (by simp)

def highProjection (messageId : String) (generated observed : ℤ) : Projection :=
  sampleProjection messageId generated observed (some 95) (by norm_num)

/-- The row does not vouch for inputs that were projected before, of observations since, although
every message is generated after the ones before it. -/
theorem invalid_projected_before : ∃ es row, Run filterStep none es (some row) ∧
    ((es.map Entry.op).filterMap FilterOp.generatedAt?).Pairwise (· < ·) ∧
    row.aboveSince = some (seconds 103) ∧ row.observedAt = some (seconds 103) ∧
    ∃ x ∈ es, timeOf x = some (seconds 103) ∧ ∃ input before, Projects x input before ∧
      before.inputValid = false := by
  have h : Run filterStep none _ (some _) :=
    ((((Run.nil.snoc (i := .project valuelessProjection) rfl).snoc (i := .reset) rfl).snoc
      (i := .project (highProjection "m-2" 103100000 (seconds 101))) rfl).snoc
      (i := .project (highProjection "m-3" 103200000 (seconds 102))) rfl).snoc
      (i := .project (highProjection "m-4" 103300000 (seconds 103))) rfl
  refine ⟨_, _, h, by decide +kernel, by decide +kernel, by decide +kernel, _, List.mem_cons_self,
    by decide +kernel, valuelessProjection, _, ⟨rfl, rfl⟩, by decide +kernel⟩

theorem critical_onset_sample : ∃ es row, Run filterStep none es (some row) ∧
    row.aboveSince = some (seconds 103) ∧
    FilterInvariants String (fun _ => "") es (some row) := by
  have h : Run filterStep none _ (some _) :=
    ((Run.nil.snoc (i := .project (highProjection "m-2" 103100000 (seconds 101))) rfl).snoc
      (i := .project (highProjection "m-3" 103200000 (seconds 102))) rfl).snoc
      (i := .project (highProjection "m-4" 103300000 (seconds 103))) rfl
  exact ⟨_, _, h, by decide +kernel, critical_onset (fun _ => "") h⟩

end ScrapMonitoring.Filtering
