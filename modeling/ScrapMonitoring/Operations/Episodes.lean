import Mathlib.Data.List.Chain
import ScrapMonitoring.Operations.Runs

/-!
# Critical episodes along a run

The tracker of a device holds the episode that its critical evaluations form. `Chain` says what such
an episode is, in terms of the run: evaluations of one source, with one scope, each critical and not
long after the one before, with no other evaluation and no gap between them. `Live` says that the
episode of a tracker is a chain which goes on to the end of the run, `Creation` and `Recovery` say
where in a chain the transitions of an alert and of a resolved episode come from; all three hold
along every run (`run_live`, `run_evidence`).
-/

namespace ScrapMonitoring.Operations

open Monitoring

variable {hash : Json → String} {e : Evaluation} {s s' s₀ : Store}

/-! ## What a judgment does to the episode -/

/-- What becomes of the episode of the source. -/
def verdict (hash : Json → String) (e : Evaluation) (s : Store) (observation : FillObservation)
    (observed : ℤ) (fill : ℚ) : Advance :=
  advance e (s.tracker e.source.device) (lifecycleScope hash e.snapshot) observed
    (e.previous (s.operation e.source.pitId))
    (operationRow e (s.operation e.source.pitId) observation observed fill).state

/-- The judgment raises an alert. -/
def raises (e : Evaluation) (s : Store) (observation : FillObservation) (observed : ℤ) (fill : ℚ) :
    Bool :=
  let next := operationRow e (s.operation e.source.pitId) observation observed fill
  next.state = .critical ∧ cooledDown e next

theorem judgedAlert_of_raises {observation : FillObservation} {observed : ℤ} {fill : ℚ}
    (h : raises e s observation observed fill) :
    judgedAlert e (s.operation e.source.pitId) observation observed fill =
      [⟨e.alertId, e.source.pitId, e.now, fill, observation.simulated, observation.source⟩] := by
  unfold raises at h
  exact if_pos (of_decide_eq_true h)

/-- The tracker of the source after the judgment. -/
def trackerRow (hash : Json → String) (e : Evaluation) (s : Store) (observation : FillObservation)
    (observed : ℤ) (fill : ℚ) : Tracker where
  messageId := observation.messageId
  generatedAt := observation.generatedAt
  pitId := e.source.pitId
  scopeToken := lifecycleScope hash e.snapshot
  episodeId := (verdict hash e s observation observed fill).identifier
  observedAt := observed
  inputValid := true
  hasAlert := (verdict hash e s observation observed fill).hasAlert ||
    raises e s observation observed fill

def resolutionRow (hash : Json → String) (e : Evaluation) (observed : ℤ) (episode : String) :
    EdgeV2Transition :=
  ⟨e.source.siteId, e.source.edgeId, e.now,
    .alertResolved e.source.pitId episode (lifecycleScope hash e.snapshot) observed⟩

def creationRow (hash : Json → String) (e : Evaluation) (observation : FillObservation)
    (observed : ℤ) (episode : String) : EdgeV2Transition :=
  ⟨e.source.siteId, e.source.edgeId, e.now,
    .alertCreated e.source.pitId e.alertId episode (lifecycleScope hash e.snapshot) observed
      observation.simulated⟩

def alertLink (e : Evaluation) (observation : FillObservation) (observed : ℤ) : EdgeV2AlertLink :=
  ⟨e.alertId, e.source.pitId, e.source.siteId, e.source.edgeId, observation.observationId,
    observation.messageId, observed⟩

/-- The transitions of the judgment: of the fill, of a resolved episode and of an alert. -/
def judgedTransitions (hash : Json → String) (e : Evaluation) (s : Store)
    (observation : FillObservation) (observed : ℤ) (fill : ℚ) : List EdgeV2Transition :=
  let previous := e.previous (s.operation e.source.pitId)
  let next := operationRow e (s.operation e.source.pitId) observation observed fill
  (if e.snapshot.summary.filterState = .ready ∧ previous ≠ next.state then
    [fillTransition e observation previous next.state observed fill] else []) ++
  ((verdict hash e s observation observed fill).resolved.map
    (resolutionRow hash e observed)).toList ++
  if raises e s observation observed fill then
    [creationRow hash e observation observed
      ((verdict hash e s observation observed fill).identifier.getD "")]
  else []

/-- A critical fill has an episode, one that goes on or a new one. -/
theorem advance_critical (row : Option Tracker) (scope : String) (observed : ℤ)
    (previous : OperationalState) :
    advance e row scope observed previous .critical = ⟨some e.uuid, false, none⟩ ∨
    ∃ old episode, row = some old ∧ old.compatible e scope observed ∧
      old.episodeId = some episode ∧
        advance e row scope observed previous .critical = ⟨some episode, old.hasAlert, none⟩ := by
  unfold advance
  dsimp only
  rw [if_pos rfl]
  cases hold : row.filter fun row => row.compatible e scope observed with
  | none => exact .inl rfl
  | some old =>
    obtain ⟨hrow, hcompatible⟩ := Option.filter_eq_some_iff.1 hold
    cases hepisode : old.episodeId with
    | none =>
      left
      simp [hepisode]
    | some episode =>
      refine .inr ⟨old, episode, hrow, hcompatible, hepisode, ?_⟩
      simp [hepisode]

/-- A fill that is not critical ends the episode, which is resolved if there was an alert. -/
theorem advance_other (row : Option Tracker) (scope : String) (observed : ℤ)
    {previous current : OperationalState} (hcurrent : current ≠ .critical) :
    advance e row scope observed previous current = ⟨none, false, none⟩ ∨
    ∃ old episode, row = some old ∧ old.compatible e scope observed ∧
      old.episodeId = some episode ∧ old.hasAlert ∧
        advance e row scope observed previous current = ⟨none, false, some episode⟩ := by
  unfold advance
  dsimp only
  rw [if_neg hcurrent]
  cases hold : row.filter fun row => row.compatible e scope observed with
  | none => exact .inl rfl
  | some old =>
    obtain ⟨hrow, hcompatible⟩ := Option.filter_eq_some_iff.1 hold
    cases hepisode : old.episodeId with
    | none =>
      left
      simp [hepisode]
    | some episode =>
      by_cases hresolve : old.hasAlert ∧ previous = .critical
      · refine .inr ⟨old, episode, hrow, hcompatible, hepisode, hresolve.1, ?_⟩
        simp [hepisode, hresolve.1, hresolve.2]
      · left
        simp only [Option.bind_some, hepisode, Option.isSome_some, Option.any_some, Bool.true_and,
          Bool.and_eq_true, decide_eq_true_eq]
        rw [if_neg hresolve]

/-- With a source that has no tracker yet, a fill that is not critical adds none. -/
theorem advanced_eq (t : Store) (observation : FillObservation) (observed : ℤ)
    (previous current : OperationalState) :
    let next := advance e (t.tracker e.source.device) (lifecycleScope hash e.snapshot) observed
      previous current
    (advanced hash e t observation observed previous current).transitions =
        t.transitions ++ (next.resolved.map (resolutionRow hash e observed)).toList ∧
      (advanced hash e t observation observed previous current).links = t.links ∧
      (advanced hash e t observation observed previous current).tracker =
        if (t.tracker e.source.device).isNone ∧ next.identifier = none then t.tracker
        else Function.update t.tracker e.source.device (some ⟨observation.messageId,
          observation.generatedAt, e.source.pitId, lifecycleScope hash e.snapshot, next.identifier,
          observed, true, next.hasAlert⟩) := by
  unfold advanced
  dsimp only
  generalize advance e (t.tracker e.source.device) (lifecycleScope hash e.snapshot) observed
    previous current = next
  split_ifs
  · cases next.resolved <;> simp [Store.addTransition, resolutionRow]
  · cases next.resolved <;> simp [Store.addTransition, Store.setTracker, resolutionRow]

/-- The alert of a critical fill adds its link and its transition, and marks the tracker. -/
theorem alerted_episode (t : Store) (next : EdgeV2Operation) (observation : FillObservation)
    (observed : ℤ) (fill : ℚ) (episode : String) {row : Tracker}
    (hrow : t.tracker e.source.device = some row) :
    (alerted hash e t next observation observed fill episode).transitions =
        t.transitions ++ [creationRow hash e observation observed episode] ∧
      (alerted hash e t next observation observed fill episode).links =
        t.links ++ [alertLink e observation observed] ∧
      (alerted hash e t next observation observed fill episode).tracker =
        Function.update t.tracker e.source.device (some { row with hasAlert := true }) := by
  unfold alerted
  dsimp only
  split
  · next hnone => cases hrow.symm.trans hnone
  · next row' hsome =>
    obtain rfl := Option.some.inj (hrow.symm.trans hsome)
    exact ⟨rfl, rfl, rfl⟩

/-- **What a judgment does to the episode of its source.** -/
theorem judged_episode (hash : Json → String) (e : Evaluation) (s : Store)
    (observation : FillObservation) (observed : ℤ) (fill : ℚ) :
    (judged hash e s observation observed fill).transitions =
        s.transitions ++ judgedTransitions hash e s observation observed fill ∧
      (judged hash e s observation observed fill).links = s.links ++
        (if raises e s observation observed fill then [alertLink e observation observed] else []) ∧
      (judged hash e s observation observed fill).tracker =
        if (s.tracker e.source.device).isNone ∧
          (verdict hash e s observation observed fill).identifier = none then s.tracker
        else Function.update s.tracker e.source.device
          (some (trackerRow hash e s observation observed fill)) := by
  unfold judged judgedTransitions trackerRow
  dsimp only
  have hraises : raises e s observation observed fill = true ↔
      (operationRow e (s.operation e.source.pitId) observation observed fill).state = .critical ∧
        cooledDown e (operationRow e (s.operation e.source.pitId) observation observed fill) := by
    simp [raises]
  have hverdict : verdict hash e s observation observed fill =
      advance e (s.tracker e.source.device) (lifecycleScope hash e.snapshot) observed
        (e.previous (s.operation e.source.pitId))
        (operationRow e (s.operation e.source.pitId) observation observed fill).state := rfl
  revert hraises hverdict
  generalize raises e s observation observed fill = raised
  generalize verdict hash e s observation observed fill = v
  generalize operationRow e (s.operation e.source.pitId) observation observed fill = next
  generalize e.previous (s.operation e.source.pitId) = previous
  intro hraises hverdict
  generalize hbefore : (if e.snapshot.summary.filterState = .ready ∧ previous ≠ next.state then
    (s.setOperation e.source.pitId next).addTransition
      (fillTransition e observation previous next.state observed fill)
    else s.setOperation e.source.pitId next) = t
  have htracker : t.tracker = s.tracker := by
    rw [← hbefore]
    split_ifs <;> rfl
  have hlinks : t.links = s.links := by
    rw [← hbefore]
    split_ifs <;> rfl
  have htransitions : t.transitions = s.transitions ++
      if e.snapshot.summary.filterState = .ready ∧ previous ≠ next.state then
        [fillTransition e observation previous next.state observed fill] else [] := by
    rw [← hbefore]
    split_ifs
    · rfl
    · exact (List.append_nil _).symm
  obtain ⟨hadvanced, hadvancedLinks, hadvancedTracker⟩ :=
    @advanced_eq hash e t observation observed previous next.state
  rw [htracker, ← hverdict] at hadvanced hadvancedTracker
  unfold concluded
  dsimp only
  by_cases hraise : next.state = .critical ∧ cooledDown e next
  · rw [if_pos hraise]
    have hidentifier : ∃ episode, v.identifier = some episode := by
      rw [hverdict, hraise.1]
      obtain h | ⟨old, episode, -, -, -, h⟩ := @advance_critical e (s.tracker e.source.device)
        (lifecycleScope hash e.snapshot) observed previous
      · exact ⟨_, by rw [h]⟩
      · exact ⟨_, by rw [h]⟩
    obtain ⟨episode, hepisode⟩ := hidentifier
    have hsome : ¬((s.tracker e.source.device).isNone ∧ v.identifier = none) := by
      simp [hepisode]
    rw [if_neg hsome] at hadvancedTracker
    have hrow : (advanced hash e t observation observed previous next.state).tracker
        e.source.device = some ⟨observation.messageId, observation.generatedAt, e.source.pitId,
          lifecycleScope hash e.snapshot, v.identifier, observed, true, v.hasAlert⟩ := by
      rw [hadvancedTracker, Function.update_self]
    obtain ⟨h₁, h₂, h₃⟩ := @alerted_episode hash e
      (advanced hash e t observation observed previous next.state) next observation observed fill
      ((episodeAfter hash e t observed previous next.state).getD "") _ hrow
    have hafter : episodeAfter hash e t observed previous next.state = v.identifier := by
      rw [hverdict, episodeAfter, htracker]
    rw [h₁, h₂, h₃, hafter, hadvanced, hadvancedLinks, hadvancedTracker, htransitions, hlinks,
      if_pos (hraises.2 hraise), if_pos (hraises.2 hraise), Function.update_idem,
      hraises.2 hraise, Bool.or_true, if_neg hsome]
    exact ⟨by simp, rfl, rfl⟩
  · have hquiet : raised = false := by
      rw [← Bool.not_eq_true, hraises]
      exact hraise
    rw [if_neg hraise, hadvanced, hadvancedLinks, hadvancedTracker, htransitions, hlinks, hquiet]
    exact ⟨by simp, by simp, by simp⟩

/-! ## Chains of critical evaluations -/

/-- The evaluation of a new observation of a source. -/
structure Assessed where
  scope : String
  observedAt : ℤ
  ttl : ℤ
  critical : Bool

/-- What a step means for the episode of a source: an evaluation, or the end of what was known. -/
inductive Mark
  | assessed (j : Assessed)
  | broken

/-- The mark of a step for a source, if it has any. A step that evaluates another pit with the same
device takes the tracker over. -/
def mark (hash : Json → String) (source : MonitoringSource) (x : Entry Store Call (Option Unit)) :
    Option Mark :=
  let e := x.op.evaluation
  if x.out.isSome ∧ e.source.device = source.device then
    match e.task (x.pre.operation e.source.pitId) with
    | .judge observation observed fill => some <|
      if e.source.pitId = source.pitId then .assessed
        { scope := lifecycleScope hash e.snapshot
          observedAt := observed
          ttl := e.settings.ttl
          critical := (operationRow e (x.pre.operation e.source.pitId) observation observed
            fill).state = .critical }
      else .broken
    | .gap | .invalid => if e.source.pitId = source.pitId then some .broken else none
    | _ => none
  else none

/-- The evaluations are of one scope, the second not long after the first. -/
def Assessed.Precedes (j k : Assessed) : Prop :=
  k.scope = j.scope ∧ 0 < k.observedAt - j.observedAt ∧ k.observedAt - j.observedAt < k.ttl

/-- The steps begin with the one that gave the episode its name, and their evaluations of the source
are an unbroken chain of critical ones up to `last`. -/
structure Chain (hash : Json → String) (source : MonitoringSource) (episode : String) (es : History)
    (last : Assessed) : Prop where
  start : ∃ x rest, es = x :: rest ∧ x.op.evaluation.uuid = episode ∧
    x.op.evaluation.source = source
  marks : ∃ js : List Assessed, es.filterMap (mark hash source) = (js ++ [last]).map .assessed ∧
    (js ++ [last]).IsChain Assessed.Precedes ∧ ∀ j ∈ js ++ [last], j.critical

/-- The rows of transitions that a step has written. -/
def written (x : Entry Store Call (Option Unit)) : List EdgeV2Transition :=
  x.post.transitions.drop x.pre.transitions.length

/-- The row is an alert of the source, in the episode. -/
def EdgeV2Transition.Creates (row : EdgeV2Transition) (source : MonitoringSource)
    (episode scope : String) (id : ℕ) (observed : ℤ) : Prop :=
  row.siteId = source.siteId ∧ row.edgeId = source.edgeId ∧
    ∃ simulated, row.payload = .alertCreated source.pitId id episode scope observed simulated

/-- The row is the resolution of an episode of the source. -/
def EdgeV2Transition.Resolves (row : EdgeV2Transition) (source : MonitoringSource)
    (episode scope : String) (observed : ℤ) : Prop :=
  row.siteId = source.siteId ∧ row.edgeId = source.edgeId ∧
    row.payload = .alertResolved source.pitId episode scope observed

/-- One of the steps has written an alert of the episode. -/
def Alerted (source : MonitoringSource) (episode : String) (es : History) : Prop :=
  ∃ x ∈ es, ∃ row ∈ written x, ∃ scope id observed, row.Creates source episode scope id observed

namespace Chain

variable {source : MonitoringSource} {episode : String} {es : History} {last j : Assessed}
  {x : Entry Store Call (Option Unit)}

/-- A chain of one evaluation. -/
theorem single (hsource : x.op.evaluation.source = source)
    (hmark : mark hash source x = some (.assessed j))
    (hcritical : j.critical) : Chain hash source x.op.evaluation.uuid [x] j where
  start := ⟨x, [], rfl, rfl, hsource⟩
  marks := ⟨[], by simp [hmark], .singleton _, by simpa using hcritical⟩

/-- A chain goes on with a critical evaluation. -/
theorem extend (h : Chain hash source episode es last)
    (hmark : mark hash source x = some (.assessed j))
    (hprecedes : last.Precedes j) (hcritical : j.critical) :
    Chain hash source episode (es ++ [x]) j where
  start := by
    obtain ⟨y, rest, rfl, huuid, hsource⟩ := h.start
    exact ⟨y, rest ++ [x], rfl, huuid, hsource⟩
  marks := by
    obtain ⟨js, hjs, hchain, hall⟩ := h.marks
    refine ⟨js ++ [last], ?_, ?_, ?_⟩
    · rw [List.filterMap_append, hjs, List.filterMap_cons_some hmark]
      simp
    · refine hchain.append (.singleton j) ?_
      simpa using hprecedes
    · simpa [or_imp, forall_and, hcritical] using hall

/-- A chain goes on with a step that does not concern its source. -/
theorem skip (h : Chain hash source episode es last) (hmark : mark hash source x = none) :
    Chain hash source episode (es ++ [x]) last where
  start := by
    obtain ⟨y, rest, rfl, huuid, hsource⟩ := h.start
    exact ⟨y, rest ++ [x], rfl, huuid, hsource⟩
  marks := by
    obtain ⟨js, hjs, hchain, hall⟩ := h.marks
    refine ⟨js, ?_, hchain, hall⟩
    rw [List.filterMap_append, hjs, List.filterMap_cons_none hmark, List.filterMap_nil,
      List.append_nil]

/-- Every evaluation of a chain is critical. -/
theorem critical_of_mem (h : Chain hash source episode es last) (hx : x ∈ es)
    (hmark : mark hash source x = some (.assessed j)) : j.critical := by
  obtain ⟨js, hjs, -, hall⟩ := h.marks
  have hmem : Mark.assessed j ∈ (js ++ [last]).map Mark.assessed := by
    rw [← hjs]
    exact List.mem_filterMap.2 ⟨x, hx, hmark⟩
  obtain ⟨k, hk, hkj⟩ := List.mem_map.1 hmem
  obtain rfl := Mark.assessed.inj hkj
  exact hall k hk

end Chain

/-! ## Steps -/

/-- The source with the pit and the device. -/
def sourceOf (pit : String) (device : String × String) : MonitoringSource :=
  ⟨pit, device.1, device.2⟩

theorem sourceOf_eq (source : MonitoringSource) : sourceOf source.pitId source.device = source :=
  rfl

/-- A step that has evaluated a new observation. -/
structure Evaluates (hash : Json → String) (x : Entry Store Call (Option Unit))
    (observation : FillObservation) (observed : ℤ) (fill : ℚ) : Prop where
  out : x.out = some ()
  task : x.op.evaluation.task (x.pre.operation x.op.evaluation.source.pitId) =
    .judge observation observed fill
  transitions : x.post.transitions = x.pre.transitions ++
    judgedTransitions hash x.op.evaluation x.pre observation observed fill
  links : x.post.links = x.pre.links ++
    if raises x.op.evaluation x.pre observation observed fill then
      [alertLink x.op.evaluation observation observed] else []
  alerts : x.post.alerts = x.pre.alerts ++ judgedAlert x.op.evaluation
    (x.pre.operation x.op.evaluation.source.pitId) observation observed fill
  fresh : raises x.op.evaluation x.pre observation observed fill →
    ∀ alert ∈ x.pre.alerts, alert.id ≠ x.op.evaluation.alertId
  tracker : x.post.tracker =
    if (x.pre.tracker x.op.evaluation.source.device).isNone ∧
      (verdict hash x.op.evaluation x.pre observation observed fill).identifier = none
    then x.pre.tracker
    else Function.update x.pre.tracker x.op.evaluation.source.device
      (some (trackerRow hash x.op.evaluation x.pre observation observed fill))

theorem invalidate_rows (s : Store) (source : MonitoringSource) :
    (s.invalidate source).transitions = s.transitions ∧ (s.invalidate source).links = s.links := by
  unfold Store.invalidate
  split
  · exact ⟨rfl, rfl⟩
  · split_ifs <;> exact ⟨rfl, rfl⟩

theorem clearCritical_rows (s : Store) (pit : String) :
    (s.clearCritical pit).transitions = s.transitions ∧ (s.clearCritical pit).links = s.links ∧
      (s.clearCritical pit).tracker = s.tracker := by
  unfold Store.clearCritical
  split
  · exact ⟨rfl, rfl, rfl⟩
  · split_ifs <;> exact ⟨rfl, rfl, rfl⟩

/-- An episode that is known after an invalidation was known before, and is of another source. -/
theorem invalidate_tracker {source : MonitoringSource} {device : String × String} {t : Tracker}
    {episode : String} (ht : (s.invalidate source).tracker device = some t)
    (hepisode : t.episodeId = some episode) :
    s.tracker device = some t ∧ (device = source.device → t.pitId ≠ source.pitId) := by
  unfold Store.invalidate at ht
  cases hrow : s.tracker source.device with
  | none =>
    rw [hrow] at ht
    refine ⟨ht, ?_⟩
    rintro rfl
    rw [show s.tracker source.device = some t from ht] at hrow
    cases hrow
  | some row =>
    rw [hrow] at ht
    dsimp only at ht
    by_cases hkeep : row.pitId ≠ source.pitId ∨ row.episodeId = none ∧ row.inputValid = false
    · rw [if_pos hkeep] at ht
      refine ⟨ht, ?_⟩
      rintro rfl
      obtain rfl := Option.some.inj (hrow.symm.trans ht)
      obtain hpit | ⟨hnone, -⟩ := hkeep
      · exact hpit
      · rw [hnone] at hepisode
        cases hepisode
    · rw [if_neg hkeep] at ht
      by_cases hdevice : device = source.device
      · rw [hdevice] at ht
        simp only [Store.setTracker, Function.update_self, Option.some.injEq] at ht
        rw [← ht] at hepisode
        cases hepisode
      · unfold Store.setTracker at ht
        dsimp only at ht
        rw [Function.update_of_ne hdevice] at ht
        exact ⟨ht, fun h => absurd h hdevice⟩

/-- What is no evaluation of a new observation writes nothing, and lets an episode go on only if it
is of another source. -/
theorem taskEffect_episode {task : Task} {device : String × String} {t : Tracker} {episode : String}
    (h : ∀ observation observed fill, task ≠ .judge observation observed fill)
    (ht : (taskEffect hash e s task).tracker device = some t)
    (hepisode : t.episodeId = some episode) :
    s.tracker device = some t ∧
      (device = e.source.device → t.pitId = e.source.pitId → task = .replay ∨ task = .failure) := by
  cases task with
  | gap =>
    rw [taskEffect, (clearCritical_rows _ _).2.2] at ht
    obtain ⟨hsame, hother⟩ := invalidate_tracker ht hepisode
    exact ⟨hsame, fun hdevice hpit => absurd hpit (hother hdevice)⟩
  | replay => exact ⟨ht, fun _ _ => .inl rfl⟩
  | invalid =>
    obtain ⟨hsame, hother⟩ := invalidate_tracker ht hepisode
    exact ⟨hsame, fun hdevice hpit => absurd hpit (hother hdevice)⟩
  | judge observation observed fill => exact absurd rfl (h observation observed fill)
  | failure => exact ⟨ht, fun _ _ => .inr rfl⟩

theorem taskEffect_rows {task : Task}
    (h : ∀ observation observed fill, task ≠ .judge observation observed fill) :
    (taskEffect hash e s task).transitions = s.transitions ∧
      (taskEffect hash e s task).links = s.links := by
  cases task with
  | gap =>
    obtain ⟨h₁, h₂, -⟩ := clearCritical_rows (s.invalidate e.source) e.source.pitId
    obtain ⟨h₃, h₄⟩ := invalidate_rows s e.source
    exact ⟨h₁.trans h₃, h₂.trans h₄⟩
  | replay => exact ⟨rfl, rfl⟩
  | invalid => exact invalidate_rows s e.source
  | judge observation observed fill => exact absurd rfl (h observation observed fill)
  | failure => exact ⟨rfl, rfl⟩

/-- A step that leaves the evidence alone, and lets an episode go on only if it does not concern its
source. -/
structure Idle (hash : Json → String) (x : Entry Store Call (Option Unit)) : Prop where
  transitions : x.post.transitions = x.pre.transitions
  links : x.post.links = x.pre.links
  alerts : x.post.alerts = x.pre.alerts
  tracker : ∀ device t episode, x.post.tracker device = some t → t.episodeId = some episode →
    x.pre.tracker device = some t ∧ mark hash (sourceOf t.pitId device) x = none

theorem mark_of_failed {x : Entry Store Call (Option Unit)} (source : MonitoringSource)
    (h : x.out = none) : mark hash source x = none := by
  unfold mark
  dsimp only
  rw [if_neg (by simp [h])]

theorem mark_of_device_ne {x : Entry Store Call (Option Unit)} {source : MonitoringSource}
    (h : x.op.evaluation.source.device ≠ source.device) : mark hash source x = none := by
  unfold mark
  dsimp only
  rw [if_neg fun hboth => h hboth.2]

/-- **A step is idle, or evaluates a new observation.** -/
theorem step_idle_or_evaluates {x : Entry Store Call (Option Unit)}
    (h : step hash x.pre x.op = some (x.post, x.out)) :
    Idle hash x ∨ ∃ observation observed fill, Evaluates hash x observation observed fill := by
  obtain ⟨hout, hsame⟩ | ⟨hout, hdone⟩ := step_cases h
  · refine .inl ⟨by rw [hsame], by rw [hsame], by rw [hsame],
      fun device t episode ht hepisode => ?_⟩
    rw [hsame] at ht
    exact ⟨ht, mark_of_failed _ hout⟩
  obtain ⟨-, htracker, htransitions, halerts, hlinks⟩ := eq_of_core hdone.core
  have hfresh := hdone.alert
  unfold effect at htracker htransitions halerts hlinks hfresh
  by_cases hjudge : ∃ observation observed fill,
      x.op.evaluation.task (x.pre.operation x.op.evaluation.source.pitId) =
        .judge observation observed fill
  · obtain ⟨observation, observed, fill, htask⟩ := hjudge
    rw [htask] at htracker htransitions halerts hlinks hfresh
    obtain ⟨h₁, h₂, h₃⟩ := judged_episode hash x.op.evaluation x.pre observation observed fill
    have hjudged := (judged_eq hash x.op.evaluation x.pre observation observed fill).2
    refine .inr ⟨observation, observed, fill, hout, htask, htransitions.trans h₁, hlinks.trans h₂,
      halerts.trans hjudged, fun hraises => hfresh ?_, htracker.trans h₃⟩
    rw [taskEffect, hjudged, judgedAlert_of_raises hraises]
    simp
  · left
    have hne : ∀ observation observed fill,
        x.op.evaluation.task (x.pre.operation x.op.evaluation.source.pitId) ≠
          .judge observation observed fill :=
      fun observation observed fill htask => hjudge ⟨observation, observed, fill, htask⟩
    obtain ⟨h₁, h₂⟩ := @taskEffect_rows hash x.op.evaluation x.pre _ hne
    have hsame := (taskEffect_quiet hash x.op.evaluation x.pre hne x.op.evaluation.source.pitId).2
    refine ⟨htransitions.trans h₁, hlinks.trans h₂, halerts.trans hsame,
      fun device t episode ht hepisode => ?_⟩
    rw [htracker] at ht
    obtain ⟨hsame, hother⟩ := taskEffect_episode hne ht hepisode
    refine ⟨hsame, ?_⟩
    by_cases hdevice : device = x.op.evaluation.source.device
    · have hboth : x.out.isSome ∧
          x.op.evaluation.source.device = (sourceOf t.pitId device).device :=
        ⟨by rw [hout]; rfl, hdevice.symm⟩
      unfold mark
      dsimp only
      rw [if_pos hboth]
      have hpit := hother hdevice
      cases htask : x.op.evaluation.task (x.pre.operation x.op.evaluation.source.pitId) with
      | judge observation observed fill => exact absurd htask (hne observation observed fill)
      | replay => rfl
      | failure => rfl
      | gap =>
        rw [htask] at hpit
        have hother : x.op.evaluation.source.pitId ≠ t.pitId := fun heq => by
          simpa using hpit heq.symm
        exact if_neg hother
      | invalid =>
        rw [htask] at hpit
        have hother : x.op.evaluation.source.pitId ≠ t.pitId := fun heq => by
          simpa using hpit heq.symm
        exact if_neg hother
    · exact mark_of_device_ne fun heq => hdevice heq.symm

/-! ## Evaluations of new observations -/

/-- What an evaluation says of its source. -/
def assessed (hash : Json → String) (e : Evaluation) (s : Store) (observation : FillObservation)
    (observed : ℤ) (fill : ℚ) : Assessed where
  scope := lifecycleScope hash e.snapshot
  observedAt := observed
  ttl := e.settings.ttl
  critical :=
    (operationRow e (s.operation e.source.pitId) observation observed fill).state = .critical

theorem Tracker.compatible_iff (row : Tracker) (scope : String) (observed : ℤ) :
    row.compatible e scope observed ↔ row.pitId = e.source.pitId ∧ row.scopeToken = scope ∧
      row.inputValid ∧ 0 < observed - row.observedAt ∧
      observed - row.observedAt < e.settings.ttl := by
  unfold Tracker.compatible
  exact decide_eq_true_iff

section

variable {observation : FillObservation} {observed : ℤ} {fill : ℚ} {row : EdgeV2Transition}
  {episode scope : String} {source : MonitoringSource}

/-- A compatible tracker is one of an evaluation that this one follows. -/
theorem precedes_assessed {old : Tracker} {last : Assessed}
    (h : old.compatible e (lifecycleScope hash e.snapshot) observed)
    (hscope : last.scope = old.scopeToken) (hobserved : last.observedAt = old.observedAt) :
    last.Precedes (assessed hash e s observation observed fill) := by
  obtain ⟨-, hsame, -, hpos, hlt⟩ := (old.compatible_iff _ _).1 h
  refine ⟨?_, ?_, ?_⟩
  · rw [hscope, hsame]
    rfl
  · rw [hobserved]
    exact hpos
  · rw [hobserved]
    exact hlt

/-- An episode after the judgment is a new one, or one that this evaluation continues. -/
theorem verdict_identifier
    (h : (verdict hash e s observation observed fill).identifier = some episode) :
    (assessed hash e s observation observed fill).critical ∧
      ((episode = e.uuid ∧ (verdict hash e s observation observed fill).hasAlert = false) ∨
        ∃ old, s.tracker e.source.device = some old ∧
          old.compatible e (lifecycleScope hash e.snapshot) observed ∧
          old.episodeId = some episode ∧
          (verdict hash e s observation observed fill).hasAlert = old.hasAlert) := by
  unfold verdict at h ⊢
  unfold assessed
  dsimp only
  by_cases hcritical :
      (operationRow e (s.operation e.source.pitId) observation observed fill).state = .critical
  · rw [hcritical] at h ⊢
    refine ⟨by simp, ?_⟩
    obtain hnew | ⟨old, episode', hrow, hcompatible, hepisode, hnext⟩ :=
      @advance_critical e (s.tracker e.source.device) (lifecycleScope hash e.snapshot) observed
        (e.previous (s.operation e.source.pitId))
    · rw [hnew] at h ⊢
      exact .inl ⟨(Option.some.inj h).symm, rfl⟩
    · rw [hnext] at h ⊢
      exact .inr ⟨old, hrow, hcompatible, hepisode.trans h, rfl⟩
  · obtain hnone | ⟨old, episode', -, -, -, -, hnone⟩ :=
      @advance_other e (s.tracker e.source.device) (lifecycleScope hash e.snapshot) observed
        (e.previous (s.operation e.source.pitId)) _ hcritical
    · rw [hnone] at h
      cases h
    · rw [hnone] at h
      cases h

/-- An episode that is resolved is one that had an alert, and this evaluation is not critical. -/
theorem verdict_resolved
    (h : (verdict hash e s observation observed fill).resolved = some episode) :
    (assessed hash e s observation observed fill).critical = false ∧
      ∃ old, s.tracker e.source.device = some old ∧
        old.compatible e (lifecycleScope hash e.snapshot) observed ∧
        old.episodeId = some episode ∧ old.hasAlert := by
  unfold verdict at h
  unfold assessed
  dsimp only
  by_cases hcritical :
      (operationRow e (s.operation e.source.pitId) observation observed fill).state = .critical
  · rw [hcritical] at h
    obtain hnew | ⟨old, episode', -, -, -, hnext⟩ :=
      @advance_critical e (s.tracker e.source.device) (lifecycleScope hash e.snapshot) observed
        (e.previous (s.operation e.source.pitId))
    · rw [hnew] at h
      cases h
    · rw [hnext] at h
      cases h
  · refine ⟨by simpa using hcritical, ?_⟩
    obtain hnone | ⟨old, episode', hrow, hcompatible, hepisode, halert, hnext⟩ :=
      @advance_other e (s.tracker e.source.device) (lifecycleScope hash e.snapshot) observed
        (e.previous (s.operation e.source.pitId)) _ hcritical
    · rw [hnone] at h
      cases h
    · rw [hnext] at h
      exact ⟨old, hrow, hcompatible, hepisode.trans h, halert⟩

theorem raises_identifier (h : raises e s observation observed fill) :
    ∃ episode, (verdict hash e s observation observed fill).identifier = some episode := by
  unfold raises at h
  simp only [Bool.decide_and, Bool.decide_eq_true, Bool.and_eq_true, decide_eq_true_eq] at h
  unfold verdict
  rw [h.1]
  obtain hnew | ⟨old, episode, -, -, -, hnext⟩ :=
    @advance_critical e (s.tracker e.source.device) (lifecycleScope hash e.snapshot) observed
      (e.previous (s.operation e.source.pitId))
  · exact ⟨e.uuid, by rw [hnew]⟩
  · exact ⟨episode, by rw [hnext]⟩

theorem mem_judgedTransitions (h : row ∈ judgedTransitions hash e s observation observed fill) :
    (row = fillTransition e observation (e.previous (s.operation e.source.pitId))
        (operationRow e (s.operation e.source.pitId) observation observed fill).state observed
          fill) ∨
      (∃ episode, (verdict hash e s observation observed fill).resolved = some episode ∧
        row = resolutionRow hash e observed episode) ∨
      raises e s observation observed fill ∧ row = creationRow hash e observation observed
        ((verdict hash e s observation observed fill).identifier.getD "") := by
  unfold judgedTransitions at h
  dsimp only at h
  obtain h | h := List.mem_append.1 h
  · obtain h | h := List.mem_append.1 h
    · left
      split_ifs at h
      · exact List.mem_singleton.1 h
      · cases h
    · right
      left
      obtain ⟨episode, hepisode, hrow⟩ := Option.map_eq_some_iff.1 (Option.mem_toList.1 h)
      exact ⟨episode, hepisode, hrow.symm⟩
  · right
    right
    split_ifs at h with hraises
    · exact ⟨hraises, List.mem_singleton.1 h⟩
    · cases h

end

/-! ## Episodes of a run -/

section

variable {es : History} {source : MonitoringSource} {episode scope : String} {observed : ℤ}
  {x : Entry Store Call (Option Unit)} {observation : FillObservation} {fill : ℚ}

theorem Alerted.append (h : Alerted source episode es) (x : Entry Store Call (Option Unit)) :
    Alerted source episode (es ++ [x]) := by
  obtain ⟨y, hy, hrow⟩ := h
  exact ⟨y, List.mem_append_left _ hy, hrow⟩

namespace Evaluates

theorem written_eq (h : Evaluates hash x observation observed fill) :
    written x = judgedTransitions hash x.op.evaluation x.pre observation observed fill := by
  rw [written, h.transitions, List.drop_left]

theorem mark_eq (h : Evaluates hash x observation observed fill) :
    mark hash x.op.evaluation.source x =
      some (.assessed (assessed hash x.op.evaluation x.pre observation observed fill)) := by
  unfold mark
  dsimp only
  rw [if_pos ⟨by rw [h.out]; rfl, rfl⟩, h.task]
  dsimp only
  rw [if_pos rfl]
  rfl

/-- An alert that is raised is written. -/
theorem alerted (h : Evaluates hash x observation observed fill)
    (hraises : raises x.op.evaluation x.pre observation observed fill)
    (hepisode : (verdict hash x.op.evaluation x.pre observation observed fill).identifier =
      some episode) :
    Alerted x.op.evaluation.source episode (es ++ [x]) := by
  refine ⟨x, List.mem_append_right _ (List.mem_singleton_self x),
    creationRow hash x.op.evaluation observation observed episode, ?_, _, _, _, rfl, rfl, _, rfl⟩
  rw [h.written_eq, judgedTransitions, hepisode, if_pos hraises]
  exact List.mem_append_right _ (List.mem_singleton_self _)

end Evaluates

/-- The episode of each tracker is a chain that goes on to the end. -/
def Live (hash : Json → String) (es : History) (s : Store) : Prop :=
  ∀ device t episode, s.tracker device = some t → t.episodeId = some episode →
    ∃ pre mid last, es = pre ++ mid ∧ Chain hash (sourceOf t.pitId device) episode mid last ∧
      last.scope = t.scopeToken ∧ last.observedAt = t.observedAt ∧
        (t.hasAlert → Alerted (sourceOf t.pitId device) episode mid)

/-- An evaluation begins a chain or continues the one of its tracker. -/
theorem Live.evaluate (hlive : Live hash es x.pre) (h : Evaluates hash x observation observed fill)
    (hepisode : (verdict hash x.op.evaluation x.pre observation observed fill).identifier =
      some episode) :
    ∃ pre mid, es ++ [x] = pre ++ (mid ++ [x]) ∧
      Chain hash x.op.evaluation.source episode (mid ++ [x])
        (assessed hash x.op.evaluation x.pre observation observed fill) ∧
      ((verdict hash x.op.evaluation x.pre observation observed fill).hasAlert →
        Alerted x.op.evaluation.source episode mid) := by
  obtain ⟨hcritical, ⟨rfl, hnone⟩ | ⟨old, hold, hcompatible, hsame, halert⟩⟩ :=
    verdict_identifier hepisode
  · refine ⟨es, [], rfl, .single rfl h.mark_eq hcritical, fun h => ?_⟩
    rw [hnone] at h
    cases h
  · obtain ⟨pre, mid, last, rfl, hchain, hscope, hobserved, halerted⟩ := hlive _ _ _ hold hsame
    rw [((old.compatible_iff _ _).1 hcompatible).1, sourceOf_eq] at hchain halerted
    refine ⟨pre, mid, List.append_assoc _ _ _, ?_, fun h => halerted (halert ▸ h)⟩
    exact hchain.extend h.mark_eq (precedes_assessed hcompatible hscope hobserved) hcritical

theorem run_live {es : History} (h : Run (step hash) s₀ es s)
    (h₀ : ∀ device, s₀.tracker device = none) :
    Live hash es s := by
  induction h with
  | nil =>
    intro device t episode ht
    rw [h₀ device] at ht
    cases ht
  | @snoc es s s' c out h hs ih =>
    have hskip : ∀ device t episode, s.tracker device = some t → t.episodeId = some episode →
        mark hash (sourceOf t.pitId device) ⟨s, c, out, s'⟩ = none →
          ∃ pre mid last, es ++ [⟨s, c, out, s'⟩] = pre ++ mid ∧
            Chain hash (sourceOf t.pitId device) episode mid last ∧ last.scope = t.scopeToken ∧
            last.observedAt = t.observedAt ∧
            (t.hasAlert → Alerted (sourceOf t.pitId device) episode mid) := by
      intro device t episode ht hepisode hmark
      obtain ⟨pre, mid, last, rfl, hchain, hscope, hobserved, halerted⟩ :=
        ih device t episode ht hepisode
      exact ⟨pre, mid ++ [⟨s, c, out, s'⟩], last, List.append_assoc _ _ _, hchain.skip hmark,
        hscope, hobserved, fun h => (halerted h).append _⟩
    intro device t episode ht hepisode
    obtain hidle | ⟨observation, observed, fill, heval⟩ :=
      @step_idle_or_evaluates hash ⟨s, c, out, s'⟩ hs
    · obtain ⟨hbefore, hmark⟩ := hidle.tracker device t episode ht hepisode
      exact hskip device t episode hbefore hepisode hmark
    · rw [show s'.tracker = _ from heval.tracker] at ht
      dsimp only at ht
      by_cases hdevice : device = c.evaluation.source.device
      · split_ifs at ht with hnone
        · rw [hdevice] at ht
          rw [ht] at hnone
          cases hnone.1
        · rw [hdevice, Function.update_self] at ht
          obtain rfl := Option.some.inj ht
          obtain ⟨pre, mid, hes, hchain, halerted⟩ := Live.evaluate ih heval hepisode
          refine ⟨pre, mid ++ [⟨s, c, out, s'⟩],
            assessed hash c.evaluation s observation observed fill, hes, ?_, rfl, rfl,
              fun halert => ?_⟩
          · rw [hdevice]
            exact hchain
          · rw [hdevice]
            obtain halert | halert := Bool.or_eq_true_iff.1 halert
            · exact (halerted halert).append _
            · exact heval.alerted halert hepisode
      · have hbefore : s.tracker device = some t := by
          split_ifs at ht with hnone
          · exact ht
          · rw [Function.update_of_ne hdevice] at ht
            exact ht
        exact hskip device t episode hbefore hepisode
          (mark_of_device_ne fun heq => hdevice heq.symm)

/-! ## Evidence -/

/-- The row of an alert comes from a chain of its episode, as its evaluation `x`. -/
structure Creation (hash : Json → String) (source : MonitoringSource) (episode scope : String)
    (observed occurred : ℤ) (mid : History) (x : Entry Store Call (Option Unit)) : Prop where
  chain : ∃ last, Chain hash source episode (mid ++ [x]) last ∧ last.scope = scope ∧
    last.observedAt = observed
  occurredAt : x.op.evaluation.now = occurred

/-- The resolution `x` of an episode follows on a chain with an alert, and is the first evaluation
after it that is not critical. -/
structure Recovery (hash : Json → String) (source : MonitoringSource) (episode scope : String)
    (observed occurred : ℤ) (mid : History) (x : Entry Store Call (Option Unit)) : Prop where
  chain : ∃ last j, Chain hash source episode mid last ∧ mark hash source x = some (.assessed j) ∧
    j.critical = false ∧ last.Precedes j ∧ j.scope = scope ∧ j.observedAt = observed
  alerted : Alerted source episode mid
  occurredAt : x.op.evaluation.now = occurred

/-- The transitions of the run come from the chains of their episodes. -/
structure Evidence (hash : Json → String) (es : History) (row : EdgeV2Transition) : Prop where
  created : ∀ source episode scope id observed, row.Creates source episode scope id observed →
    ∃ pre mid x post, es = pre ++ (mid ++ x :: post) ∧ row ∈ written x ∧
      Creation hash source episode scope observed row.occurredAt mid x
  resolved : ∀ source episode scope observed, row.Resolves source episode scope observed →
    ∃ pre mid x post, es = pre ++ (mid ++ x :: post) ∧ row ∈ written x ∧
      Recovery hash source episode scope observed row.occurredAt mid x

theorem Evidence.append {row : EdgeV2Transition} (h : Evidence hash es row)
    (x : Entry Store Call (Option Unit)) : Evidence hash (es ++ [x]) row where
  created := by
    intro source episode scope id observed hrow
    obtain ⟨pre, mid, y, post, rfl, hwritten, hcreation⟩ :=
      h.created source episode scope id observed hrow
    exact ⟨pre, mid, y, post ++ [x], by simp, hwritten, hcreation⟩
  resolved := by
    intro source episode scope observed hrow
    obtain ⟨pre, mid, y, post, rfl, hwritten, hrecovery⟩ :=
      h.resolved source episode scope observed hrow
    exact ⟨pre, mid, y, post ++ [x], by simp, hwritten, hrecovery⟩

theorem source_ext {source source' : MonitoringSource} (hpit : source.pitId = source'.pitId)
    (hsite : source.siteId = source'.siteId) (hedge : source.edgeId = source'.edgeId) :
    source = source' := by
  cases source
  cases source'
  simp only [MonitoringSource.mk.injEq]
  exact ⟨hpit, hsite, hedge⟩

/-- The transitions of an evaluation come from the chain of its tracker. -/
theorem Live.evidence (hlive : Live hash es x.pre) (h : Evaluates hash x observation observed fill)
    {row : EdgeV2Transition} (hrow : row ∈ written x) : Evidence hash (es ++ [x]) row := by
  have hwritten := hrow
  rw [h.written_eq] at hrow
  obtain rfl | ⟨resolved, hresolved, rfl⟩ | ⟨hraises, rfl⟩ := mem_judgedTransitions hrow
  · constructor
    · rintro source episode scope id observed ⟨-, -, simulated, hpayload⟩
      cases hpayload
    · rintro source episode scope observed ⟨-, -, hpayload⟩
      cases hpayload
  · constructor
    · rintro source episode scope id observed ⟨-, -, simulated, hpayload⟩
      cases hpayload
    · rintro source episode scope observed' ⟨hsite, hedge, hpayload⟩
      obtain ⟨hpit, rfl, rfl, rfl⟩ := TransitionPayload.alertResolved.inj hpayload
      obtain rfl : x.op.evaluation.source = source := source_ext hpit hsite hedge
      obtain ⟨hother, old, hold, hcompatible, hsame, halert⟩ := verdict_resolved hresolved
      obtain ⟨pre, mid, last, rfl, hchain, hscope, hobserved, halerted⟩ := hlive _ _ _ hold hsame
      rw [((old.compatible_iff _ _).1 hcompatible).1, sourceOf_eq] at hchain halerted
      refine ⟨pre, mid, x, [], List.append_assoc _ _ _, hwritten, ⟨last, _, hchain, h.mark_eq,
        hother, precedes_assessed hcompatible hscope hobserved, rfl, rfl⟩, halerted halert, rfl⟩
  · constructor
    · rintro source episode scope id observed' ⟨hsite, hedge, simulated, hpayload⟩
      obtain ⟨hpit, rfl, hepisode, rfl, rfl, -⟩ := TransitionPayload.alertCreated.inj hpayload
      obtain rfl : x.op.evaluation.source = source := source_ext hpit hsite hedge
      obtain ⟨identifier, hidentifier⟩ := raises_identifier hraises
      rw [hidentifier, Option.getD_some] at hepisode
      subst hepisode
      obtain ⟨pre, mid, hes, hchain, -⟩ := hlive.evaluate h hidentifier
      exact ⟨pre, mid, x, [], hes, hwritten, ⟨_, hchain, rfl, rfl⟩, rfl⟩
    · rintro source episode scope observed' ⟨-, -, hpayload⟩
      cases hpayload

/-- **The transitions of a run come from unbroken chains of critical evaluations.** -/
theorem run_evidence {es : History} (h : Run (step hash) s₀ es s)
    (h₀ : ∀ device, s₀.tracker device = none) (hnone : s₀.transitions = []) :
    ∀ row ∈ s.transitions, Evidence hash es row := by
  induction h with
  | nil => simp [hnone]
  | @snoc es s s' c out h hs ih =>
    intro row hrow
    obtain hidle | ⟨observation, observed, fill, heval⟩ :=
      @step_idle_or_evaluates hash ⟨s, c, out, s'⟩ hs
    · rw [show s'.transitions = _ from hidle.transitions] at hrow
      exact (ih row hrow).append _
    · rw [show s'.transitions = _ from heval.transitions] at hrow
      obtain hold | hnew := List.mem_append.1 hrow
      · exact (ih row hold).append _
      · refine Live.evidence (run_live h h₀) heval ?_
        rw [heval.written_eq]
        exact hnew

end

end ScrapMonitoring.Operations
