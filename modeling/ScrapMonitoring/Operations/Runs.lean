import ScrapMonitoring.Foundations.Latch
import ScrapMonitoring.Foundations.Run
import ScrapMonitoring.Monitoring.Freshness
import ScrapMonitoring.Operations.Effects

/-!
# Runs of the operations worker

The worker evaluates sources one after another, of any pits and with any snapshots, clocks and
settings; evaluations may fail at any call, and the source of a pit may change. Along every such run
the state of a pit is a latch that a confirmed critical fill sets and a fill below the recovery
resets, the cursor of an attached source only moves on, and the alerts of a pit keep the cooldown
(`worker_runs`).
-/

namespace ScrapMonitoring.Operations

open Monitoring

variable {hash : Json → String} {e : Evaluation} {s s' s₀ : Store}

/-! ## The machine -/

/-- An evaluation, with the calls to the database that fail. -/
structure Call where
  evaluation : Evaluation
  faults : List Bool

/-- One evaluation, and whether it has ended without an exception. -/
def step (hash : Json → String) (s : Store) (c : Call) : Option (Store × Option Unit) :=
  some ((processSource hash c.evaluation).execute s c.faults)

abbrev History := List (Entry Store Call (Option Unit))

theorem step_cases {c : Call} {out : Option Unit} (h : step hash s c = some (s', out)) :
    (out = none ∧ s' = s) ∨ (out = some () ∧ Done hash c.evaluation s s') := by
  have hexecute := processSource_execute hash c.evaluation s c.faults
  unfold step at h
  rw [Option.some.inj h] at hexecute
  cases out with
  | none => exact .inl ⟨rfl, hexecute⟩
  | some _ => exact .inr ⟨rfl, hexecute⟩

/-! ## What an evaluation does to the row of a pit -/

/-- The row after the evaluation of a new observation. -/
def judgedRow (e : Evaluation) (row : Option EdgeV2Operation) (observation : FillObservation)
    (observed : ℤ) (fill : ℚ) : EdgeV2Operation :=
  let next := operationRow e row observation observed fill
  if next.state = .critical ∧ cooledDown e next then
    { next with lastAlertAt := some e.now, lastAlertId := some e.alertId }
  else next

theorem judgedRow_eq (e : Evaluation) (row : Option EdgeV2Operation) (observation : FillObservation)
    (observed : ℤ) (fill : ℚ) :
    (judgedRow e row observation observed fill).device = e.source.device ∧
      (judgedRow e row observation observed fill).state =
        e.current (e.previous row) observation observed fill ∧
      (judgedRow e row observation observed fill).generatedAt = observation.generatedAt ∧
      (judgedRow e row observation observed fill).observedAt = observed := by
  unfold judgedRow
  dsimp only
  split_ifs
  · exact ⟨rfl, rfl, rfl, rfl⟩
  · exact ⟨rfl, rfl, rfl, rfl⟩

theorem advanced_operation (t : Store) (observation : FillObservation) (observed : ℤ)
    (previous current : OperationalState) :
    (advanced hash e t observation observed previous current).operation = t.operation := by
  unfold advanced
  dsimp only
  generalize advance e (t.tracker e.source.device) (lifecycleScope hash e.snapshot) observed
    previous current = next
  split_ifs
  · cases next.resolved <;> rfl
  · cases next.resolved <;> rfl

/-- The alert that is raised with an observation, if one is. -/
def judgedAlert (e : Evaluation) (row : Option EdgeV2Operation) (observation : FillObservation)
    (observed : ℤ) (fill : ℚ) : List AlertLog :=
  let next := operationRow e row observation observed fill
  if next.state = .critical ∧ cooledDown e next then
    [⟨e.alertId, e.source.pitId, e.now, fill, observation.simulated, observation.source⟩]
  else []

theorem alerted_eq (t : Store) (next : EdgeV2Operation) (observation : FillObservation)
    (observed : ℤ) (fill : ℚ) (episode : String) :
    (alerted hash e t next observation observed fill episode).operation =
        Function.update t.operation e.source.pitId
          (some { next with lastAlertAt := some e.now, lastAlertId := some e.alertId }) ∧
      (alerted hash e t next observation observed fill episode).alerts = t.alerts ++
        [⟨e.alertId, e.source.pitId, e.now, fill, observation.simulated, observation.source⟩] := by
  unfold alerted
  dsimp only
  split <;> exact ⟨rfl, rfl⟩

theorem concluded_eq (t : Store) (next : EdgeV2Operation) (observation : FillObservation)
    (observed : ℤ) (fill : ℚ) (previous : OperationalState) :
    (concluded hash e t next observation observed fill previous).operation =
        (if next.state = .critical ∧ cooledDown e next then
          Function.update t.operation e.source.pitId
            (some { next with lastAlertAt := some e.now, lastAlertId := some e.alertId })
        else t.operation) ∧
      (concluded hash e t next observation observed fill previous).alerts = t.alerts ++
        if next.state = .critical ∧ cooledDown e next then
          [⟨e.alertId, e.source.pitId, e.now, fill, observation.simulated, observation.source⟩]
        else [] := by
  unfold concluded
  dsimp only
  by_cases hraise : next.state = .critical ∧ cooledDown e next
  · rw [if_pos hraise, if_pos hraise, if_pos hraise, (alerted_eq _ _ _ _ _ _).1,
      (alerted_eq _ _ _ _ _ _).2, advanced_operation, advanced_alerts]
    exact ⟨rfl, rfl⟩
  · rw [if_neg hraise, if_neg hraise, if_neg hraise, advanced_operation, advanced_alerts,
      List.append_nil]
    exact ⟨rfl, rfl⟩

theorem judged_eq (hash : Json → String) (e : Evaluation) (s : Store)
    (observation : FillObservation) (observed : ℤ) (fill : ℚ) :
    (judged hash e s observation observed fill).operation =
        Function.update s.operation e.source.pitId
          (some (judgedRow e (s.operation e.source.pitId) observation observed fill)) ∧
      (judged hash e s observation observed fill).alerts = s.alerts ++
        judgedAlert e (s.operation e.source.pitId) observation observed fill := by
  unfold judged judgedRow judgedAlert
  dsimp only
  generalize operationRow e (s.operation e.source.pitId) observation observed fill = next
  generalize e.previous (s.operation e.source.pitId) = previous
  generalize hbefore : (if e.snapshot.summary.filterState = .ready ∧ previous ≠ next.state then
    (s.setOperation e.source.pitId next).addTransition
      (fillTransition e observation previous next.state observed fill)
    else s.setOperation e.source.pitId next) = t
  have hoperation : t.operation = Function.update s.operation e.source.pitId (some next) := by
    rw [← hbefore]
    split_ifs <;> rfl
  have halerts : t.alerts = s.alerts := by
    rw [← hbefore]
    split_ifs <;> rfl
  rw [(concluded_eq t next observation observed fill previous).1,
    (concluded_eq t next observation observed fill previous).2, hoperation, halerts]
  refine ⟨?_, rfl⟩
  by_cases hraise : next.state = .critical ∧ cooledDown e next
  · rw [if_pos hraise, if_pos hraise, Function.update_idem]
  · rw [if_neg hraise, if_neg hraise]

/-! ## Judgments -/

/-- The evaluation of a new observation of a pit. -/
structure Judgment where
  device : String × String
  generatedAt : ℤ
  observedAt : ℤ
  fill : ℚ
  critical : ℚ
  confirmed : Bool

/-- The fill was critical, and confirmed. -/
def Judgment.High (j : Judgment) : Prop := j.critical ≤ j.fill ∧ j.confirmed

/-- The fill was at or below the recovery. -/
def Judgment.Low (j : Judgment) : Prop := j.fill ≤ j.critical - 5

/-- What a step has judged of a pit, if it has ended and has judged anything. -/
def judgment (pit : String) (x : Entry Store Call (Option Unit)) : Option Judgment :=
  let e := x.op.evaluation
  if e.source.pitId = pit ∧ x.out.isSome then
    match e.task (x.pre.operation pit) with
    | .judge observation observed fill => some
      { device := e.source.device
        generatedAt := observation.generatedAt
        observedAt := observed
        fill := fill
        critical := e.critical
        confirmed := e.confirmed (e.previous (x.pre.operation pit)) observation observed fill }
    | _ => none
  else none

/-- What has been judged of a pit, in its order. -/
def judgments (pit : String) (es : History) : List Judgment := es.filterMap (judgment pit)

/-- The source is attached to the pit, and the pit is critical. -/
def CriticalAt (s : Store) (pit : String) (device : String × String) : Prop :=
  ∃ row, s.operation pit = some row ∧ row.device = device ∧ row.state = .critical

/-- A step that has judged an observation of the pit. -/
structure Judges (pit : String) (x : Entry Store Call (Option Unit)) (observation : FillObservation)
    (observed : ℤ) (fill : ℚ) : Prop where
  source : x.op.evaluation.source.pitId = pit
  out : x.out = some ()
  task : x.op.evaluation.task (x.pre.operation pit) = .judge observation observed fill
  operation : x.post.operation = Function.update x.pre.operation pit
    (some (judgedRow x.op.evaluation (x.pre.operation pit) observation observed fill))
  alerts : x.post.alerts = x.pre.alerts ++
    judgedAlert x.op.evaluation (x.pre.operation pit) observation observed fill

/-- The row of the pit is left alone, but for the time since when its fill has been critical. -/
def Quiet (pit : String) (s s' : Store) : Prop :=
  s'.operation pit = s.operation pit ∨ ∃ row, s.operation pit = some row ∧
    s'.operation pit = some { row with criticalSince := none }

theorem judgedAlert_pit {row : Option EdgeV2Operation} {observation : FillObservation}
    {observed : ℤ}
    {fill : ℚ} {alert : AlertLog} (h : alert ∈ judgedAlert e row observation observed fill) :
    alert.pitId = e.source.pitId ∧ alert.triggeredAt = e.now := by
  unfold judgedAlert at h
  dsimp only at h
  split_ifs at h
  · obtain rfl := List.mem_singleton.1 h
    exact ⟨rfl, rfl⟩
  · cases h

theorem clearCritical_quiet (s : Store) (pit : String) : Quiet pit s (s.clearCritical pit) := by
  unfold Store.clearCritical
  cases hrow : s.operation pit with
  | none => exact .inl rfl
  | some row =>
    dsimp only
    split_ifs
    · exact .inl rfl
    · exact .inr ⟨row, hrow, Function.update_self _ _ _⟩

theorem clearCritical_of_ne (s : Store) {pit pit' : String} (h : pit' ≠ pit) :
    (s.clearCritical pit).operation pit' = s.operation pit' := by
  unfold Store.clearCritical
  cases s.operation pit with
  | none => rfl
  | some row =>
    dsimp only
    split_ifs
    · rfl
    · exact Function.update_of_ne h _ _

/-- Whatever is not a judgment raises no alert, and leaves the rows of the pits alone. -/
theorem taskEffect_quiet (hash : Json → String) (e : Evaluation) (s : Store) {task : Task}
    (h : ∀ observation observed fill, task ≠ .judge observation observed fill) (pit : String) :
    Quiet pit s (taskEffect hash e s task) ∧ (taskEffect hash e s task).alerts = s.alerts := by
  cases task with
  | gap =>
    refine ⟨?_, (clearCritical_alerts _ _).trans (invalidate_alerts _ _)⟩
    unfold taskEffect
    unfold Quiet
    rw [← invalidate_operation s e.source]
    by_cases hpit : pit = e.source.pitId
    · rw [hpit]
      exact clearCritical_quiet (s.invalidate e.source) e.source.pitId
    · exact .inl (clearCritical_of_ne (s.invalidate e.source) hpit)
  | replay => exact ⟨.inl rfl, rfl⟩
  | invalid => exact ⟨.inl (by rw [taskEffect, invalidate_operation]), invalidate_alerts _ _⟩
  | judge observation observed fill => exact absurd rfl (h observation observed fill)
  | failure => exact ⟨.inl rfl, rfl⟩

theorem judgment_eq_none {x : Entry Store Call (Option Unit)} {pit : String}
    (h : x.op.evaluation.source.pitId = pit → ∀ observation observed fill,
      x.op.evaluation.task (x.pre.operation pit) ≠ .judge observation observed fill) :
    judgment pit x = none := by
  unfold judgment
  dsimp only
  by_cases hpit : x.op.evaluation.source.pitId = pit ∧ x.out.isSome
  · rw [if_pos hpit]
    cases htask : x.op.evaluation.task (x.pre.operation pit) with
    | judge observation observed fill => exact absurd htask (h hpit.1 observation observed fill)
    | gap => rfl
    | replay => rfl
    | invalid => rfl
    | failure => rfl
  · rw [if_neg hpit]

/-- A step either judges an observation of the pit, or raises no alert for it and leaves its row
alone. -/
theorem entry_cases {x : Entry Store Call (Option Unit)}
    (h : step hash x.pre x.op = some (x.post, x.out)) (pit : String) :
    (judgment pit x = none ∧ Quiet pit x.pre x.post ∧
      ∃ new, x.post.alerts = x.pre.alerts ++ new ∧ ∀ alert ∈ new, alert.pitId ≠ pit) ∨
    ∃ observation observed fill, Judges pit x observation observed fill := by
  obtain ⟨hout, hsame⟩ | ⟨hout, hdone⟩ := step_cases h
  · refine .inl ⟨?_, .inl (by rw [hsame]), [], by rw [hsame, List.append_nil], by simp⟩
    unfold judgment
    dsimp only
    rw [if_neg (by simp [hout])]
  obtain ⟨hoperation, -, -, halerts, -⟩ := eq_of_core hdone.core
  unfold effect at hoperation halerts
  by_cases hjudge : ∃ observation observed fill,
      x.op.evaluation.task (x.pre.operation x.op.evaluation.source.pitId) =
        .judge observation observed fill
  · obtain ⟨observation, observed, fill, htask⟩ := hjudge
    obtain ⟨hoperation', halerts'⟩ := judged_eq hash x.op.evaluation x.pre observation
      observed fill
    rw [htask] at hoperation halerts
    replace hoperation := hoperation.trans hoperation'
    replace halerts := halerts.trans halerts'
    by_cases hpit : x.op.evaluation.source.pitId = pit
    · rw [hpit] at htask hoperation halerts
      exact .inr ⟨observation, observed, fill, hpit, hout, htask, hoperation, halerts⟩
    · refine .inl ⟨judgment_eq_none fun h => absurd h hpit, .inl ?_, _, halerts, ?_⟩
      · rw [hoperation, Function.update_of_ne (Ne.symm hpit)]
      · intro alert halert heq
        exact hpit ((judgedAlert_pit halert).1.symm.trans heq)
  · have hne : ∀ observation observed fill,
        x.op.evaluation.task (x.pre.operation x.op.evaluation.source.pitId) ≠
          .judge observation observed fill :=
      fun observation observed fill htask => hjudge ⟨observation, observed, fill, htask⟩
    obtain ⟨hquiet, hsame⟩ := taskEffect_quiet hash x.op.evaluation x.pre hne pit
    refine .inl ⟨judgment_eq_none ?_, ?_, [], ?_, by simp⟩
    · rintro rfl
      exact hne
    · unfold Quiet
      rw [hoperation]
      exact hquiet
    · rw [halerts, hsame, List.append_nil]

theorem Judges.judgment_eq {x : Entry Store Call (Option Unit)} {pit : String}
    {observation : FillObservation} {observed : ℤ} {fill : ℚ}
    (h : Judges pit x observation observed fill) :
    judgment pit x = some ⟨x.op.evaluation.source.device, observation.generatedAt, observed, fill,
      x.op.evaluation.critical, x.op.evaluation.confirmed
        (x.op.evaluation.previous (x.pre.operation pit)) observation observed fill⟩ := by
  unfold judgment
  dsimp only
  rw [if_pos ⟨h.source, by rw [h.out]; rfl⟩, h.task]

/-! ## The state is a latch -/

theorem task_judge {row : Option EdgeV2Operation} {observation : FillObservation} {observed : ℤ}
    {fill : ℚ} (h : e.task row = .judge observation observed fill) :
    (∃ value load, e.input = some (observation, load) ∧ observation.observedTo = some observed ∧
      observation.valuePercent = some value ∧ fill = e.fill value load) ∧
      ¬e.replayed row observation observed ∧ e.thresholdsValid := by
  unfold Evaluation.task at h
  cases hinput : e.input with
  | none =>
    rw [hinput] at h
    cases h
  | some input =>
    obtain ⟨observation', load⟩ := input
    rw [hinput] at h
    dsimp only at h
    cases hobserved : observation'.observedTo with
    | none =>
      rw [hobserved] at h
      cases h
    | some observed' =>
      cases hvalue : observation'.valuePercent with
      | none =>
        rw [hobserved, hvalue] at h
        cases h
      | some value =>
        rw [hobserved, hvalue] at h
        dsimp only at h
        split_ifs at h with hreplayed hinvalid
        obtain ⟨rfl, rfl, rfl⟩ := Task.judge.inj h
        exact ⟨⟨value, load, rfl, hobserved, hvalue, rfl⟩, hreplayed, by simpa using hinvalid⟩

theorem current_eq_critical (previous : OperationalState) (observation : FillObservation)
    (observed : ℤ) (fill : ℚ) :
    e.current previous observation observed fill = .critical ↔
      (e.critical ≤ fill ∧ e.confirmed previous observation observed fill) ∨
        previous = .critical ∧ ¬fill ≤ e.recovery := by
  unfold Evaluation.current
  rw [not_le]
  split_ifs with h₁ h₂ h₃
  · simp [h₁]
  · simp [h₂]
  · simp only [false_iff, not_or]
    exact ⟨h₂, h₁⟩
  · simp only [false_iff, not_or]
    exact ⟨h₂, h₁⟩

theorem previous_eq_critical {s : Store} {pit : String} :
    e.previous (s.operation pit) = .critical ↔ CriticalAt s pit e.source.device := by
  unfold Evaluation.previous CriticalAt
  cases hrow : (s.operation pit).filter fun row => row.device = e.source.device with
  | none =>
    simp only [reduceCtorEq, false_iff, not_exists, not_and]
    intro row hsome hdevice
    rw [hsome, Option.filter_some_pos (by simpa using hdevice)] at hrow
    cases hrow
  | some row =>
    obtain ⟨hsome, hdevice⟩ := Option.filter_eq_some_iff.1 hrow
    rw [hsome]
    simpa using fun _ => hdevice

theorem Quiet.criticalAt_iff {pit : String} (h : Quiet pit s s') (device : String × String) :
    CriticalAt s' pit device ↔ CriticalAt s pit device := by
  unfold CriticalAt
  obtain h | ⟨row, hrow, h⟩ := h
  · rw [h]
  · rw [h, hrow]
    simp [EdgeV2Operation.device]

/-- **The state of a pit is a latch**: while its source stays attached and its threshold is
unchanged, it is set by a confirmed critical fill and reset by a fill below the recovery. -/
theorem run_held {es : History} (h : Run (step hash) s₀ es s) {pit : String}
    {device : String × String} (hdevice : ∀ j ∈ judgments pit es, j.device = device) :
    CriticalAt s pit device ↔
      Held Judgment.High Judgment.Low (CriticalAt s₀ pit device) (judgments pit es) := by
  induction h with
  | nil => exact held_nil.symm
  | @snoc es s s' c out h hs ih =>
    unfold judgments at hdevice ih ⊢
    rw [List.filterMap_append] at hdevice ⊢
    have hes := ih fun j hj => hdevice j (List.mem_append_left _ hj)
    obtain ⟨hnone, hquiet, -⟩ | ⟨observation, observed, fill, hjudge⟩ :=
      @entry_cases _ ⟨s, c, out, s'⟩ hs pit
    · rw [List.filterMap_cons_none hnone, List.filterMap_nil, List.append_nil,
        hquiet.criticalAt_iff]
      exact hes
    · rw [List.filterMap_cons_some hjudge.judgment_eq, List.filterMap_nil, held_concat, ← hes]
      rw [List.filterMap_cons_some hjudge.judgment_eq] at hdevice
      have hsource : c.evaluation.source.device = device :=
        hdevice _ (List.mem_append_right _ List.mem_cons_self)
      obtain ⟨hrow, hstate, -⟩ := judgedRow_eq c.evaluation (s.operation pit) observation
        observed fill
      have hcritical : CriticalAt s' pit device ↔
          c.evaluation.current (c.evaluation.previous (s.operation pit)) observation observed fill =
            .critical := by
        unfold CriticalAt
        rw [show s'.operation = _ from hjudge.operation]
        simp only [Function.update_self, Option.some.injEq, exists_eq_left']
        rw [hrow, hstate]
        exact ⟨fun h => h.2, fun h => ⟨hsource, h⟩⟩
      rw [hcritical, current_eq_critical, previous_eq_critical, hsource]
      rfl

/-! ## The cursor moves on -/

/-- The judgment came before what the cursor of the source stands at, or is it. -/
def Reached (s : Store) (pit : String) (device : String × String) (j : Judgment) : Prop :=
  ∃ row, s.operation pit = some row ∧ row.device = device ∧ j.generatedAt ≤ row.generatedAt ∧
    j.observedAt ≤ row.observedAt

theorem Quiet.reached {pit : String} {device : String × String} {j : Judgment}
    (h : Quiet pit s s') (hj : Reached s pit device j) : Reached s' pit device j := by
  obtain ⟨row, hrow, hdevice, hgenerated, hobserved⟩ := hj
  obtain h | ⟨row', hrow', h⟩ := h
  · exact ⟨row, h.trans hrow, hdevice, hgenerated, hobserved⟩
  · obtain rfl := Option.some.inj (hrow.symm.trans hrow')
    exact ⟨_, h, hdevice, hgenerated, hobserved⟩

/-- An observation of the attached source is replayed, unless it is later than the cursor. -/
theorem Reached.lt {pit : String} {j : Judgment} {observation : FillObservation} {observed : ℤ}
    (h : Reached s pit e.source.device j)
    (hnew : ¬e.replayed (s.operation pit) observation observed) :
    j.generatedAt < observation.generatedAt ∧ j.observedAt < observed := by
  obtain ⟨row, hrow, hdevice, hgenerated, hobserved⟩ := h
  rw [Evaluation.replayed, hrow] at hnew
  simp only [Option.any_some, decide_eq_true_eq, not_and, not_or, not_le] at hnew
  obtain ⟨hgenerated', hobserved'⟩ := hnew hdevice
  exact ⟨by omega, by omega⟩

theorem run_cursor {es : History} (h : Run (step hash) s₀ es s) {pit : String}
    {device : String × String} (hdevice : ∀ j ∈ judgments pit es, j.device = device) :
    ((judgments pit es).Pairwise fun j k =>
      j.generatedAt < k.generatedAt ∧ j.observedAt < k.observedAt) ∧
        ∀ j ∈ judgments pit es, Reached s pit device j := by
  induction h with
  | nil => exact ⟨.nil, by simp [judgments]⟩
  | @snoc es s s' c out h hs ih =>
    unfold judgments at hdevice ih ⊢
    rw [List.filterMap_append] at hdevice ⊢
    obtain ⟨hpair, hreached⟩ := ih fun j hj => hdevice j (List.mem_append_left _ hj)
    obtain ⟨hnone, hquiet, -⟩ | ⟨observation, observed, fill, hjudge⟩ :=
      @entry_cases _ ⟨s, c, out, s'⟩ hs pit
    · rw [List.filterMap_cons_none hnone, List.filterMap_nil, List.append_nil]
      exact ⟨hpair, fun j hj => hquiet.reached (hreached j hj)⟩
    · rw [List.filterMap_cons_some hjudge.judgment_eq, List.filterMap_nil]
      rw [List.filterMap_cons_some hjudge.judgment_eq] at hdevice
      have hsource : c.evaluation.source.device = device :=
        hdevice _ (List.mem_append_right _ List.mem_cons_self)
      obtain ⟨hrow, -, hgenerated, hobserved⟩ := judgedRow_eq c.evaluation (s.operation pit)
        observation observed fill
      obtain ⟨-, hnew, -⟩ := task_judge hjudge.task
      have hlt : ∀ j ∈ List.filterMap (judgment pit) es,
          j.generatedAt < observation.generatedAt ∧ j.observedAt < observed := by
        intro j hj
        have hj' := hreached j hj
        rw [← hsource] at hj'
        exact hj'.lt hnew
      have hpost : s'.operation pit =
          some (judgedRow c.evaluation (s.operation pit) observation observed fill) := by
        rw [show s'.operation = _ from hjudge.operation, Function.update_self]
      constructor
      · refine List.pairwise_append.2 ⟨hpair, List.pairwise_singleton _ _, ?_⟩
        intro j hj k hk
        obtain rfl := List.mem_singleton.1 hk
        exact hlt j hj
      · intro j hj
        refine ⟨_, hpost, hrow.trans hsource, ?_, ?_⟩
        · rw [hgenerated]
          obtain hj | hj := List.mem_append.1 hj
          · exact (hlt j hj).1.le
          · rw [List.mem_singleton.1 hj]
        · rw [hobserved]
          obtain hj | hj := List.mem_append.1 hj
          · exact (hlt j hj).2.le
          · rw [List.mem_singleton.1 hj]

/-! ## A replay does nothing -/

/-- The evaluation is of a fresh observation that is not later than the judgment. -/
def Replays (e : Evaluation) (j : Judgment) : Prop :=
  ∃ observation load observed, e.input = some (observation, load) ∧
    observation.observedTo = some observed ∧
      (observation.generatedAt ≤ j.generatedAt ∨ observed ≤ j.observedAt)

theorem Reached.replay {j : Judgment} (h : Reached s e.source.pitId e.source.device j)
    (hreplays : Replays e j) (hdone : Done hash e s s') : s'.core = s.core := by
  obtain ⟨observation, load, observed, hinput, hobserved, hle⟩ := hreplays
  obtain ⟨row, hrow, hdevice, hgenerated, hobservedAt⟩ := h
  have hreplayed : e.replayed (s.operation e.source.pitId) observation observed := by
    rw [Evaluation.replayed, hrow]
    simp only [Option.any_some, decide_eq_true_eq]
    refine ⟨hdevice, ?_⟩
    omega
  rw [hdone.core, effect]
  have hne := hdone.task
  unfold Evaluation.task at hne ⊢
  rw [hinput] at hne ⊢
  dsimp only at hne ⊢
  rw [hobserved] at hne ⊢
  cases hvalue : observation.valuePercent with
  | none =>
    rw [hvalue] at hne
    exact absurd rfl hne
  | some value =>
    dsimp only
    rw [if_pos hreplayed]
    rfl

/-! ## Alerts keep the cooldown -/

/-- The last alert of the pit is not before the given time. -/
def AlertedSince (s : Store) (pit : String) (time : ℤ) : Prop :=
  ∃ row last, s.operation pit = some row ∧ row.lastAlertAt = some last ∧ time ≤ last

theorem Quiet.alertedSince {pit : String} {time : ℤ} (h : Quiet pit s s')
    (ht : AlertedSince s pit time) : AlertedSince s' pit time := by
  obtain ⟨row, last, hrow, hlast, hle⟩ := ht
  obtain h | ⟨row', hrow', h⟩ := h
  · exact ⟨row, last, h.trans hrow, hlast, hle⟩
  · obtain rfl := Option.some.inj (hrow.symm.trans hrow')
    exact ⟨_, last, h, hlast, hle⟩

/-- The evaluation of an observation raises at most one alert, the cooldown after the last one. -/
theorem judgedAlert_cases (e : Evaluation) (row : Option EdgeV2Operation)
    (observation : FillObservation) (observed : ℤ) (fill : ℚ) :
    (judgedAlert e row observation observed fill = [] ∧
      (judgedRow e row observation observed fill).lastAlertAt =
        row.bind EdgeV2Operation.lastAlertAt) ∨
    ∃ alert, judgedAlert e row observation observed fill = [alert] ∧ alert.pitId = e.source.pitId ∧
      alert.triggeredAt = e.now ∧
      (judgedRow e row observation observed fill).lastAlertAt = some e.now ∧
      ∀ last ∈ row.bind EdgeV2Operation.lastAlertAt,
        seconds e.settings.alertCooldownSeconds ≤ e.now - last := by
  unfold judgedAlert judgedRow
  dsimp only
  by_cases hraise : (operationRow e row observation observed fill).state = .critical ∧
      cooledDown e (operationRow e row observation observed fill)
  · rw [if_pos hraise, if_pos hraise]
    refine .inr ⟨_, rfl, rfl, rfl, rfl, fun last hlast => ?_⟩
    have hcooled := hraise.2
    unfold cooledDown at hcooled
    rw [show (operationRow e row observation observed fill).lastAlertAt = some last from hlast]
      at hcooled
    exact of_decide_eq_true hcooled
  · rw [if_neg hraise, if_neg hraise]
    exact .inl ⟨rfl, rfl⟩

/-- What holds of the alerts that a run has raised for a pit. -/
structure Spaced (pit : String) (cooldown : ℕ) (s : Store) (raised : List AlertLog) : Prop where
  apart : (raised.filter fun alert => alert.pitId = pit).Pairwise fun a b =>
    seconds cooldown ≤ b.triggeredAt - a.triggeredAt
  last : ∀ alert ∈ raised, alert.pitId = pit → AlertedSince s pit alert.triggeredAt

theorem run_alerts {es : History} (h : Run (step hash) s₀ es s) (pit : String) {cooldown : ℕ}
    (hcooldown : ∀ x ∈ es, cooldown ≤ x.op.evaluation.settings.alertCooldownSeconds) :
    ∃ raised, s.alerts = s₀.alerts ++ raised ∧ Spaced pit cooldown s raised := by
  induction h with
  | nil => exact ⟨[], (List.append_nil _).symm, .nil, by simp⟩
  | @snoc es s s' c out h hs ih =>
    obtain ⟨raised, hraised, hspaced⟩ := ih fun x hx => hcooldown x (List.mem_append_left _ hx)
    have hsetting : cooldown ≤ c.evaluation.settings.alertCooldownSeconds :=
      hcooldown ⟨s, c, out, s'⟩ (List.mem_append_right _ (List.mem_singleton_self _))
    obtain ⟨-, hquiet, new, hnew, hother⟩ | ⟨observation, observed, fill, hjudge⟩ :=
      @entry_cases _ ⟨s, c, out, s'⟩ hs pit
    · refine ⟨raised ++ new, by rw [show s'.alerts = _ from hnew, hraised, List.append_assoc], ?_,
        ?_⟩
      · have hnone : new.filter (fun alert => alert.pitId = pit) = [] := by
          simpa [List.filter_eq_nil_iff] using hother
        rw [List.filter_append, hnone, List.append_nil]
        exact hspaced.apart
      · intro alert halert hpit
        obtain halert | halert := List.mem_append.1 halert
        · exact hquiet.alertedSince (hspaced.last alert halert hpit)
        · exact absurd hpit (hother alert halert)
    · have hpost : s'.operation pit =
          some (judgedRow c.evaluation (s.operation pit) observation observed fill) := by
        rw [show s'.operation = _ from hjudge.operation, Function.update_self]
      have halerts : s'.alerts = s.alerts ++
          judgedAlert c.evaluation (s.operation pit) observation observed fill := hjudge.alerts
      obtain ⟨hnone, hlast⟩ | ⟨alert, hone, halertPit, htime, hlast, hcool⟩ :=
        judgedAlert_cases c.evaluation (s.operation pit) observation observed fill
      · refine ⟨raised, by rw [halerts, hnone, List.append_nil, hraised], hspaced.apart, ?_⟩
        intro alert halert hpit
        obtain ⟨row, last, hrow, hlast', hle⟩ := hspaced.last alert halert hpit
        exact ⟨_, last, hpost, by rw [hlast, hrow]; exact hlast', hle⟩
      · have hbefore : ∀ a ∈ raised, a.pitId = pit →
            seconds cooldown ≤ alert.triggeredAt - a.triggeredAt := by
          intro a ha hpit
          obtain ⟨row, last, hrow, hlast', hle⟩ := hspaced.last a ha hpit
          have hapart := hcool last (by rw [hrow]; exact hlast')
          unfold seconds at hapart ⊢
          omega
        refine ⟨raised ++ [alert], by rw [halerts, hone, hraised, List.append_assoc], ?_, ?_⟩
        · rw [List.filter_append]
          refine List.pairwise_append.2 ⟨hspaced.apart, ?_, ?_⟩
          · exact (List.pairwise_singleton _ alert).filter _
          · intro a ha b hb
            obtain ⟨ha, hpit⟩ := List.mem_filter.1 ha
            obtain rfl := List.mem_singleton.1 (List.mem_filter.1 hb).1
            exact hbefore a ha (of_decide_eq_true hpit)
        · intro a ha hpit
          refine ⟨_, _, hpost, hlast, ?_⟩
          obtain ha | ha := List.mem_append.1 ha
          · have hapart := hbefore a ha hpit
            unfold seconds at hapart
            omega
          · rw [List.mem_singleton.1 ha, htime]

/-! ## Whole runs -/

/-- What holds of a pit along a run of the worker. -/
structure WorkerInvariants (hash : Json → String) (s₀ s : Store) (es : History) (pit : String) :
    Prop where
  /-- While a source stays attached, the pit is critical if and only if the last confirmed critical
  fill is later than the last fill below the recovery. -/
  hysteresis : ∀ device, (∀ j ∈ judgments pit es, j.device = device) →
    (CriticalAt s pit device ↔
      Held Judgment.High Judgment.Low (CriticalAt s₀ pit device) (judgments pit es))
  /-- While a source stays attached, the observations that are processed only move on. -/
  cursor : ∀ device, (∀ j ∈ judgments pit es, j.device = device) →
    (judgments pit es).Pairwise fun j k =>
      j.generatedAt < k.generatedAt ∧ j.observedAt < k.observedAt
  /-- While a source stays attached, an observation that has been processed before adds no alert and
  no transition, and leaves the row and the episode as they are. -/
  replay : ∀ device, (∀ j ∈ judgments pit es, j.device = device) → ∀ c s' out,
    c.evaluation.source.pitId = pit → c.evaluation.source.device = device →
      (∃ j ∈ judgments pit es, Replays c.evaluation j) → step hash s c = some (s', out) →
        s'.core = s.core
  /-- The alerts of the pit are at least the cooldown apart, whatever its sources were. -/
  cooldown : ∀ cooldown : ℕ,
    (∀ x ∈ es, cooldown ≤ x.op.evaluation.settings.alertCooldownSeconds) →
      ∃ raised, s.alerts = s₀.alerts ++ raised ∧
        (raised.filter fun alert => alert.pitId = pit).Pairwise fun a b =>
          seconds cooldown ≤ b.triggeredAt - a.triggeredAt
  /-- An evaluation that fails leaves everything as it was. -/
  failure : ∀ x ∈ es, x.out = none → x.post = x.pre

/-- **The state machine of the operations worker.** -/
theorem worker_runs {es : History} (h : Run (step hash) s₀ es s) (pit : String) :
    WorkerInvariants hash s₀ s es pit where
  hysteresis := fun _ hdevice => run_held h hdevice
  cursor := fun _ hdevice => (run_cursor h hdevice).1
  replay := by
    rintro device hdevice c s' out rfl rfl ⟨j, hj, hreplays⟩ hs
    obtain ⟨-, hsame⟩ | ⟨-, hdone⟩ := step_cases hs
    · rw [hsame]
    · exact ((run_cursor h hdevice).2 j hj).replay hreplays hdone
  cooldown := by
    intro cooldown hcooldown
    obtain ⟨raised, hraised, hspaced⟩ := run_alerts h pit hcooldown
    exact ⟨raised, hraised, hspaced.apart⟩
  failure := by
    intro x hx hout
    obtain ⟨-, hsame⟩ | ⟨hdone, -⟩ := step_cases (h.step_of_mem hx)
    · exact hsame
    · rw [hout] at hdone
      cases hdone

/-! ### A source that is attached again

The pit has a source of its own, is given another and is given the first again, while the
observation that the first had is still fresh. -/

def Store.empty : Store where
  operation _ := none
  tracker _ := none
  starts _ := none
  transitions := []
  alerts := []
  links := []

/-- A fresh observation of the fill, filtered and ready. -/
def sampleSnapshot (edge messageId : String) (time : ℤ) (fill : ℚ)
    (hfill : 0 ≤ fill ∧ fill ≤ 100) : MonitoringSnapshotV2 where
  source := ⟨"pit", "site", edge⟩
  measuredAt := some time
  assessmentReceivedAt := none
  dataState := .fresh
  reasonCodes := []
  summary :=
    { inputSource := .heightSections
      simulated := false
      loadPercent := some fill
      rawLoadPercent := some fill
      filterState := .ready
      warningThresholdPercent := 75
      collectionThresholdPercent := 90
      recoveryThresholdPercent := 85 }
  assessment := none
  deviceStatus := ⟨"site", edge, .reporting, some time, .healthy, [], none⟩
  operations := none
  fillObservation := some
    { source := .heightSections
      siteId := "site"
      edgeId := edge
      configRevision := "cfg"
      messageId := messageId
      observationId := messageId
      generatedAt := time
      receivedAt := time
      observedTo := some time
      ruleVersion := none
      methodVersion := none
      valuePercent := some fill
      reasonCodes := []
      value_range := by
        rintro value hvalue
        obtain rfl := Option.some.inj hvalue
        exact hfill }

/-- An evaluation with a filter that needs no confirmation, and a cooldown of a second. -/
def sampleCall (snapshot : MonitoringSnapshotV2) (now : ℤ) (uuid : String) (alertId : ℕ) :
    Call where
  evaluation :=
    { settings :=
        { sampleSettings with
          heightFillEnabled := true, criticalConfirmSeconds := 0, alertCooldownSeconds := 1 }
      snapshot := snapshot
      filtered := none
      healthConditions := []
      preAlertEnabled := none
      now := now
      uuid := uuid
      alertId := alertId }
  faults := []

theorem highFill_range : 0 ≤ (95 : ℚ) ∧ (95 : ℚ) ≤ 100 := by norm_num

theorem lowFill_range : 0 ≤ (50 : ℚ) ∧ (50 : ℚ) ≤ 100 := by norm_num

def firstCall (now : ℤ) (uuid : String) (alertId : ℕ) : Call :=
  sampleCall (sampleSnapshot "edge-a" "m-1" (seconds 100) 95 highFill_range) now uuid alertId

def otherCall : Call :=
  sampleCall (sampleSnapshot "edge-b" "m-2" (seconds 101) 50 lowFill_range) (seconds 101) "u-2" 2

/-- The store after an evaluation. -/
def after (s : Store) (c : Call) : Store :=
  ((processSource (fun _ => "") c.evaluation).execute s []).1

/-- The store after the evaluations of the first source and of the other. -/
def reattached : Store := after (after Store.empty (firstCall (seconds 100) "u-1" 1)) otherCall

theorem sample_step (s : Store) (c : Call) (hfaults : c.faults = []) :
    step (fun _ => "") s c =
      some (after s c, ((processSource (fun _ => "") c.evaluation).execute s []).2) := by
  unfold step after
  rw [hfaults]

/-- A source that is attached again begins anew: its last observation is judged once more, raises an
alert and changes the state. -/
theorem replay_reattached : ∃ es s s' out,
    Run (step fun _ => "") Store.empty es s ∧
      (∃ x ∈ es, (judgment "pit" x).isSome ∧
        x.op.evaluation.snapshot = (firstCall (seconds 102) "u-3" 3).evaluation.snapshot) ∧
      step (fun _ => "") s (firstCall (seconds 102) "u-3" 3) = some (s', out) ∧
      s'.alerts.length = s.alerts.length + 1 ∧ s'.transitions.length = s.transitions.length + 2 ∧
      (s.operation "pit").map EdgeV2Operation.state = some .normal ∧
      (s'.operation "pit").map EdgeV2Operation.state = some .critical := by
  refine ⟨_, reattached, after reattached (firstCall (seconds 102) "u-3" 3), _,
    ((Run.nil.snoc (sample_step _ _ rfl)).snoc (sample_step _ _ rfl)), ?_, sample_step _ _ rfl, ?_⟩
  · refine ⟨_, List.mem_cons_self, ?_, rfl⟩
    decide +kernel
  · decide +kernel

theorem worker_runs_reattached : ∃ es, Run (step fun _ => "") Store.empty es reattached ∧
    WorkerInvariants (fun _ => "") Store.empty reattached es "pit" := by
  have h : Run (step fun _ => "") Store.empty _ reattached :=
    (Run.nil.snoc (sample_step _ (firstCall (seconds 100) "u-1" 1) rfl)).snoc
      (sample_step _ otherCall rfl)
  exact ⟨_, h, worker_runs h "pit"⟩

end ScrapMonitoring.Operations
