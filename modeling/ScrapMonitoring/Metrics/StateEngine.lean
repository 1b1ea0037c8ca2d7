import ScrapMonitoring.Foundations.Float64
import ScrapMonitoring.Foundations.Latch
import ScrapMonitoring.Foundations.Run

/-!
# The state engine of the first interface

`StateEngine` of `services/state_engine.py` remembers for each pit in which state its last fill put
it and whether the alert for its critical state has been triggered. An evaluation of a fill moves
the pit between its states, with a margin below each threshold, and says whether the pit is newly
critical; the confirmation of a collection resets the pit.

* `lt_of_left_critical` and `lt_of_to_normal` are about the two margins.
* `newly_critical_first` is about the runs in which no evaluation forgets to clear the alert
  (`ForgetsAlert`) and no fill that is not a number meets a critical pit (`Blinds`): there an
  evaluation is newly critical exactly when it is the first critical one since the pit was last
  normal or reset, and the pit comes down only below the margins.
* `alert_not_cleared` is a run with an evaluation that forgets the alert, from critical over warning
  to normal; `blinded` says what a fill that is not a number does to a critical pit.

Fills and thresholds are doubles, in percent.
-/

namespace ScrapMonitoring.Metrics

inductive PitState
  | normal
  | warning
  | critical
  deriving DecidableEq, Repr

/-- What the engine remembers of a pit. -/
structure PitCurrentState where
  pitId : String
  currentState : PitState := .normal
  lastFillRatio : Float64 := 0
  alertTriggered : Bool := false
  deriving DecidableEq, Repr

/-- The thresholds of a pit without thresholds of its own. -/
structure Settings where
  defaultWarningThreshold : Float64
  defaultCriticalThreshold : Float64

/-- `_pit_states`. -/
abbrev StateEngine := String → Option PitCurrentState

def StateEngine.new : StateEngine := fun _ => none

def StateEngine.getOrCreatePitState (engine : StateEngine) (pitId : String) : PitCurrentState :=
  (engine pitId).getD { pitId }

def hysteresisMargin : Float64 := 2

/-! ## One pit -/

def PitCurrentState.reset (pit : PitCurrentState) (residualFillRatio : Float64) : PitCurrentState :=
  { pit with
    currentState := .normal
    lastFillRatio := residualFillRatio
    alertTriggered := false }

/-- The evaluation of a fill, and whether the pit is newly critical. -/
def PitCurrentState.evaluate (pit : PitCurrentState) (fillRatioPercent warnTh critTh : Float64) :
    PitCurrentState × Bool :=
  let pit' := { pit with lastFillRatio := fillRatioPercent }
  if critTh ≤ fillRatioPercent then
    ({ pit' with currentState := .critical, alertTriggered := true }, !pit.alertTriggered)
  else if warnTh ≤ fillRatioPercent then
    if pit.currentState = .critical then
      if fillRatioPercent < critTh - hysteresisMargin then
        ({ pit' with currentState := .warning }, false)
      else ({ pit' with currentState := .critical }, false)
    else ({ pit' with currentState := .warning }, false)
  else
    match pit.currentState with
    | .critical =>
      if fillRatioPercent < warnTh - hysteresisMargin then
        ({ pit' with currentState := .normal, alertTriggered := false }, false)
      else ({ pit' with currentState := .warning }, false)
    | .warning =>
      -- the alert stays triggered
      if fillRatioPercent < warnTh - hysteresisMargin then
        ({ pit' with currentState := .normal }, false)
      else ({ pit' with currentState := .warning }, false)
    | .normal => ({ pit' with currentState := .normal }, false)

section

variable {pit : PitCurrentState} {fill warnTh critTh : Float64}

theorem margin_le {th : Float64} (h : th ≠ .nan) : th - hysteresisMargin ≤ th := by
  have hmargin : IsDouble (2 : ℕ) := by decide +kernel
  change th - Float64.ofRat (2 : ℕ) ≤ th
  rw [Float64.ofRat_of_isDouble hmargin]
  exact Float64.sub_le_self h hmargin (by norm_num)

theorem sub_five_le {th : Float64} (h : th ≠ .nan) : th - 5 ≤ th - hysteresisMargin := by
  have hfive : IsDouble (5 : ℕ) := by decide +kernel
  have hmargin : IsDouble (2 : ℕ) := by decide +kernel
  change th - Float64.ofRat (5 : ℕ) ≤ th - Float64.ofRat (2 : ℕ)
  rw [Float64.ofRat_of_isDouble hfive, Float64.ofRat_of_isDouble hmargin]
  exact Float64.sub_le_sub h hmargin hfive (by norm_num)

/-- A fill below the margin is below the threshold. -/
theorem not_le_of_lt_margin {th : Float64} (h : fill < th - hysteresisMargin) : ¬ th ≤ fill := by
  intro hle
  have hmargin := margin_le (Float64.ne_nan_of_le hle).1
  exact Float64.not_lt_of_le (Float64.le_trans hmargin hle) h

/-- A pit becomes critical at the critical threshold, and stays critical down to the margin below
it. -/
theorem evaluate_critical_iff : (pit.evaluate fill warnTh critTh).1.currentState = .critical ↔
    critTh ≤ fill ∨ warnTh ≤ fill ∧ pit.currentState = .critical ∧
      ¬ fill < critTh - hysteresisMargin := by
  unfold PitCurrentState.evaluate
  cases pit.currentState <;> grind

theorem evaluate_normal_iff : (pit.evaluate fill warnTh critTh).1.currentState = .normal ↔
    ¬ critTh ≤ fill ∧ ¬ warnTh ≤ fill ∧
      (pit.currentState = .normal ∨ fill < warnTh - hysteresisMargin) := by
  unfold PitCurrentState.evaluate
  cases pit.currentState <;> grind

/-- Only a fill at the critical threshold is newly critical, and only when no alert is triggered. -/
theorem evaluate_new_iff : (pit.evaluate fill warnTh critTh).2 = true ↔
    critTh ≤ fill ∧ pit.alertTriggered = false := by
  unfold PitCurrentState.evaluate
  cases pit.currentState <;> grind

/-- An alert is triggered at the critical threshold, and cleared only on the way from critical to
normal. -/
theorem evaluate_alert_iff : (pit.evaluate fill warnTh critTh).1.alertTriggered = true ↔
    critTh ≤ fill ∨ pit.alertTriggered = true ∧ ¬(pit.currentState = .critical ∧
      (pit.evaluate fill warnTh critTh).1.currentState = .normal) := by
  unfold PitCurrentState.evaluate
  cases pit.currentState <;> grind

end

/-! ## The engine -/

def warnTh (settings : Settings) (warningThreshold : Option Float64) : Float64 :=
  warningThreshold.getD settings.defaultWarningThreshold

def critTh (settings : Settings) (criticalThreshold : Option Float64) : Float64 :=
  criticalThreshold.getD settings.defaultCriticalThreshold

def resetPitState (engine : StateEngine) (pitId : String) (residualFillRatio : Float64) :
    StateEngine :=
  Function.update engine pitId ((engine.getOrCreatePitState pitId).reset residualFillRatio)

/-- The engine after an evaluation, the state of the pit, and whether it is newly critical. -/
def evaluateState (settings : Settings) (engine : StateEngine) (pitId : String)
    (fillRatioPercent : Float64) (warningThreshold criticalThreshold : Option Float64) :
    StateEngine × PitState × Bool :=
  let result := (engine.getOrCreatePitState pitId).evaluate fillRatioPercent
    (warnTh settings warningThreshold) (critTh settings criticalThreshold)
  (Function.update engine pitId result.1, result.1.currentState, result.2)

inductive Op
  | evaluate (pitId : String) (fillRatioPercent : Float64)
    (warningThreshold criticalThreshold : Option Float64)
  | reset (pitId : String) (residualFillRatio : Float64)
  deriving DecidableEq

/-- What an evaluation returns. -/
abbrev Out := Option (PitState × Bool)

def step (settings : Settings) (engine : StateEngine) : Op → Option (StateEngine × Out)
  | .evaluate pitId fill warning critical =>
    let result := evaluateState settings engine pitId fill warning critical
    some (result.1, some result.2)
  | .reset pitId residual => some (resetPitState engine pitId residual, none)

/-- `validate_alert_thresholds`. -/
def validateAlertThresholds (warning critical : Float64) : Bool :=
  decide (0 ≤ warning ∧ warning ≤ critical - 5 ∧ critical - 5 < critical ∧ critical ≤ 100)

/-- The thresholds of an evaluation lie as far apart as their validation demands. -/
def ThresholdsApart (settings : Settings) : Op → Prop
  | .evaluate _ _ warning critical => warnTh settings warning ≤ critTh settings critical - 5
  | .reset _ _ => True

instance (settings : Settings) (op : Op) : Decidable (ThresholdsApart settings op) :=
  match op with
  | .evaluate _ _ _ _ => inferInstanceAs (Decidable (_ ≤ _))
  | .reset _ _ => .isTrue trivial

theorem apart_of_validated {warning critical : Float64}
    (h : validateAlertThresholds warning critical = true) : warning ≤ critical - 5 := by
  unfold validateAlertThresholds at h
  exact (of_decide_eq_true h).2.1

/-- An evaluation that takes the pit from warning to normal while its alert is triggered. -/
def ForgetsAlert (settings : Settings) (engine : StateEngine) : Op → Prop
  | .evaluate pitId fill warning _ =>
    (engine.getOrCreatePitState pitId).currentState = .warning ∧
      (engine.getOrCreatePitState pitId).alertTriggered = true ∧
      fill < warnTh settings warning - hysteresisMargin
  | .reset _ _ => False

instance (settings : Settings) (engine : StateEngine) (op : Op) :
    Decidable (ForgetsAlert settings engine op) :=
  match op with
  | .evaluate _ _ _ _ => inferInstanceAs (Decidable (_ ∧ _ ∧ _))
  | .reset _ _ => .isFalse not_false

/-- An evaluation of a critical pit with a fill that is not a number. -/
def Blinds (engine : StateEngine) : Op → Prop
  | .evaluate pitId fill _ _ =>
    (engine.getOrCreatePitState pitId).currentState = .critical ∧ fill = .nan
  | .reset _ _ => False

instance (engine : StateEngine) (op : Op) : Decidable (Blinds engine op) :=
  match op with
  | .evaluate _ _ _ _ => inferInstanceAs (Decidable (_ ∧ _))
  | .reset _ _ => .isFalse not_false

abbrev Step := Entry StateEngine Op Out

/-- The step finds the pit critical. -/
def FindsCritical (pitId : String) (e : Step) : Prop :=
  ∃ fill warning critical isNew, e.op = .evaluate pitId fill warning critical ∧
    e.out = some (.critical, isNew)

/-- The step finds the pit normal, or resets it. -/
def MakesNormal (pitId : String) (e : Step) : Prop :=
  (∃ fill warning critical isNew, e.op = .evaluate pitId fill warning critical ∧
    e.out = some (.normal, isNew)) ∨ ∃ residual, e.op = .reset pitId residual

/-- The last step is the first that finds the pit critical since the start, since it was last
normal, or since it was last reset. -/
def FirstCritical (pitId : String) (before : List Step) (e : Step) : Prop :=
  FindsCritical pitId e ∧ ¬Latched (FindsCritical pitId) (MakesNormal pitId) before

section

variable {settings : Settings} {engine : StateEngine} {pitId other : String}
    {fill residual : Float64}
variable {warning critical : Option Float64}

@[simp] theorem new_getOrCreate : StateEngine.new.getOrCreatePitState pitId = { pitId } := rfl

@[simp] theorem evaluateState_getOrCreate :
    (evaluateState settings engine pitId fill warning critical).1.getOrCreatePitState pitId =
      ((engine.getOrCreatePitState pitId).evaluate fill (warnTh settings warning)
        (critTh settings critical)).1 := by
  simp [evaluateState, StateEngine.getOrCreatePitState]

theorem evaluateState_other (h : pitId ≠ other) :
    (evaluateState settings engine other fill warning critical).1.getOrCreatePitState pitId =
      engine.getOrCreatePitState pitId := by
  simp [evaluateState, StateEngine.getOrCreatePitState, Function.update_of_ne h]

@[simp] theorem resetPitState_getOrCreate :
    (resetPitState engine pitId residual).getOrCreatePitState pitId =
      (engine.getOrCreatePitState pitId).reset residual := by
  simp [resetPitState, StateEngine.getOrCreatePitState]

theorem resetPitState_other (h : pitId ≠ other) :
    (resetPitState engine other residual).getOrCreatePitState pitId =
      engine.getOrCreatePitState pitId := by
  simp [resetPitState, StateEngine.getOrCreatePitState, Function.update_of_ne h]

/-- **Critical is left only below the margin under the critical threshold**, by a fill that is a
number. -/
theorem lt_of_left_critical
    (hapart : warnTh settings warning ≤ critTh settings critical - 5) (hfill : fill ≠ .nan)
    (hpre : (engine.getOrCreatePitState pitId).currentState = .critical)
    (hpost : (evaluateState settings engine pitId fill warning critical).2.1 ≠ .critical) :
    fill < critTh settings critical - hysteresisMargin := by
  by_contra hlow
  refine hpost (evaluate_critical_iff.2 (.inr ⟨?_, hpre, hlow⟩))
  obtain ⟨-, hnumber⟩ := Float64.ne_nan_of_le hapart
  have hmargin := sub_five_le (Float64.ne_nan_of_sub hnumber)
  have hle := Float64.le_of_not_lt (Float64.ne_nan_of_le hmargin).2 hfill hlow
  exact Float64.le_trans hapart (Float64.le_trans hmargin hle)

/-- **Normal is reached from above only below the margin under the warning threshold.** -/
theorem lt_of_to_normal
    (hpre : (engine.getOrCreatePitState pitId).currentState ≠ .normal)
    (hpost : (evaluateState settings engine pitId fill warning critical).2.1 = .normal) :
    fill < warnTh settings warning - hysteresisMargin :=
  (evaluate_normal_iff.1 hpost).2.2.resolve_left hpre

end

/-! ## Whole runs -/

section

variable {settings : Settings} {es before after : List Step} {s : StateEngine} {e : Step}
variable {pitId : String}

/-- The alert is triggered exactly since the pit was found critical, and agrees with its state. -/
structure Tracked (pitId : String) (es : List Step) (pit : PitCurrentState) : Prop where
  alert : pit.alertTriggered = true ↔ Latched (FindsCritical pitId) (MakesNormal pitId) es
  critical : pit.currentState = .critical → pit.alertTriggered = true
  normal : pit.currentState = .normal → pit.alertTriggered = false

theorem Tracked.fresh : Tracked pitId [] { pitId } where
  alert := by simp [latched_nil]
  critical h := by cases h
  normal _ := rfl

/-- A step that is about another pit changes nothing. -/
theorem Tracked.other {pit : PitCurrentState} (h : Tracked pitId es pit)
    (hc : ¬FindsCritical pitId e) (hn : ¬MakesNormal pitId e) : Tracked pitId (es ++ [e]) pit where
  alert := by
    rw [latched_concat, h.alert]
    tauto
  critical := h.critical
  normal := h.normal

theorem Tracked.reset {pit : PitCurrentState} {residual : Float64}
    (hop : e.op = .reset pitId residual) :
    Tracked pitId (es ++ [e]) (pit.reset residual) where
  alert := by
    have hc : ¬FindsCritical pitId e := by
      rintro ⟨_, _, _, _, h, -⟩
      rw [hop] at h
      cases h
    rw [latched_concat]
    have hn : MakesNormal pitId e := .inr ⟨residual, hop⟩
    simp [PitCurrentState.reset, hc, hn]
  critical h := by cases h
  normal _ := rfl

/-- An evaluation keeps the alert right unless it forgets it. -/
theorem Tracked.evaluate {pit : PitCurrentState} {fill : Float64}
    {warning critical : Option Float64}
    (h : Tracked pitId es pit) (hop : e.op = .evaluate pitId fill warning critical)
    (hout : e.out = some
      ((pit.evaluate fill (warnTh settings warning) (critTh settings critical)).1.currentState,
        (pit.evaluate fill (warnTh settings warning) (critTh settings critical)).2))
    (hclear : ¬(pit.currentState = .warning ∧ pit.alertTriggered = true ∧
      fill < warnTh settings warning - hysteresisMargin)) :
    Tracked pitId (es ++ [e])
      (pit.evaluate fill (warnTh settings warning) (critTh settings critical)).1 := by
  set result := pit.evaluate fill (warnTh settings warning) (critTh settings critical) with hresult
  have hc : FindsCritical pitId e ↔ result.1.currentState = .critical := by
    constructor
    · rintro ⟨_, _, _, _, -, h⟩
      rw [hout] at h
      simp only [Option.some.injEq, Prod.mk.injEq] at h
      exact h.1
    · exact fun h => ⟨fill, warning, critical, result.2, hop, by rw [hout, h]⟩
  have hn : MakesNormal pitId e ↔ result.1.currentState = .normal := by
    constructor
    · rintro (⟨_, _, _, _, -, h⟩ | ⟨_, h⟩)
      · rw [hout] at h
        simp only [Option.some.injEq, Prod.mk.injEq] at h
        exact h.1
      · rw [hop] at h
        cases h
    · exact fun h => .inl ⟨fill, warning, critical, result.2, hop, by rw [hout, h]⟩
  have hcritical : result.1.currentState = .critical → result.1.alertTriggered = true := by
    intro hstate
    rcases evaluate_critical_iff.1 hstate with hfill | ⟨-, hpre, -⟩
    · exact evaluate_alert_iff.2 (.inl hfill)
    · refine evaluate_alert_iff.2 (.inr ⟨h.critical hpre, fun hboth => ?_⟩)
      rw [hstate] at hboth
      cases hboth.2
  have hnormal : result.1.currentState = .normal → result.1.alertTriggered = false := by
    intro hstate
    obtain ⟨hcrit, -, hpre⟩ := evaluate_normal_iff.1 hstate
    by_contra hne
    rcases evaluate_alert_iff.1 (Bool.not_eq_false _ ▸ hne) with hfill | ⟨halert, hboth⟩
    · exact absurd hfill hcrit
    · rcases hpre with hpre | hfill
      · rw [h.normal hpre] at halert
        cases halert
      · cases hpit : pit.currentState with
        | normal =>
          rw [h.normal hpit] at halert
          cases halert
        | warning => exact hclear ⟨hpit, halert, hfill⟩
        | critical => exact hboth ⟨hpit, hstate⟩
  refine ⟨?_, hcritical, hnormal⟩
  rw [latched_concat, hc, hn, ← h.alert]
  constructor
  · intro halert
    rcases evaluate_alert_iff.1 halert with hfill | ⟨hpre, -⟩
    · exact .inl (evaluate_critical_iff.2 (.inl hfill))
    · refine .inr ⟨hpre, fun hstate => ?_⟩
      rw [hnormal hstate] at halert
      cases halert
  · rintro (hstate | ⟨hpre, hstate⟩)
    · exact hcritical hstate
    · exact evaluate_alert_iff.2 (.inr ⟨hpre, fun hboth => hstate hboth.2⟩)

theorem tracked_of_run (hrun : Run (step settings) .new es s)
    (hclear : ∀ e ∈ es, ¬ForgetsAlert settings e.pre e.op) (pitId : String) :
    Tracked pitId es (s.getOrCreatePitState pitId) := by
  induction hrun with
  | nil => exact .fresh
  | @snoc es s s' op out hrun hs ih =>
    specialize ih fun e he => hclear e (List.mem_append_left _ he)
    have hlast := hclear _ (List.mem_append_right _ (List.mem_singleton_self _))
    cases op with
    | evaluate other fill warning critical =>
      simp only [step, Option.some.injEq, Prod.mk.injEq] at hs
      obtain ⟨rfl, rfl⟩ := hs
      by_cases h : pitId = other
      · subst h
        rw [evaluateState_getOrCreate]
        exact ih.evaluate rfl rfl hlast
      · rw [evaluateState_other h]
        refine ih.other ?_ ?_
        · rintro ⟨_, _, _, _, hop, -⟩
          simp only [Op.evaluate.injEq] at hop
          exact h hop.1.symm
        · rintro (⟨_, _, _, _, hop, -⟩ | ⟨_, hop⟩)
          · simp only [Op.evaluate.injEq] at hop
            exact h hop.1.symm
          · cases hop
    | reset other residual =>
      simp only [step, Option.some.injEq, Prod.mk.injEq] at hs
      obtain ⟨rfl, rfl⟩ := hs
      by_cases h : pitId = other
      · subst h
        rw [resetPitState_getOrCreate]
        exact .reset rfl
      · rw [resetPitState_other h]
        refine ih.other ?_ ?_
        · rintro ⟨_, _, _, _, hop, -⟩
          cases hop
        · rintro (⟨_, _, _, _, hop, -⟩ | ⟨_, hop⟩)
          · cases hop
          · simp only [Op.reset.injEq] at hop
            exact h hop.1.symm

def sampleSettings : Settings := ⟨75, 85⟩

/-- A fill of the sample pit, whose thresholds are 80 and 90 percent. -/
def sampleEvaluation (fill : Float64) : Op := .evaluate "pit-01" fill (some 80) (some 90)

/-- The sample run of three fills. -/
theorem exec_sample : ∃ e₁ e₂ e₃ s,
    exec (step sampleSettings) .new [sampleEvaluation 95, sampleEvaluation 70,
      sampleEvaluation 92] =
      some ([e₁, e₂, e₃], s) ∧
    (∀ e ∈ [e₁, e₂, e₃], ThresholdsApart sampleSettings e.op ∧
      ¬ForgetsAlert sampleSettings e.pre e.op ∧ ¬Blinds e.pre e.op) ∧
    e₃.op = sampleEvaluation 92 ∧ e₃.out = some (.critical, true) :=
  ⟨_, _, _, _, rfl, by decide +kernel, rfl, by decide +kernel⟩

/-- **An evaluation is newly critical exactly when it is the first critical one** since the pit was
last normal or reset, and the pit comes down only below the margins: in every run in which no
evaluation forgets to clear the alert, and no fill that is not a number meets a critical pit. -/
theorem newly_critical_first (hrun : Run (step settings) .new es s)
    (hapart : ∀ e ∈ es, ThresholdsApart settings e.op)
    (hclear : ∀ e ∈ es, ¬ForgetsAlert settings e.pre e.op)
    (hblind : ∀ e ∈ es, ¬Blinds e.pre e.op) {fill : Float64}
    {warning critical : Option Float64} {state : PitState} {isNew : Bool}
    (hes : es = before ++ e :: after) (hop : e.op = .evaluate pitId fill warning critical)
    (hout : e.out = some (state, isNew)) :
    (isNew = true ↔ FirstCritical pitId before e) ∧
    ((e.pre.getOrCreatePitState pitId).currentState = .critical → state ≠ .critical →
      fill < critTh settings critical - hysteresisMargin) ∧
    ((e.pre.getOrCreatePitState pitId).currentState ≠ .normal → state = .normal →
      fill < warnTh settings warning - hysteresisMargin) := by
  subst hes
  obtain ⟨hbefore, hstep⟩ := hrun.of_append_cons
  have htracked : Tracked pitId before (e.pre.getOrCreatePitState pitId) :=
    tracked_of_run hbefore (fun e he => hclear e (List.mem_append_left _ he)) pitId
  have hth := hapart e (List.mem_append_right _ List.mem_cons_self)
  have hsees := hblind e (List.mem_append_right _ List.mem_cons_self)
  rw [hop] at hth hsees
  simp only [hop, hout, step, Option.some.injEq, Prod.mk.injEq] at hstep
  obtain ⟨-, hresult⟩ := hstep
  have hstate : state = (evaluateState settings e.pre pitId fill warning critical).2.1 := by
    rw [hresult]
  have hnew : isNew = (evaluateState settings e.pre pitId fill warning critical).2.2 := by
    rw [hresult]
  refine ⟨?_, fun hpre hpost => ?_, fun hpre hpost => ?_⟩
  · have hfinds : FindsCritical pitId e ↔ state = .critical := by
      constructor
      · rintro ⟨_, _, _, _, -, h⟩
        rw [hout] at h
        simp only [Option.some.injEq, Prod.mk.injEq] at h
        exact h.1
      · exact fun h => ⟨fill, warning, critical, isNew, hop, by rw [hout, h]⟩
    unfold FirstCritical
    rw [hfinds, ← htracked.alert, Bool.not_eq_true, hnew, hstate]
    constructor
    · intro h
      obtain ⟨hfill, halert⟩ := evaluate_new_iff.1 h
      exact ⟨evaluate_critical_iff.2 (.inl hfill), halert⟩
    · rintro ⟨h, halert⟩
      rcases evaluate_critical_iff.1 h with hfill | ⟨-, hpre, -⟩
      · exact evaluate_new_iff.2 ⟨hfill, halert⟩
      · rw [htracked.critical hpre] at halert
        cases halert
  · exact lt_of_left_critical hth (fun hnan => hsees ⟨hpre, hnan⟩) hpre (hstate ▸ hpost)
  · exact lt_of_to_normal hpre (hstate ▸ hpost)

theorem newly_critical_first_sample : ∃ es s before e, Run (step sampleSettings) .new es s ∧
    es = before ++ [e] ∧ e.op = sampleEvaluation 92 ∧ FirstCritical "pit-01" before e := by
  obtain ⟨e₁, e₂, e₃, s, hexec, hops, hop, hout⟩ := exec_sample
  have hes : [e₁, e₂, e₃] = [e₁, e₂] ++ e₃ :: [] := rfl
  have hfirst := newly_critical_first (.of_exec hexec) (fun e he => (hops e he).1)
    (fun e he => (hops e he).2.1) (fun e he => (hops e he).2.2) hes hop hout
  exact ⟨_, s, [e₁, e₂], e₃, .of_exec hexec, rfl, hop, hfirst.1.1 rfl⟩

/-- After an evaluation that has forgotten the alert, a fill at the critical threshold finds the pit
critical for the first time since it was normal, and is not newly critical. -/
theorem not_new_of_forgotten {engine : StateEngine} {fill fill' : Float64}
    {warning critical warning' critical' : Option Float64}
    (hcrit : fill < critTh settings critical)
    (hforgets : ForgetsAlert settings engine (.evaluate pitId fill warning critical))
    (hfill : critTh settings critical' ≤ fill') :
    (evaluateState settings engine pitId fill warning critical).2.1 = .normal ∧
    (evaluateState settings (evaluateState settings engine pitId fill warning critical).1 pitId
      fill' warning' critical').2 = (.critical, false) := by
  obtain ⟨hstate, halert, hlow⟩ := hforgets
  have hnormal : (evaluateState settings engine pitId fill warning critical).2.1 = .normal :=
    evaluate_normal_iff.2
      ⟨fun hle => Float64.not_lt_of_le hle hcrit, not_le_of_lt_margin hlow, .inr hlow⟩
  refine ⟨hnormal, Prod.ext ?_ ?_⟩
  · exact evaluate_critical_iff.2 (.inl hfill)
  · refine Bool.eq_false_iff.2 fun h => ?_
    have hcleared := (evaluate_new_iff.1 h).2
    rw [evaluateState_getOrCreate] at hcleared
    rw [evaluate_alert_iff.2 (.inr ⟨halert, fun hboth => ?_⟩)] at hcleared
    · cases hcleared
    · rw [hstate] at hboth
      cases hboth.1

/-- A fill that is not a number takes a critical pit to warning, not from below the margin. -/
theorem blinded {engine : StateEngine} {fill : Float64} {warning critical : Option Float64}
    (h : Blinds engine (.evaluate pitId fill warning critical)) :
    (evaluateState settings engine pitId fill warning critical).2.1 = .warning ∧
      ¬ fill < critTh settings critical - hysteresisMargin := by
  obtain ⟨hstate, rfl⟩ := h
  have hle : ∀ th : Float64, ¬ th ≤ .nan := fun th h => (Float64.ne_nan_of_le h).2 rfl
  have hlt : ∀ th : Float64, ¬ .nan < th := fun th h =>
    (Float64.ne_nan_of_le (Float64.le_of_lt h)).1 rfl
  refine ⟨?_, hlt _⟩
  simp only [evaluateState, PitCurrentState.evaluate, hstate, hle, hlt, if_false]

theorem exec_forgotten : ∃ e₁ e₂ e₃ e₄ s,
    exec (step sampleSettings) .new [sampleEvaluation 95, sampleEvaluation 85, sampleEvaluation 70,
      sampleEvaluation 95] = some ([e₁, e₂, e₃, e₄], s) ∧
    (∀ e ∈ [e₁, e₂, e₃, e₄], ThresholdsApart sampleSettings e.op) ∧
    e₃.op = sampleEvaluation 70 ∧ e₃.out = some (.normal, false) ∧
    e₄.op = sampleEvaluation 95 ∧ e₄.out = some (.critical, false) :=
  ⟨_, _, _, _, _, rfl, by decide +kernel, rfl, by decide +kernel, rfl, by decide +kernel⟩

/-- A pit that goes from critical over warning to normal is not newly critical when it is critical
again. -/
theorem alert_not_cleared : ∃ es s before e, Run (step sampleSettings) .new es s ∧
    (∀ e ∈ es, ThresholdsApart sampleSettings e.op) ∧ es = before ++ [e] ∧
    e.op = sampleEvaluation 95 ∧ e.out = some (.critical, false) ∧
    FirstCritical "pit-01" before e := by
  obtain ⟨e₁, e₂, e₃, e₄, s, hexec, hops, hop₃, hout₃, hop₄, hout₄⟩ := exec_forgotten
  refine ⟨_, s, [e₁, e₂, e₃], e₄, .of_exec hexec, hops, rfl, hop₄, hout₄, ?_, ?_⟩
  · exact ⟨95, some 80, some 90, false, hop₄, hout₄⟩
  · have hnormal : MakesNormal "pit-01" e₃ := .inl ⟨70, some 80, some 90, false, hop₃, hout₃⟩
    have hnot : ¬FindsCritical "pit-01" e₃ := by
      rintro ⟨_, _, _, _, -, h⟩
      rw [hout₃] at h
      cases h
    rw [show [e₁, e₂, e₃] = [e₁, e₂] ++ [e₃] from rfl, latched_concat]
    tauto

end

end ScrapMonitoring.Metrics
