import ScrapMonitoring.Foundations.Dict
import ScrapMonitoring.Operations.Runs

/-!
# Since when conditions have been shown

An evaluation that ends is a sweep of its device: it records the conditions it has found, each with
the time since when it has been shown (`processSource_starts`). `applyStarts` exposes these times
with the conditions of a later snapshot. Along every run of the worker, whatever the conditions, the
clocks and the settings are and whatever evaluations fail, a time that is recorded is that of a
sweep since which the condition was found in every sweep, with one signature, and none of these
sweeps was long after the one before (`starts_backed`).
-/

namespace ScrapMonitoring.Operations

open Monitoring

variable {hash : Json → String} {e : Evaluation} {s s' s₀ t : Store} {es : History}

/-! ## The conditions of an evaluation -/

/-- The condition of the fill that is shown. -/
def fillConditions (e : Evaluation) (fillState : Option OperationalState) :
    List (String × String) :=
  if e.snapshot.dataState ≠ .fresh then []
  else
    match fillState with
    | some .critical => [("fill-critical:" ++ e.source.pitId, "CRITICAL")]
    | some .warning =>
      if e.preAlertEnabled ≠ some false then [("fill-warning:" ++ e.source.pitId, "WARNING")]
      else []
    | _ => []

/-- The state of the fill that an evaluation shows. -/
def Evaluation.fillState (e : Evaluation) (row : Option EdgeV2Operation) :
    Option OperationalState :=
  match e.task row with
  | .replay => e.shownState
  | .judge observation observed fill =>
    some (e.current (e.previous row) observation observed fill)
  | .gap | .invalid | .failure => none

/-- The conditions that an evaluation finds, with their states. -/
def Evaluation.conditions (e : Evaluation) (row : Option EdgeV2Operation) :
    List (String × String) :=
  e.healthConditions ++ fillConditions e (e.fillState row)

/-- The row that `recordStarts` writes. -/
def startsRow (hash : Json → String) (e : Evaluation) (old : Option Starts)
    (fillState : Option OperationalState) : Starts :=
  ⟨e.source.pitId, e.now,
    startEntries hash e old (e.healthConditions ++ fillConditions e fillState)⟩

/-! ## What an evaluation records -/

/-- The times of the device are those that `recordStarts` writes, and those of the other devices are
the same. -/
def Recorded (hash : Json → String) (e : Evaluation) (s s' : Store)
    (fillState : Option OperationalState) : Prop :=
  s'.starts = Function.update s.starts e.source.device
    (some (startsRow hash e (s.starts e.source.device) fillState))

theorem fillCondition_eq (fillState : Option OperationalState) :
    (fillCondition e fillState).Ends s t fun conditions s' t' =>
      conditions = fillConditions e fillState ∧ s' = s ∧ t' = t := by
  unfold fillCondition fillConditions
  refine .ite (fun hstale => .pure ⟨(if_pos hstale).symm, rfl, rfl⟩) fun hfresh => ?_
  rw [if_neg hfresh]
  cases fillState with
  | none => exact .pure ⟨rfl, rfl, rfl⟩
  | some state =>
    cases state with
    | normal => exact .pure ⟨rfl, rfl, rfl⟩
    | warning => exact .bind (.call ⟨rfl, .pure ⟨rfl, rfl, rfl⟩⟩)
    | critical => exact .bind (.call ⟨rfl, .pure ⟨rfl, rfl, rfl⟩⟩)

/-- Where nothing has changed, the times were recorded before. -/
theorem recordStarts_starts (fillState : Option OperationalState) :
    (recordStarts hash e fillState).Ends s t fun changed s' t' =>
      s' = s ∧ Recorded hash e t t' fillState ∧ (changed = false → t' = t) := by
  unfold recordStarts
  refine .bind (.query ⟨rfl, .bind ((fillCondition_eq fillState).mono ?_)⟩)
  rintro conditions s' t' ⟨rfl, rfl, rfl⟩
  refine ⟨rfl, .ite (fun hsame => ?_) fun _ => ?_⟩
  · have hrow : t'.starts e.source.device =
        some (startsRow hash e (t'.starts e.source.device) fillState) := hsame
    refine .pure ⟨rfl, ?_, fun _ => rfl⟩
    unfold Recorded
    rw [← hrow, Function.update_eq_self]
  · exact .bind (.modify ⟨rfl, .pure ⟨rfl, rfl, fun h => by cases h⟩⟩)

theorem invalidate_starts (s : Store) (source : MonitoringSource) :
    (s.invalidate source).starts = s.starts := by
  unfold Store.invalidate
  split
  · rfl
  · split_ifs <;> rfl

theorem advanced_starts (observation : FillObservation) (observed : ℤ)
    (previous current : OperationalState) :
    (advanced hash e t observation observed previous current).starts = t.starts := by
  unfold advanced
  dsimp only
  generalize advance e (t.tracker e.source.device) (lifecycleScope hash e.snapshot) observed
    previous current = next
  split_ifs
  · cases next.resolved <;> rfl
  · cases next.resolved <;> rfl

theorem alerted_starts (next : EdgeV2Operation) (observation : FillObservation) (observed : ℤ)
    (fill : ℚ) (episode : String) :
    (alerted hash e t next observation observed fill episode).starts = t.starts := by
  unfold alerted
  dsimp only
  split <;> rfl

theorem Recorded.of_eq {fillState : Option OperationalState} {u : Store}
    (h : Recorded hash e t u fillState) (hstarts : t.starts = s.starts)
    (hpost : s'.starts = u.starts) :
    Recorded hash e s s' fillState := by
  unfold Recorded at h ⊢
  rw [hpost, h, hstarts]

/-- Times that were recorded before stay recorded when nothing is committed. -/
theorem when_recorded {c : Prop} [Decidable c] {fillState : Option OperationalState}
    (hc : Recorded hash e s t fillState) (hskip : ¬c → t.starts = s.starts) :
    (Tx.when c Tx.commit).Ends s t fun _ s' _ => Recorded hash e s s' fillState :=
  when_commit (fun _ => hc) fun h => hc.of_eq rfl (hskip h).symm

theorem invalidate_recorded {started changed : Bool} {fillState : Option OperationalState}
    (h : Recorded hash e s t fillState) (hsame : started = false → t = s) :
    (Tx.when (changed || started) Tx.commit).Ends s (t.invalidate e.source) fun _ s' _ =>
      Recorded hash e s s' fillState := by
  refine when_recorded (h.of_eq rfl (invalidate_starts t e.source)) fun hquiet => ?_
  have hfalse : started = false := by
    simp at hquiet
    exact hquiet.2
  rw [invalidate_starts, hsame hfalse]

theorem gap_starts :
    (gap hash e (s.operation e.source.pitId)).Ends s s fun _ s' _ => Recorded hash e s s' none := by
  unfold gap
  refine .bind ((recordStarts_starts none).mono ?_)
  rintro started s' t ⟨rfl, hrecorded, hsame⟩
  refine ⟨rfl, .bind ((invalidateEpisode_ends e.source).mono ?_)⟩
  rintro changed s' u ⟨rfl, rfl, -⟩
  refine ⟨rfl, ?_⟩
  cases (s'.operation e.source.pitId).filter fun row => row.criticalSince.isSome with
  | none => exact invalidate_recorded hrecorded hsame
  | some row =>
    exact .bind (.modify ⟨rfl, .commit (hrecorded.of_eq rfl (invalidate_starts t e.source))⟩)

theorem conclude_starts (next : EdgeV2Operation) (observation : FillObservation) (observed : ℤ)
    (fill : ℚ) (previous : OperationalState) :
    (conclude hash e next observation observed fill previous).Ends s t fun _ s' _ =>
      Recorded hash e t s' (some next.state) := by
  have hcommit : ∀ u : Store, u.starts = t.starts →
      (do let _ ← recordStarts hash e (some next.state); Tx.commit).Ends s u fun _ s' _ =>
        Recorded hash e t s' (some next.state) := by
    intro u hu
    refine .bind ((recordStarts_starts _).mono ?_)
    rintro - s' t' ⟨rfl, hrecorded, -⟩
    exact ⟨rfl, .commit (hrecorded.of_eq hu rfl)⟩
  unfold conclude
  refine .bind ((advanceEpisode_ends observation observed previous next.state).mono ?_)
  rintro episode s' u ⟨rfl, rfl, rfl⟩
  refine ⟨rfl, .bind (.when (fun _ => ?_) fun _ => ?_)⟩
  · refine (raiseAlert_ends next observation observed fill _).mono ?_
    rintro - s' u ⟨rfl, rfl, -⟩
    exact ⟨rfl, hcommit _ (by rw [alerted_starts, advanced_starts])⟩
  · exact ⟨rfl, hcommit _ (advanced_starts observation observed previous next.state)⟩

theorem judge_starts (observation : FillObservation) (observed : ℤ) (fill : ℚ) :
    (judge hash e (s.operation e.source.pitId) observation observed fill).Ends s s fun _ s' _ =>
      Recorded hash e s s' (some (e.current (e.previous (s.operation e.source.pitId)) observation
        observed fill)) := by
  have hconclude : ∀ t : Store, t.starts = s.starts →
      (conclude hash e (operationRow e (s.operation e.source.pitId) observation observed fill)
        observation observed fill (e.previous (s.operation e.source.pitId))).Ends s t fun _ s' _ =>
          Recorded hash e s s'
            (some (e.current (e.previous (s.operation e.source.pitId)) observation
              observed fill)) := fun t ht =>
    (conclude_starts _ observation observed fill _).mono fun _ _ _ h => h.of_eq ht rfl
  unfold judge
  dsimp only
  refine .bind (.when (fun _ => .call ⟨rfl, ?_⟩) fun _ => ⟨rfl, ?_⟩)
  all_goals
    refine .bind (.modify ⟨rfl, .bind (.when (fun _ => .modify ⟨rfl, ?_⟩) fun _ => ⟨rfl, ?_⟩)⟩)
    · exact hconclude _ rfl
    · exact hconclude _ rfl

/-- **An evaluation that ends records the conditions that it has found.** -/
theorem processSource_starts (hash : Json → String) (e : Evaluation) (s : Store) :
    (processSource hash e).Ends s s fun _ s' _ =>
      Recorded hash e s s' (e.fillState (s.operation e.source.pitId)) := by
  unfold processSource
  refine .bind (.query ⟨rfl, .bind (.call ⟨rfl, ?_⟩)⟩)
  unfold Evaluation.fillState Evaluation.task
  cases e.input with
  | none => exact gap_starts
  | some input =>
    obtain ⟨observation, load⟩ := input
    dsimp only
    cases observation.observedTo with
    | none => exact .fail
    | some observed =>
      cases observation.valuePercent with
      | none => exact .fail
      | some value =>
        refine .ite (fun hreplayed => ?_) fun hnew => .ite (fun hinvalid => ?_) fun hvalid => ?_
        · simp only [if_pos hreplayed]
          refine .bind ((recordStarts_starts e.shownState).mono ?_)
          rintro started s' t ⟨rfl, hrecorded, hsame⟩
          refine ⟨rfl, when_recorded hrecorded fun hquiet => ?_⟩
          rw [hsame (by simpa using hquiet)]
        · simp only [if_neg hnew, if_pos hinvalid]
          refine .bind ((recordStarts_starts none).mono ?_)
          rintro started s' t ⟨rfl, hrecorded, hsame⟩
          refine ⟨rfl, .bind ((invalidateEpisode_ends e.source).mono ?_)⟩
          rintro changed s' u ⟨rfl, rfl, -⟩
          exact ⟨rfl, invalidate_recorded hrecorded hsame⟩
        · simp only [if_neg hnew, if_neg hvalid]
          exact judge_starts observation observed (e.fill value load)

theorem step_starts {c : Call} {out : Option Unit} (h : step hash s c = some (s', out)) :
    (out = none ∧ s'.starts = s.starts) ∨ (out = some () ∧ Recorded hash c.evaluation s s'
      (c.evaluation.fillState (s.operation c.evaluation.source.pitId))) := by
  have hexecute := (processSource_starts hash c.evaluation s).execute c.faults
  unfold step at h
  rw [Option.some.inj h] at hexecute
  cases out with
  | none => exact .inl ⟨rfl, congrArg Store.starts hexecute⟩
  | some _ =>
    obtain ⟨-, hrecorded⟩ := hexecute
    exact .inr ⟨rfl, hrecorded⟩

/-! ## Sweeps -/

/-- What a sweep of a device has found: the conditions with their signatures. A sweep follows on
another if it is less than `limit` later. -/
structure Sweep where
  pitId : String
  now : ℤ
  limit : ℤ
  signatures : List (String × String)

def Sweep.Follows (a b : Sweep) : Prop := 0 ≤ b.now - a.now ∧ b.now - a.now < b.limit

/-- The sweep of the device that a step is, if it is one. -/
def sweep (hash : Json → String) (device : String × String) (x : Entry Store Call (Option Unit)) :
    Option Sweep :=
  let e := x.op.evaluation
  if e.source.device = device ∧ x.out.isSome then some
    { pitId := e.source.pitId
      now := e.now
      limit := seconds (min 30 e.settings.assessmentTtlSeconds : ℕ)
      signatures := (e.conditions (x.pre.operation e.source.pitId)).map fun condition =>
        (condition.1, signature hash e.snapshot condition.1 condition.2) }
  else none

/-- The sweeps of a device, in their order. -/
def sweeps (hash : Json → String) (device : String × String) (es : History) : List Sweep :=
  es.filterMap (sweep hash device)

/-- The sweep found the condition for the pit, with this signature. -/
def Sweep.Finds (pit identifier token : String) (x : Sweep) : Prop :=
  x.pitId = pit ∧ (identifier, token) ∈ x.signatures

/-- The start of a condition is that of a sweep since which every sweep has found it, each following
on the one before. -/
def Backed (hash : Json → String) (es : History) (device : String × String)
    (pit identifier : String) (entry : StartEntry) : Prop :=
  ChainSince Sweep.now (Sweep.Finds pit identifier entry.signature) Sweep.Follows entry.startedAt
    (sweeps hash device es)

/-- The row of a device is that of its last sweep, and its starts are backed. -/
structure Evident (hash : Json → String) (es : History) (device : String × String) (row : Starts) :
    Prop where
  last : ∃ last ∈ (sweeps hash device es).getLast?,
    last.pitId = row.pitId ∧ last.now = row.evaluatedAt
  backed : ∀ identifier entry, (identifier, entry) ∈ row.entries →
    Backed hash es device row.pitId identifier entry ∧ entry.startedAt ≤ row.evaluatedAt

variable (hash es) in
theorem sweeps_append (device : String × String) (x : Entry Store Call (Option Unit)) :
    sweeps hash device (es ++ [x]) = sweeps hash device es ++ (sweep hash device x).toList := by
  unfold sweeps
  rw [List.filterMap_append]
  cases hx : sweep hash device x with
  | none => simp [hx]
  | some => simp [hx]

theorem Evident.idle {device : String × String} {row : Starts} {x : Entry Store Call (Option Unit)}
    (h : Evident hash es device row) (hx : sweep hash device x = none) :
    Evident hash (es ++ [x]) device row := by
  have hsame : sweeps hash device (es ++ [x]) = sweeps hash device es := by
    rw [sweeps_append, hx]
    simp
  exact ⟨hsame ▸ h.last, fun identifier entry hentry => by
    unfold Backed
    rw [hsame]
    exact h.backed identifier entry hentry⟩

/-- An entry is kept from a row that is not long before, or it is new. -/
theorem mem_startEntries {old : Option Starts} {conditions : List (String × String)}
    {identifier : String} {entry : StartEntry}
    (h : (identifier, entry) ∈ startEntries hash e old conditions) :
    (identifier, entry.signature) ∈ conditions.map (fun condition =>
        (condition.1, signature hash e.snapshot condition.1 condition.2)) ∧
      (entry.startedAt = e.now ∨ ∃ row, old = some row ∧ row.pitId = e.source.pitId ∧
        0 ≤ e.now - row.evaluatedAt ∧
        e.now - row.evaluatedAt < seconds (min 30 e.settings.assessmentTtlSeconds : ℕ) ∧
        (identifier, entry) ∈ row.entries) := by
  unfold startEntries at h
  obtain ⟨condition, hcondition, heq⟩ := List.mem_map.1 h
  obtain ⟨rfl, hentry⟩ := Prod.mk.inj heq
  have hsignature : entry.signature = signature hash e.snapshot condition.1 condition.2 := by
    rw [← hentry]
  refine ⟨List.mem_map.2 ⟨condition, hcondition, by rw [hsignature]⟩, ?_⟩
  generalize hkept : Option.filter (fun entry : StartEntry => decide (entry.signature =
    signature hash e.snapshot condition.1 condition.2)) _ = kept at hentry
  cases kept with
  | none =>
    left
    rw [← hentry]
    rfl
  | some previous =>
    right
    obtain ⟨hprevious, htoken⟩ := Option.filter_eq_some_iff.1 hkept
    obtain ⟨row, hrow, hlookup⟩ := Option.bind_eq_some_iff.1 hprevious
    obtain ⟨hrow, hcontinuous⟩ := Option.filter_eq_some_iff.1 hrow
    obtain ⟨hold, hpit⟩ := Option.filter_eq_some_iff.1 hrow
    obtain ⟨hforward, hclose⟩ := of_decide_eq_true hcontinuous
    refine ⟨row, hold, of_decide_eq_true hpit, hforward, hclose, ?_⟩
    have hentry : previous = entry := by
      rw [← hentry, ← of_decide_eq_true htoken]
      rfl
    exact hentry ▸ mem_of_lookup hlookup

/-- A sweep records starts that are backed, if those before it are. -/
theorem Evident.record {x : Entry Store Call (Option Unit)} {row : Starts}
    (h : ∀ old, x.pre.starts x.op.evaluation.source.device = some old →
      Evident hash es x.op.evaluation.source.device old)
    (hout : x.out = some ())
    (hrow : row = startsRow hash x.op.evaluation
      (x.pre.starts x.op.evaluation.source.device)
      (x.op.evaluation.fillState (x.pre.operation x.op.evaluation.source.pitId))) :
    Evident hash (es ++ [x]) x.op.evaluation.source.device row := by
  have hsweep : sweep hash x.op.evaluation.source.device x = some _ :=
    if_pos ⟨rfl, by rw [hout]; rfl⟩
  have hsweeps := sweeps_append hash es x.op.evaluation.source.device x
  rw [hsweep, Option.toList_some] at hsweeps
  subst hrow
  refine ⟨⟨_, by rw [hsweeps, List.getLast?_concat, Option.mem_some_iff], rfl, rfl⟩, ?_⟩
  intro identifier entry hentry
  obtain ⟨hfound, hnew | ⟨old, hold, hpit, hforward, hclose, hkept⟩⟩ := mem_startEntries hentry
  · refine ⟨?_, hnew.le⟩
    unfold Backed
    rw [hsweeps, hnew]
    exact .start _ ⟨rfl, hfound⟩
  · obtain ⟨⟨last, hlast, -, hnow⟩, hbacked⟩ := h old hold
    obtain ⟨hchain, hle⟩ := hbacked identifier entry hkept
    refine ⟨?_, show entry.startedAt ≤ x.op.evaluation.now by omega⟩
    unfold Backed at hchain ⊢
    rw [hsweeps]
    rw [hpit] at hchain
    refine hchain.extend ⟨rfl, hfound⟩ fun last' hlast' => ?_
    obtain rfl : last = last' := Option.mem_unique hlast hlast'
    exact ⟨by rw [hnow]; exact hforward, by rw [hnow]; exact hclose⟩

theorem run_evident {es : History} (h : Run (step hash) s₀ es s)
    (h₀ : ∀ device, s₀.starts device = none) :
    ∀ device row, s.starts device = some row → Evident hash es device row := by
  induction h with
  | nil =>
    intro device row hrow
    rw [h₀ device] at hrow
    cases hrow
  | @snoc es s s' c out h hs ih =>
    intro device row hrow
    obtain ⟨hout, hsame⟩ | ⟨hout, hrecorded⟩ := step_starts hs
    · rw [hsame] at hrow
      exact (ih device row hrow).idle (if_neg fun hsome => by simp [hout] at hsome)
    · unfold Recorded at hrecorded
      rw [hrecorded] at hrow
      by_cases hdevice : device = c.evaluation.source.device
      · subst hdevice
        rw [Function.update_self] at hrow
        exact Evident.record (ih _) hout (Option.some.inj hrow).symm
      · rw [Function.update_of_ne hdevice] at hrow
        exact (ih device row hrow).idle (if_neg fun hsome => hdevice hsome.1.symm)

/-! ## The starts that are exposed -/

inductive FillAlertType
  | preCollectionAlert
  | collectionRequired
  deriving DecidableEq

/-- An alert of the fill, or one of the health with its state. -/
inductive AlertKind
  | fill (type : FillAlertType)
  | health (state : String)
  deriving DecidableEq

inductive StartBasis
  | serverEvaluation
  | unknown
  deriving DecidableEq

/-- A current condition, as it is shown. -/
structure ActiveAlert where
  id : String
  kind : AlertKind
  startedAt : Option ℤ
  startBasis : StartBasis
  deriving DecidableEq

/-- The state of a condition, as `recordStarts` names it. -/
def ActiveAlert.state (item : ActiveAlert) : String :=
  match item.kind with
  | .health state => state
  | .fill .collectionRequired => "CRITICAL"
  | .fill .preCollectionAlert => "WARNING"

/-- The start of one condition, where the row has one with the signature that it has now. -/
def applyStart (hash : Json → String) (row : Starts) (snapshot : MonitoringSnapshotV2)
    (item : ActiveAlert) : ActiveAlert :=
  match row.entries.lookup item.id with
  | none => item
  | some evidence =>
    if evidence.signature = signature hash snapshot item.id item.state ∧
        evidence.startedAt ≤ row.evaluatedAt then
      { item with startedAt := some evidence.startedAt, startBasis := .serverEvaluation }
    else item

/-- `apply_starts`. -/
def applyStarts (hash : Json → String) (settings : Settings) (s : Store) (source : MonitoringSource)
    (snapshot : MonitoringSnapshotV2) (items : List ActiveAlert) (now : ℤ) : List ActiveAlert :=
  match s.starts source.device with
  | none => items
  | some row =>
    if row.pitId ≠ source.pitId then items
    else if ¬(0 ≤ now - row.evaluatedAt ∧
        now - row.evaluatedAt < seconds (min 30 settings.assessmentTtlSeconds : ℕ)) then items
    else items.map (applyStart hash row snapshot)

/-- The item is left as it is, or is given a start that is backed by the sweeps of its source, with
the signature that the item has now. -/
def Exposes (hash : Json → String) (es : History) (source : MonitoringSource)
    (snapshot : MonitoringSnapshotV2) (now : ℤ) (item item' : ActiveAlert) : Prop :=
  item' = item ∨ ∃ last ∈ (sweeps hash source.device es).getLast?, ∃ startedAt : ℤ,
    item' = { item with startedAt := some startedAt, startBasis := .serverEvaluation } ∧
      Backed hash es source.device source.pitId item.id
        ⟨signature hash snapshot item.id item.state, startedAt⟩ ∧
      startedAt ≤ last.now ∧ last.now ≤ now

theorem applyStart_exposes {source : MonitoringSource} {row : Starts} {now : ℤ}
    (h : Evident hash es source.device row) (hpit : row.pitId = source.pitId)
    (hnow : row.evaluatedAt ≤ now) (snapshot : MonitoringSnapshotV2) (item : ActiveAlert) :
    Exposes hash es source snapshot now item (applyStart hash row snapshot item) := by
  unfold applyStart
  cases hlookup : row.entries.lookup item.id with
  | none => exact .inl rfl
  | some evidence =>
    dsimp only
    by_cases hshown : evidence.signature = signature hash snapshot item.id item.state ∧
        evidence.startedAt ≤ row.evaluatedAt
    · rw [if_pos hshown]
      obtain ⟨last, hlast, -, hevaluated⟩ := h.last
      obtain ⟨hbacked, hle⟩ := h.backed item.id evidence (mem_of_lookup hlookup)
      refine .inr ⟨last, hlast, evidence.startedAt, rfl, ?_, by rw [hevaluated]; exact hle,
        by rw [hevaluated]; exact hnow⟩
      rw [← hshown.1, ← hpit]
      exact hbacked
    · rw [if_neg hshown]
      exact .inl rfl

theorem applyStarts_exposes {source : MonitoringSource}
    (h : ∀ row, s.starts source.device = some row → Evident hash es source.device row)
    (settings : Settings) (snapshot : MonitoringSnapshotV2) (items : List ActiveAlert) (now : ℤ) :
    List.Forall₂ (Exposes hash es source snapshot now) items
      (applyStarts hash settings s source snapshot items now) := by
  have hsame : List.Forall₂ (Exposes hash es source snapshot now) items items :=
    List.forall₂_same.2 fun _ _ => .inl rfl
  unfold applyStarts
  cases hrow : s.starts source.device with
  | none => exact hsame
  | some row =>
    dsimp only
    split_ifs with hpit hclose
    · exact hsame
    · rw [List.forall₂_map_right_iff, List.forall₂_same]
      intro item _
      exact applyStart_exposes (h row hrow) (not_not.1 hpit) (by omega) snapshot item
    · exact hsame

/-- **The starts of conditions are backed by unbroken evidence.** -/
theorem starts_backed {es : History} (h : Run (step hash) s₀ es s)
    (h₀ : ∀ device, s₀.starts device = none) :
    (∀ device row, s.starts device = some row → ∀ identifier entry,
      (identifier, entry) ∈ row.entries → Backed hash es device row.pitId identifier entry) ∧
    ∀ settings source snapshot items now, List.Forall₂ (Exposes hash es source snapshot now) items
      (applyStarts hash settings s source snapshot items now) :=
  ⟨fun device row hrow identifier entry hentry =>
      ((run_evident h h₀ device row hrow).backed identifier entry hentry).1,
    fun settings source snapshot items now =>
      applyStarts_exposes (run_evident h h₀ source.device) settings snapshot items now⟩

/-! ### A condition that goes on -/

/-- A sweep that finds the edge degraded. -/
def degradedCall (now : ℤ) : Call :=
  let call := sampleCall (sampleSnapshot "edge-a" "m-1" (seconds 100) 50 lowFill_range) now "u-1" 1
  { call with evaluation :=
      { call.evaluation with healthConditions := [("health:edge:pit:edge-a", "DEGRADED")] } }

/-- The store after two sweeps that are two seconds apart. -/
def degraded : Store :=
  after (after Store.empty (degradedCall (seconds 101))) (degradedCall (seconds 103))

theorem starts_backed_degraded : ∃ es, Run (step fun _ => "") Store.empty es degraded ∧
    ∃ row, degraded.starts ("site", "edge-a") = some row ∧ row.evaluatedAt = seconds 103 ∧
      Backed (fun _ => "") es ("site", "edge-a") row.pitId "health:edge:pit:edge-a"
        ⟨"", seconds 101⟩ := by
  have h : Run (step fun _ => "") Store.empty _ degraded :=
    (Run.nil.snoc (sample_step _ (degradedCall (seconds 101)) rfl)).snoc
      (sample_step _ (degradedCall (seconds 103)) rfl)
  have hrow : degraded.starts ("site", "edge-a") = some ⟨"pit", seconds 103,
      [("health:edge:pit:edge-a", ⟨"", seconds 101⟩)]⟩ := by
    decide +kernel
  exact ⟨_, h, _, hrow, rfl, (starts_backed h fun _ => rfl).1 _ _ hrow _ _ List.mem_cons_self⟩

end ScrapMonitoring.Operations
