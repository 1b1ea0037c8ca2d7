import Mathlib.Algebra.BigOperators.Group.Finset.Piecewise
import Mathlib.Data.Fintype.BigOperators
import Mathlib.Data.Prod.Lex
import Mathlib.Data.String.Basic
import ScrapMonitoring.Foundations.Keyset
import ScrapMonitoring.History.Writer

/-!
# Filling in the summaries

`run` of `cli/history_summaries.py` fills in the summaries that older rows lack, in batches of
`backfill_batch` of `services/history_summary_backfill.py`. A batch reads rows without a summary, in
the order of their keys and after a cursor, and locks them until it commits; rows that others have
locked are skipped. Any number of such jobs run beside the live writers of the minutes.

In every state a summary is absent or the one of its row, so the history is the same for both
readers (`backfill_sound`). A job that ends because it finds no more rows leaves none without a
summary but those that it has skipped (`backfill_complete`).
-/

namespace ScrapMonitoring.History

abbrev MinuteKey := String × String × ℤ

/-! ## The jobs in steps -/

inductive Phase
  | idle
  /-- The rows of a batch are locked. -/
  | batch
  /-- A batch was empty. -/
  | done
  | failed
  deriving DecidableEq

structure Job where
  phase : Phase := .idle
  cursor : Option MinuteKey := none
  selected : List EdgeV2Minute := []
  batches : ℕ := 0
  updated : ℕ := 0

/-- The minutes, and the jobs that fill them in. -/
structure BackfillState (n : ℕ) where
  minutes : EdgeV2Minutes
  jobs : Fin n → Job

/-- The rows that the batches have locked. -/
def BackfillState.locked {n : ℕ} (s : BackfillState n) : List MinuteKey :=
  (List.finRange n).flatMap fun i => (s.jobs i).selected.map EdgeV2Minute.key

/-- `missing_summaries`. -/
def missingSummaries (minutes : EdgeV2Minutes) : ℕ :=
  minutes.rows.countP (·.historySummary.isNone)

/-- `build_minute_summary` of a row, as its column. -/
def EdgeV2Minute.built (row : EdgeV2Minute) : Option Json :=
  some (buildMinuteSummary row.bucketStart row.generatedAt row.payload)

/-- The `UPDATE` of the rows that a batch has read. -/
def fill (selected : List EdgeV2Minute) (row : EdgeV2Minute) : EdgeV2Minute :=
  match selected.find? (·.key = row.key) with
  | none => row
  | some read => { row with historySummary := read.built }

theorem fill_key (selected : List EdgeV2Minute) (row : EdgeV2Minute) :
    (fill selected row).key = row.key := by
  unfold fill
  split <;> rfl

def EdgeV2Minutes.fillAll (minutes : EdgeV2Minutes) (selected : List EdgeV2Minute) :
    EdgeV2Minutes where
  rows := minutes.rows.map (fill selected)
  primaryKey := by
    have hkeys : (minutes.rows.map (fill selected)).map EdgeV2Minute.key =
        minutes.rows.map EdgeV2Minute.key := by
      rw [List.map_map]
      exact List.map_congr_left fun row _ => fill_key selected row
    rw [hkeys]
    exact minutes.primaryKey

/-- What happens to the minutes; `busy` are the rows that live writers have locked. -/
inductive BackfillOp (n : ℕ)
  | write (input : MinuteInput) (window : Filtering.Window)
  | select (i : Fin n) (busy : List MinuteKey)
  | commit (i : Fin n)
  | fail (i : Fin n)
  | report (i : Fin n)

inductive BackfillOut
  | none
  | progress (batches updated : ℕ)
  | report (updated remaining : ℕ)
  deriving DecidableEq

section

variable {κ : Type*} [LinearOrder κ]

/-- The rows that a batch reads: those without a summary, after the cursor, that nobody has
locked. -/
def batchRows (collate : MinuteKey ↪ κ) (size : ℕ) (minutes : EdgeV2Minutes)
    (cursor : Option MinuteKey) (skipped : List MinuteKey) : List EdgeV2Minute :=
  firstBy (fun row => collate row.key) size (minutes.rows.filter fun row =>
    row.historySummary.isNone ∧ (cursor.all fun after => collate after < collate row.key) ∧
      row.key ∉ skipped)

/-- A job whose batch has committed. -/
def Job.next (job : Job) : Job :=
  if job.selected = [] then { job with phase := .done }
  else
    { phase := .idle
      cursor := (job.selected.getLast?.map EdgeV2Minute.key).or job.cursor
      selected := []
      batches := job.batches + 1
      updated := job.updated + job.selected.length }

/-- The settings of a job. -/
structure BackfillLimits where
  batchSize : ℕ
  maxBatches : ℕ
  size_range : 1 ≤ batchSize ∧ batchSize ≤ 512
  batches_range : 1 ≤ maxBatches ∧ maxBatches ≤ 10000

def backfillStep {n : ℕ} (collate : MinuteKey ↪ κ) (limits : BackfillLimits) (s : BackfillState n) :
    BackfillOp n → Option (BackfillState n × BackfillOut)
  -- a writer waits while its row is locked
  | .write input window =>
    if input.key ∈ s.locked then none
    else some ({ s with minutes := s.minutes.set (input.row window (s.minutes.get input.key)) },
      .none)
  | .select i busy =>
    let job := s.jobs i
    if job.phase = .idle ∧ job.batches < limits.maxBatches then
      some ({ s with jobs := Function.update s.jobs i { job with
        phase := .batch
        selected := batchRows collate limits.batchSize s.minutes job.cursor (busy ++ s.locked) } },
        .none)
    else none
  | .commit i =>
    let job := s.jobs i
    if job.phase = .batch then
      some (⟨s.minutes.fillAll job.selected, Function.update s.jobs i job.next⟩,
        if job.selected = [] then .none else .progress job.next.batches job.next.updated)
    else none
  | .fail i =>
    let job := s.jobs i
    if job.phase = .batch then
      some ({ s with
        jobs := Function.update s.jobs i { job with phase := .failed, selected := [] } },
        .none)
    else none
  | .report i =>
    let job := s.jobs i
    if job.phase = .done ∨ job.phase = .idle ∧ job.batches = limits.maxBatches then
      some (s, .report job.updated (missingSummaries s.minutes))
    else none

/-- Before any batch. -/
def BackfillState.initial (n : ℕ) (minutes : EdgeV2Minutes) : BackfillState n :=
  ⟨minutes, fun _ => {}⟩

end

/-! ## What a batch does to the rows -/

section

variable {minutes : EdgeV2Minutes} {selected : List EdgeV2Minute} {row row' : EdgeV2Minute}

/-- A row with its summary. -/
def EdgeV2Minute.completed (row : EdgeV2Minute) : EdgeV2Minute :=
  { row with historySummary := row.built }

/-- A row without its summary. -/
def EdgeV2Minute.bare (row : EdgeV2Minute) : EdgeV2Minute := { row with historySummary := none }

theorem EdgeV2Minutes.eq_of_key (hrow : row ∈ minutes.rows) (hrow' : row' ∈ minutes.rows)
    (hkey : row.key = row'.key) : row = row' :=
  List.inj_on_of_nodup_map minutes.primaryKey hrow hrow' hkey

/-- A row that a batch has read is completed, and any other row stays. -/
theorem fill_cases (hselected : ∀ read ∈ selected, read ∈ minutes.rows)
    (hrow : row ∈ minutes.rows) :
    row ∈ selected ∧ fill selected row = row.completed ∨
      row ∉ selected ∧ fill selected row = row := by
  unfold fill
  cases hfind : selected.find? (·.key = row.key) with
  | none =>
    right
    refine ⟨fun hmem => ?_, rfl⟩
    simpa using List.find?_eq_none.1 hfind row hmem
  | some read =>
    left
    have hread := List.mem_of_find?_eq_some hfind
    have hkey := List.find?_some hfind
    obtain rfl := minutes.eq_of_key (hselected read hread) hrow (of_decide_eq_true hkey)
    exact ⟨hread, rfl⟩

theorem fill_bare (hselected : ∀ read ∈ selected, read ∈ minutes.rows) (hrow : row ∈ minutes.rows) :
    (fill selected row).bare = row.bare := by
  rcases fill_cases hselected hrow with ⟨-, h⟩ | ⟨-, h⟩
  · rw [h]
    rfl
  · rw [h]

/-- **A batch changes no observation.** -/
theorem fillAll_bare (hselected : ∀ read ∈ selected, read ∈ minutes.rows) :
    (minutes.fillAll selected).rows.map EdgeV2Minute.bare =
      minutes.rows.map EdgeV2Minute.bare := by
  unfold EdgeV2Minutes.fillAll
  rw [List.map_map]
  exact List.map_congr_left fun row hrow => fill_bare hselected hrow

theorem EdgeV2Minute.completed_isSome (row : EdgeV2Minute) : row.completed.historySummary ≠ none :=
  Option.some_ne_none _

/-- A row that lacks its summary after a batch is one that the batch has not read. -/
theorem mem_fillAll_missing (hselected : ∀ read ∈ selected, read ∈ minutes.rows)
    (hrow : row ∈ (minutes.fillAll selected).rows) (hmissing : row.historySummary = none) :
    row ∈ minutes.rows ∧ row ∉ selected := by
  obtain ⟨old, hold, rfl⟩ := List.mem_map.1 hrow
  rcases fill_cases hselected hold with ⟨-, h⟩ | ⟨hnot, h⟩
  · rw [h] at hmissing
    exact absurd hmissing old.completed_isSome
  · rw [h]
    exact ⟨hold, hnot⟩

/-- **A batch completes as many rows as it has read.** -/
theorem missing_fillAll (hselected : ∀ read ∈ selected, read ∈ minutes.rows)
    (hmissing : ∀ read ∈ selected, read.historySummary = none)
    (hkeys : (selected.map EdgeV2Minute.key).Nodup) :
    missingSummaries (minutes.fillAll selected) + selected.length = missingSummaries minutes := by
  have hafter : missingSummaries (minutes.fillAll selected) =
      minutes.rows.countP fun row =>
        row.historySummary.isNone ∧ row.key ∉ selected.map EdgeV2Minute.key := by
    unfold missingSummaries EdgeV2Minutes.fillAll
    rw [List.countP_map]
    refine List.countP_congr fun row hrow => ?_
    have hkey : row ∈ selected ↔ row.key ∈ selected.map EdgeV2Minute.key := by
      constructor
      · exact List.mem_map_of_mem
      · intro hmem
        obtain ⟨read, hread, heq⟩ := List.mem_map.1 hmem
        exact minutes.eq_of_key (hselected read hread) hrow heq ▸ hread
    rcases fill_cases hselected hrow with ⟨hmem, h⟩ | ⟨hnot, h⟩
    · simp [h, hkey.1 hmem, EdgeV2Minute.completed, EdgeV2Minute.built]
    · simp [h, mt hkey.2 hnot]
  have hperm :
      (minutes.rows.filter fun row => row.key ∈ selected.map EdgeV2Minute.key).Perm selected := by
    refine (List.perm_ext_iff_of_nodup (minutes.primaryKey.of_map.filter _) hkeys.of_map).2 ?_
    intro row
    rw [List.mem_filter, decide_eq_true_iff]
    constructor
    · rintro ⟨hrow, hmem⟩
      obtain ⟨read, hread, heq⟩ := List.mem_map.1 hmem
      exact minutes.eq_of_key (hselected read hread) hrow heq ▸ hread
    · intro hmem
      exact ⟨hselected row hmem, List.mem_map_of_mem hmem⟩
  have hread : selected.countP (fun row => row.historySummary.isNone) = selected.length :=
    List.countP_eq_length.2 fun read hread => by simp [hmissing read hread]
  have hsplit := List.countP_eq_countP_filter_add minutes.rows
    (fun row => row.historySummary.isNone)
    (fun row => decide (row.key ∈ selected.map EdgeV2Minute.key))
  rw [hperm.countP_eq, hread, List.countP_filter] at hsplit
  rw [hafter, missingSummaries, hsplit, Nat.add_comm]
  congr 1
  refine List.countP_congr fun row _ => ?_
  simp

end

/-! ## What a step does -/

section

variable {κ : Type*} [LinearOrder κ] {collate : MinuteKey ↪ κ} {limits : BackfillLimits} {n : ℕ}
variable {s s' : BackfillState n} {op : BackfillOp n} {out : BackfillOut} {row : EdgeV2Minute}

inductive Backfilled (collate : MinuteKey ↪ κ) (limits : BackfillLimits) (s : BackfillState n) :
    BackfillOp n → BackfillState n → BackfillOut → Prop
  | wrote {input : MinuteInput} {window : Filtering.Window} (hfree : input.key ∉ s.locked) :
      Backfilled collate limits s (.write input window)
        { s with minutes := s.minutes.set (input.row window (s.minutes.get input.key)) } .none
  | selected {i : Fin n} {busy : List MinuteKey} (hphase : (s.jobs i).phase = .idle)
      (hbatches : (s.jobs i).batches < limits.maxBatches) :
      Backfilled collate limits s (.select i busy)
        { s with jobs := Function.update s.jobs i { s.jobs i with
          phase := .batch
          selected := batchRows collate limits.batchSize s.minutes (s.jobs i).cursor
            (busy ++ s.locked) } } .none
  | committed {i : Fin n} {out : BackfillOut} (hphase : (s.jobs i).phase = .batch) :
      Backfilled collate limits s (.commit i)
        ⟨s.minutes.fillAll (s.jobs i).selected, Function.update s.jobs i (s.jobs i).next⟩ out
  | failed {i : Fin n} (hphase : (s.jobs i).phase = .batch) :
      Backfilled collate limits s (.fail i)
        { s with jobs :=
          Function.update s.jobs i { s.jobs i with phase := .failed, selected := [] } } .none
  | reported {i : Fin n} {out : BackfillOut} : Backfilled collate limits s (.report i) s out

theorem backfilled (h : backfillStep collate limits s op = some (s', out)) :
    Backfilled collate limits s op s' out := by
  cases op with
  | write input window =>
    simp only [backfillStep] at h
    split_ifs at h with hlocked
    simp only [Option.some.injEq, Prod.mk.injEq] at h
    obtain ⟨rfl, rfl⟩ := h
    exact .wrote hlocked
  | select i busy =>
    simp only [backfillStep] at h
    split_ifs at h with hidle
    simp only [Option.some.injEq, Prod.mk.injEq] at h
    obtain ⟨rfl, rfl⟩ := h
    exact .selected hidle.1 hidle.2
  | commit i =>
    simp only [backfillStep] at h
    split_ifs at h with hbatch
    · simp only [Option.some.injEq, Prod.mk.injEq] at h
      obtain ⟨rfl, rfl⟩ := h
      exact .committed hbatch
    · simp only [Option.some.injEq, Prod.mk.injEq] at h
      obtain ⟨rfl, rfl⟩ := h
      exact .committed hbatch
  | fail i =>
    simp only [backfillStep] at h
    split_ifs at h with hbatch
    simp only [Option.some.injEq, Prod.mk.injEq] at h
    obtain ⟨rfl, rfl⟩ := h
    exact .failed hbatch
  | report i =>
    simp only [backfillStep] at h
    split_ifs at h with hdone
    simp only [Option.some.injEq, Prod.mk.injEq] at h
    obtain ⟨rfl, rfl⟩ := h
    exact .reported

theorem mem_locked {key : MinuteKey} :
    key ∈ s.locked ↔ ∃ i, ∃ read ∈ (s.jobs i).selected, read.key = key := by
  simp [BackfillState.locked]

theorem mem_batchRows {size : ℕ} {minutes : EdgeV2Minutes} {cursor : Option MinuteKey}
    {skipped : List MinuteKey} (h : row ∈ batchRows collate size minutes cursor skipped) :
    row ∈ minutes.rows ∧ row.historySummary = none ∧ row.key ∉ skipped := by
  have hmem := mem_of_mem_firstBy h
  rw [List.mem_filter, decide_eq_true_iff, Option.isNone_iff_eq_none] at hmem
  exact ⟨hmem.1, hmem.2.1, hmem.2.2.2⟩

/-! ## Locked rows stay as they were read -/

/-- The rows of the batch are in the table as they were read, and the job keeps its limits. -/
structure Job.Sound (limits : BackfillLimits) (minutes : EdgeV2Minutes) (job : Job) : Prop where
  current : ∀ read ∈ job.selected, read ∈ minutes.rows ∧ read.historySummary = none
  nodup : (job.selected.map EdgeV2Minute.key).Nodup
  phase : job.phase ≠ .batch → job.selected = []
  batch : job.phase = .batch → job.batches < limits.maxBatches
  size : job.selected.length ≤ limits.batchSize
  batches : job.batches ≤ limits.maxBatches
  updated : job.updated ≤ job.batches * limits.batchSize

/-- No two batches have a row in common. -/
structure Locks (limits : BackfillLimits) (s : BackfillState n) : Prop where
  sound : ∀ i, (s.jobs i).Sound limits s.minutes
  apart : ∀ i j, i ≠ j → ∀ read ∈ (s.jobs i).selected, ∀ other ∈ (s.jobs j).selected,
    read.key ≠ other.key

theorem Locks.initial (limits : BackfillLimits) (minutes : EdgeV2Minutes) :
    Locks limits (.initial n minutes) where
  sound i := ⟨by simp [BackfillState.initial], List.nodup_nil, fun _ => rfl, nofun,
    Nat.zero_le _, Nat.zero_le _, Nat.zero_le _⟩
  apart i j hij read hread := by cases hread

/-- The minutes change, but no row that is locked. -/
theorem Locks.minutes {minutes : EdgeV2Minutes} (h : Locks limits s)
    (hkept : ∀ i, ∀ read ∈ (s.jobs i).selected, read ∈ minutes.rows) :
    Locks limits { s with minutes := minutes } where
  sound i := { h.sound i with
    current := fun read hread => ⟨hkept i read hread, ((h.sound i).current read hread).2⟩ }
  apart := h.apart

/-- A job changes; what it has locked now is free. -/
theorem Locks.update {i : Fin n} {job : Job} (h : Locks limits s)
    (hjob : job.Sound limits s.minutes)
    (hfree : ∀ j, j ≠ i → ∀ read ∈ job.selected, ∀ other ∈ (s.jobs j).selected,
      read.key ≠ other.key) :
    Locks limits { s with jobs := Function.update s.jobs i job } where
  sound j := by
    dsimp only
    by_cases hj : j = i
    · subst hj
      rwa [Function.update_self]
    · rw [Function.update_of_ne hj]
      exact h.sound j
  apart j k hjk := by
    dsimp only
    by_cases hj : j = i
    · subst hj
      rw [Function.update_self, Function.update_of_ne hjk.symm]
      exact hfree k hjk.symm
    · rw [Function.update_of_ne hj]
      by_cases hk : k = i
      · subst hk
        rw [Function.update_self]
        intro read hread other hother heq
        exact hfree j hj other hother read hread heq.symm
      · rw [Function.update_of_ne hk]
        exact h.apart j k hjk

/-- A job that has committed has locked nothing. -/
theorem Job.Sound.next {minutes : EdgeV2Minutes} {job : Job} (h : job.Sound limits minutes)
    (minutes' : EdgeV2Minutes) (hphase : job.phase = .batch) :
    job.next.selected = [] ∧ job.next.Sound limits minutes' := by
  have hbatch := h.batch hphase
  have hsize := h.size
  have hupdated := h.updated
  unfold Job.next
  split_ifs with hnil
  · exact ⟨hnil, by simp [hnil], by simp [hnil], fun _ => hnil, nofun, h.size,
      h.batches, h.updated⟩
  · refine ⟨rfl, by simp, List.nodup_nil, fun _ => rfl, nofun, Nat.zero_le _, hbatch,
      ?_⟩
    dsimp only
    rw [Nat.succ_mul]
    omega

/-- **The locks hold through every step.** -/
theorem Locks.step (h : Locks limits s) (hs : Backfilled collate limits s op s' out) :
    Locks limits s' := by
  cases hs with
  | @wrote input window hfree =>
    refine h.minutes fun i read hread => ?_
    have hkey : read.key ≠ input.key := fun heq => hfree (mem_locked.2 ⟨i, read, hread, heq⟩)
    exact (mem_setBy_iff s.minutes.primaryKey).2 (.inr ⟨((h.sound i).current read hread).1, hkey⟩)
  | @selected i busy hphase hbatches =>
    refine h.update ⟨fun read hread => ?_, ?_, fun hne => absurd rfl hne, fun _ => hbatches,
      length_firstBy_le, hbatches.le, (h.sound i).updated⟩ fun j _ read hread other hother heq => ?_
    · exact ⟨(mem_batchRows hread).1, (mem_batchRows hread).2.1⟩
    · exact nodup_firstBy (s.minutes.primaryKey.sublist (List.filter_sublist.map _))
    · refine (mem_batchRows hread).2.2 (List.mem_append_right _ (mem_locked.2 ?_))
      exact ⟨j, other, hother, heq.symm⟩
  | @committed i out hphase =>
    obtain ⟨hnone, hsound⟩ := (h.sound i).next s.minutes hphase
    have hjobs := h.update (i := i) hsound (by simp [hnone])
    refine hjobs.minutes fun j read hread => ?_
    dsimp only at hread
    by_cases hj : j = i
    · subst hj
      rw [Function.update_self, hnone] at hread
      cases hread
    · rw [Function.update_of_ne hj] at hread
      have hmem := ((h.sound j).current read hread).1
      rcases fill_cases (fun r hr => ((h.sound i).current r hr).1) hmem with ⟨hin, -⟩ | ⟨-, hfill⟩
      · exact absurd rfl (h.apart j i hj read hread read hin)
      · exact List.mem_map.2 ⟨read, hmem, hfill⟩
  | @failed i hphase =>
    have hsound := h.sound i
    exact h.update ⟨by simp, List.nodup_nil, fun _ => rfl, nofun, Nat.zero_le _,
      hsound.batches, hsound.updated⟩ (by simp)
  | reported => exact h

theorem locks_of_run {minutes : EdgeV2Minutes}
    {es : List (Entry (BackfillState n) (BackfillOp n) BackfillOut)}
    (hrun : Run (backfillStep collate limits) (.initial n minutes) es s) : Locks limits s :=
  hrun.invariant (Locks.initial limits minutes) fun _ _ _ _ h hs => h.step (backfilled hs)

/-! ## Summaries are those of their rows -/

/-- A row as the writers leave it, with or without its summary. -/
structure Legal (row : EdgeV2Minute) : Prop where
  consistent : Consistent row.completed
  summary : row.historySummary = none ∨ row.historySummary = row.built

theorem Legal.written (h : Legal row) : Written row :=
  ⟨h.consistent.written.aligned, h.consistent.written.stamps, h.consistent.written.placed,
    h.consistent.written.retained, h.consistent.written.sources, h.consistent.written.statistics⟩

theorem Consistent.legal (h : Consistent row) : Legal row := by
  have hrow : row.completed = row := by
    unfold EdgeV2Minute.completed EdgeV2Minute.built
    rw [← h.summary]
  exact ⟨hrow.symm ▸ h, .inr h.summary⟩

theorem Legal.completed (h : Legal row) : Legal row.completed := ⟨h.consistent, .inr rfl⟩

/-- **A write leaves a legal row**, whether the row had a summary or not. -/
theorem legal_row {input : MinuteInput} {window : Filtering.Window} {minutes : EdgeV2Minutes}
    (hepoch : 0 ≤ input.generatedAt) (hlegal : ∀ row ∈ minutes.rows, Legal row) :
    Legal (input.row window (minutes.get input.key)) := by
  refine Consistent.legal ?_
  cases hget : minutes.get input.key with
  | none => exact consistent_row hepoch fun row hrow => by cases hrow
  | some previous =>
    obtain ⟨hmem, hkey⟩ := EdgeV2Minutes.get_spec hget
    have hsame :
        input.row window (some previous) = input.row window (some previous.completed) := rfl
    rw [hsame]
    refine consistent_row hepoch fun row hrow => ?_
    obtain rfl := Option.some.inj hrow
    exact ⟨(hlegal previous hmem).consistent, congrArg (fun key => key.2.2) hkey⟩

theorem legal_step (hlocks : Locks limits s) (hs : Backfilled collate limits s op s' out)
    (hepoch : ∀ input window, op = .write input window → 0 ≤ input.generatedAt)
    (hlegal : ∀ row ∈ s.minutes.rows, Legal row) : ∀ row ∈ s'.minutes.rows, Legal row := by
  cases hs with
  | @wrote input window hfree =>
    intro row hrow
    rcases mem_setBy hrow with rfl | hrow
    · exact legal_row (hepoch input window rfl) hlegal
    · exact hlegal row hrow
  | selected hphase hbatches => exact hlegal
  | @committed i out hphase =>
    intro row hrow
    obtain ⟨old, hold, rfl⟩ := List.mem_map.1 hrow
    rcases fill_cases (fun r hr => ((hlocks.sound i).current r hr).1) hold with ⟨-, h⟩ | ⟨-, h⟩
    · rw [h]
      exact (hlegal old hold).completed
    · rw [h]
      exact hlegal old hold
  | failed hphase => exact hlegal
  | reported => exact hlegal

theorem legal_of_run {minutes : EdgeV2Minutes}
    {es : List (Entry (BackfillState n) (BackfillOp n) BackfillOut)}
    (hlegal : ∀ row ∈ minutes.rows, Legal row)
    (hrun : Run (backfillStep collate limits) (.initial n minutes) es s)
    (hepoch : ∀ e ∈ es, ∀ input window, e.op = .write input window → 0 ≤ input.generatedAt) :
    ∀ row ∈ s.minutes.rows, Legal row := by
  induction hrun with
  | nil => exact hlegal
  | snoc hrun hs ih =>
    exact legal_step (locks_of_run hrun) (backfilled hs)
      (hepoch _ (List.mem_append_right _ (List.mem_singleton_self _)))
      (ih fun e he => hepoch e (List.mem_append_left _ he))

/-! ## Counting -/

/-- The rows that the jobs have completed. -/
def BackfillState.updated (s : BackfillState n) : ℕ := ∑ i, (s.jobs i).updated

theorem missing_set {minutes : EdgeV2Minutes} (hrow : row.historySummary ≠ none) :
    missingSummaries (minutes.set row) ≤ missingSummaries minutes := by
  have hisSome : row.historySummary.isNone = false := by
    rw [Option.isNone_eq_false_iff, Option.isSome_iff_ne_none]
    exact hrow
  unfold missingSummaries EdgeV2Minutes.set
  dsimp only
  induction minutes.rows with
  | nil => simp [setBy, hisSome]
  | cons other rest ih =>
    rw [setBy]
    split_ifs with hkey
    · rw [List.countP_cons, List.countP_cons, hisSome]
      simp
    · rw [List.countP_cons, List.countP_cons]
      omega

theorem updated_update (s : BackfillState n) (i : Fin n) (job : Job) (minutes : EdgeV2Minutes)
    (k : ℕ) (h : job.updated = (s.jobs i).updated + k) :
    (BackfillState.mk minutes (Function.update s.jobs i job)).updated = s.updated + k := by
  unfold BackfillState.updated
  dsimp only
  have hcongr : ∀ j, (Function.update s.jobs i job j).updated =
      Function.update (fun j => (s.jobs j).updated) i job.updated j := by
    intro j
    by_cases hj : j = i
    · subst hj
      rw [Function.update_self, Function.update_self]
    · rw [Function.update_of_ne hj, Function.update_of_ne hj]
  rw [Finset.sum_congr rfl fun j _ => hcongr j, Finset.sum_update_of_mem (Finset.mem_univ i), h,
    ← Finset.sum_erase_add _ _ (Finset.mem_univ i), Finset.sdiff_singleton_eq_erase]
  omega

/-- **What the jobs count has been missing.** -/
theorem updated_step (hlocks : Locks limits s) (hs : Backfilled collate limits s op s' out) :
    missingSummaries s'.minutes + s'.updated ≤ missingSummaries s.minutes + s.updated := by
  cases hs with
  | @wrote input window hfree =>
    have hsome : (input.row window (s.minutes.get input.key)).historySummary ≠ none :=
      Option.some_ne_none _
    exact Nat.add_le_add_right (missing_set hsome) _
  | @selected i busy hphase hbatches =>
    have hsame := updated_update s i { s.jobs i with
      phase := .batch
      selected := batchRows collate limits.batchSize s.minutes (s.jobs i).cursor
        (busy ++ s.locked) } s.minutes 0 rfl
    exact Nat.add_le_add_left hsame.le _
  | @committed i out hphase =>
    have hfill := missing_fillAll (fun r hr => ((hlocks.sound i).current r hr).1)
      (fun r hr => ((hlocks.sound i).current r hr).2) (hlocks.sound i).nodup
    have hnext : (s.jobs i).next.updated = (s.jobs i).updated + (s.jobs i).selected.length := by
      unfold Job.next
      split_ifs with hnil
      · simp [hnil]
      · rfl
    rw [updated_update _ _ _ _ _ hnext]
    dsimp only
    omega
  | @failed i hphase =>
    have hsame := updated_update s i { s.jobs i with phase := .failed, selected := [] }
      s.minutes 0 rfl
    exact Nat.add_le_add_left hsame.le _
  | reported => exact le_rfl

/-- **Filling in is sound.** In every state a summary is absent or the one of its row, so both
readers have one history; a job changes no observation and counts no row twice; and it ends. -/
theorem backfill_sound {minutes : EdgeV2Minutes}
    {es : List (Entry (BackfillState n) (BackfillOp n) BackfillOut)}
    (hlegal : ∀ row ∈ minutes.rows, Legal row)
    (hrun : Run (backfillStep collate limits) (.initial n minutes) es s)
    (hepoch : ∀ e ∈ es, ∀ input window, e.op = .write input window → 0 ≤ input.generatedAt) :
    (∀ row ∈ s.minutes.rows, row.historySummary = none ∨ row.historySummary = row.built) ∧
    (∀ source start stop interval pages pages', 60 ∣ interval →
      pages.flatten.Perm (s.minutes.between source start stop) →
      pages'.flatten.Perm (s.minutes.between source start stop) →
      (summaryStreamGroups s.minutes source pages start stop interval).map
          (fun groups => compactResult groups start stop) =
        some (compactResult (legacyStreamGroups pages' start stop interval) start stop)) ∧
    (∀ e ∈ es, (∀ input window, e.op ≠ .write input window) →
      e.post.minutes.rows.map EdgeV2Minute.bare = e.pre.minutes.rows.map EdgeV2Minute.bare) ∧
    missingSummaries s.minutes + s.updated ≤ missingSummaries minutes ∧
    ∀ i, (s.jobs i).batches ≤ limits.maxBatches ∧
      (s.jobs i).updated ≤ (s.jobs i).batches * limits.batchSize := by
  have hrows := legal_of_run hlegal hrun hepoch
  have hlocks := locks_of_run hrun
  refine ⟨fun row hrow => (hrows row hrow).summary, ?_, ?_, ?_,
    fun i => ⟨(hlocks.sound i).batches, (hlocks.sound i).updated⟩⟩
  · intro source start stop interval pages pages' hinterval hpages hpages'
    refine summary_reader_eq hinterval (fun row hrow => (hrows row hrow).written) ?_ hpages hpages'
    intro row hrow
    exact (hrows row hrow).summary.imp_right .inr
  · intro e he hop
    obtain ⟨before, after, rfl⟩ := List.append_of_mem he
    have hcut := hrun.of_append_cons
    have hbefore := locks_of_run hcut.1
    have hs := backfilled hcut.2
    obtain ⟨pre, op, out, post⟩ := e
    dsimp only at hs hbefore hop ⊢
    cases hs with
    | wrote hfree => exact absurd rfl (hop _ _)
    | selected hphase hbatches => rfl
    | committed hphase => exact fillAll_bare fun r hr => ((hbefore.sound _).current r hr).1
    | failed hphase => rfl
    | reported => rfl
  · clear hrows hlocks hepoch
    induction hrun with
    | nil => simp [BackfillState.initial, BackfillState.updated]
    | snoc hrun hs ih => exact (updated_step (locks_of_run hrun) (backfilled hs)).trans ih

/-! ## No row is passed over -/

/-- A batch of the job has come to the row, which had no summary, and has left it out, for the row
was locked: it lies after the cursor, and the batch has a later row or is not full. -/
structure SkippedBy (collate : MinuteKey ↪ κ) (limits : BackfillLimits) (i : Fin n)
    (key : MinuteKey) (busy : List MinuteKey)
    (e : Entry (BackfillState n) (BackfillOp n) BackfillOut) : Prop where
  op : e.op = .select i busy
  missing : ∃ row ∈ e.pre.minutes.rows, row.key = key ∧ row.historySummary = none
  locked : key ∈ busy ∨ key ∈ e.pre.locked
  ahead : ∀ after ∈ (e.pre.jobs i).cursor, collate after < collate key
  reached : (e.post.jobs i).selected.length < limits.batchSize ∨
    ∃ last ∈ (e.post.jobs i).selected.getLast?, collate key < collate last.key

def Skipped (collate : MinuteKey ↪ κ) (limits : BackfillLimits) (i : Fin n) (key : MinuteKey)
    (es : List (Entry (BackfillState n) (BackfillOp n) BackfillOut)) : Prop :=
  ∃ e ∈ es, ∃ busy, SkippedBy collate limits i key busy e

theorem Skipped.mono {i : Fin n} {key : MinuteKey}
    {es es' : List (Entry (BackfillState n) (BackfillOp n) BackfillOut)}
    (h : Skipped collate limits i key es) : Skipped collate limits i key (es ++ es') := by
  obtain ⟨e, he, hskipped⟩ := h
  exact ⟨e, List.mem_append_left _ he, hskipped⟩

/-- The job has yet to come to the row. -/
structure Ahead (collate : MinuteKey ↪ κ) (job : Job) (row : EdgeV2Minute) : Prop where
  idle : job.phase = .idle → ∀ after ∈ job.cursor, collate after < collate row.key
  batch : job.phase = .batch → row ∈ job.selected ∨
    ∃ last ∈ job.selected.getLast?, collate last.key < collate row.key
  done : job.phase ≠ .done

/-- A row without a summary was skipped, or the job has yet to come to it. -/
def Swept (collate : MinuteKey ↪ κ) (limits : BackfillLimits) (i : Fin n)
    (es : List (Entry (BackfillState n) (BackfillOp n) BackfillOut)) (s : BackfillState n) : Prop :=
  ∀ row ∈ s.minutes.rows, row.historySummary = none →
    Skipped collate limits i row.key es ∨ Ahead collate (s.jobs i) row

/-- The row was without a summary before, and the job is as it was. -/
theorem Swept.keep {i : Fin n} {es es' : List (Entry (BackfillState n) (BackfillOp n) BackfillOut)}
    (h : Swept collate limits i es s) (hjob : s'.jobs i = s.jobs i)
    (hrows : ∀ row ∈ s'.minutes.rows, row.historySummary = none → row ∈ s.minutes.rows) :
    Swept collate limits i (es ++ es') s' := by
  intro row hrow hmissing
  rw [hjob]
  exact (h row (hrows row hrow hmissing) hmissing).imp_left Skipped.mono

/-- A row that is free and after the cursor is on the page, or after its last row. -/
theorem batchRows_cover {size : ℕ} {minutes : EdgeV2Minutes} {cursor : Option MinuteKey}
    {skipped : List MinuteKey} (hsize : 0 < size) (hrow : row ∈ minutes.rows)
    (hmissing : row.historySummary = none) (hfree : row.key ∉ skipped)
    (hahead : ∀ after ∈ cursor, collate after < collate row.key) :
    row ∈ batchRows collate size minutes cursor skipped ∨
      ∃ last ∈ (batchRows collate size minutes cursor skipped).getLast?,
        collate last.key < collate row.key := by
  have hmem : row ∈ minutes.rows.filter fun row => row.historySummary.isNone ∧
      (cursor.all fun after => collate after < collate row.key) ∧ row.key ∉ skipped := by
    refine List.mem_filter.2 ⟨hrow, decide_eq_true ⟨by simp [hmissing], ?_, hfree⟩⟩
    rw [Option.all_eq_true]
    exact fun after hafter => decide_eq_true (hahead after hafter)
  rcases firstBy_cover (fun row : EdgeV2Minute => collate row.key) hsize hmem
    with hfirst | ⟨last, hlast, hle⟩
  · exact .inl hfirst
  · by_cases hfirst : row ∈ batchRows collate size minutes cursor skipped
    · exact .inl hfirst
    · refine .inr ⟨last, hlast, lt_of_le_of_ne hle fun heq => hfirst ?_⟩
      have hlastmem := List.mem_of_getLast? hlast
      have hkey := collate.injective heq
      exact minutes.eq_of_key (mem_batchRows hlastmem).1 hrow hkey ▸ hlastmem

/-- A row that is locked is not on the page: the page comes to it, or ends before it. -/
theorem batchRows_locked (collate : MinuteKey ↪ κ) {size : ℕ} (hsize : 0 < size)
    (minutes : EdgeV2Minutes) (cursor : Option MinuteKey) {skipped : List MinuteKey}
    (hlocked : row.key ∈ skipped) :
    ((batchRows collate size minutes cursor skipped).length < size ∨
      ∃ last ∈ (batchRows collate size minutes cursor skipped).getLast?,
        collate row.key < collate last.key) ∨
      ∃ last ∈ (batchRows collate size minutes cursor skipped).getLast?,
        collate last.key < collate row.key := by
  cases hlast : (batchRows collate size minutes cursor skipped).getLast? with
  | none =>
    rw [List.getLast?_eq_none_iff.1 hlast]
    exact .inl (.inl hsize)
  | some last =>
    have hne : collate row.key ≠ collate last.key := by
      intro heq
      have hfree := (mem_batchRows (List.mem_of_getLast? hlast)).2.2
      rw [← collate.injective heq] at hfree
      exact hfree hlocked
    rcases lt_or_gt_of_ne hne with hlt | hlt
    · exact .inl (.inr ⟨last, rfl, hlt⟩)
    · exact .inr ⟨last, rfl, hlt⟩

theorem Swept.select {i : Fin n} {es : List (Entry (BackfillState n) (BackfillOp n) BackfillOut)}
    {busy : List MinuteKey} (h : Swept collate limits i es s) (hphase : (s.jobs i).phase = .idle)
    {s' : BackfillState n} {out : BackfillOut}
    (hs' : s' = { s with jobs := Function.update s.jobs i { s.jobs i with
      phase := .batch
      selected := batchRows collate limits.batchSize s.minutes (s.jobs i).cursor
        (busy ++ s.locked) } }) :
    Swept collate limits i (es ++ [⟨s, .select i busy, out, s'⟩]) s' := by
  have hjob : s'.jobs i = { s.jobs i with
      phase := .batch
      selected := batchRows collate limits.batchSize s.minutes (s.jobs i).cursor
        (busy ++ s.locked) } := by
    rw [hs']
    exact Function.update_self ..
  have hminutes : s'.minutes = s.minutes := by rw [hs']
  intro row hrow hmissing
  rw [hminutes] at hrow
  rcases h row hrow hmissing with hskipped | hahead
  · exact .inl hskipped.mono
  have hafter := hahead.idle hphase
  by_cases hlocked : row.key ∈ busy ++ s.locked
  · rcases batchRows_locked collate limits.size_range.1 s.minutes (s.jobs i).cursor hlocked
      with hreached | hlast
    · refine .inl ⟨_, List.mem_append_right _ (List.mem_singleton_self _), busy, rfl,
        ⟨row, hrow, rfl, hmissing⟩, List.mem_append.1 hlocked, hafter, ?_⟩
      rw [hjob]
      exact hreached
    · rw [hjob]
      exact .inr ⟨nofun, fun _ => .inr hlast, by simp⟩
  · rw [hjob]
    exact .inr ⟨nofun,
      fun _ => batchRows_cover limits.size_range.1 hrow hmissing hlocked hafter, by simp⟩

theorem Swept.step {i : Fin n} {es : List (Entry (BackfillState n) (BackfillOp n) BackfillOut)}
    (hlocks : Locks limits s) (h : Swept collate limits i es s)
    (hs : Backfilled collate limits s op s' out) :
    Swept collate limits i (es ++ [⟨s, op, out, s'⟩]) s' := by
  cases hs with
  | @wrote input window hfree =>
    refine h.keep rfl fun row hrow hmissing => ?_
    rcases mem_setBy hrow with rfl | hrow
    · exact absurd hmissing (Option.some_ne_none _)
    · exact hrow
  | @selected j busy hphase hbatches =>
    by_cases hj : i = j
    · subst hj
      exact h.select hphase rfl
    · exact h.keep (Function.update_of_ne hj _ _) fun row hrow _ => hrow
  | @committed j out hphase =>
    have hcurrent : ∀ read ∈ (s.jobs j).selected, read ∈ s.minutes.rows :=
      fun r hr => ((hlocks.sound j).current r hr).1
    by_cases hj : i = j
    · subst hj
      intro row hrow hmissing
      obtain ⟨hold, hnot⟩ := mem_fillAll_missing hcurrent hrow hmissing
      dsimp only
      rw [Function.update_self]
      rcases h row hold hmissing with hskipped | hahead
      · exact .inl hskipped.mono
      · rcases hahead.batch hphase with hmem | ⟨last, hlast, hlt⟩
        · exact absurd hmem hnot
        · have hne : (s.jobs i).selected ≠ [] := by
            intro hnil
            rw [hnil] at hlast
            cases hlast
          right
          unfold Job.next
          rw [if_neg hne]
          refine ⟨fun _ after hafter => ?_, nofun, by simp⟩
          rw [Option.mem_def.1 hlast] at hafter
          obtain rfl := Option.some.inj hafter
          exact hlt
    · exact h.keep (Function.update_of_ne hj _ _)
        fun row hrow hmissing => (mem_fillAll_missing hcurrent hrow hmissing).1
  | @failed j hphase =>
    by_cases hj : i = j
    · subst hj
      intro row hrow hmissing
      dsimp only
      rw [Function.update_self]
      rcases h row hrow hmissing with hskipped | -
      · exact .inl hskipped.mono
      · exact .inr ⟨nofun, nofun, by simp⟩
    · exact h.keep (Function.update_of_ne hj _ _) fun row hrow _ => hrow
  | reported => exact h.keep rfl fun row hrow _ => hrow

/-- **A job that finds no more rows has left none behind** but those that it skipped; if it has
skipped none, no summary is missing. -/
theorem backfill_complete {minutes : EdgeV2Minutes} {i : Fin n}
    {es : List (Entry (BackfillState n) (BackfillOp n) BackfillOut)}
    (hrun : Run (backfillStep collate limits) (.initial n minutes) es s)
    (hdone : (s.jobs i).phase = .done) :
    (∀ row ∈ s.minutes.rows, row.historySummary = none → Skipped collate limits i row.key es) ∧
    ((∀ row ∈ s.minutes.rows, ¬Skipped collate limits i row.key es) →
      missingSummaries s.minutes = 0) := by
  have hswept : Swept collate limits i es s := by
    clear hdone
    induction hrun with
    | nil =>
      intro row hrow hmissing
      exact .inr ⟨nofun, nofun, by
        simp [BackfillState.initial]⟩
    | snoc hrun hs ih => exact ih.step (locks_of_run hrun) (backfilled hs)
  have hall : ∀ row ∈ s.minutes.rows, row.historySummary = none →
      Skipped collate limits i row.key es := by
    intro row hrow hmissing
    exact (hswept row hrow hmissing).resolve_right fun hahead => hahead.done hdone
  refine ⟨hall, fun hnone => ?_⟩
  unfold missingSummaries
  rw [List.countP_eq_zero]
  intro row hrow hmissing
  exact hnone row hrow (hall row hrow (Option.isNone_iff_eq_none.1 hmissing))

end

/-! ## A run

A live writer stores a minute, and holds a row that lacks its summary while the first job reads; the
second job fills it in. -/

/-- The order of the keys by code points. -/
def codePoints : MinuteKey ↪ String ×ₗ String ×ₗ ℤ where
  toFun key := toLex (key.1, toLex (key.2.1, key.2.2))
  inj' key key' h := by
    obtain ⟨hsite, hrest⟩ := Prod.mk.inj (toLex.injective h)
    obtain ⟨hedge, hbucket⟩ := Prod.mk.inj (toLex.injective hrest)
    exact Prod.ext hsite (Prod.ext hedge hbucket)

theorem sampleBatches : (1 ≤ 128 ∧ 128 ≤ 512) ∧ 1 ≤ 2 ∧ 2 ≤ 10000 := by decide

def sampleLimits : BackfillLimits := ⟨128, 2, sampleBatches.1, sampleBatches.2⟩

def oneRow (row : EdgeV2Minute) : EdgeV2Minutes := ⟨[row], List.nodup_singleton _⟩

section

variable {row : EdgeV2Minute} {input : MinuteInput} {window : Filtering.Window}

/-- The minutes after the write. -/
def writtenRow (row : EdgeV2Minute) (input : MinuteInput) (window : Filtering.Window) :
    EdgeV2Minutes :=
  (oneRow row).set (input.row window ((oneRow row).get input.key))

theorem rows_writtenRow (hkey : row.key ≠ input.key) : (writtenRow row input window).rows =
    [row, input.row window ((oneRow row).get input.key)] := by
  simp only [writtenRow, EdgeV2Minutes.set, oneRow, setBy]
  exact if_neg hkey

/-- The batch that finds the row locked is empty. -/
theorem batchRows_busy (hkey : row.key ≠ input.key) :
    batchRows codePoints 128 (writtenRow row input window) none [row.key] = [] := by
  have hnone : (writtenRow row input window).rows.filter (fun other =>
      other.historySummary.isNone ∧
        ((none : Option MinuteKey).all fun after => codePoints after < codePoints other.key) ∧
        other.key ∉ [row.key]) = [] := by
    rw [rows_writtenRow hkey, List.filter_eq_nil_iff]
    intro other hother
    simp only [List.mem_cons, List.not_mem_nil, or_false] at hother
    rcases hother with rfl | rfl
    · simp
    · simp [MinuteInput.row]
  unfold batchRows
  rw [hnone]
  rfl

/-- The batch that finds it free has it. -/
theorem batchRows_free (hkey : row.key ≠ input.key) (hmissing : row.historySummary = none) :
    batchRows codePoints 128 (writtenRow row input window) none [] = [row] := by
  unfold batchRows
  rw [rows_writtenRow hkey, List.filter_cons_of_pos (by simp [hmissing]),
    List.filter_cons_of_neg (by simp [MinuteInput.row])]
  rfl

theorem fillAll_nil (minutes : EdgeV2Minutes) : minutes.fillAll [] = minutes := by
  obtain ⟨rows, hkeys⟩ := minutes
  have hrows : rows.map (fill []) = rows := List.map_id'' (fun _ => rfl) rows
  simp only [EdgeV2Minutes.fillAll, hrows]

/-- The write, and the job that finds the row locked. -/
def lockedBackfill (row : EdgeV2Minute) (input : MinuteInput) (window : Filtering.Window) :
    List (BackfillOp 2) :=
  [.write input window, .select 0 [row.key], .commit 0]

/-- The first job is done, and has left the row without its summary. -/
theorem run_locked (window : Filtering.Window) (hkey : row.key ≠ input.key) : ∃ es s,
    Run (backfillStep codePoints sampleLimits) (.initial 2 (oneRow row)) es s ∧
      es.map Entry.op = lockedBackfill row input window ∧
      s.minutes = writtenRow row input window ∧ (s.jobs 0).phase = .done ∧
      (s.jobs 0).selected = [] ∧ s.jobs 1 = {} := by
  have hlocked : (BackfillState.initial 2 (oneRow row)).locked = [] := by
    simp [BackfillState.locked, BackfillState.initial]
  have h₁ : ∃ s₁ : BackfillState 2, backfillStep codePoints sampleLimits
      (.initial 2 (oneRow row)) (.write input window) = some (s₁, .none) ∧
      s₁.minutes = writtenRow row input window ∧ ∀ i, s₁.jobs i = {} := by
    simp only [backfillStep, hlocked]
    exact ⟨_, if_neg List.not_mem_nil, rfl, fun _ => rfl⟩
  obtain ⟨s₁, hs₁, hminutes₁, hjobs₁⟩ := h₁
  have hlocked₁ : s₁.locked = [] := by simp [BackfillState.locked, hjobs₁]
  have h₂ : ∃ s₂ : BackfillState 2, backfillStep codePoints sampleLimits s₁
      (.select 0 [row.key]) = some (s₂, .none) ∧ s₂.minutes = writtenRow row input window ∧
      s₂.jobs 0 = { phase := .batch } ∧ s₂.jobs 1 = {} := by
    have hbatch : batchRows codePoints sampleLimits.batchSize (writtenRow row input window) none
        ([row.key] ++ []) = [] := batchRows_busy hkey
    simp only [backfillStep, hjobs₁, hlocked₁, hminutes₁, hbatch]
    exact ⟨_, rfl, rfl, rfl, hjobs₁ 1⟩
  obtain ⟨s₂, hs₂, hminutes₂, hjob₂, hother₂⟩ := h₂
  have h₃ : ∃ s₃ : BackfillState 2, ∃ out, backfillStep codePoints sampleLimits s₂ (.commit 0) =
      some (s₃, out) ∧ s₃.minutes = writtenRow row input window ∧ (s₃.jobs 0).phase = .done ∧
      (s₃.jobs 0).selected = [] ∧ s₃.jobs 1 = {} := by
    simp only [backfillStep, hjob₂, hminutes₂, fillAll_nil]
    exact ⟨_, _, rfl, rfl, rfl, rfl, hother₂⟩
  obtain ⟨s₃, out, hs₃, hminutes₃, hphase, hselected, hother₃⟩ := h₃
  exact ⟨_, s₃, ((Run.nil.snoc hs₁).snoc hs₂).snoc hs₃, rfl, hminutes₃, hphase, hselected, hother₃⟩

/-- The second job finds the row free, and fills it in. -/
theorem run_filled (window : Filtering.Window) (hkey : row.key ≠ input.key)
    (hmissing : row.historySummary = none) :
    ∃ es s, Run (backfillStep codePoints sampleLimits) (.initial 2 (oneRow row)) es s ∧
      es.map Entry.op = lockedBackfill row input window ++ [.select 1 [], .commit 1] ∧
      (s.jobs 1).updated = 1 := by
  obtain ⟨es, s₃, hrun, hops, hminutes₃, -, hselected, hjob₃⟩ := run_locked window hkey
  have hlocked₃ : s₃.locked = [] := by
    simp [BackfillState.locked, List.finRange, hselected, hjob₃]
  have h₄ : ∃ s₄ : BackfillState 2, backfillStep codePoints sampleLimits s₃ (.select 1 []) =
      some (s₄, .none) ∧ s₄.jobs 1 = { phase := .batch, selected := [row] } := by
    have hbatch : batchRows codePoints sampleLimits.batchSize (writtenRow row input window) none
        ([] ++ []) = [row] := batchRows_free hkey hmissing
    simp only [backfillStep, hjob₃, hlocked₃, hminutes₃, hbatch]
    exact ⟨_, rfl, rfl⟩
  obtain ⟨s₄, hs₄, hjob₄⟩ := h₄
  have h₅ : ∃ s₅ : BackfillState 2, ∃ out, backfillStep codePoints sampleLimits s₄ (.commit 1) =
      some (s₅, out) ∧ (s₅.jobs 1).updated = 1 := by
    simp only [backfillStep, hjob₄]
    exact ⟨_, _, rfl, rfl⟩
  obtain ⟨s₅, out, hs₅, hupdated⟩ := h₅
  refine ⟨_, s₅, (hrun.snoc hs₄).snoc hs₅, ?_, hupdated⟩
  simp [hops]

end

/-- A row of the writer, of the second minute. -/
theorem exists_consistent : ∃ row, Consistent row ∧ row.bucketStart = 60000000 := by
  obtain ⟨es, s, row, hexec, hrows, hbucket, -⟩ := exec_projections
  refine ⟨row, consistent_of_run (.of_exec hexec) ?_ row ?_, hbucket⟩
  · intro e he i hop
    have hops : e.op ∈ sampleProjections := by
      rw [← exec_ops hexec]
      exact List.mem_map_of_mem he
    rw [hop] at hops
    simp only [sampleProjections, List.mem_cons, ProjectionOp.project.injEq, List.not_mem_nil,
      or_false] at hops
    rcases hops with rfl | rfl | rfl | rfl <;> decide
  · rw [hrows]
    exact List.mem_singleton_self row

/-- An observation of the third minute. -/
def laterInput : MinuteInput := sampleInput "m-5" 161000000 (by decide +kernel)

theorem key_ne_later {row : EdgeV2Minute} (h : row.bucketStart = 60000000) :
    row.key ≠ laterInput.key := by
  intro heq
  have hbucket := congrArg (fun key => key.2.2) heq
  change row.bucketStart = laterInput.bucket at hbucket
  rw [h] at hbucket
  exact absurd hbucket (by decide +kernel)

/-- The theorem where a live writer stores a minute, and holds the row that lacks its summary while
the first job reads. -/
theorem backfill_sound_sample : ∃ row es s,
    Run (backfillStep codePoints sampleLimits) (.initial 2 (oneRow row)) es s ∧
      es.map Entry.op = lockedBackfill row laterInput .rejected ++ [.select 1 [], .commit 1] ∧
      row.historySummary = none ∧ (s.jobs 1).updated = 1 ∧
      ∀ filled ∈ s.minutes.rows,
        filled.historySummary = none ∨ filled.historySummary = filled.built := by
  obtain ⟨row, hrow, hbucket⟩ := exists_consistent
  have hkey : row.bare.key ≠ laterInput.key := key_ne_later hbucket
  obtain ⟨es, s, hrun, hops, hupdated⟩ := run_filled .rejected hkey rfl
  refine ⟨row.bare, es, s, hrun, hops, rfl, hupdated, ?_⟩
  refine (backfill_sound (fun other hother => ?_) hrun fun e he input window hop => ?_).1
  · obtain rfl := List.mem_singleton.1 hother
    exact ⟨hrow.legal.consistent, .inl rfl⟩
  · have hmem := List.mem_map_of_mem (f := Entry.op) he
    rw [hops, hop] at hmem
    simp only [lockedBackfill, List.cons_append, List.nil_append, List.mem_cons,
      BackfillOp.write.injEq, List.not_mem_nil, or_false, reduceCtorEq] at hmem
    rw [hmem.1]
    decide +kernel

/-- The theorem where a row stays behind: the job has skipped it. -/
theorem backfill_complete_sample : ∃ row es s,
    Run (backfillStep codePoints sampleLimits) (.initial 2 (oneRow row)) es s ∧
      es.map Entry.op = lockedBackfill row laterInput .rejected ∧ (s.jobs 0).phase = .done ∧
      row ∈ s.minutes.rows ∧ row.historySummary = none ∧
      Skipped codePoints sampleLimits 0 row.key es := by
  obtain ⟨row, -, hbucket⟩ := exists_consistent
  have hkey : row.bare.key ≠ laterInput.key := key_ne_later hbucket
  obtain ⟨es, s, hrun, hops, hminutes, hdone, -⟩ := run_locked .rejected hkey
  have hmem : row.bare ∈ s.minutes.rows := by
    rw [hminutes, rows_writtenRow hkey]
    exact List.mem_cons_self
  exact ⟨row.bare, es, s, hrun, hops, hdone, hmem, rfl,
    (backfill_complete hrun hdone).1 _ hmem rfl⟩

end ScrapMonitoring.History
