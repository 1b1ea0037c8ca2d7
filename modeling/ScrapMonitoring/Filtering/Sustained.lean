import Mathlib.Data.List.Chain
import ScrapMonitoring.Filtering.Projection
import ScrapMonitoring.Foundations.Run

/-!
# Values above the threshold for a while

The row of a filter keeps the time since when its value has been at or above the threshold. Along
every sequence of projections and resets that time is backed by the projections since: all of them
are valid and of one scope, each is not long after the one before, and their filtered values are at
or above the threshold (`run_sound`). A filtered value of assessments is the median of as many
samples as the window has, of one scope and observed at different times, of which a majority is at
or above the threshold (`Sound.medianOf`).
-/

namespace ScrapMonitoring.Filtering

open Monitoring EdgeV2

/-- A step of the filter of a device. -/
abbrev FilterEntry := Entry (Option FilterPayload) FilterOp (List FilterTransition)

variable {i : Projection} {previous state : Option FilterPayload} {es : List FilterEntry}

/-! ## One projection -/

theorem sample_spec {sample : Sample} (h : i.sample = some sample) :
    i.observation.observedTo = some sample.time ∧ i.observation.valuePercent = some sample.value ∧
      i.trusted sample.time := by
  unfold Projection.sample at h
  cases hvalue : i.observation.valuePercent with
  | none =>
    rw [hvalue] at h
    cases h
  | some value =>
    cases hobserved : i.observation.observedTo with
    | none =>
      rw [hvalue, hobserved] at h
      cases h
    | some observed =>
      rw [hvalue, hobserved] at h
      dsimp only at h
      split_ifs at h with htrusted
      obtain rfl := Option.some.inj h
      exact ⟨rfl, rfl, htrusted⟩

/-- An input is rejected, or its sample is newer than the row and added to the window. -/
theorem window_cases (i : Projection) (previous : Option FilterPayload) :
    i.window previous = .rejected ∨ ∃ sample, i.sample = some sample ∧
      ¬stale previous sample ∧ i.window previous = i.admitted previous sample := by
  unfold Projection.window
  cases i.sample with
  | none => exact .inl rfl
  | some sample =>
    dsimp only
    split_ifs with hstale
    · exact .inl rfl
    · exact .inr ⟨sample, rfl, hstale, rfl⟩

theorem filtered_eq_some {samples : List Sample} {value : ℚ} (h : i.filtered samples = some value) :
    samples.length = i.size ∧ (i.observation.source = .edgeState →
      median (samples.map Sample.value) = some value) := by
  unfold Projection.filtered at h
  rw [Option.ite_none_right_eq_some] at h
  obtain ⟨hlength, hvalue⟩ := h
  refine ⟨hlength, fun hsource => ?_⟩
  rw [hsource] at hvalue
  exact hvalue

/-- A sample that is not stale is newer than the row. -/
theorem lt_of_not_stale {row : FilterPayload} {sample : Sample} {last : ℤ}
    (h : ¬stale (some row) sample) (hlast : row.observedAt = some last) : last < sample.time := by
  unfold stale at h
  rw [Option.bind_some, hlast, Option.any_some, decide_eq_true_eq, not_le] at h
  exact h

/-- The samples of an extended window are those of a row that goes on, and the new one. -/
theorem mem_extended {sample a : Sample} (h : a ∈ i.extended previous sample) :
    a = sample ∨ ∃ row, previous = some row ∧ i.continues row sample ∧ a ∈ row.samples := by
  unfold Projection.extended at h
  obtain h | h := List.mem_append.1 h
  · cases hkept : previous.filter fun row => i.continues row sample with
    | none =>
      rw [hkept] at h
      cases h
    | some row =>
      rw [hkept] at h
      obtain ⟨hprevious, hcontinues⟩ := Option.filter_eq_some_iff.1 hkept
      exact .inr ⟨row, hprevious, hcontinues, h⟩
  · exact .inl (List.mem_singleton.1 h)

/-- A row that does not go on leaves the new sample alone in the window. -/
theorem extended_of_not_continues {sample : Sample}
    (h : ∀ row, previous = some row → ¬i.continues row sample) :
    i.extended previous sample = [sample] := by
  unfold Projection.extended
  have hkept : (previous.filter fun row => i.continues row sample) = none := by
    rw [Option.filter_eq_none_iff]
    intro row hrow
    exact h row hrow
  rw [hkept]
  rfl

/-! ## What a row vouches for -/

/-- The step has projected the input, with the row. -/
def Projects (x : FilterEntry) (input : Projection) (row : FilterPayload) : Prop :=
  x.op = .project input ∧ x.post = some row

/-- When the observation was made that a step has projected. -/
def timeOf (x : FilterEntry) : Option ℤ := x.post.bind FilterPayload.observedAt

/-- The step has projected a valid input of the scope, with a filtered value at or above the
threshold. -/
def Above (scope : FilterScope) (x : FilterEntry) : Prop :=
  ∃ input row value, Projects x input row ∧ row.inputValid ∧ row.scope = scope ∧
    row.state = .ready ∧ row.value = some value ∧ scope.threshold ≤ value

/-- The second observation is later than the first, and not by more than the gap that is allowed. -/
def Follows (x y : FilterEntry) : Prop :=
  ∃ a b, timeOf x = some a ∧ timeOf y = some b ∧ 0 < b - a ∧ b - a ≤ gapLimit

/-- The steps end with projections of one scope that are all above the threshold and follow on each
other, the first of them of the observation at `since`. -/
structure Sustained (es : List FilterEntry) (scope : FilterScope) (since last : ℤ)
    (span : List FilterEntry) : Prop where
  suffix : span <:+ es
  first : span.head?.bind timeOf = some since
  last : span.getLast?.bind timeOf = some last
  above : ∀ x ∈ span, Above scope x
  follows : span.IsChain Follows

/-- One of the steps has projected the sample, as a valid one of the scope. -/
def Sampled (es : List FilterEntry) (scope : FilterScope) (a : Sample) : Prop :=
  ∃ x ∈ es, ∃ input row, Projects x input row ∧ row.inputValid ∧ row.scope = scope ∧
    input.observation.observedTo = some a.time ∧ input.observation.valuePercent = some a.value

/-- What the row of a filter vouches for, after the steps that have led to it. -/
structure Sound (es : List FilterEntry) (row : FilterPayload) : Prop where
  ready : row.state = .ready → row.observedAt.isSome ∧ row.inputValid
  distinct : (row.samples.map Sample.time).Nodup
  past : ∀ a ∈ row.samples, ∃ last, row.observedAt = some last ∧ a.time ≤ last
  sampled : ∀ a ∈ row.samples, Sampled es row.scope a
  above : ∀ since, row.aboveSince = some since → ∃ last span, row.observedAt = some last ∧
    Sustained es row.scope since last span

theorem Sampled.mono {scope : FilterScope} {a : Sample} (h : Sampled es scope a) (x : FilterEntry) :
    Sampled (es ++ [x]) scope a := by
  obtain ⟨y, hy, hprojects⟩ := h
  exact ⟨y, List.mem_append_left _ hy, hprojects⟩

/-- A span begins with a projection above the threshold. -/
theorem Sustained.start {scope : FilterScope} {x : FilterEntry} {time : ℤ} (hx : Above scope x)
    (htime : timeOf x = some time) : Sustained (es ++ [x]) scope time time [x] where
  suffix := List.suffix_append es [x]
  first := htime
  last := htime
  above := by simpa using hx
  follows := .singleton x

/-- A span goes on with a projection above the threshold that follows on it. -/
theorem Sustained.extend {scope : FilterScope} {since last time : ℤ} {span : List FilterEntry}
    {x : FilterEntry} (h : Sustained es scope since last span) (hx : Above scope x)
    (htime : timeOf x = some time) (hlt : last < time) (hgap : time - last ≤ gapLimit) :
    Sustained (es ++ [x]) scope since time (span ++ [x]) where
  suffix := by
    obtain ⟨pre, rfl⟩ := h.suffix
    exact ⟨pre, (List.append_assoc _ _ _).symm⟩
  first := by
    have hfirst := h.first
    cases span with
    | nil => cases hfirst
    | cons y rest => exact hfirst
  last := by simpa using htime
  above := List.forall_mem_append.2 ⟨h.above, by simpa using hx⟩
  follows := by
    refine h.follows.append (.singleton x) ?_
    intro y hy z hz
    obtain rfl : x = z := by simpa using hz
    have hlast := h.last
    rw [Option.mem_def.1 hy, Option.bind_some] at hlast
    exact ⟨last, time, hlast, htime, by omega, hgap⟩

/-! ## A projection keeps what the row vouches for -/

theorem three_le_size (i : Projection) : 3 ≤ i.size := i.settings.window_range.1

theorem continues_iff {row : FilterPayload} {sample : Sample} :
    i.continues row sample ↔ row.scope = i.scope ∧
      ∀ last, row.observedAt = some last → sample.time - last ≤ gapLimit := by
  unfold Projection.continues
  rw [decide_eq_true_iff]
  refine and_congr_right fun _ => ?_
  cases row.observedAt with
  | none => simp
  | some last => simp

/-- The time since when the value has been above the threshold is kept, or is that of the
observation. -/
theorem aboveSince_cases {window : Window} {since : ℤ}
    (h : i.aboveSince previous window = some since) :
    (∃ value, window.value = some value ∧ i.threshold ≤ value) ∧
      ((∃ row, previous = some row ∧ row.scope = i.scope ∧ row.state = .ready ∧
        row.aboveSince = some since) ∨ i.observation.observedTo = some since) := by
  unfold Projection.aboveSince at h
  rw [Option.ite_none_right_eq_some] at h
  obtain ⟨hvalue, h⟩ := h
  refine ⟨?_, ?_⟩
  · obtain ⟨value, hvalue, hle⟩ := (Option.any_eq_true _ _).1 hvalue
    exact ⟨value, hvalue, of_decide_eq_true hle⟩
  · obtain h | ⟨-, h⟩ := Option.or_eq_some_iff.1 h
    · left
      obtain ⟨row, hrow, hsince⟩ := Option.bind_eq_some_iff.1 h
      obtain ⟨hprevious, hkept⟩ := Option.filter_eq_some_iff.1 hrow
      obtain ⟨hscope, hready, -⟩ := of_decide_eq_true hkept
      exact ⟨row, hprevious, hscope, hready, hsince⟩
    · exact .inr h

section

variable {sample : Sample}

theorem nodup_extended (hsound : ∀ row, previous = some row → Sound es row)
    (hnew : ¬stale previous sample) :
    ((i.extended previous sample).map Sample.time).Nodup := by
  unfold Projection.extended
  cases hkept : previous.filter fun row => i.continues row sample with
  | none => simp
  | some row =>
    obtain ⟨hprevious, -⟩ := Option.filter_eq_some_iff.1 hkept
    have hrow := hsound row hprevious
    rw [Option.map_some, Option.getD_some, List.map_append]
    refine List.nodup_append.2 ⟨hrow.distinct, by simp, ?_⟩
    intro time htime time' htime' heq
    obtain ⟨a, ha, rfl⟩ := List.mem_map.1 htime
    have hsample : time' = sample.time := by simpa using htime'
    obtain ⟨last, hlast, hle⟩ := hrow.past a ha
    rw [hprevious] at hnew
    have hlt := lt_of_not_stale hnew hlast
    omega

/-- A value is filtered only where the row went on. -/
theorem continues_of_filtered {row : FilterPayload} {value : ℚ} (hprevious : previous = some row)
    (hvalue : (i.admitted previous sample).value = some value) : i.continues row sample := by
  obtain ⟨hlength, -⟩ := filtered_eq_some hvalue
  by_contra hnot
  have halone : i.extended previous sample = [sample] := by
    refine extended_of_not_continues fun row' hrow' => ?_
    obtain rfl := Option.some.inj (hprevious.symm.trans hrow')
    exact hnot
  have hone : (pick (i.extended previous sample) (i.slots previous sample).1).length ≤ 1 := by
    rw [halone]
    exact length_pick_le (f := id) (by simp) observationSlots_nodup
  have hsize := three_le_size i
  omega

/-- **A projection keeps what the row vouches for.** -/
theorem Sound.project (hsound : ∀ row, previous = some row → Sound es row)
    (i : Projection) (out : List FilterTransition) :
    Sound (es ++ [⟨previous, .project i, out, some (i.row previous)⟩]) (i.row previous) := by
  obtain hrejected | ⟨sample, hsample, hnew, hadmitted⟩ := window_cases i previous
  · -- nothing is left of the window
    have hsamples : (i.row previous).samples = [] := by
      rw [Projection.row, hrejected]
      rfl
    constructor
    · intro hready
      rw [Projection.row, hrejected] at hready
      cases hready
    · rw [hsamples]
      exact List.nodup_nil
    · rw [hsamples]
      simp
    · rw [hsamples]
      simp
    · intro since hsince
      rw [Projection.row, hrejected] at hsince
      dsimp only at hsince
      obtain ⟨⟨value, hvalue, -⟩, -⟩ := aboveSince_cases hsince
      cases hvalue
  · obtain ⟨hobserved, hvalue, -⟩ := sample_spec hsample
    have hvalid : (i.row previous).inputValid = true := by
      rw [Projection.row, hadmitted]
      rfl
    have hsamples : (i.row previous).samples =
        pick (i.extended previous sample) (i.slots previous sample).1 := by
      rw [Projection.row, hadmitted]
      rfl
    constructor
    · exact fun _ => ⟨by rw [Projection.row, hobserved]; rfl, hvalid⟩
    · rw [hsamples]
      exact nodup_pick (nodup_extended hsound hnew) observationSlots_nodup
    · intro a ha
      rw [hsamples] at ha
      refine ⟨sample.time, hobserved, ?_⟩
      obtain rfl | ⟨row, hprevious, -, hmem⟩ := mem_extended (mem_of_mem_pick ha)
      · exact le_rfl
      · obtain ⟨last, hlast, hle⟩ := (hsound row hprevious).past a hmem
        rw [hprevious] at hnew
        exact hle.trans (lt_of_not_stale hnew hlast).le
    · intro a ha
      rw [hsamples] at ha
      obtain rfl | ⟨row, hprevious, hcontinues, hmem⟩ := mem_extended (mem_of_mem_pick ha)
      · exact ⟨_, List.mem_append_right _ (List.mem_singleton_self _), i, _, ⟨rfl, rfl⟩, hvalid,
          rfl, hobserved, hvalue⟩
      · rw [show (i.row previous).scope = row.scope from (continues_iff.1 hcontinues).1.symm]
        exact ((hsound row hprevious).sampled a hmem).mono _
    · intro since hsince
      rw [Projection.row, hadmitted] at hsince
      dsimp only at hsince
      obtain ⟨⟨value, hfiltered, hle⟩, hkept⟩ := aboveSince_cases hsince
      have habove : Above (i.row previous).scope
          ⟨previous, .project i, out, some (i.row previous)⟩ := by
        refine ⟨i, i.row previous, value, ⟨rfl, rfl⟩, hvalid, rfl, ?_, ?_, hle⟩
        · rw [Projection.row, hadmitted]
          have hsome : (i.filtered (pick (i.extended previous sample)
              (i.slots previous sample).1)).isSome := by
            rw [show i.filtered _ = some value from hfiltered]
            rfl
          exact if_pos hsome
        · rw [Projection.row, hadmitted]
          exact hfiltered
      obtain ⟨row, hprevious, hscope, hready, hsince⟩ | hstart := hkept
      · obtain ⟨last, span, hlast, hspan⟩ := (hsound row hprevious).above since hsince
        obtain ⟨-, hgap⟩ := continues_iff.1 (continues_of_filtered hprevious hfiltered)
        rw [hprevious] at hnew
        rw [hscope] at hspan
        exact ⟨sample.time, _, hobserved,
          hspan.extend habove hobserved (lt_of_not_stale hnew hlast) (hgap last hlast)⟩
      · refine ⟨since, _, hstart, .start habove hstart⟩

end

/-! ## Runs -/

/-- **Along every run the row of the filter vouches for what it says.** -/
theorem run_sound (h : Run filterStep none es state) : ∀ row, state = some row → Sound es row := by
  induction h with
  | nil =>
    intro row hrow
    cases hrow
  | @snoc es s s' op out h hs ih =>
    cases op with
    | project input =>
      obtain ⟨rfl, rfl⟩ := Prod.mk.inj (Option.some.inj hs)
      intro row hrow
      obtain rfl := Option.some.inj hrow
      exact Sound.project ih input _
    | reset =>
      obtain ⟨rfl, rfl⟩ := Prod.mk.inj (Option.some.inj hs)
      intro row hrow
      cases hrow

theorem projects_eq {x : FilterEntry} {row : FilterPayload}
    (h : filterStep x.pre x.op = some (x.post, x.out))
    (hx : Projects x i row) : row = i.row x.pre := by
  rw [hx.1] at h
  obtain ⟨hpost, -⟩ := Prod.mk.inj (Option.some.inj h)
  exact Option.some.inj (hx.2.symm.trans hpost.symm)

/-- The row is of the last projection. -/
theorem run_last (h : Run filterStep none es state) {row : FilterPayload}
    (hrow : state = some row) :
    ∃ x ∈ es, ∃ input, Projects x input row ∧ row = input.row x.pre := by
  cases h with
  | nil => cases hrow
  | @snoc es s s' op out h hs =>
    cases op with
    | project input =>
      have hx : Projects ⟨s, .project input, out, state⟩ input row := ⟨rfl, hrow⟩
      exact ⟨_, List.mem_append_right _ (List.mem_singleton_self _), input, hx, projects_eq hs hx⟩
    | reset =>
      obtain ⟨rfl, -⟩ := Prod.mk.inj (Option.some.inj hs)
      cases hrow

/-- The value of a row is the median of a whole window of one scope, observed at different times. -/
structure MedianOf (es : List FilterEntry) (size : ℕ) (row : FilterPayload) (value : ℚ) : Prop where
  length : row.samples.length = size
  distinct : (row.samples.map Sample.time).Nodup
  sampled : ∀ a ∈ row.samples, Sampled es row.scope a
  median : median (row.samples.map Sample.value) = some value
  /-- At least half of the samples are not below a bound that the value is not below. -/
  majority : ∀ bound, bound ≤ value →
    (size + 1) / 2 ≤ row.samples.countP fun a => bound ≤ a.value

/-- **A filtered value of assessments is the median of its window.** -/
theorem Sound.medianOf {row : FilterPayload} {value : ℚ} (h : Sound es row)
    (hrow : row = i.row previous) (hsource : i.observation.source = .edgeState)
    (hvalue : row.value = some value) : MedianOf es i.settings.medianWindowSeconds row value := by
  obtain ⟨hlength, hmedian⟩ : row.samples.length = i.size ∧
      median (row.samples.map Sample.value) = some value := by
    obtain hrejected | ⟨sample, -, -, hadmitted⟩ := window_cases i previous
    · rw [hrow, Projection.row, hrejected] at hvalue
      cases hvalue
    · rw [hrow, Projection.row, hadmitted] at hvalue
      rw [hrow, Projection.row, hadmitted]
      obtain ⟨hlength, hmedian⟩ := filtered_eq_some hvalue
      exact ⟨hlength, hmedian hsource⟩
  refine ⟨hlength, h.distinct, h.sampled, hmedian, fun bound hbound => ?_⟩
  have hodd : (row.samples.map Sample.value).length % 2 = 1 := by
    rw [List.length_map, hlength]
    exact i.settings.window_odd
  have hmajority := majority_of_median hmedian hodd hbound
  rw [List.length_map, hlength, List.countP_map] at hmajority
  exact hmajority

end ScrapMonitoring.Filtering
