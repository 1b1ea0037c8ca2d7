import ScrapMonitoring.Filtering.HeightPages
import ScrapMonitoring.Filtering.Onset
import ScrapMonitoring.Filtering.Streams

/-!
# Prepared windows

`advance` and `project_input` are given the observations of a stream one by one, and keep nothing
but the window that they selected. Over valid observations of one scope, in order and without a long
gap, what they keep is the window of the stream (`windowAfter_eq`, `rowAfter_eq`). So a window
survives the jitter of a stream of a second's pace (`prepared_of_paced`), and a faster stream keeps
it full if and only if it is full wherever its anchor is renewed (`prepared_iff_spread`), which a
faster stream need not do (`dense_not_prepared`).
-/

namespace ScrapMonitoring.Filtering

open Monitoring

/-! ## The streams -/

/-- The window of a sensor after the profiles. -/
def windowAfter (size : ℕ) (profiles : List LidarProfile) : Option SensorWindow :=
  profiles.foldlM (fun window profile => advance size profile window) {}

/-- The row of a device after the inputs. -/
def rowAfter (inputs : List Projection) : Option FilterPayload :=
  inputs.foldl (fun row input => some (projectInput input row).1) none

/-- The profiles are valid scans of the same bins, with the frames. -/
def ScanStream (positions : List ℚ) (basis : CoverageBasis) (profiles : List LidarProfile)
    (frames : List HeightFrame) : Prop :=
  profiles.map LidarProfile.reading = frames.map fun frame => some (.scan ⟨positions, basis, frame⟩)

/-- The inputs are valid and of one scope and size, with the samples. -/
def SampleStream (scope : FilterScope) (size : ℕ) (inputs : List Projection)
    (samples : List Sample) : Prop :=
  inputs.map Projection.sample = samples.map some ∧
    ∀ input ∈ inputs, input.scope = scope ∧ input.size = size

/-- The samples are in order, without a long gap. -/
def Steady {α : Type*} (time : α → ℤ) (samples : List α) : Prop :=
  samples.IsChain fun a b => time a < time b ∧ time b - time a ≤ gapLimit

section

variable {α : Type*} {time : α → ℤ} {e : ℚ} {samples : List α}

theorem Paced.steady (h : Paced time e samples) (he : e < 1 / 2) : Steady time samples := by
  refine List.IsChain.imp (fun a b hgap => ?_) h
  obtain ⟨hlow, hhigh⟩ := hgap
  have hpos : (time a : ℚ) < time b := by linarith
  have hle : (time b - time a : ℚ) ≤ 1500000 := by linarith
  unfold gapLimit
  exact ⟨by exact_mod_cast hpos, by exact_mod_cast hle⟩

theorem Dense.steady (h : Dense time samples) : Steady time samples := by
  refine List.IsChain.imp (fun a b hgap => ?_) h
  obtain ⟨hlt, hle⟩ := hgap
  unfold seconds at hle
  unfold gapLimit
  exact ⟨hlt, by omega⟩

theorem Steady.chronological (h : Steady time samples) : Chronological time samples :=
  List.isChain_iff_pairwise.1 (List.IsChain.imp (fun _ _ hgap => hgap.1) h)

end

/-! ## The windows of the streams -/

section

variable {size : ℕ} {positions : List ℚ} {basis : CoverageBasis} {profiles : List LidarProfile}
variable {frames : List HeightFrame} {scope : FilterScope} {inputs : List Projection}
variable {samples : List Sample}

theorem ScanStream.concat {profile : LidarProfile} {frame : HeightFrame}
    (h : ScanStream positions basis (profiles ++ [profile]) (frames ++ [frame])) :
    ScanStream positions basis profiles frames ∧
      profile.reading = some (.scan ⟨positions, basis, frame⟩) := by
  unfold ScanStream at h
  rw [List.map_append, List.map_append] at h
  obtain ⟨hinit, hlast⟩ := List.append_inj' h rfl
  exact ⟨hinit, List.singleton_inj.1 hlast⟩

theorem windowAfter_concat (profiles : List LidarProfile) (profile : LidarProfile) :
    windowAfter size (profiles ++ [profile]) =
      (windowAfter size profiles).bind fun window => advance size profile window := by
  unfold windowAfter
  rw [List.foldlM_append]
  cases profiles.foldlM (fun window profile => advance size profile window) {} with
  | none => rfl
  | some window => simp

/-- **The window of a sensor is that of the stream of its frames.** -/
theorem windowAfter_eq (hsize : 0 < size) (h : ScanStream positions basis profiles frames)
    (hsteady : Steady HeightFrame.time frames) :
    ∃ window, windowAfter size profiles = some window ∧
      window.frames = (slideAll HeightFrame.time size frames).1 ∧
      window.slotAnchorAt = (slideAll HeightFrame.time size frames).2 ∧
      (frames ≠ [] → window.positions = positions ∧ window.basis = basis) := by
  induction frames using List.reverseRecOn generalizing profiles with
  | nil =>
    obtain rfl := List.map_eq_nil_iff.1 h
    exact ⟨{}, rfl, rfl, rfl, fun hne => absurd rfl hne⟩
  | append_singleton frames frame ih =>
    have hne : profiles ≠ [] := by
      rintro rfl
      simp [ScanStream] at h
    obtain ⟨profiles, profile, rfl⟩ := List.eq_nil_or_concat' profiles |>.resolve_left hne
    obtain ⟨hinit, hreading⟩ := h.concat
    obtain ⟨hframes, -, hgap⟩ := List.isChain_append.1 hsteady
    obtain ⟨window, hwindow, hkept, hanchor, hscope⟩ := ih hinit hframes
    have hadd : window.add size ⟨positions, basis, frame⟩ =
        SensorWindow.accept size ⟨positions, basis, frame⟩ window.frames window.slotAnchorAt := by
      by_cases hnil : frames = []
      · subst hnil
        have hempty : window.frames = [] := hkept
        have hnone : window.slotAnchorAt = none := hanchor
        have hmatching : window.matching ⟨positions, basis, frame⟩ = [] := by
          unfold SensorWindow.matching
          rw [hempty, ite_self]
        unfold SensorWindow.add
        rw [hmatching, hempty, hnone]
        rfl
      · obtain ⟨rest, last, rfl⟩ := List.eq_nil_or_concat' frames |>.resolve_left hnil
        obtain ⟨anchor, -, hselected⟩ := slideAll_selected hsize (Steady.chronological hframes)
        have hmatching : window.matching ⟨positions, basis, frame⟩ = window.frames :=
          if_pos (hscope hnil)
        have hlast : window.frames.getLast? = some last := by
          rw [hkept]
          exact hselected.last
        obtain ⟨hnewer, hshort⟩ := hgap last List.getLast?_concat frame rfl
        unfold SensorWindow.add
        rw [hmatching, hlast]
        dsimp only
        rw [if_neg (not_le.2 hnewer), if_neg (not_lt.2 hshort)]
    refine ⟨SensorWindow.accept size ⟨positions, basis, frame⟩ window.frames window.slotAnchorAt,
      ?_, ?_, ?_, fun _ => ⟨rfl, rfl⟩⟩
    · rw [windowAfter_concat, hwindow, Option.bind_some, advance, hreading, ← hadd]
      rfl
    · rw [slideAll_concat, hkept.symm, hanchor.symm]
      rfl
    · rw [slideAll_concat, hkept.symm, hanchor.symm]
      rfl

theorem SampleStream.concat {input : Projection} {sample : Sample}
    (h : SampleStream scope size (inputs ++ [input]) (samples ++ [sample])) :
    SampleStream scope size inputs samples ∧ input.sample = some sample ∧ input.scope = scope ∧
      input.size = size := by
  obtain ⟨hsamples, hscope⟩ := h
  rw [List.map_append, List.map_append] at hsamples
  obtain ⟨hinit, hlast⟩ := List.append_inj' hsamples rfl
  obtain ⟨hscope', hsize⟩ := hscope input (by simp)
  exact ⟨⟨hinit, fun i hi => hscope i (List.mem_append_left _ hi)⟩, List.singleton_inj.1 hlast,
    hscope', hsize⟩

/-- The time of a valid sample is that of its observation. -/
theorem observedTo_of_sample {input : Projection} {sample : Sample}
    (h : input.sample = some sample) :
    input.observation.observedTo = some sample.time := by
  unfold Projection.sample at h
  split at h
  · split_ifs at h
    obtain rfl := Option.some.inj h
    assumption
  · cases h

/-- The row with a sample that goes on with the samples kept, from the anchor kept. -/
theorem row_slide {input : Projection} {sample : Sample} {previous : Option FilterPayload}
    {kept : List Sample} {anchor : Option ℤ} (h : input.sample = some sample)
    (hstale : stale previous sample = false)
    (hkept : ((previous.filter fun row => input.continues row sample).map
      FilterPayload.samples).getD [] = kept)
    (hanchor : ((previous.filter fun row => input.continues row sample).bind
      FilterPayload.slotAnchorAt) = anchor) :
    (input.row previous).samples = (slide Sample.time input.size kept anchor sample).1 ∧
      (input.row previous).slotAnchorAt =
        some (slide Sample.time input.size kept anchor sample).2 := by
  have hwindow : input.window previous = input.admitted previous sample := by
    unfold Projection.window
    rw [h]
    dsimp only
    rw [hstale]
    rfl
  have hslots : input.slots previous sample =
      observationSlots ((kept ++ [sample]).map Sample.time) sample.time input.size anchor := by
    unfold Projection.slots Projection.extended
    rw [hkept, hanchor]
  unfold Projection.row
  rw [hwindow]
  unfold Projection.admitted slide
  rw [hslots]
  unfold Projection.extended
  rw [hkept]
  exact ⟨rfl, rfl⟩

/-- **The row of a device has the window of the stream of its samples.** -/
theorem rowAfter_eq {last : Sample} (hsize : 0 < size) (h : SampleStream scope size inputs samples)
    (hsteady : Steady Sample.time samples) (hlast : samples.getLast? = some last) :
    ∃ row, rowAfter inputs = some row ∧ row.scope = scope ∧ row.observedAt = some last.time ∧
      row.samples = (slideAll Sample.time size samples).1 ∧
      row.slotAnchorAt = (slideAll Sample.time size samples).2 := by
  induction samples using List.reverseRecOn generalizing inputs last with
  | nil => cases hlast
  | append_singleton samples sample ih =>
    rw [List.getLast?_concat] at hlast
    obtain rfl := Option.some.inj hlast
    have hne : inputs ≠ [] := by
      rintro rfl
      simp [SampleStream] at h
    obtain ⟨inputs, input, rfl⟩ := List.eq_nil_or_concat' inputs |>.resolve_left hne
    obtain ⟨hinit, hsample, rfl, rfl⟩ := h.concat
    obtain ⟨hsamples, -, hgap⟩ := List.isChain_append.1 hsteady
    have hrow : rowAfter (inputs ++ [input]) = some (input.row (rowAfter inputs)) := by
      unfold rowAfter
      rw [List.foldl_append]
      rfl
    refine ⟨_, hrow, rfl, observedTo_of_sample hsample, ?_⟩
    rw [slideAll_concat]
    by_cases hnil : samples = []
    · subst hnil
      obtain rfl := List.map_eq_nil_iff.1 hinit.1
      exact row_slide hsample rfl rfl rfl
    · obtain ⟨rest, last, rfl⟩ := List.eq_nil_or_concat' samples |>.resolve_left hnil
      obtain ⟨row, hprevious, hscope, hobserved, hkept, hanchor⟩ :=
        ih hinit hsamples List.getLast?_concat
      obtain ⟨hnewer, hshort⟩ := hgap last List.getLast?_concat sample rfl
      have hcontinues : input.continues row sample = true := by
        unfold Projection.continues
        rw [hobserved, Option.any_some]
        simpa [hscope] using hshort
      have hfilter : ((some row).filter fun row => input.continues row sample) = some row := by
        rw [Option.filter_some, if_pos hcontinues]
      rw [hprevious, ← hkept, ← hanchor]
      refine row_slide hsample ?_ ?_ ?_
      · unfold stale
        rw [Option.bind_some, hobserved, Option.any_some]
        exact decide_eq_false (not_le.2 hnewer)
      · rw [hfilter]
        rfl
      · rw [hfilter]
        rfl

/-! ## Prepared windows -/

theorem ScanStream.take (h : ScanStream positions basis profiles frames) (n : ℕ) :
    ScanStream positions basis (profiles.take n) (frames.take n) := by
  unfold ScanStream at h ⊢
  rw [List.map_take, List.map_take, h]

theorem ScanStream.length_eq (h : ScanStream positions basis profiles frames) :
    profiles.length = frames.length := by
  simpa using congrArg List.length h

theorem SampleStream.take (h : SampleStream scope size inputs samples) (n : ℕ) :
    SampleStream scope size (inputs.take n) (samples.take n) := by
  refine ⟨?_, fun input hinput => h.2 input (List.mem_of_mem_take hinput)⟩
  rw [List.map_take, List.map_take, h.1]

theorem SampleStream.length_eq (h : SampleStream scope size inputs samples) :
    inputs.length = samples.length := by
  simpa using congrArg List.length h.1

/-- **A prepared window survives bounded jitter.** -/
theorem prepared_of_paced {e : ℚ} (hsize : 0 < size) (he : 0 ≤ e) (hsum : size * e < 1 / 2) :
    (∀ positions basis profiles frames, ScanStream positions basis profiles frames →
      Paced HeightFrame.time e frames → ∀ n, size ≤ n → n ≤ profiles.length →
        ∃ window, windowAfter size (profiles.take n) = some window ∧ window.frames.length = size) ∧
    ∀ scope inputs samples, SampleStream scope size inputs samples → Paced Sample.time e samples →
      ∀ n, size ≤ n → n ≤ inputs.length →
        ∃ row, rowAfter (inputs.take n) = some row ∧ row.samples.length = size := by
  have hhalf := error_lt_half hsize hsum
  refine ⟨fun positions basis profiles frames h hpaced n hn hlength => ?_,
    fun scope inputs samples h hpaced n hn hlength => ?_⟩
  · have hpaced' : Paced HeightFrame.time e (frames.take n) := List.IsChain.take hpaced n
    obtain ⟨window, hwindow, hkept, -⟩ := windowAfter_eq hsize (h.take n) (hpaced'.steady hhalf)
    refine ⟨window, hwindow, ?_⟩
    rw [hkept, (slideAll_of_paced hsize he hsum hpaced').1, length_newest, List.length_take,
      ← h.length_eq]
    omega
  · have hpaced' : Paced Sample.time e (samples.take n) := List.IsChain.take hpaced n
    have hlength' : (samples.take n).length = n := by
      rw [List.length_take, ← h.length_eq]
      omega
    obtain ⟨last, hlast⟩ : ∃ last, (samples.take n).getLast? = some last :=
      ⟨_, List.getLast?_eq_some_getLast (List.ne_nil_of_length_pos (by omega))⟩
    obtain ⟨row, hrow, -, -, hkept, -⟩ := rowAfter_eq hsize (h.take n) (hpaced'.steady hhalf) hlast
    refine ⟨row, hrow, ?_⟩
    rw [hkept, (slideAll_of_paced hsize he hsum hpaced').1, length_newest, hlength']
    omega

/-- The same for what keeps the windows of the stream. -/
theorem full_iff_of_windows {α σ : Type*} {time : α → ℤ} {l : List α} {after : ℕ → Option σ}
    {kept : σ → List α} {anchor : σ → Option ℤ} (hsize : 0 < size) (h : Dense time l)
    (hafter : ∀ n, l.take n ≠ [] → ∃ w, after n = some w ∧
      kept w = (slideAll time size (l.take n)).1 ∧ anchor w = (slideAll time size (l.take n)).2) :
    (∀ n, Lasted time size (l.take n) → ∃ w, after n = some w ∧ (kept w).length = size) ↔
      ∀ n w new, after n = some w → l[n]? = some new → n ≠ 0 → Renews time size (anchor w) new →
        Spread time size (kept w) new := by
  have hfull : (∀ n, Lasted time size (l.take n) → ∃ w, after n = some w ∧ (kept w).length = size) ↔
      ∀ n, Lasted time size (l.take n) → (slideAll time size (l.take n)).1.length = size := by
    refine forall_congr' fun n => forall_congr' fun hlasted => ?_
    obtain ⟨w, hw, hkept, -⟩ := hafter n fun hnil => by
      obtain ⟨first, hfirst, -⟩ := hlasted
      rw [hnil] at hfirst
      cases hfirst
    rw [hw, ← hkept]
    simp
  rw [hfull, full_iff_renewals_take hsize h]
  refine forall_congr' fun n => ⟨fun hall w new hw hnew hn => ?_, fun hall new hnew hn => ?_⟩
  all_goals
    obtain ⟨w', hw', hkept, hanchor⟩ := hafter n (by
      have hlt := (List.getElem?_eq_some_iff.1 hnew).1
      refine List.ne_nil_of_length_pos ?_
      rw [List.length_take]
      omega)
  · obtain rfl := Option.some.inj (hw.symm.trans hw')
    rw [hkept, hanchor]
    exact hall new hnew hn
  · rw [← hkept, ← hanchor]
    exact hall w' new hw' hnew hn

/-- **When a faster stream stays prepared**: if and only if, at every observation that renews the
anchor, the frames kept and the new one that are in the window have as many different seconds from
the oldest one as the window has. -/
theorem prepared_iff_spread (hsize : 0 < size) :
    (∀ positions basis profiles frames, ScanStream positions basis profiles frames →
      Dense HeightFrame.time frames →
      ((∀ n, Lasted HeightFrame.time size (frames.take n) →
          ∃ window, windowAfter size (profiles.take n) = some window ∧
          window.frames.length = size) ↔
        ∀ n window frame, windowAfter size (profiles.take n) = some window →
        frames[n]? = some frame →
          n ≠ 0 → Renews HeightFrame.time size window.slotAnchorAt frame →
            Spread HeightFrame.time size window.frames frame)) ∧
    ∀ scope inputs samples, SampleStream scope size inputs samples → Dense Sample.time samples →
      ((∀ n, Lasted Sample.time size (samples.take n) →
          ∃ row, rowAfter (inputs.take n) = some row ∧ row.samples.length = size) ↔
        ∀ n row sample, rowAfter (inputs.take n) = some row → samples[n]? = some sample →
          n ≠ 0 → Renews Sample.time size row.slotAnchorAt sample →
            Spread Sample.time size row.samples sample) := by
  refine ⟨fun positions basis profiles frames h hdense => ?_,
    fun scope inputs samples h hdense => ?_⟩
  · refine full_iff_of_windows hsize hdense fun n _ => ?_
    have hsteady : Steady HeightFrame.time (frames.take n) := List.IsChain.take hdense.steady n
    obtain ⟨window, hwindow, hkept, hanchor, -⟩ := windowAfter_eq hsize (h.take n) hsteady
    exact ⟨window, hwindow, hkept, hanchor⟩
  · refine full_iff_of_windows hsize hdense fun n hne => ?_
    have hsteady : Steady Sample.time (samples.take n) := List.IsChain.take hdense.steady n
    obtain ⟨row, hrow, -, -, hkept, hanchor⟩ :=
      rowAfter_eq hsize (h.take n) hsteady (List.getLast?_eq_some_getLast hne)
    exact ⟨row, hrow, hkept, hanchor⟩

end

/-! ## Streams of scans -/

def sampleFrame (time : ℤ) : HeightFrame := ⟨time, [some 7], none⟩

def sampleProfiles (times : List ℤ) : List LidarProfile :=
  times.map fun time => sampleProfile time 7

theorem scanStream_sample (times : List ℤ) :
    ScanStream [0] .spatialBins (sampleProfiles times) (times.map sampleFrame) := by
  unfold ScanStream sampleProfiles
  rw [List.map_map, List.map_map]
  rfl

def sampleInputs : List Projection :=
  [highProjection "m-1" 101000000 101000000, highProjection "m-2" 102100000 102100000,
    highProjection "m-3" 103000000 103000000]

theorem sampleStream_sample : ∃ scope, SampleStream scope 3 sampleInputs
    [⟨101000000, 95⟩, ⟨102100000, 95⟩, ⟨103000000, 95⟩] := by
  refine ⟨(highProjection "m-1" 101000000 101000000).scope, by decide +kernel,
    fun input hinput => ?_⟩
  simp only [sampleInputs, List.mem_cons, List.not_mem_nil, or_false] at hinput
  rcases hinput with rfl | rfl | rfl <;> exact ⟨rfl, rfl⟩

theorem prepared_of_paced_sample :
    (∃ window, windowAfter 3 (sampleProfiles [1000000, 2100000, 3000000]) = some window ∧
      window.frames.length = 3) ∧
    ∃ row, rowAfter sampleInputs = some row ∧ row.samples.length = 3 := by
  obtain ⟨scope, hstream⟩ := sampleStream_sample
  have hprepared := prepared_of_paced (e := 1 / 10) (by decide : 0 < 3) (by norm_num) (by norm_num)
  refine ⟨hprepared.1 _ _ _ _ (scanStream_sample [1000000, 2100000, 3000000]) ?_ 3 le_rfl le_rfl,
    hprepared.2 _ _ _ hstream ?_ 3 le_rfl le_rfl⟩
  · simp [Paced, sampleFrame]
    norm_num
  · simp [Paced]
    norm_num

/-- The window of a stream without a gap, of gaps of less than a second, is not full after three
seconds. -/
theorem dense_not_prepared : ¬∀ size, size % 2 = 1 → 3 ≤ size → ∀ positions basis profiles frames,
    ScanStream positions basis profiles frames → Dense HeightFrame.time frames →
      Lasted HeightFrame.time size frames →
        ∃ window, windowAfter size profiles = some window ∧ window.frames.length = size := by
  intro hprepared
  obtain ⟨window, hwindow, hlength⟩ := hprepared 3 (by decide) le_rfl _ _ _ _
    (scanStream_sample [0, 700000, 1600000, 2300000, 3000000])
    (by simp [Dense, sampleFrame, seconds]) (by decide)
  have htwo : (windowAfter 3 (sampleProfiles [0, 700000, 1600000, 2300000, 3000000])).map
      (·.frames.length) = some 2 := by decide +kernel
  rw [hwindow, Option.map_some, hlength] at htwo
  cases htwo

/-- A stream of a second's pace is full, so that its window has samples wherever the anchor is
renewed. -/
theorem prepared_iff_spread_sample :
    Dense HeightFrame.time ([0, 1000000, 2000000, 3000000, 4000000].map sampleFrame) ∧
      ∀ n window frame,
        windowAfter 3 ((sampleProfiles [0, 1000000, 2000000, 3000000, 4000000]).take n) =
        some window → ([0, 1000000, 2000000, 3000000, 4000000].map sampleFrame)[n]? = some frame →
        n ≠ 0 →
          Renews HeightFrame.time 3 window.slotAnchorAt frame →
            Spread HeightFrame.time 3 window.frames frame := by
  have hdense :
      Dense HeightFrame.time ([0, 1000000, 2000000, 3000000, 4000000].map sampleFrame) := by
    simp [Dense, sampleFrame, seconds]
  refine ⟨hdense, ((prepared_iff_spread (by decide)).1 _ _ _ _
    (scanStream_sample [0, 1000000, 2000000, 3000000, 4000000]) hdense).1 fun n hlasted => ?_⟩
  rcases Nat.lt_or_ge n 4 with hfew | hmany
  · have hshort : ∀ n < 4, ¬Lasted HeightFrame.time 3
        (([0, 1000000, 2000000, 3000000, 4000000].map sampleFrame).take n) := by decide
    exact absurd hlasted (hshort n hfew)
  · obtain rfl | hall : n = 4 ∨ 5 ≤ n := by omega
    · exact ⟨_, rfl, by decide +kernel⟩
    · have htake : (sampleProfiles [0, 1000000, 2000000, 3000000, 4000000]).take n =
          sampleProfiles [0, 1000000, 2000000, 3000000, 4000000] := List.take_of_length_le hall
      rw [htake]
      exact ⟨_, rfl, by decide +kernel⟩

end ScrapMonitoring.Filtering
