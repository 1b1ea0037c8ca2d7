import ScrapMonitoring.Collection.Spans

/-!
# Where a baseline comes from

A baseline `B` is *supported* when some span of consecutive observations, without an outage in it,
lasts for the baseline duration with every height at least `B` less the band: a brief spike
supports no baseline. Four of the five places that write the baseline look at such a span. The end
of a collection does not: it takes the middle of the stability window, however short that window is
(`spike_becomes_baseline`). When every collection ends on a window that has lasted for the baseline
duration (`EndsSteady`), every baseline is supported (`baseline_supported`).
-/

namespace ScrapMonitoring.Collection

variable {cfg : Settings} {digest : String → ℤ → String} {profile : Option Profile}
variable {s s' s₀ : CollectionTracker} {es : History} {events : List DetectionEvent}
variable {h : ℚ} {t : ℤ} {drop : ℚ} {B : ℚ} {e : Step}

/-- Some span of observations supports the baseline `B`. -/
def Supported (cfg : Settings) (es : History) (B : ℚ) : Prop :=
  ∃ span, span <:+: es ∧ Lasts Step.time (seconds cfg.baselineSeconds) span ∧
    ∀ e ∈ span, HeightAbove (B - cfg.bandCm) e

theorem Supported.append (h : Supported cfg es B) (fs : History) : Supported cfg (es ++ fs) B := by
  obtain ⟨span, hspan, hlast, hP⟩ := h
  exact ⟨span, hspan.trans (List.prefix_append es fs).isInfix, hlast, hP⟩

/-- A timer that has run for the baseline duration supports the level it vouches for. -/
theorem Supported.of_span {since : ℤ} (he : e.op = .advance h t)
    (hspan : SpanSince Step.time (HeightAbove (B - cfg.bandCm)) since (es ++ [e]))
    (hlast : seconds cfg.baselineSeconds ≤ t - since) : Supported cfg (es ++ [e]) B := by
  have htime : Step.time e = t := by rw [Step.time, he, Op.time]
  obtain ⟨span, hsuffix, hlasts, hP⟩ := hspan.lasts (htime ▸ hlast)
  exact ⟨span, hsuffix.isInfix, hlasts, hP⟩

/-- A stability window that has lasted for the baseline duration supports its middle. -/
theorem Timers.supported_height (hs : Timers cfg es s) (he : e.op = .advance h t)
    (hw : (stableWindow cfg s h t).Prepared cfg t) :
    Supported cfg (es ++ [e]) (stableWindow cfg s h t).height := by
  obtain ⟨hlow, hhigh, hwide, -⟩ := stableWindow_spec cfg s h t
  have hband := cfg.bandCm_pos
  have hle : (stableWindow cfg s h t).height - cfg.bandCm ≤ (stableWindow cfg s h t).low := by
    unfold StableWindow.height
    linarith
  exact .of_span he ((hs.stable_span he).mono fun x hx => hx.above hle) hw

/-- A level that was sustained is supported. -/
theorem Timers.supported_level {level : ℚ} (hs : Timers cfg es s) (he : e.op = .advance h t)
    (hlevel : (sustainedReference cfg (seen cfg s h t) h t).2 = some level) :
    Supported cfg (es ++ [e]) level := by
  rcases sustainedReference_spec cfg (seen cfg s h t) h t with hr | ⟨hlast, hr⟩ <;>
    rw [hr] at hlevel
  · simp at hlevel
  · obtain rfl := Option.some.inj hlevel
    exact .of_span he (hs.reference_span he).2.2 hlast

/-- A raised baseline is supported if the one before was. -/
theorem Timers.supported_raised {b₀ : ℚ} (hs : Timers cfg es s) (he : e.op = .advance h t)
    (hb₀ : Supported cfg es b₀) :
    Supported cfg (es ++ [e]) (raisedBaseline cfg b₀ (stableWindow cfg s h t)
      (sustainedReference cfg (seen cfg s h t) h t).2 h t) := by
  rcases raisedBaseline_spec cfg b₀ (stableWindow cfg s h t)
    (sustainedReference cfg (seen cfg s h t) h t).2 h t with hb | hb | ⟨hb, hw⟩
  · rw [hb]
    exact hb₀.append [e]
  · exact hs.supported_level he hb
  · rw [hb]
    exact hs.supported_height he hw

/-- The collection that ends with this operation, if one does, ends on a stability window that has
lasted for the baseline duration. A collection ends when the height is less than the band below the
anchor and the quiet interval has lasted for `wait` seconds; the condition is about the tracker
before the operation. -/
def EndsSteady (cfg : Settings) (wait : ℤ) (s : CollectionTracker) : Op → Prop
  | .advance h t =>
    s.phase = .collecting → ∀ anchor ∈ s.progressAnchorCm, ∀ quiet ∈ s.quietSince,
      anchor - h < cfg.bandCm → seconds wait ≤ t - quiet →
        ∃ since ∈ s.stableSince, ∃ low ∈ s.stableMinCm, ∃ high ∈ s.stableMaxCm,
          max high h - min low h ≤ cfg.bandCm ∧ seconds cfg.baselineSeconds ≤ t - since
  | .invalidate _ => True

instance (cfg : Settings) (wait : ℤ) (s : CollectionTracker) :
    (op : Op) → Decidable (EndsSteady cfg wait s op)
  | .advance _ _ => inferInstanceAs (Decidable (_ → _))
  | .invalidate _ => inferInstanceAs (Decidable True)

theorem EndsSteady.prepared {wait : ℤ} (hsteady : EndsSteady cfg wait s (.advance h t))
    (hp : s.phase = .collecting) {anchor : ℚ} {quiet : ℤ}
    (ha : s.progressAnchorCm = some anchor) (hq : s.quietSince = some quiet)
    (hdrop : anchor - h < cfg.bandCm) (hlast : seconds wait ≤ t - quiet) :
    (stableWindow cfg s h t).Prepared cfg t := by
  obtain ⟨since, hsince, low, hlow, high, hhigh, hwide, hprep⟩ :=
    hsteady hp anchor ha quiet hq hdrop hlast
  have hw : stableWindow cfg s h t = ⟨since, min low h, max high h⟩ := by
    rw [Option.mem_def] at hsince hlow hhigh
    simp only [stableWindow, hsince, hlow, hhigh, if_neg (not_lt.2 hwide)]
  rw [hw]
  exact hprep

/-- In IDLE and CANDIDATE the baseline is supported. -/
def BaselineSupported (cfg : Settings) (es : History) (s : CollectionTracker) : Prop :=
  s.phase = .idle ∨ s.phase = .candidate → ∀ B ∈ s.baselineCm, Supported cfg es B

theorem BaselineSupported.outcome (hb : BaselineSupported cfg es s) (hs : Timers cfg es s)
    (he : e.op = .advance h t) (hsteady : EndsSteady cfg (wait cfg profile) s (.advance h t))
    (hout : Outcome cfg digest drop (wait cfg profile) s h t s' events) :
    BaselineSupported cfg (es ++ [e]) s' := by
  cases hout with
  | waiting hp => exact fun hphase => by simp [setReference, seen, observe, hp] at hphase
  | ready hp hsource =>
    rintro - _ ⟨⟩
    rcases hsource with ⟨rfl, hw⟩ | hlevel
    · exact hs.supported_height he hw
    · exact hs.supported_level he hlevel
  | collecting hp hps hset =>
    obtain ⟨a, q, p, rfl⟩ := hps.frame
    exact fun hphase => by simp [seen, observe, hp] at hphase
  | settled hp hps hset =>
    obtain ⟨anchor, quiet, ha, hq, hdrop, hlast⟩ := hps.settled (wait_pos cfg profile) hset
    rintro - _ ⟨⟩
    exact hs.supported_height he (hsteady.prepared hp ha hq hdrop hlast)
  | idle hp hb₀ hraise | candidate hp hb₀ hraise =>
    rintro - _ ⟨⟩
    rw [hraise]
    exact hs.supported_raised he (hb hp _ hb₀)
  | detected => exact fun hphase => by simp at hphase

/-- **A brief spike never becomes the baseline** of a run whose collections all end on a steady
window. -/
theorem baseline_supported {pitId scopeToken : String} {observedAt : ℤ} {simulated : Bool}
    (hrun : Run (step cfg digest profile) (.fresh pitId scopeToken observedAt simulated) es s)
    (hsteady : ∀ e ∈ es, EndsSteady cfg (wait cfg profile) e.pre e.op)
    (hphase : s.phase = .idle ∨ s.phase = .candidate) (hB : s.baselineCm = some B) :
    Supported cfg es B := by
  suffices hinv : BaselineSupported cfg es s from hinv hphase B hB
  clear hphase hB
  induction hrun with
  | nil => exact fun hphase => by simp [CollectionTracker.fresh] at hphase
  | snoc hrun hstep ih =>
    have hb := ih fun e he => hsteady e (List.mem_append_left _ he)
    have hs := Timers.of_run hrun (.fresh ..)
    rcases step_cases hstep with ⟨now, rfl, rfl, rfl⟩ | ⟨h, t, d, rfl, -, hout⟩
    · intro hphase
      simp only [invalidate] at hphase
      split_ifs at hphase <;> simp_all
    · exact hb.outcome hs rfl (hsteady _ (List.mem_append_right _ (List.mem_singleton_self _))) hout

/-- The theorem on a collection that ends on a steady height. -/
theorem baseline_supported_steady :
    ∃ es s, Run (step toySettings toyDigest none) toyTracker es s ∧
      s.phase = .idle ∧ s.baselineCm = some 650 ∧ Supported toySettings es 650 := by
  have hresult : (exec (step toySettings toyDigest none) toyTracker
      (feed 0 ([1000, 1000, 1000, 1000] ++ List.replicate 9 650))).map
        (fun r => (r.2.phase, r.2.baselineCm,
          r.1.all fun e => EndsSteady toySettings (wait toySettings none) e.pre e.op)) =
        some (.idle, some 650, true) := by decide +kernel
  obtain ⟨⟨es, s⟩, hexec, hs⟩ := Option.map_eq_some_iff.1 hresult
  simp only [Prod.mk.injEq, List.all_eq_true, decide_eq_true_eq] at hs
  obtain ⟨hp, hB, hsteady⟩ := hs
  exact ⟨es, s, Run.of_exec hexec, hp, hB,
    baseline_supported (Run.of_exec hexec) hsteady (Or.inl hp) hB⟩

/-! ## The end of a collection -/

/-- A height seen at one time only supports no baseline. -/
theorem not_supported_of_spike (t₀ : ℤ)
    (hspike : ∀ e ∈ es, HeightAbove (B - cfg.bandCm) e → Step.time e = t₀) :
    ¬ Supported cfg es B := by
  rintro ⟨span, hspan, ⟨a, ha, b, hb, hlast⟩, hP⟩
  have htime : ∀ e ∈ span, Step.time e = t₀ := fun e he =>
    hspike e (hspan.subset he) (hP e he)
  have hpos := seconds_pos cfg.baseline_pos
  have ha' := htime a (List.mem_of_mem_head? ha)
  have hb' := htime b (List.mem_of_mem_getLast? hb)
  omega

/-- **A spike at the end of a collection becomes the baseline.** The pit is emptied from 1000 cm to
650 cm, and the observation with which the quiet interval has lasted shows 5000 cm. -/
theorem spike_becomes_baseline :
    ¬ ∀ es s, Run (step toySettings toyDigest none) toyTracker es s → Increasing es →
      (s.phase = .idle ∨ s.phase = .candidate) →
        ∀ B ∈ s.baselineCm, Supported toySettings es B := by
  intro hclaim
  have hstate : (exec (step toySettings toyDigest none) toyTracker
      (feed 0 ([1000, 1000, 1000, 1000] ++ List.replicate 8 650 ++ [5000]))).map
        (fun r => (r.2.phase, r.2.baselineCm)) = some (.idle, some 5000) := by decide +kernel
  obtain ⟨⟨es, s⟩, hexec, hs⟩ := Option.map_eq_some_iff.1 hstate
  obtain ⟨hp, hB⟩ := Prod.ext_iff.1 hs
  have hinc : Increasing es := (increasing_iff (exec_ops hexec)).2 (by decide +kernel)
  have hspike : (es.map Entry.op).all (fun op => match op with
      | .advance h t => h < 5000 - toySettings.bandCm || t = seconds 12
      | .invalidate _ => true) = true := by
    rw [exec_ops hexec]
    decide +kernel
  rw [List.all_eq_true] at hspike
  refine not_supported_of_spike (seconds 12) (fun e he hheight => ?_)
    (hclaim es s (Run.of_exec hexec) hinc (Or.inl hp) 5000 hB)
  obtain ⟨h, t, hop, hh⟩ := hheight
  have hsmall := hspike e.op (List.mem_map_of_mem he)
  simp only [hop, Bool.or_eq_true, decide_eq_true_eq] at hsmall
  rw [Step.time, hop]
  exact hsmall.resolve_left (not_lt.2 hh)

end ScrapMonitoring.Collection
