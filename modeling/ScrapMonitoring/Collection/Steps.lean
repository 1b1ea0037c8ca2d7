import Mathlib.Tactic.Linarith
import ScrapMonitoring.Collection.Tracker

/-!
# What one operation on the tracker does

One lemma for each part of `advance`, stated so that the proofs about runs never unfold it: the
stability window (`stableWindow_spec`), the reference level (`referenceLevel_spec`), the
rise of the baseline (`raisedBaseline_spec`) and the further drops of a collection
(`trackProgress_spec`). `Outcome` lists everything an observation can do, and `advance_outcome`
says that there is nothing else.
-/

namespace ScrapMonitoring.Collection

variable {cfg : Settings} {digest : String → ℤ → String} {settle : Option ℤ}
variable {s s' : CollectionTracker} {h : ℚ} {t : ℤ} {w : StableWindow}
variable {events : List DetectionEvent}

theorem Settings.bandCm_pos (cfg : Settings) : 0 < cfg.bandCm := by
  have := cfg.band_pos
  unfold Settings.bandCm
  linarith

/-! ## The stability window -/

/-- The window holds the new height, is no wider than the band, and either starts with this
observation or goes on from the window before it. -/
theorem stableWindow_spec (cfg : Settings) (s : CollectionTracker) (h : ℚ) (t : ℤ) :
    (stableWindow cfg s h t).low ≤ h ∧ h ≤ (stableWindow cfg s h t).high ∧
      (stableWindow cfg s h t).high - (stableWindow cfg s h t).low ≤ cfg.bandCm ∧
      (stableWindow cfg s h t = ⟨t, h, h⟩ ∨
        s.stableSince = some (stableWindow cfg s h t).since ∧
          (∀ low ∈ s.stableMinCm, (stableWindow cfg s h t).low ≤ low) ∧
          ∀ high ∈ s.stableMaxCm, high ≤ (stableWindow cfg s h t).high) := by
  have hband := cfg.bandCm_pos
  cases hs : s.stableSince with
  | none => simp [stableWindow, hs, hband.le]
  | some since =>
    simp only [stableWindow, hs]
    split_ifs with hwide
    · simp [hband.le]
    · refine ⟨?_, ?_, by simpa using hwide, Or.inr ⟨rfl, ?_, ?_⟩⟩ <;>
        cases s.stableMinCm <;> cases s.stableMaxCm <;> simp

/-- The middle of the window is within the band above the new height. -/
theorem stableWindow_height_sub_lt (cfg : Settings) (s : CollectionTracker) (h : ℚ) (t : ℤ) :
    (stableWindow cfg s h t).height - h < cfg.bandCm := by
  obtain ⟨hlow, hhigh, hwide, -⟩ := stableWindow_spec cfg s h t
  have hband := cfg.bandCm_pos
  unfold StableWindow.height
  linarith

/-! ## The reference level -/

/-- The candidate level starts with this observation, or goes on from the candidate before it,
whose peak this observation stays within the band of. -/
theorem referenceLevel_spec (cfg : Settings) (s : CollectionTracker) (h : ℚ) (t : ℤ) :
    referenceLevel cfg s h t = ⟨h, t, h⟩ ∨
      ∃ peak, s.referenceCandidateCm = some (referenceLevel cfg s h t).candidate ∧
        s.referenceCandidateSince = some (referenceLevel cfg s h t).since ∧
        s.referencePeakCm = some peak ∧ peak - cfg.bandCm ≤ h ∧
        (referenceLevel cfg s h t).peak = max peak h := by
  unfold referenceLevel
  split
  · rename_i candidate since peak hc hs hp
    split_ifs with hdrop
    · exact Or.inl rfl
    · exact Or.inr ⟨peak, hc, hs, hp, not_lt.1 hdrop, rfl⟩
  · exact Or.inl rfl

/-- A level is accepted when it has lasted for the baseline duration. -/
theorem sustainedReference_spec (cfg : Settings) (s : CollectionTracker) (h : ℚ) (t : ℤ) :
    sustainedReference cfg s h t = (referenceLevel cfg s h t, none) ∨
      seconds cfg.baselineSeconds ≤ t - (referenceLevel cfg s h t).since ∧
        sustainedReference cfg s h t =
          (⟨h, t, h⟩, some (referenceLevel cfg s h t).candidate) := by
  simp only [sustainedReference]
  split_ifs with hlast
  · exact Or.inl rfl
  · exact Or.inr ⟨not_lt.1 hlast, rfl⟩

/-! ## The rise of the baseline -/

/-- The baseline is the one before, a level that was sustained, or one that was stable. -/
theorem raisedBaseline_spec (cfg : Settings) (b : ℚ) (w : StableWindow) (supported : Option ℚ)
    (h : ℚ) (t : ℤ) :
    raisedBaseline cfg b w supported h t = b ∨
      supported = some (raisedBaseline cfg b w supported h t) ∨
      raisedBaseline cfg b w supported h t = w.height ∧ w.Prepared cfg t := by
  cases supported with
  | none =>
    simp only [raisedBaseline]
    split_ifs with hw
    · rcases max_choice b w.height with hm | hm <;> simp [hm, hw.2]
    · exact Or.inl rfl
  | some level =>
    simp only [raisedBaseline]
    split_ifs with hw
    · rcases max_choice (max b level) w.height with hm | hm
      · rw [hm]
        rcases max_choice b level with hm' | hm' <;> simp [hm']
      · simp [hm, hw.2]
    · rcases max_choice b level with hm' | hm' <;> simp [hm']

/-! ## Further drops -/

/-- What an observation does to the anchor, the quiet interval and the pending further drop. -/
inductive ProgressStep (cfg : Settings) (s : CollectionTracker) (h : ℚ) (t : ℤ) :
    CollectionTracker → Prop
  /-- The first observation after an outage starts afresh. -/
  | resumed (hs : s.progressAnchorCm = none ∨ s.quietSince = none) :
      ProgressStep cfg s h t
        { s with
          progressAnchorCm := some h, quietSince := some t, progressCandidateSince := none }
  /-- A further drop has lasted for the confirm duration. -/
  | confirmed {a : ℚ} {q : ℤ} (ha : s.progressAnchorCm = some a) (hq : s.quietSince = some q)
      (hdrop : cfg.bandCm ≤ a - h)
      (hlast : seconds cfg.confirmSeconds ≤ t - s.progressCandidateSince.getD t) :
      ProgressStep cfg s h t
        { s with
          progressAnchorCm := some h, quietSince := some t, progressCandidateSince := none }
  /-- A further drop is pending. -/
  | pending {a : ℚ} {q : ℤ} (ha : s.progressAnchorCm = some a) (hq : s.quietSince = some q)
      (hdrop : cfg.bandCm ≤ a - h)
      (hlast : t - s.progressCandidateSince.getD t < seconds cfg.confirmSeconds) :
      ProgressStep cfg s h t
        { s with
          progressAnchorCm := some a, quietSince := some q
          progressCandidateSince := some (s.progressCandidateSince.getD t) }
  /-- There is no further drop; the anchor may rise. -/
  | quiet {a a' : ℚ} {q : ℤ} (ha : s.progressAnchorCm = some a) (hq : s.quietSince = some q)
      (hle : a ≤ a') (hdrop : a - h < cfg.bandCm) :
      ProgressStep cfg s h t
        { s with
          progressAnchorCm := some a', quietSince := some q, progressCandidateSince := none }

theorem trackProgress_spec (hw : w.height - h < cfg.bandCm) :
    ProgressStep cfg s h t (trackProgress cfg s w h t) := by
  have hband := cfg.bandCm_pos
  unfold trackProgress
  split
  · rename_i a q ha hq
    by_cases hrise : a < h ∧ w.Prepared cfg t
    · -- an anchor that rises ends within the band above the height
      have hno : ¬ cfg.bandCm ≤ max a w.height - h := by
        rcases max_choice a w.height with hm | hm <;> rw [hm] <;> linarith [hrise.1]
      simp only [trackDrop, if_pos hrise, if_neg hno]
      exact .quiet ha hq (le_max_left _ _) (by linarith [hrise.1])
    · simp only [trackDrop, if_neg hrise]
      split_ifs with hdrop hlast
      · exact .confirmed ha hq hdrop hlast
      · exact .pending ha hq hdrop (not_le.1 hlast)
      · exact .quiet ha hq le_rfl (not_le.1 hdrop)
  · rename_i hnone
    have hs : s.progressAnchorCm = none ∨ s.quietSince = none := by
      cases ha : s.progressAnchorCm with
      | none => exact Or.inl rfl
      | some a =>
        cases hq : s.quietSince with
        | none => exact Or.inr rfl
        | some q => exact (hnone a q ha hq).elim
    have hno : ¬ cfg.bandCm ≤ h - h := by linarith
    simp only [trackDrop, lt_self_iff_false, false_and, if_false, hno]
    exact .resumed hs

/-- A collection ends only without a further drop, after the quiet interval. -/
theorem ProgressStep.settled {wait : ℤ} (hwait : 0 < wait)
    (hs : ProgressStep cfg s h t s') (hset : settles s' t wait) :
    ∃ anchor quiet, s.progressAnchorCm = some anchor ∧ s.quietSince = some quiet ∧
      anchor - h < cfg.bandCm ∧ seconds wait ≤ t - quiet := by
  have hpos := seconds_pos hwait
  obtain ⟨hnone, q, hq, hlast⟩ := hset
  cases hs with
  | resumed | confirmed =>
    obtain rfl := Option.some.inj hq
    omega
  | pending => simp at hnone
  | quiet ha hq' hle hdrop =>
    obtain rfl := Option.some.inj hq
    exact ⟨_, _, ha, hq', hdrop, hlast⟩

/-! ## The outcome of an observation -/

/-- The state with the observation and its stability window. -/
def seen (cfg : Settings) (s : CollectionTracker) (h : ℚ) (t : ℤ) : CollectionTracker :=
  observe s (stableWindow cfg s h t) h t

/-- Everything an observation of height `h` at time `t` can do to the state `s`. -/
inductive Outcome (cfg : Settings) (digest : String → ℤ → String) (drop : ℚ) (wait : ℤ)
    (s : CollectionTracker) (h : ℚ) (t : ℤ) : CollectionTracker → List DetectionEvent → Prop
  /-- BASELINING goes on. -/
  | waiting (hp : s.phase = .baselining) :
      Outcome cfg digest drop wait s h t
        (setReference (seen cfg s h t) (sustainedReference cfg (seen cfg s h t) h t).1) []
  /-- The first baseline is ready: a stable or a sustained level. -/
  | ready {b : ℚ} (hp : s.phase = .baselining)
      (hb : b = (stableWindow cfg s h t).height ∧ (stableWindow cfg s h t).Prepared cfg t ∨
        (sustainedReference cfg (seen cfg s h t) h t).2 = some b) :
      Outcome cfg digest drop wait s h t
        { setReference (seen cfg s h t) (sustainedReference cfg (seen cfg s h t) h t).1 with
          baselineCm := some b, phase := .idle } []
  /-- A collection goes on. -/
  | collecting {s₁ : CollectionTracker} (hp : s.phase = .collecting)
      (hs : ProgressStep cfg (seen cfg s h t) h t s₁) (hset : ¬ settles s₁ t wait) :
      Outcome cfg digest drop wait s h t s₁ []
  /-- A collection ends. -/
  | settled {s₁ : CollectionTracker} (hp : s.phase = .collecting)
      (hs : ProgressStep cfg (seen cfg s h t) h t s₁) (hset : settles s₁ t wait) :
      Outcome cfg digest drop wait s h t
        { s₁ with
          baselineCm := some (stableWindow cfg s h t).height, phase := .idle
          episodeId := none
          candidateSince := none
          quietSince := none, progressAnchorCm := none, progressCandidateSince := none
          referenceCandidateCm := none, referenceCandidateSince := none
          referencePeakCm := none }
        [.settled s₁.episodeId h false]
  /-- IDLE: there is no drop. -/
  | idle {b₀ b : ℚ} (hp : s.phase = .idle ∨ s.phase = .candidate) (hb₀ : s.baselineCm = some b₀)
      (hb : b = raisedBaseline cfg b₀ (stableWindow cfg s h t)
        (sustainedReference cfg (seen cfg s h t) h t).2 h t) (hdrop : round64 (b - h) < drop) :
      Outcome cfg digest drop wait s h t
        { setReference (seen cfg s h t) (sustainedReference cfg (seen cfg s h t) h t).1 with
          baselineCm := some b, candidateSince := none, phase := .idle } []
  /-- CANDIDATE: a drop is pending. -/
  | candidate {b₀ b : ℚ} {since : ℤ} {phase : DetectionPhase}
      (hp : s.phase = .idle ∨ s.phase = .candidate) (hb₀ : s.baselineCm = some b₀)
      (hb : b = raisedBaseline cfg b₀ (stableWindow cfg s h t)
        (sustainedReference cfg (seen cfg s h t) h t).2 h t) (hdrop : drop ≤ round64 (b - h))
      (hsince : s.candidateSince = none ∧ since = t ∧ phase = .candidate ∨
        s.candidateSince = some since ∧ phase = s.phase)
      (hlast : t - since < seconds cfg.confirmSeconds) :
      Outcome cfg digest drop wait s h t
        { setReference (seen cfg s h t) (sustainedReference cfg (seen cfg s h t) h t).1 with
          baselineCm := some b, candidateSince := some since, phase := phase } []
  /-- A collection begins. -/
  | detected {b₀ b : ℚ} {since : ℤ} (hp : s.phase = .idle ∨ s.phase = .candidate)
      (hb₀ : s.baselineCm = some b₀)
      (hb : b = raisedBaseline cfg b₀ (stableWindow cfg s h t)
        (sustainedReference cfg (seen cfg s h t) h t).2 h t) (hdrop : drop ≤ round64 (b - h))
      (hsince : s.candidateSince = none ∧ since = t ∨ s.candidateSince = some since)
      (hlast : seconds cfg.confirmSeconds ≤ t - since) :
      Outcome cfg digest drop wait s h t
        { seen cfg s h t with
          baselineCm := some b, candidateSince := some since
          episodeId := some ("detected-" ++ digest s.scopeToken t)
          phase := .collecting
          quietSince := some t, progressAnchorCm := some h, progressCandidateSince := none
          referenceCandidateCm := none, referenceCandidateSince := none, referencePeakCm := none
          stableSince := some t, stableMinCm := some h, stableMaxCm := some h }
        [.detected (some ("detected-" ++ digest s.scopeToken t)) b h (round64 (b - h)) false]

section

variable {drop : ℚ} {wait : ℤ}

theorem advanceBaselining_outcome (hp : s.phase = .baselining) :
    Outcome cfg digest drop wait s h t
      (advanceBaselining cfg
        (setReference (seen cfg s h t) (sustainedReference cfg (seen cfg s h t) h t).1)
        (stableWindow cfg s h t) (sustainedReference cfg (seen cfg s h t) h t).2 t) [] := by
  unfold advanceBaselining
  split_ifs with hw
  · exact .ready hp (Or.inl ⟨rfl, hw⟩)
  · split
    · rename_i level hlevel
      exact .ready hp (Or.inr hlevel)
    · exact .waiting hp

theorem advanceCollecting_outcome (hp : s.phase = .collecting) :
    Outcome cfg digest drop wait s h t
      (advanceCollecting cfg (seen cfg s h t) (stableWindow cfg s h t) h t wait).1
      (advanceCollecting cfg (seen cfg s h t) (stableWindow cfg s h t) h t wait).2 := by
  have hs : ProgressStep cfg (seen cfg s h t) h t _ :=
    trackProgress_spec (stableWindow_height_sub_lt cfg s h t)
  simp only [advanceCollecting]
  split_ifs with hset
  · exact .settled hp hs hset
  · exact .collecting hp hs hset

theorem advanceIdle_outcome {b₀ b : ℚ} (hp : s.phase = .idle ∨ s.phase = .candidate)
    (hb₀ : s.baselineCm = some b₀)
    (hb : b = raisedBaseline cfg b₀ (stableWindow cfg s h t)
      (sustainedReference cfg (seen cfg s h t) h t).2 h t) :
    Outcome cfg digest drop wait s h t
      (advanceIdle cfg digest drop
        (setReference (seen cfg s h t) (sustainedReference cfg (seen cfg s h t) h t).1) b h t).1
      (advanceIdle cfg digest drop
        (setReference (seen cfg s h t) (sustainedReference cfg (seen cfg s h t) h t).1)
        b h t).2 := by
  have hsame : (setReference (seen cfg s h t)
      (sustainedReference cfg (seen cfg s h t) h t).1).candidateSince = s.candidateSince := rfl
  simp only [advanceIdle, hsame]
  cases hc : s.candidateSince with
  | none =>
    split_ifs with hdrop hlast
    · exact .idle hp hb₀ hb hdrop
    · exact .detected hp hb₀ hb (not_lt.1 hdrop) (Or.inl ⟨hc, rfl⟩) hlast
    · exact .candidate hp hb₀ hb (not_lt.1 hdrop) (Or.inl ⟨hc, rfl, rfl⟩) (not_le.1 hlast)
  | some since =>
    split_ifs with hdrop hlast
    · exact .idle hp hb₀ hb hdrop
    · exact .detected hp hb₀ hb (not_lt.1 hdrop) (Or.inr hc) hlast
    · exact .candidate hp hb₀ hb (not_lt.1 hdrop) (Or.inr ⟨hc, rfl⟩) (not_le.1 hlast)

/-- **An observation has one of these outcomes.** -/
theorem advance_outcome (ha : advance cfg digest s h t settle = some (s', events)) :
    ∃ d, cfg.dropMeters = some d ∧
      Outcome cfg digest (dropThreshold d) (settle.getD cfg.settleSeconds) s h t s' events := by
  unfold advance at ha
  cases hd : cfg.dropMeters with
  | none => simp [hd] at ha
  | some d =>
    refine ⟨d, rfl, ?_⟩
    simp only [hd] at ha
    split_ifs at ha with hcol hbase
    · split at ha
      · simp at ha
      · obtain ⟨rfl, rfl⟩ := Prod.ext_iff.1 (Option.some.inj ha)
        exact advanceCollecting_outcome hcol
    · obtain ⟨rfl, rfl⟩ := Prod.ext_iff.1 (Option.some.inj ha)
      exact advanceBaselining_outcome hbase
    · split at ha
      · simp at ha
      · rename_i b₀ hb₀
        obtain ⟨rfl, rfl⟩ := Prod.ext_iff.1 (Option.some.inj ha)
        have hp : s.phase = .idle ∨ s.phase = .candidate := by
          change ¬ s.phase = _ at hcol
          change ¬ s.phase = _ at hbase
          cases hs : s.phase <;> simp_all
        exact advanceIdle_outcome hp hb₀ rfl

/-- An observation never fails while the baseline is known outside BASELINING. -/
theorem advance_isSome (hd : cfg.dropMeters.isSome)
    (hs : s.phase ≠ .baselining → s.baselineCm.isSome) :
    (advance cfg digest s h t settle).isSome := by
  obtain ⟨d, hd⟩ := Option.isSome_iff_exists.1 hd
  simp only [advance, hd]
  split_ifs with hcol hbase
  · change s.phase = _ at hcol
    obtain ⟨b, hb⟩ := Option.isSome_iff_exists.1 (hs (by simp [hcol]))
    simp [observe, hb]
  · rfl
  · obtain ⟨b, hb⟩ := Option.isSome_iff_exists.1 (hs hbase)
    simp [observe, setReference, hb]

end

end ScrapMonitoring.Collection
