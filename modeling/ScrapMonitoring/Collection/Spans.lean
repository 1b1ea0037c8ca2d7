import ScrapMonitoring.Collection.History

/-!
# What the timers of the tracker vouch for

The tracker keeps start times instead of heights. `Timers cfg es s` says what they stand for: since
`stable_since` every operation was an observation with a height in the stability window, and since
`reference_candidate_since` every operation was an observation with a height within the band of the
candidate level, or above it. Every run keeps it (`Timers.of_run`).
-/

namespace ScrapMonitoring.Collection

variable {cfg : Settings} {digest : String → ℤ → String} {profile : Option Profile}
variable {s s' s₀ : CollectionTracker} {es : History} {events : List DetectionEvent}
variable {h : ℚ} {t : ℤ} {drop : ℚ} {wait : ℤ} {e : Step}

/-- An observation with a height of at least `x`. -/
def HeightAbove (x : ℚ) (e : Step) : Prop := ∃ h t, e.op = .advance h t ∧ x ≤ h

/-- An observation with a height between `low` and `high`. -/
def HeightIn (low high : ℚ) (e : Step) : Prop := ∃ h t, e.op = .advance h t ∧ low ≤ h ∧ h ≤ high

theorem HeightIn.above {low high x : ℚ} (he : HeightIn low high e) (hx : x ≤ low) :
    HeightAbove x e := by
  obtain ⟨h, t, hop, hlow, -⟩ := he
  exact ⟨h, t, hop, hx.trans hlow⟩

structure Timers (cfg : Settings) (es : History) (s : CollectionTracker) : Prop where
  stable : ∀ since ∈ s.stableSince, ∃ low ∈ s.stableMinCm, ∃ high ∈ s.stableMaxCm,
    SpanSince Step.time (HeightIn low high) since es
  reference : ∀ since ∈ s.referenceCandidateSince, ∃ level ∈ s.referenceCandidateCm,
    (∀ peak ∈ s.referencePeakCm, level ≤ peak) ∧
      SpanSince Step.time (HeightAbove (level - cfg.bandCm)) since es
  collecting : s.phase = .collecting → s.referenceCandidateSince = none

theorem Timers.fresh (cfg : Settings) (pitId scopeToken : String) (observedAt : ℤ)
    (simulated : Bool) : Timers cfg [] (.fresh pitId scopeToken observedAt simulated) := by
  constructor <;> simp [CollectionTracker.fresh]

theorem Timers.invalidate (cfg : Settings) (es : History) (s : CollectionTracker) :
    Timers cfg es (invalidate s) := by
  simp only [Collection.invalidate]
  split_ifs <;> constructor <;> simp

/-- Since the start of the stability window every height lies in it. -/
theorem Timers.stable_span (hs : Timers cfg es s) (he : e.op = .advance h t) :
    SpanSince Step.time
      (HeightIn (stableWindow cfg s h t).low (stableWindow cfg s h t).high)
      (stableWindow cfg s h t).since (es ++ [e]) := by
  obtain ⟨hlow, hhigh, -, hstart⟩ := stableWindow_spec cfg s h t
  have hnow : HeightIn (stableWindow cfg s h t).low (stableWindow cfg s h t).high e :=
    ⟨h, t, he, hlow, hhigh⟩
  rcases hstart with hw | ⟨hsince, hmin, hmax⟩
  · have htime : Step.time e = (stableWindow cfg s h t).since := by
      rw [hw, Step.time, he, Op.time]
    exact htime ▸ SpanSince.start es hnow
  · obtain ⟨low, hl, high, hh, hspan⟩ := hs.stable _ hsince
    refine (hspan.mono fun x hx => ?_).extend hnow
    obtain ⟨h', t', hop, hlow', hhigh'⟩ := hx
    exact ⟨h', t', hop, (hmin low hl).trans hlow', hhigh'.trans (hmax high hh)⟩

/-- Since the start of the candidate level every height is within the band of it, or above it. -/
theorem Timers.reference_span (hs : Timers cfg es s) (he : e.op = .advance h t) :
    (referenceLevel cfg (seen cfg s h t) h t).candidate - cfg.bandCm ≤ h ∧
      (referenceLevel cfg (seen cfg s h t) h t).candidate ≤
        (referenceLevel cfg (seen cfg s h t) h t).peak ∧
      SpanSince Step.time
        (HeightAbove ((referenceLevel cfg (seen cfg s h t) h t).candidate - cfg.bandCm))
        (referenceLevel cfg (seen cfg s h t) h t).since (es ++ [e]) := by
  have hband := cfg.bandCm_pos
  rcases referenceLevel_spec cfg (seen cfg s h t) h t with hr | ⟨peak, hc, hsince, hp, hh, hpeak⟩
  · have htime : Step.time e = t := by rw [Step.time, he, Op.time]
    simp only [hr]
    refine ⟨by linarith, le_rfl, ?_⟩
    exact htime ▸ SpanSince.start es ⟨h, t, he, by linarith⟩
  · obtain ⟨level, hlevel, hle, hspan⟩ := hs.reference _ hsince
    obtain rfl : level = (referenceLevel cfg (seen cfg s h t) h t).candidate :=
      Option.some.inj (hlevel.symm.trans hc)
    have hbelow := hle peak hp
    have hnow : (referenceLevel cfg (seen cfg s h t) h t).candidate - cfg.bandCm ≤ h := by linarith
    exact ⟨hnow, hbelow.trans (hpeak ▸ le_max_left _ _), hspan.extend ⟨h, t, he, hnow⟩⟩

/-- The reference fields after an observation outside COLLECTING. -/
theorem Timers.sustained_span (hs : Timers cfg es s) (he : e.op = .advance h t) :
    (sustainedReference cfg (seen cfg s h t) h t).1.candidate ≤
        (sustainedReference cfg (seen cfg s h t) h t).1.peak ∧
      SpanSince Step.time
        (HeightAbove ((sustainedReference cfg (seen cfg s h t) h t).1.candidate - cfg.bandCm))
        (sustainedReference cfg (seen cfg s h t) h t).1.since (es ++ [e]) := by
  obtain ⟨-, hpeak, hspan⟩ := hs.reference_span he
  have hband := cfg.bandCm_pos
  rcases sustainedReference_spec cfg (seen cfg s h t) h t with hr | ⟨-, hr⟩ <;> rw [hr]
  · exact ⟨hpeak, hspan⟩
  · have htime : Step.time e = t := by rw [Step.time, he, Op.time]
    exact ⟨le_rfl, htime ▸ SpanSince.start es ⟨h, t, he, by simpa using hband.le⟩⟩

theorem Timers.outcome (hs : Timers cfg es s) (he : e.op = .advance h t)
    (hout : Outcome cfg digest drop wait s h t s' events) : Timers cfg (es ++ [e]) s' := by
  have hstable := hs.stable_span he
  have hsustained := hs.sustained_span he
  have hwindow : ∀ since ∈ some (stableWindow cfg s h t).since,
      ∃ low ∈ some (stableWindow cfg s h t).low, ∃ high ∈ some (stableWindow cfg s h t).high,
        SpanSince Step.time (HeightIn low high) since (es ++ [e]) := by
    rintro _ ⟨⟩
    exact ⟨_, rfl, _, rfl, hstable⟩
  have hlevel : ∀ since ∈ some (sustainedReference cfg (seen cfg s h t) h t).1.since,
      ∃ level ∈ some (sustainedReference cfg (seen cfg s h t) h t).1.candidate,
        (∀ peak ∈ some (sustainedReference cfg (seen cfg s h t) h t).1.peak, level ≤ peak) ∧
          SpanSince Step.time (HeightAbove (level - cfg.bandCm)) since (es ++ [e]) := by
    rintro _ ⟨⟩
    exact ⟨_, rfl, by rintro _ ⟨⟩; exact hsustained.1, hsustained.2⟩
  cases hout with
  | waiting hp => exact ⟨hwindow, hlevel, fun hc => by simp [setReference, seen, observe, hp] at hc⟩
  | ready hp hb => exact ⟨hwindow, hlevel, fun hc => by simp at hc⟩
  | idle hp hb₀ hb hdrop => exact ⟨hwindow, hlevel, fun hc => by simp at hc⟩
  | candidate hp hb₀ hb hdrop hsince hlast =>
    refine ⟨hwindow, hlevel, fun hc => ?_⟩
    change _ = DetectionPhase.collecting at hc
    subst hc
    rcases hsince with ⟨-, -, hphase⟩ | ⟨-, hphase⟩
    · simp at hphase
    · simp [← hphase] at hp
  | collecting hp hps hset =>
    obtain ⟨a, q, p, rfl⟩ := hps.frame
    have hnone : s.referenceCandidateSince = none := hs.collecting hp
    exact ⟨hwindow, by simp [seen, observe, hnone], fun _ => hnone⟩
  | settled hp hps hset =>
    obtain ⟨a, q, p, rfl⟩ := hps.frame
    exact ⟨hwindow, by simp, fun _ => rfl⟩
  | detected hp hb₀ hb hdrop hsince hlast =>
    refine ⟨?_, by simp, fun _ => rfl⟩
    have htime : Step.time e = t := by rw [Step.time, he, Op.time]
    rintro _ ⟨⟩
    exact ⟨h, rfl, h, rfl, htime ▸ SpanSince.start es ⟨h, t, he, le_rfl, le_rfl⟩⟩

/-- Every run keeps what the timers vouch for. -/
theorem Timers.of_run (hrun : Run (step cfg digest profile) s₀ es s) (h₀ : Timers cfg [] s₀) :
    Timers cfg es s := by
  induction hrun with
  | nil => exact h₀
  | snoc hrun hstep ih =>
    rcases step_cases hstep with ⟨now, rfl, rfl, rfl⟩ | ⟨h, t, d, rfl, -, hout⟩
    · exact Timers.invalidate ..
    · exact ih.outcome rfl hout

end ScrapMonitoring.Collection
