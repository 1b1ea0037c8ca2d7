import Mathlib.Data.List.Nodup
import ScrapMonitoring.Collection.History

/-!
# Episodes

Every collection is detected once and settled at most once, and no two have the same id: the
events of a run are a prefix of `DETECTED d₁, SETTLED d₁, DETECTED d₂, SETTLED d₂, …` for pairwise
distinct ids (`emitted_episodes`). `tracker_invariants` collects what holds of every run.
-/

namespace ScrapMonitoring.Collection

variable {cfg : Settings} {digest : String → ℤ → String} {profile : Option Profile}
variable {s s' : CollectionTracker} {es : History} {events : List DetectionEvent}

inductive EventKind
  | detected
  | settled
  deriving DecidableEq, Repr

/-- The kind of an event and the detection id it carries. -/
def DetectionEvent.label : DetectionEvent → EventKind × Option String
  | .detected d _ _ _ _ => (.detected, d)
  | .settled d _ _ => (.settled, d)

/-- `DETECTED d₁, SETTLED d₁, DETECTED d₂, SETTLED d₂, …` -/
def episodes (ids : List String) : List (EventKind × Option String) :=
  ids.flatMap fun d => [(.detected, some d), (.settled, some d)]

/-- The detection id of a collection detected at time `t`. -/
def idAt (digest : String → ℤ → String) (scopeToken : String) (t : ℤ) : String :=
  "detected-" ++ digest scopeToken t

theorem idAt_injective {scopeToken : String} (hdig : Function.Injective (digest scopeToken)) :
    Function.Injective (idAt digest scopeToken) :=
  fun _ _ h => hdig (String.append_right_inj _ |>.1 h)

/-- The events so far are whole episodes, and the beginning of one while its id is set; the ids are
those of some of the observation times, in order. -/
structure EpisodesSoFar (digest : String → ℤ → String) (scopeToken : String) (es : History)
    (s : CollectionTracker) (ids : List String) : Prop where
  scope : s.scopeToken = scopeToken
  emitted : (emitted es).map DetectionEvent.label =
    episodes ids ++ s.episodeId.toList.map fun d => (.detected, some d)
  times : ∃ ts : List ℤ, ts.Sublist (observedTimes es) ∧
    ts.map (idAt digest scopeToken) = ids ++ s.episodeId.toList

theorem invalidate_episodeId : (invalidate s).episodeId = s.episodeId := by
  simp only [invalidate]
  split_ifs <;> rfl

theorem invalidate_scopeToken : (invalidate s).scopeToken = s.scopeToken := by
  simp only [invalidate]
  split_ifs <;> rfl

/-- An observation emits nothing and keeps the episode, ends it, or begins one. -/
theorem outcome_episode {drop : ℚ} {wait : ℤ} {h : ℚ} {t : ℤ} (hs : Coherent s)
    (hout : Outcome cfg digest drop wait s h t s' events) :
    s'.scopeToken = s.scopeToken ∧
      (events = [] ∧ s'.episodeId = s.episodeId ∨
        (∃ d, s.episodeId = some d ∧ s'.episodeId = none ∧ events = [.settled (some d) h false]) ∨
        s.episodeId = none ∧ s'.episodeId = some (idAt digest s.scopeToken t) ∧
          ∃ b, events =
            [.detected (some (idAt digest s.scopeToken t)) b h (round64 (b - h)) false]) := by
  cases hout with
  | waiting | ready | idle | candidate => exact ⟨rfl, Or.inl ⟨rfl, rfl⟩⟩
  | collecting hp hps =>
    obtain ⟨a, q, p, rfl⟩ := hps.frame
    exact ⟨rfl, Or.inl ⟨rfl, rfl⟩⟩
  | settled hp hps =>
    obtain ⟨a, q, p, rfl⟩ := hps.frame
    obtain ⟨d, hd⟩ := Option.isSome_iff_exists.1 (hs.episode.1 hp)
    exact ⟨rfl, Or.inr (Or.inl ⟨d, hd, rfl, by simp [seen, observe, hd]⟩)⟩
  | detected hp =>
    have hid : s.episodeId = none := by
      by_contra hne
      have := hs.episode.2 (Option.isSome_iff_ne_none.2 hne)
      simp [this] at hp
    exact ⟨rfl, Or.inr (Or.inr ⟨hid, rfl, _, rfl⟩)⟩

theorem EpisodesSoFar.step {scopeToken : String} {ids : List String} {op : Op}
    (he : EpisodesSoFar digest scopeToken es s ids) (hs : Coherent s)
    (h : step cfg digest profile s op = some (s', events)) :
    ∃ ids, EpisodesSoFar digest scopeToken (es ++ [⟨s, op, events, s'⟩]) s' ids := by
  obtain ⟨hscope, hemit, ts, hts, hids⟩ := he
  have hmono : ∀ o : List ℤ, ts.Sublist (observedTimes es ++ o) :=
    fun o => hts.trans (List.sublist_append_left _ _)
  rcases step_cases h with ⟨now, rfl, rfl, rfl⟩ | ⟨height, t, d, rfl, -, hout⟩
  · refine ⟨ids, by rw [invalidate_scopeToken, hscope], ?_, ts, ?_, ?_⟩
    · simp [hemit, invalidate_episodeId]
    · exact observedTimes_append es _ ▸ hmono _
    · rw [hids, invalidate_episodeId]
  · obtain ⟨hscope', hcase⟩ := outcome_episode hs hout
    rw [hscope] at hscope' hcase
    rcases hcase with ⟨rfl, hid⟩ | ⟨d, hd, hid, rfl⟩ | ⟨hd, hid, b, rfl⟩
    · refine ⟨ids, hscope', ?_, ts, ?_, by rw [hids, hid]⟩
      · simp [hemit, hid]
      · exact observedTimes_append es _ ▸ hmono _
    · refine ⟨ids ++ [d], hscope', ?_, ts, ?_, by simp [hids, hd, hid]⟩
      · rw [emitted_append, List.map_append, hemit]
        simp [hd, hid, episodes, DetectionEvent.label]
      · exact observedTimes_append es _ ▸ hmono _
    · refine ⟨ids, hscope', ?_, ts ++ [t], ?_, by simp [hids, hd, hid]⟩
      · rw [emitted_append, List.map_append, hemit]
        simp [hd, hid, DetectionEvent.label]
      · rw [observedTimes_append]
        exact hts.append (by simp [observedTimes, Op.observed?])

/-- The events of a run, episode by episode. -/
theorem EpisodesSoFar.of_run {pitId scopeToken : String} {observedAt : ℤ} {simulated : Bool}
    (hrun : Run (Collection.step cfg digest profile)
      (.fresh pitId scopeToken observedAt simulated) es s) :
    ∃ ids, EpisodesSoFar digest scopeToken es s ids := by
  induction hrun with
  | nil => exact ⟨[], rfl, rfl, [], by simp, rfl⟩
  | snoc hrun hstep ih =>
    obtain ⟨ids, he⟩ := ih
    exact he.step (Coherent.of_run hrun (.fresh ..)) hstep

/-- **The events of a run are a prefix of distinct episodes.** -/
theorem emitted_episodes {pitId scopeToken : String} {observedAt : ℤ} {simulated : Bool}
    (hdig : Function.Injective (digest scopeToken))
    (hrun : Run (step cfg digest profile) (.fresh pitId scopeToken observedAt simulated) es s)
    (hinc : Increasing es) :
    ∃ ids : List String, ids.Nodup ∧ (emitted es).map DetectionEvent.label <+: episodes ids := by
  obtain ⟨ids, -, hemit, ts, hts, hids⟩ := EpisodesSoFar.of_run hrun
  refine ⟨ids ++ s.episodeId.toList, ?_, ?_⟩
  · rw [← hids]
    have hnodup : ts.Nodup := (hinc.sublist hts).imp ne_of_lt
    exact List.Nodup.map (idAt_injective hdig) hnodup
  · rw [hemit]
    cases s.episodeId with
    | none => simp
    | some d => simp [episodes]

/-- After an observation the height lies in the stability window, which the band bounds. -/
theorem outcome_window {drop : ℚ} {wait : ℤ} {h : ℚ} {t : ℤ}
    (hout : Outcome cfg digest drop wait s h t s' events) :
    ∃ low high, s'.stableMinCm = some low ∧ s'.currentCm = some h ∧ s'.stableMaxCm = some high ∧
      low ≤ h ∧ h ≤ high ∧ high - low ≤ cfg.bandCm := by
  obtain ⟨hlow, hhigh, hwide, -⟩ := stableWindow_spec cfg s h t
  cases hout with
  | waiting | ready | idle | candidate => exact ⟨_, _, rfl, rfl, rfl, hlow, hhigh, hwide⟩
  | collecting hp hps | settled hp hps =>
    obtain ⟨a, q, p, rfl⟩ := hps.frame
    exact ⟨_, _, rfl, rfl, rfl, hlow, hhigh, hwide⟩
  | detected => exact ⟨h, h, rfl, rfl, rfl, le_rfl, le_rfl, by simpa using cfg.bandCm_pos.le⟩

/-- **The invariants of the tracker.** Along every run from a fresh tracker, no operation fails in
the state reached, the phase says which fields are present, every observation leaves the height
within a stability window no wider than the band, and the events are a prefix of distinct
episodes. -/
theorem tracker_invariants {pitId scopeToken : String} {observedAt : ℤ} {simulated : Bool}
    (hdrop : cfg.dropMeters.isSome) (hdig : Function.Injective (digest scopeToken))
    (hrun : Run (step cfg digest profile) (.fresh pitId scopeToken observedAt simulated) es s)
    (hinc : Increasing es) :
    ((s.phase ≠ .baselining → s.baselineCm.isSome) ∧
        ∀ op, (step cfg digest profile s op).isSome) ∧
      (s.phase = .collecting ↔ s.episodeId.isSome) ∧
      ((s.phase = .candidate → s.candidateSince.isSome) ∧
        (s.candidateSince.isSome → s.phase = .candidate ∨ s.phase = .collecting)) ∧
      (∀ e ∈ es, ∀ h t, e.op = .advance h t →
        ∃ low cur high, e.post.stableMinCm = some low ∧ e.post.currentCm = some cur ∧
          e.post.stableMaxCm = some high ∧ low ≤ cur ∧ cur ≤ high ∧ high - low ≤ cfg.bandCm) ∧
      ∃ ids : List String, ids.Nodup ∧
        (emitted es).map DetectionEvent.label <+: episodes ids := by
  have hs : Coherent s := Coherent.of_run hrun (.fresh ..)
  refine ⟨⟨hs.baseline, step_isSome hdrop hs⟩, hs.episode, ⟨hs.candidate, hs.since⟩, ?_,
    emitted_episodes hdig hrun hinc⟩
  intro e he h t hop
  have hstep := hrun.step_of_mem he
  rw [hop] at hstep
  obtain ⟨d, -, hout⟩ := advance_outcome hstep
  obtain ⟨low, high, hlow, hcur, hhigh, hbounds⟩ := outcome_window hout
  exact ⟨low, h, high, hlow, hcur, hhigh, hbounds⟩

/-- The theorem on a drop of 3.5 m that has just been detected. -/
theorem tracker_invariants_detected :
    ∃ es s, Run (step toySettings toyDigest none) toyTracker es s ∧
      s.phase = .collecting ∧ s.baselineCm.isSome ∧ s.episodeId.isSome ∧
      ∃ ids : List String, ids.Nodup ∧
        (emitted es).map DetectionEvent.label <+: episodes ids := by
  have hphase : (exec (step toySettings toyDigest none) toyTracker
      (feed 0 [1000, 1000, 1000, 1000, 650, 650, 650, 650])).map (fun r => r.2.phase) =
        some .collecting := by decide +kernel
  obtain ⟨⟨es, s⟩, hexec, hs⟩ := Option.map_eq_some_iff.1 hphase
  have hinc : Increasing es := (increasing_iff (exec_ops hexec)).2 (by decide +kernel)
  obtain ⟨⟨hbase, -⟩, hid, -, -, hids⟩ :=
    tracker_invariants rfl (toyDigest_injective _) (Run.of_exec hexec) hinc
  exact ⟨es, s, Run.of_exec hexec, hs, hbase (by simp_all), hid.1 hs, hids⟩

end ScrapMonitoring.Collection
