import Mathlib.Logic.Encodable.Basic
import Mathlib.Tactic.NormNum
import ScrapMonitoring.Collection.Steps

/-!
# Runs of the tracker

A run interleaves observations and outages, with fixed settings, from a fresh tracker. `step` is
the state machine; a `History` records its steps, each with the tracker before and after it.

`Coherent` is the invariant of the states reached: which fields are present in which phase. With it
no step fails (`exec_isSome`): the `assert` on the baseline is unreachable.
-/

namespace ScrapMonitoring.Collection

/-- The two operations on a tracker. An outage has a time too, which `invalidate` does not read. -/
inductive Op
  | advance (heightCm : ℚ) (observed : ℤ)
  | invalidate (now : ℤ)
  deriving DecidableEq, Repr

def Op.time : Op → ℤ
  | .advance _ t => t
  | .invalidate t => t

/-- The time of an observation. -/
def Op.observed? : Op → Option ℤ
  | .advance _ t => some t
  | .invalidate _ => none

/-- The settle duration of a run: the one of the source's profile, or the default of `advance`. -/
def wait (cfg : Settings) (profile : Option Profile) : ℤ :=
  (profile.map cfg.collectionSettleSeconds).getD cfg.settleSeconds

theorem wait_pos (cfg : Settings) (profile : Option Profile) : 0 < wait cfg profile := by
  match profile with
  | none => exact cfg.settle_pos
  | some .field => exact cfg.settle_pos
  | some .simulation => exact cfg.simulationSettle_pos

def step (cfg : Settings) (digest : String → ℤ → String) (profile : Option Profile) :
    CollectionTracker → Op → Option (CollectionTracker × List DetectionEvent)
  | s, .advance h t => advance cfg digest s h t (profile.map cfg.collectionSettleSeconds)
  | s, .invalidate _ => some (invalidate s, [])

/-- A step of a run. -/
abbrev Step := Entry CollectionTracker Op (List DetectionEvent)

abbrev History := List Step

def Step.time (e : Step) : ℤ := e.op.time

/-- The times of the observations, in order. -/
def observedTimes (es : History) : List ℤ := es.filterMap fun e => e.op.observed?

/-- The observation times strictly increase. -/
def Increasing (es : History) : Prop := (observedTimes es).Pairwise (· < ·)

/-- The events emitted, in order. -/
def emitted (es : History) : List DetectionEvent := es.flatMap fun e => e.out

@[simp] theorem observedTimes_append (es fs : History) :
    observedTimes (es ++ fs) = observedTimes es ++ observedTimes fs :=
  List.filterMap_append

@[simp] theorem emitted_append (es fs : History) : emitted (es ++ fs) = emitted es ++ emitted fs :=
  List.flatMap_append

@[simp] theorem emitted_singleton (e : Step) : emitted [e] = e.out := List.flatMap_singleton ..

/-- Whether the observation times increase can be read off the operations. -/
theorem increasing_iff {es : History} {ops : List Op} (h : es.map Entry.op = ops) :
    Increasing es ↔ (ops.filterMap Op.observed?).Pairwise (· < ·) := by
  rw [← h, List.filterMap_map]
  rfl

variable {cfg : Settings} {digest : String → ℤ → String} {profile : Option Profile}
variable {s s' s₀ : CollectionTracker} {es : History} {events : List DetectionEvent}

/-- What one operation does: an outage, or an observation with one of its outcomes. -/
theorem step_cases {op : Op} (h : step cfg digest profile s op = some (s', events)) :
    (∃ now, op = .invalidate now ∧ s' = invalidate s ∧ events = []) ∨
      ∃ height t d, op = .advance height t ∧ cfg.dropMeters = some d ∧
        Outcome cfg digest (dropThreshold d) (wait cfg profile) s height t s' events := by
  cases op with
  | advance height t =>
    obtain ⟨d, hd, hout⟩ := advance_outcome h
    exact Or.inr ⟨height, t, d, rfl, hd, hout⟩
  | invalidate now =>
    obtain ⟨rfl, rfl⟩ := Prod.ext_iff.1 (Option.some.inj h)
    exact Or.inl ⟨now, rfl, rfl, rfl⟩

/-- Tracking further drops changes no field but its own three. -/
theorem ProgressStep.frame {h : ℚ} {t : ℤ} (hs : ProgressStep cfg s h t s') :
    ∃ a q p, s' =
      { s with progressAnchorCm := a, quietSince := q, progressCandidateSince := p } := by
  cases hs <;> exact ⟨_, _, _, rfl⟩

/-! ## Which fields are present -/

structure Coherent (s : CollectionTracker) : Prop where
  baseline : s.phase ≠ .baselining → s.baselineCm.isSome
  episode : s.phase = .collecting ↔ s.episodeId.isSome
  candidate : s.phase = .candidate → s.candidateSince.isSome
  since : s.candidateSince.isSome → s.phase = .candidate ∨ s.phase = .collecting

theorem Coherent.fresh (pitId scopeToken : String) (observedAt : ℤ) (simulated : Bool) :
    Coherent (.fresh pitId scopeToken observedAt simulated) := by
  constructor <;> simp [CollectionTracker.fresh]

theorem Coherent.invalidate (hs : Coherent s) : Coherent (invalidate s) := by
  simp only [Collection.invalidate]
  split_ifs with hp
  · exact ⟨fun _ => hs.baseline (by simp [hp]), hs.episode, by simp [hp], by simp⟩
  · have hid : ¬ s.episodeId.isSome := fun h => hp (hs.episode.2 h)
    exact ⟨by simp, ⟨by simp, fun h => (hid h).elim⟩, by simp, by simp⟩

theorem Coherent.outcome {h : ℚ} {t : ℤ} {drop : ℚ} {wait : ℤ} (hs : Coherent s)
    (hout : Outcome cfg digest drop wait s h t s' events) : Coherent s' := by
  have hid : s.phase ≠ .collecting → ¬ s.episodeId.isSome := fun hp h => hp (hs.episode.2 h)
  have hnc : s.phase = .idle ∨ s.phase = .candidate → s.phase ≠ .collecting := by
    rintro (hp | hp) <;> simp [hp]
  cases hout with
  | waiting hp => exact ⟨hs.baseline, hs.episode, hs.candidate, hs.since⟩
  | ready hp hb =>
    have hc : ¬ s.candidateSince.isSome := fun h => by simpa [hp] using hs.since h
    exact ⟨fun _ => rfl, ⟨by simp, fun h => (hid (by simp [hp]) h).elim⟩, by simp,
      fun h => (hc h).elim⟩
  | collecting hp hps hset =>
    obtain ⟨a, q, p, rfl⟩ := hps.frame
    exact ⟨hs.baseline, hs.episode, hs.candidate, hs.since⟩
  | settled hp hps hset =>
    exact ⟨fun _ => rfl, by simp, by simp, by simp⟩
  | idle hp hb₀ hb hdrop =>
    exact ⟨fun _ => rfl, ⟨by simp, fun h => (hid (hnc hp) h).elim⟩, by simp, by simp⟩
  | candidate hp hb₀ hb hdrop hsince hlast =>
    rename_i b₀ b since phase
    have hphase : phase = .candidate := by
      rcases hsince with ⟨-, -, hphase⟩ | ⟨hc, hphase⟩
      · exact hphase
      · have := hs.since (by simp [hc])
        rw [hphase]
        exact this.resolve_right (hnc hp)
    subst hphase
    exact ⟨fun _ => rfl, ⟨by simp, fun h => (hid (hnc hp) h).elim⟩, fun _ => rfl,
      fun _ => Or.inl rfl⟩
  | detected hp hb₀ hb hdrop hsince hlast =>
    exact ⟨fun _ => rfl, by simp, by simp, fun _ => Or.inr rfl⟩

theorem Coherent.step {op : Op} (hs : Coherent s)
    (h : step cfg digest profile s op = some (s', events)) : Coherent s' := by
  rcases step_cases h with ⟨_, -, rfl, -⟩ | ⟨_, _, _, -, -, hout⟩
  · exact hs.invalidate
  · exact hs.outcome hout

/-- Every state of a run is coherent. -/
theorem Coherent.of_run (hrun : Run (Collection.step cfg digest profile) s₀ es s)
    (h₀ : Coherent s₀) : Coherent s :=
  hrun.invariant h₀ fun _ _ _ _ hs h => hs.step h

/-- **No operation fails in a coherent state.** -/
theorem step_isSome (hd : cfg.dropMeters.isSome) (hs : Coherent s) (op : Op) :
    (step cfg digest profile s op).isSome := by
  cases op with
  | advance h t => exact advance_isSome hd hs.baseline
  | invalidate now => rfl

/-- The baseline of which a drop was detected. -/
def DetectionEvent.baseline? : DetectionEvent → Option ℚ
  | .detected _ baselineHeightCm _ _ _ => some baselineHeightCm
  | .settled .. => none

/-! ## A toy detector

The settings of the detector's tests and an injective stand-in for the digest, to run the tracker
on. -/

def toySettings : Settings where
  dropMeters := some 3
  stableBandMeters := 1 / 10
  confirmSeconds := 3
  baselineSeconds := 3
  settleSeconds := 5
  simulationSettleSeconds := 5
  band_pos := by norm_num
  confirm_pos := by norm_num
  baseline_pos := by norm_num
  settle_pos := by norm_num
  simulationSettle_pos := by norm_num
  band_lt_drop := by norm_num

def toyDigest (_scopeToken : String) (t : ℤ) : String :=
  String.ofList (List.replicate (Encodable.encode t) 'x')

theorem toyDigest_injective (scopeToken : String) : Function.Injective (toyDigest scopeToken) := by
  intro t u h
  have hlen := congrArg List.length (String.ofList_injective h)
  simp only [List.length_replicate] at hlen
  exact Encodable.encode_injective hlen

def toyTracker : CollectionTracker := .fresh "pit-demo" "toy-scope" 0 false

/-- One observation a second. -/
def feed (start : ℤ) (heights : List ℚ) : List Op :=
  heights.mapIdx fun i h => .advance h (seconds (start + i))

end ScrapMonitoring.Collection
