import Mathlib.Data.List.Basic
import Mathlib.Data.List.Chain
import Mathlib.Data.List.Infix
import Mathlib.Data.List.Pairwise
import Mathlib.Algebra.Order.Ring.Int

/-!
# Runs of a state machine, with their history

A machine is a partial step function `step : σ → ι → Option (σ × ω)`: an operation `ι` either
fails or leads to a new state and an output. `Run step s₀ es s` says that the machine goes from
`s₀` to `s` along the history `es`, the list of its steps in the order in which they were taken,
each recorded with the states before and after it. A property of whole runs is proved by induction
on `Run`, whose last step is the last entry of the history.

* `Run.prefix` and `Run.step_of_mem` read a run off its history;
* `Run.invariant` is the induction for a property of single states, `Run.le_of_steps` that for a
  value that no step lowers;
* `After next Q` says that whatever a step leads to satisfies `Q`;
* `exec` computes the run of a list of operations (`Run.of_exec`).

`SpanSince time P t es` says that the history ends with a span that begins at time `t` and whose
entries all satisfy `P`: what a timer that was started at `t` and is still running vouches for.
`Lasts time d span` says that the span covers the duration `d` (`SpanSince.lasts`), and
`ChainSince time P R t es` that each entry of the span follows on the one before it.
-/

namespace ScrapMonitoring

variable {σ ι ω τ : Type*}

/-- One step of a run. -/
structure Entry (σ ι ω : Type*) where
  pre : σ
  op : ι
  out : ω
  post : σ

/-- `Run step s₀ es s`: the steps `es` lead from `s₀` to `s`. -/
inductive Run (step : σ → ι → Option (σ × ω)) (s₀ : σ) : List (Entry σ ι ω) → σ → Prop
  | nil : Run step s₀ [] s₀
  | snoc {es : List (Entry σ ι ω)} {s s' : σ} {i : ι} {o : ω} (h : Run step s₀ es s)
      (hs : step s i = some (s', o)) : Run step s₀ (es ++ [⟨s, i, o, s'⟩]) s'

namespace Run

variable {step : σ → ι → Option (σ × ω)} {s₀ s : σ} {es : List (Entry σ ι ω)}

theorem cons {s₁ s₂ : σ} {i : ι} {o : ω} (hs : step s₁ i = some (s₂, o))
    (h : Run step s₂ es s) : Run step s₁ (⟨s₁, i, o, s₂⟩ :: es) s := by
  induction h with
  | nil => exact (Run.nil : Run step s₁ [] s₁).snoc hs
  | snoc h hs' ih => exact ih.snoc hs'

/-- The last step of a run. -/
theorem snoc_inv {e : Entry σ ι ω} (h : Run step s₀ (es ++ [e]) s) :
    Run step s₀ es e.pre ∧ step e.pre e.op = some (e.post, e.out) ∧ e.post = s := by
  generalize hl : es ++ [e] = l at h
  cases h with
  | nil => simp at hl
  | snoc h hs =>
    obtain ⟨rfl, he⟩ := List.append_inj' hl rfl
    obtain rfl := List.singleton_inj.1 he
    exact ⟨h, hs, rfl⟩

/-- A run cut at one of its steps: the part before it is a run to the state before it. -/
theorem of_append_cons {pre post : List (Entry σ ι ω)} {e : Entry σ ι ω}
    (h : Run step s₀ (pre ++ e :: post) s) :
    Run step s₀ pre e.pre ∧ step e.pre e.op = some (e.post, e.out) := by
  induction post using List.reverseRecOn generalizing s with
  | nil => exact ⟨h.snoc_inv.1, h.snoc_inv.2.1⟩
  | append_singleton post f ih =>
    rw [← List.cons_append, ← List.append_assoc] at h
    exact ih h.snoc_inv.1

/-- A run cut at one of its steps: the part after it is a run from the state after it. -/
theorem rest {pre post : List (Entry σ ι ω)} {e : Entry σ ι ω}
    (h : Run step s₀ (pre ++ e :: post) s) : Run step e.post post s := by
  induction post using List.reverseRecOn generalizing s with
  | nil =>
    obtain ⟨-, -, rfl⟩ := h.snoc_inv
    exact .nil
  | append_singleton post f ih =>
    rw [← List.cons_append, ← List.append_assoc] at h
    obtain ⟨hpre, hf, rfl⟩ := h.snoc_inv
    exact (ih hpre).snoc hf

theorem step_of_mem (h : Run step s₀ es s) {e : Entry σ ι ω} (he : e ∈ es) :
    step e.pre e.op = some (e.post, e.out) := by
  obtain ⟨pre, post, rfl⟩ := List.append_of_mem he
  exact h.of_append_cons.2

/-- **Induction for a property of single states.** -/
theorem invariant {I : σ → Prop} (h₀ : I s₀)
    (hstep : ∀ s i s' o, I s → step s i = some (s', o) → I s') (h : Run step s₀ es s) : I s := by
  induction h with
  | nil => exact h₀
  | snoc _ hs ih => exact hstep _ _ _ _ ih hs

/-- What no step lowers is not lowered between two steps. -/
theorem le_of_steps {α : Type*} [Preorder α] {f : σ → α} (h : Run step s₀ es s)
    (hle : ∀ e ∈ es, f e.pre ≤ f e.post) : f s₀ ≤ f s := by
  induction h with
  | nil => exact le_rfl
  | snoc h hs ih =>
    exact le_trans (ih fun e he => hle e (List.mem_append_left _ he))
      (hle _ (List.mem_append_right _ (List.mem_singleton_self _)))

/-- Of two steps one comes before the other. -/
theorem le_or_le_of_mem {α : Type*} [Preorder α] {f : σ → α} (h : Run step s₀ es s)
    (hle : ∀ e ∈ es, f e.pre ≤ f e.post) {e e' : Entry σ ι ω} (he : e ∈ es) (he' : e' ∈ es)
    (hne : e ≠ e') : f e.post ≤ f e'.pre ∨ f e'.post ≤ f e.pre := by
  have hafter : ∀ {a b : Entry σ ι ω} {pre post : List (Entry σ ι ω)}, es = pre ++ a :: post →
      b ∈ post → f a.post ≤ f b.pre := by
    intro a b pre post hes hb
    subst hes
    obtain ⟨mid, rest, rfl⟩ := List.append_of_mem hb
    exact h.rest.of_append_cons.1.le_of_steps fun c hc => hle c (by simp [hc])
  obtain ⟨pre, post, hes⟩ := List.append_of_mem he
  rw [hes] at he'
  rcases List.mem_append.1 he' with hmem | hmem
  · obtain ⟨mid, rest, rfl⟩ := List.append_of_mem hmem
    rw [List.append_assoc, List.cons_append] at hes
    exact .inr (hafter hes (by simp))
  · rcases List.mem_cons.1 hmem with heq | hmem
    · exact absurd heq.symm hne
    · exact .inl (hafter hes hmem)

end Run

/-- Whatever the step leads to satisfies `Q`. -/
def After (next : Option (σ × ω)) (Q : σ → ω → Prop) : Prop := ∀ s o, next = some (s, o) → Q s o

@[simp] theorem after_none {Q : σ → ω → Prop} : After none Q := by
  intro _ _ h
  cases h

@[simp] theorem after_some {Q : σ → ω → Prop} {s : σ} {o : ω} : After (some (s, o)) Q ↔ Q s o := by
  simp [After]

theorem After.imp {Q Q' : σ → ω → Prop} {next : Option (σ × ω)} (h : After next Q)
    (himp : ∀ s o, Q s o → Q' s o) : After next Q' :=
  fun s o hs => himp s o (h s o hs)

/-- The run of a list of operations, if no operation fails. -/
def exec (step : σ → ι → Option (σ × ω)) : σ → List ι → Option (List (Entry σ ι ω) × σ)
  | s, [] => some ([], s)
  | s, i :: is =>
    match step s i with
    | none => none
    | some (s', o) => (exec step s' is).map fun r => (⟨s, i, o, s'⟩ :: r.1, r.2)

theorem Run.of_exec {step : σ → ι → Option (σ × ω)} {s s' : σ} {is : List ι}
    {es : List (Entry σ ι ω)} (h : exec step s is = some (es, s')) : Run step s es s' := by
  induction is generalizing s es with
  | nil =>
    simp only [exec, Option.some.injEq, Prod.mk.injEq] at h
    obtain ⟨rfl, rfl⟩ := h
    exact .nil
  | cons i is ih =>
    simp only [exec] at h
    split at h
    · simp at h
    · rename_i s₁ o hs
      simp only [Option.map_eq_some_iff, Prod.mk.injEq, Prod.exists] at h
      obtain ⟨es', s₂, h', rfl, rfl⟩ := h
      exact (ih h').cons hs

/-- The history of a computed run records its operations. -/
theorem exec_ops {step : σ → ι → Option (σ × ω)} {s s' : σ} {is : List ι}
    {es : List (Entry σ ι ω)} (h : exec step s is = some (es, s')) : es.map Entry.op = is := by
  induction is generalizing s es with
  | nil =>
    simp only [exec, Option.some.injEq, Prod.mk.injEq] at h
    simp [← h.1]
  | cons i is ih =>
    simp only [exec] at h
    split at h
    · simp at h
    · simp only [Option.map_eq_some_iff, Prod.mk.injEq, Prod.exists] at h
      obtain ⟨es', s₂, h', rfl, rfl⟩ := h
      simp [ih h']

/-! ## Spans at the end of a history -/

variable {α : Type*}

/-- The list ends with a span that begins with an entry of time `t`, all of whose entries
satisfy `P`. -/
def SpanSince (time : α → τ) (P : α → Prop) (t : τ) (l : List α) : Prop :=
  ∃ pre e span, l = pre ++ e :: span ∧ time e = t ∧ ∀ x ∈ e :: span, P x

namespace SpanSince

variable {time : α → τ} {P Q : α → Prop} {t : τ} {l : List α} {e : α}

/-- A span begins with the newest entry. -/
theorem start (l : List α) (he : P e) : SpanSince time P (time e) (l ++ [e]) :=
  ⟨l, e, [], rfl, rfl, by simpa using he⟩

/-- A span goes on with the newest entry. -/
theorem extend (h : SpanSince time P t l) (he : P e) : SpanSince time P t (l ++ [e]) := by
  obtain ⟨pre, f, span, rfl, hf, hP⟩ := h
  refine ⟨pre, f, span ++ [e], by simp, hf, ?_⟩
  rw [← List.cons_append]
  exact List.forall_mem_append.2 ⟨hP, by simpa using he⟩

theorem mono (h : SpanSince time P t l) (hPQ : ∀ x, P x → Q x) : SpanSince time Q t l := by
  obtain ⟨pre, f, span, rfl, hf, hP⟩ := h
  exact ⟨pre, f, span, rfl, hf, fun x hx => hPQ x (hP x hx)⟩

end SpanSince

/-- The last entry of the span is at least `d` later than its first. -/
def Lasts (time : α → ℤ) (d : ℤ) (span : List α) : Prop :=
  ∃ a ∈ span.head?, ∃ b ∈ span.getLast?, d ≤ time b - time a

/-- A timer that has run for `d` when the newest entry is added vouches for a span of that
length. -/
theorem SpanSince.lasts {time : α → ℤ} {P : α → Prop} {t d : ℤ} {l : List α} {e : α}
    (h : SpanSince time P t (l ++ [e])) (hd : d ≤ time e - t) :
    ∃ span, span <:+ l ++ [e] ∧ Lasts time d span ∧ ∀ x ∈ span, P x := by
  obtain ⟨pre, f, span, hl, hf, hP⟩ := h
  have hlast : (f :: span).getLast? = some e := by
    rw [← List.getLast?_append_of_ne_nil pre (List.cons_ne_nil f span), ← hl]
    simp
  exact ⟨f :: span, ⟨pre, hl.symm⟩, ⟨f, rfl, e, hlast, hf ▸ hd⟩, hP⟩

/-- The list ends with a span that begins with an entry of time `t`, all of whose entries
satisfy `P` and in which each entry follows on the one before it. -/
def ChainSince (time : α → τ) (P : α → Prop) (R : α → α → Prop) (t : τ) (l : List α) : Prop :=
  ∃ pre e span, l = pre ++ e :: span ∧ time e = t ∧ (∀ x ∈ e :: span, P x) ∧ (e :: span).IsChain R

namespace ChainSince

variable {time : α → τ} {P : α → Prop} {R : α → α → Prop} {t : τ} {l : List α} {e : α}

theorem start (l : List α) (he : P e) : ChainSince time P R (time e) (l ++ [e]) :=
  ⟨l, e, [], rfl, rfl, by simpa using he, .singleton e⟩

/-- A span goes on with the newest entry, if that follows on the last one. -/
theorem extend (h : ChainSince time P R t l) (he : P e) (hlast : ∀ last ∈ l.getLast?, R last e) :
    ChainSince time P R t (l ++ [e]) := by
  obtain ⟨pre, f, span, rfl, hf, hP, hR⟩ := h
  have hspan : ∀ last ∈ (f :: span).getLast?, R last e := by
    intro last hmem
    apply hlast
    rw [List.getLast?_append_of_ne_nil pre (List.cons_ne_nil f span)]
    exact hmem
  refine ⟨pre, f, span ++ [e], by simp, hf, ?_, ?_⟩
  · rw [← List.cons_append]
    exact List.forall_mem_append.2 ⟨hP, by simpa using he⟩
  · rw [← List.cons_append]
    exact hR.append (.singleton e) (by simpa using hspan)

end ChainSince

end ScrapMonitoring
