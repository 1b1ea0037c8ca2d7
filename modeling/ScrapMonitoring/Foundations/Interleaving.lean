import ScrapMonitoring.Foundations.Run
import Mathlib.Logic.Function.Basic

/-!
# Parties that share a store

Any number of parties `ι` share a store `S`; each has a local state `L` of its own. `interleave`
is the machine in which the parties take their actions in any order: an operation names a party
and the answer `R` that the store gives to its action.

`Guarded` is the rule of rely and guarantee for such a machine. The store keeps an invariant `I`,
each party a local invariant `J`; `rely i` says what the actions of the other parties may do to
the store from the point of view of party `i`, and `J i` must be stable under it.
`Guarded.of_run` gives the invariants along every run.

`Run.without` takes a party that leaves the store as it is out of a run: the others act as before.

`Leads next Q` says that whatever an action leads to satisfies `Q`. `Once i P Q es` says that party
`i` has taken one step that satisfies `P`, and that its other steps satisfy `Q`.
-/

namespace ScrapMonitoring

variable {ι S L R Ω : Type*}

/-- The store, and the local state of every party. -/
structure Shared (ι S L : Type*) where
  store : S
  locals : ι → L

/-- One party acts; the others keep their local states. -/
def interleave [DecidableEq ι] (act : ι → S → L → R → Option (S × L × Ω)) (s : Shared ι S L)
    (op : ι × R) : Option (Shared ι S L × Ω) :=
  match act op.1 s.store (s.locals op.1) op.2 with
  | none => none
  | some (store, l, out) => some (⟨store, Function.update s.locals op.1 l⟩, out)

section

variable [DecidableEq ι] {act : ι → S → L → R → Option (S × L × Ω)}
variable {s s' s₀ : Shared ι S L} {op : ι × R} {out : Ω}
    {es : List (Entry (Shared ι S L) (ι × R) Ω)}

/-- What one step of the machine does. -/
theorem interleave_cases (h : interleave act s op = some (s', out)) :
    act op.1 s.store (s.locals op.1) op.2 = some (s'.store, s'.locals op.1, out) ∧
      ∀ j, j ≠ op.1 → s'.locals j = s.locals j := by
  unfold interleave at h
  split at h
  · simp at h
  · rename_i store l out' hact
    simp only [Option.some.injEq, Prod.mk.injEq] at h
    obtain ⟨rfl, rfl⟩ := h
    refine ⟨?_, fun j hj => Function.update_of_ne hj _ _⟩
    simp only [hact, Function.update_self]

/-- The rule of rely and guarantee. -/
structure Guarded (act : ι → S → L → R → Option (S × L × Ω)) (I : S → Prop)
    (J : ι → S → L → Prop) (rely : ι → S → S → Prop) : Prop where
  keeps : ∀ {i s l r s' l' out}, I s → J i s l → act i s l r = some (s', l', out) →
    I s' ∧ J i s' l'
  guarantee : ∀ {i s l r s' l' out}, I s → J i s l → act i s l r = some (s', l', out) →
    ∀ j, j ≠ i → rely j s s'
  stable : ∀ {i s l s'}, J i s l → rely i s s' → J i s' l

theorem Guarded.step {I : S → Prop} {J : ι → S → L → Prop} {rely : ι → S → S → Prop}
    (hg : Guarded act I J rely) (hI : I s.store) (hJ : ∀ i, J i s.store (s.locals i))
    (h : interleave act s op = some (s', out)) :
    I s'.store ∧ ∀ i, J i s'.store (s'.locals i) := by
  obtain ⟨hact, hframe⟩ := interleave_cases h
  obtain ⟨hI', hJ'⟩ := hg.keeps hI (hJ op.1) hact
  refine ⟨hI', fun j => ?_⟩
  by_cases hj : j = op.1
  · rw [hj]
    exact hJ'
  · rw [hframe j hj]
    exact hg.stable (hJ j) (hg.guarantee hI (hJ op.1) hact j hj)

/-- **The invariants hold along every run.** -/
theorem Guarded.of_run {I : S → Prop} {J : ι → S → L → Prop} {rely : ι → S → S → Prop}
    (hg : Guarded act I J rely) (hI : I s₀.store) (hJ : ∀ i, J i s₀.store (s₀.locals i))
    (hrun : Run (interleave act) s₀ es s) : I s.store ∧ ∀ i, J i s.store (s.locals i) :=
  hrun.invariant (I := fun s => I s.store ∧ ∀ i, J i s.store (s.locals i)) ⟨hI, hJ⟩
    fun _ _ _ _ hs h => hg.step hs.1 hs.2 h

/-- The action of a party depends on the store and on its own local state. -/
theorem interleave_of_act {l : L} {store : S}
    (hact : act op.1 s.store (s.locals op.1) op.2 = some (store, l, out)) :
    interleave act s op = some (⟨store, Function.update s.locals op.1 l⟩, out) := by
  unfold interleave
  rw [hact]

/-- **A party that leaves the store as it is can be taken out of the run.** -/
theorem Run.without {i : ι} (hrun : Run (interleave act) s₀ es s)
    (hkeeps : ∀ e ∈ es, e.op.1 = i → e.post.store = e.pre.store) :
    ∃ es' s', Run (interleave act) s₀ es' s' ∧
      es'.map (fun e => (e.op, e.out)) =
        (es.filter fun e => e.op.1 ≠ i).map (fun e => (e.op, e.out)) ∧
      s'.store = s.store ∧ s'.locals = Function.update s.locals i (s₀.locals i) := by
  induction hrun with
  | nil => exact ⟨[], s₀, .nil, rfl, rfl, (Function.update_eq_self i s₀.locals).symm⟩
  | @snoc es s s₁ op out hrun hs ih =>
    obtain ⟨es', s', hrun', hops, hstore, hlocals⟩ :=
      ih fun e he => hkeeps e (List.mem_append_left _ he)
    obtain ⟨hact, hframe⟩ := interleave_cases hs
    by_cases hi : op.1 = i
    · have hkept := hkeeps _ (List.mem_append_right _ (List.mem_singleton_self _)) hi
      refine ⟨es', s', hrun', ?_, hstore.trans hkept.symm, ?_⟩
      · simp [hops, hi]
      · rw [hlocals]
        funext j
        by_cases hj : j = i
        · simp [hj]
        · rw [Function.update_of_ne hj, Function.update_of_ne hj, hframe j (hi ▸ hj)]
    · have hsame : s'.locals op.1 = s.locals op.1 := by rw [hlocals, Function.update_of_ne hi]
      rw [← hstore, ← hsame] at hact
      refine ⟨_, _, hrun'.snoc (interleave_of_act hact), ?_, rfl, ?_⟩
      · simp [hops, hi]
      · funext j
        dsimp only
        by_cases hj : j = op.1
        · rw [hj, Function.update_self, Function.update_of_ne hi]
        · rw [Function.update_of_ne hj, hlocals]
          by_cases hji : j = i
          · simp [hji]
          · rw [Function.update_of_ne hji, Function.update_of_ne hji, hframe j hj]

end

/-! ## What an action leads to -/

/-- Whatever the action leads to satisfies `Q`. -/
def Leads (next : Option (S × L × Ω)) (Q : S → L → Ω → Prop) : Prop :=
  ∀ store l out, next = some (store, l, out) → Q store l out

@[simp] theorem leads_none {Q : S → L → Ω → Prop} : Leads none Q := by
  intro _ _ _ h
  cases h

@[simp] theorem leads_some {Q : S → L → Ω → Prop} {store : S} {l : L} {out : Ω} :
    Leads (some (store, l, out)) Q ↔ Q store l out := by
  simp [Leads]

/-! ## What a party does once -/

/-- One step of the party satisfies `P`, and its other steps satisfy `Q`. -/
def Once (i : ι) (P Q : Entry (Shared ι S L) (ι × R) Ω → Prop)
    (es : List (Entry (Shared ι S L) (ι × R) Ω)) : Prop :=
  ∃ before e after, es = before ++ e :: after ∧ e.op.1 = i ∧ P e ∧
    ∀ f ∈ before ++ after, f.op.1 = i → Q f

section

variable {i : ι} {P Q : Entry (Shared ι S L) (ι × R) Ω → Prop}
variable {es : List (Entry (Shared ι S L) (ι × R) Ω)} {e : Entry (Shared ι S L) (ι × R) Ω}

/-- It is the last step that satisfies `P`. -/
theorem Once.last (h : ∀ f ∈ es, f.op.1 = i → Q f) (hi : e.op.1 = i) (he : P e) :
    Once i P Q (es ++ [e]) := by
  refine ⟨es, e, [], rfl, hi, he, ?_⟩
  rw [List.append_nil]
  exact h

/-- A further step satisfies `Q`. -/
theorem Once.snoc (h : Once i P Q es) (he : e.op.1 = i → Q e) : Once i P Q (es ++ [e]) := by
  obtain ⟨before, f, after, rfl, hi, hf, hrest⟩ := h
  refine ⟨before, f, after ++ [e], ?_, hi, hf, fun g hg hgi => ?_⟩
  · rw [List.append_assoc, List.cons_append]
  · rw [← List.append_assoc] at hg
    rcases List.mem_append.1 hg with hg | hg
    · exact hrest g hg hgi
    · obtain rfl := List.mem_singleton.1 hg
      exact he hgi

variable [DecidableEq ι] {act : ι → S → L → R → Option (S × L × Ω)} {s₀ s : Shared ι S L}

/-- **A mark that a party sets once.** Where every step of the party either leaves its mark and
satisfies `Q`, or sets the mark and satisfies `P`, a party that has set its mark has taken one step
that satisfies `P`. -/
theorem once_of_run {mark : L → Bool} (hrun : Run (interleave act) s₀ es s)
    (hstart : mark (s₀.locals i) = false)
    (hstep : ∀ e ∈ es, e.op.1 = i → mark (e.post.locals i) = mark (e.pre.locals i) ∧ Q e ∨
      mark (e.pre.locals i) = false ∧ mark (e.post.locals i) = true ∧ P e) :
    mark (s.locals i) = false ∧ (∀ e ∈ es, e.op.1 = i → Q e) ∨
      mark (s.locals i) = true ∧ Once i P Q es := by
  induction hrun with
  | nil => exact .inl ⟨hstart, by simp⟩
  | @snoc es s s' op out hrun hs ih =>
    specialize ih fun e he => hstep e (List.mem_append_left _ he)
    by_cases hi : op.1 = i
    · have hlast := hstep _ (List.mem_append_right _ (List.mem_singleton_self _)) hi
      dsimp only at hlast
      rcases hlast with ⟨hmark, hQ⟩ | ⟨hpre, hpost, hP⟩
      · rw [hmark]
        rcases ih with ⟨hfalse, hall⟩ | ⟨htrue, honce⟩
        · refine .inl ⟨hfalse, fun e he hei => ?_⟩
          rcases List.mem_append.1 he with he | he
          · exact hall e he hei
          · obtain rfl := List.mem_singleton.1 he
            exact hQ
        · exact .inr ⟨htrue, honce.snoc fun _ => hQ⟩
      · rcases ih with ⟨-, hall⟩ | ⟨htrue, -⟩
        · exact .inr ⟨hpost, .last hall hi hP⟩
        · rw [hpre] at htrue
          cases htrue
    · rw [(interleave_cases hs).2 i (Ne.symm hi)]
      rcases ih with ⟨hfalse, hall⟩ | ⟨htrue, honce⟩
      · refine .inl ⟨hfalse, fun e he hei => ?_⟩
        rcases List.mem_append.1 he with he | he
        · exact hall e he hei
        · obtain rfl := List.mem_singleton.1 he
          exact absurd hei hi
      · exact .inr ⟨htrue, honce.snoc fun hei => absurd hei hi⟩

end

end ScrapMonitoring
