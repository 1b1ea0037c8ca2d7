import Mathlib.Tactic.TypeStar

/-!
# Programs in a transaction

A session works on a store: it has the store as it was committed last and the store with the changes
made since. `Tx S α` is a program of such a session, which may raise an exception. Calls to the
database may fail; `faults` says, call by call, which ones do. Changes are published by `Tx.commit`,
and `Tx.execute` runs a program and rolls back what it has not committed. A commit that raises is
taken not to have taken effect.

`Ends p s t Q` is the rule of the programs here: begun with `s` committed and `t` pending, `p`
leaves `s` committed if it raises an exception, and ends in `Q` if it does not. A program that ends
so has no effect at all, or the one that `Q` describes (`Ends.execute`).
-/

namespace ScrapMonitoring

variable {S α β : Type}

structure Session (S : Type) where
  committed : S
  pending : S
  faults : List Bool

/-- A program; `none` is an exception. -/
def Tx (S α : Type) : Type := Session S → Session S × Option α

namespace Tx

protected def pure (a : α) : Tx S α := fun w => (w, some a)

protected def bind (p : Tx S α) (f : α → Tx S β) : Tx S β := fun w =>
  match p w with
  | (w', some a) => f a w'
  | (w', none) => (w', none)

instance : Monad (Tx S) where
  pure := Tx.pure
  bind := Tx.bind

/-- Raise an exception. -/
def fail : Tx S α := fun w => (w, none)

/-- A call to the database, which fails or not. -/
def call : Tx S Unit := fun w =>
  ({ w with faults := w.faults.tail }, if w.faults.head? = some true then none else some ())

/-- The store as the session sees it. -/
def get : Tx S S := fun w => (w, some w.pending)

/-- A change that is pending until the next commit. -/
def modify (f : S → S) : Tx S Unit := fun w => ({ w with pending := f w.pending }, some ())

/-- A call that reads from the store. -/
def query (f : S → α) : Tx S α := do
  call
  return f (← get)

/-- A statement under a condition. -/
def when (c : Prop) [Decidable c] (p : Tx S Unit) : Tx S Unit := if c then p else pure ()

def commit : Tx S Unit := do
  call
  fun w => ({ w with committed := w.pending }, some ())

/-- The store after the program and a rollback, and what the program returns. -/
def execute (p : Tx S α) (s : S) (faults : List Bool) : S × Option α :=
  ((p ⟨s, s, faults⟩).1.committed, (p ⟨s, s, faults⟩).2)

/-! ## How programs end -/

/-- With `s` committed and `t` pending, the program leaves `s` committed if it raises an exception,
and otherwise returns `a` with `s'` committed and `t'` pending such that `Q a s' t'`. -/
def Ends (p : Tx S α) (s t : S) (Q : α → S → S → Prop) : Prop :=
  ∀ faults, match p ⟨s, t, faults⟩ with
    | (w, none) => w.committed = s
    | (w, some a) => Q a w.committed w.pending

namespace Ends

variable {s t : S} {Q Q' : α → S → S → Prop}

theorem pure {a : α} (h : Q a s t) : Ends (pure a) s t Q := fun _ => h

theorem fail : Ends (fail : Tx S α) s t Q := fun _ => rfl

theorem get {Q : S → S → S → Prop} (h : Q t s t) : Ends get s t Q := fun _ => h

theorem modify {f : S → S} {Q : Unit → S → S → Prop} (h : Q () s (f t)) :
    Ends (modify f) s t Q := fun _ => h

theorem call {Q : Unit → S → S → Prop} (h : Q () s t) : Ends call s t Q := by
  intro faults
  unfold Tx.call
  split
  · next heq =>
    obtain ⟨rfl, -⟩ := Prod.mk.inj heq
    rfl
  · next heq =>
    obtain ⟨rfl, -⟩ := Prod.mk.inj heq
    exact h

theorem mono {p : Tx S α} (h : Ends p s t Q) (hQ : ∀ a s' t', Q a s' t' → Q' a s' t') :
    Ends p s t Q' := by
  intro faults
  have hp := h faults
  revert hp
  cases p ⟨s, t, faults⟩ with
  | mk w out =>
    cases out with
    | none => exact id
    | some a => exact hQ a w.committed w.pending

/-- A first part that commits nothing, and the rest. -/
theorem bind {p : Tx S α} {f : α → Tx S β} {Q : β → S → S → Prop}
    (h : Ends p s t fun a s' t' => s' = s ∧ Ends (f a) s t' Q) : Ends (p >>= f) s t Q := by
  intro faults
  have hp := h faults
  show match Tx.bind p f ⟨s, t, faults⟩ with
    | (w, none) => w.committed = s
    | (w, some a) => Q a w.committed w.pending
  unfold Tx.bind
  revert hp
  cases p ⟨s, t, faults⟩ with
  | mk w out =>
    cases out with
    | none => exact id
    | some a =>
      obtain ⟨committed, pending, rest⟩ := w
      rintro ⟨rfl, hf⟩
      exact hf rest

theorem query {f : S → α} (h : Q (f t) s t) : Ends (query f) s t Q :=
  bind (call ⟨rfl, bind (get ⟨rfl, pure h⟩)⟩)

theorem commit {Q : Unit → S → S → Prop} (h : Q () t t) : Ends commit s t Q :=
  bind (call ⟨rfl, fun _ => h⟩)

theorem ite {p q : Tx S α} {c : Prop} [Decidable c] (hp : c → Ends p s t Q)
    (hq : ¬c → Ends q s t Q) : Ends (if c then p else q) s t Q := by
  by_cases hc : c
  · rw [if_pos hc]
    exact hp hc
  · rw [if_neg hc]
    exact hq hc

theorem when {p : Tx S Unit} {c : Prop} [Decidable c] {Q : Unit → S → S → Prop}
    (hp : c → Ends p s t Q) (hskip : ¬c → Q () s t) : Ends (Tx.when c p) s t Q :=
  ite hp fun hc => pure (hskip hc)

/-- **A program has no effect, or the one that is promised.** -/
theorem execute {p : Tx S α} (h : Ends p s s Q) (faults : List Bool) :
    match p.execute s faults with
    | (s', none) => s' = s
    | (s', some a) => ∃ t', Q a s' t' := by
  have hp := h faults
  unfold Tx.execute
  revert hp
  cases p ⟨s, s, faults⟩ with
  | mk w out =>
    cases out with
    | none => exact id
    | some a => exact fun hQ => ⟨w.pending, hQ⟩

end Ends

end Tx

end ScrapMonitoring
