import Mathlib.Tactic.SplitIfs
import Mathlib.Tactic.TypeStar

/-!
# Transactions with one writer at a time

Parties `ι` share the rows `S` of a database. A transaction that only reads sees what has been
committed; the first statement that writes makes its party the writer, which sees its own changes
and is the only one to write until it commits or rolls back. Parties read in between as they like,
so what a party has read may be out of date when it writes.

`Move i db db'` is what a statement of party `i` does to the database. `Others i db db'` is what the
statements of other parties may do, from the point of view of `i`: while `i` is the writer, nothing.
-/

namespace ScrapMonitoring

variable {ι S : Type*}

/-- The committed rows, and the writer with the rows as it has changed them. -/
structure WriteLock (ι S : Type*) where
  committed : S
  writer : Option (ι × S)

namespace WriteLock

section

variable [DecidableEq ι] (db : WriteLock ι S) (i : ι)

/-- The rows as a party sees them. -/
def view : S :=
  match db.writer with
  | some (j, rows) => if j = i then rows else db.committed
  | none => db.committed

/-- The party may write. -/
def free : Bool := db.writer.all fun writer => writer.1 = i

/-- The party has changed the rows. -/
def write (rows : S) : WriteLock ι S := { db with writer := some (i, rows) }

def rollback : WriteLock ι S :=
  if db.writer.any fun writer => writer.1 = i then { db with writer := none } else db

/-- The changes of the party are there for all. -/
def commit : WriteLock ι S := ⟨db.view i, if db.free i then none else db.writer⟩

end

/-- The party is the writer, with these rows. -/
def Holds (db : WriteLock ι S) (i : ι) (rows : S) : Prop := db.writer = some (i, rows)

/-- The party is not the writer. -/
def Idle (db : WriteLock ι S) (i : ι) : Prop := ∀ rows, ¬db.Holds i rows

theorem holds_write (db : WriteLock ι S) (i : ι) (rows : S) : (db.write i rows).Holds i rows := rfl

theorem idle_of_none {db : WriteLock ι S} (h : db.writer = none) (i : ι) : db.Idle i := by
  intro rows hholds
  unfold Holds at hholds
  rw [h] at hholds
  cases hholds

section

variable [DecidableEq ι] {db db' : WriteLock ι S} {i j : ι} {rows : S}

theorem Holds.view_eq (h : db.Holds i rows) : db.view i = rows := by
  unfold Holds at h
  unfold view
  rw [h]
  exact if_pos rfl

theorem Idle.view_eq (h : db.Idle i) : db.view i = db.committed := by
  unfold view
  cases hwriter : db.writer with
  | none => rfl
  | some writer =>
    obtain ⟨j, rows⟩ := writer
    refine if_neg ?_
    rintro rfl
    exact h rows hwriter

theorem Holds.free (h : db.Holds i rows) : db.free i = true := by
  unfold Holds at h
  unfold WriteLock.free
  rw [h]
  exact decide_eq_true rfl

theorem rollback_committed : (db.rollback i).committed = db.committed := by
  unfold rollback
  split_ifs <;> rfl

/-- What is rolled back leaves no trace. -/
theorem rollback_write (h : db.free i) : (db.write i rows).rollback i = db.rollback i := by
  unfold rollback WriteLock.write
  unfold WriteLock.free at h
  cases hwriter : db.writer with
  | none =>
    obtain ⟨committed, writer⟩ := db
    obtain rfl := hwriter
    simp
  | some writer =>
    rw [hwriter] at h
    simp only [Option.all_some, decide_eq_true_eq] at h
    simp [h]

theorem Holds.commit_eq (h : db.Holds i rows) : db.commit i = ⟨rows, none⟩ := by
  unfold commit
  rw [h.view_eq, h.free]
  rfl

/-- What a statement of a party does. -/
inductive Move (i : ι) (db : WriteLock ι S) : WriteLock ι S → Prop
  | read : Move i db db
  | write (h : db.free i) (rows : S) : Move i db (db.write i rows)
  | rollback : Move i db (db.rollback i)
  | commit (rows : S) (h : db.Holds i rows) : Move i db ⟨rows, none⟩

/-- What other parties may do. -/
structure Others (i : ι) (db db' : WriteLock ι S) : Prop where
  holds : ∀ rows, db.Holds i rows → db'.Holds i rows ∧ db'.committed = db.committed
  idle : db.Idle i → db'.Idle i

/-- **While a party is the writer, no other party changes anything.** -/
theorem Move.others (h : Move j db db') (hne : i ≠ j) : Others i db db' := by
  cases h with
  | read => exact ⟨fun _ h => ⟨h, rfl⟩, id⟩
  | write hfree rows =>
    constructor
    · intro rows' hholds
      unfold Holds at hholds
      unfold free at hfree
      rw [hholds] at hfree
      exact absurd (of_decide_eq_true hfree) hne
    · intro _ rows' hholds
      unfold Holds WriteLock.write at hholds
      exact hne (Prod.mk.inj (Option.some.inj hholds)).1.symm
  | rollback =>
    constructor
    · intro rows' hholds
      have hsame : db.rollback j = db := by
        unfold Holds at hholds
        unfold WriteLock.rollback
        rw [hholds]
        refine if_neg fun heq => hne ?_
        simpa using heq
      rw [hsame]
      exact ⟨hholds, rfl⟩
    · intro hidle rows' hholds
      unfold WriteLock.rollback at hholds
      split_ifs at hholds
      · cases hholds
      · exact hidle rows' hholds
  | commit rows hj =>
    constructor
    · intro rows' hi
      unfold Holds at hi hj
      rw [hi] at hj
      exact absurd (Prod.mk.inj (Option.some.inj hj)).1 hne
    · intro _ rows' hholds
      cases hholds

/-- The party has changed the committed rows, and the changed rows are related to them. -/
def Pending (db : WriteLock ι S) (i : ι) (P : S → S → Prop) : Prop :=
  ∃ rows, db.Holds i rows ∧ P db.committed rows

omit [DecidableEq ι] in
theorem Pending.imp {P Q : S → S → Prop} (h : db.Pending i P)
    (himp : ∀ pre post, P pre post → Q pre post) : db.Pending i Q := by
  obtain ⟨rows, hholds, hP⟩ := h
  exact ⟨rows, hholds, himp _ _ hP⟩

omit [DecidableEq ι] in
/-- What a party has changed stands, whatever the others do. -/
theorem Pending.others {P : S → S → Prop} (h : db.Pending i P) (hothers : Others i db db') :
    db'.Pending i P := by
  obtain ⟨rows, hholds, hP⟩ := h
  obtain ⟨hholds', hcommitted⟩ := hothers.holds rows hholds
  refine ⟨rows, hholds', ?_⟩
  rw [hcommitted]
  exact hP

omit [DecidableEq ι] in
theorem pending_write {P : S → S → Prop} (h : P db.committed rows) :
    (db.write i rows).Pending i P :=
  ⟨rows, holds_write db i rows, h⟩

/-- Only a commit changes what all parties see. -/
theorem Move.committed (h : Move i db db') :
    db'.committed = db.committed ∨ ∃ rows, db.Holds i rows ∧ db'.committed = rows := by
  cases h with
  | read => exact .inl rfl
  | write => exact .inl rfl
  | rollback => exact .inl rollback_committed
  | commit rows h => exact .inr ⟨rows, h, rfl⟩

end

end WriteLock

end ScrapMonitoring
