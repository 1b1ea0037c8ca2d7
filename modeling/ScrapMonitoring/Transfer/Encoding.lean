import ScrapMonitoring.Transfer.Values

/-!
# The bytes of a row

`rowBytes` writes a row, a dictionary from the names of its columns to Python objects, as the JSON
object of its normalized values. It fails for a row with a value that cannot be compared, and for
two rows of the same columns it gives the same bytes exactly if their values have the same types and
are equal (`rowText_eq_iff`).
-/

namespace ScrapMonitoring.Transfer

inductive TransferFailure
  | transferError (message : String)
  | overflowError
  deriving DecidableEq

/-- What a row holds under a column: the marker `SQL_NULL`, a datetime by the time that it shows
and its offset, if it has one, or another value. -/
inductive Object
  | sqlNull
  | datetime (wall : ℤ) (offset : Option ℤ)
  | value (v : Value)

abbrev Dict := List (String × Object)

/-- Whether an instant is a datetime in UTC. -/
def InRange (t : ℤ) : Prop :=
  1 ≤ (civil (t / dayLength)).year ∧ (civil (t / dayLength)).year ≤ 9999

instance (t : ℤ) : Decidable (InRange t) := inferInstanceAs (Decidable (_ ∧ _))

/-- `value.replace(tzinfo=value.tzinfo or UTC).astimezone(UTC)` -/
def astimezone (wall : ℤ) (offset : Option ℤ) : Except TransferFailure ℤ :=
  if InRange (wall - offset.getD 0) then .ok (wall - offset.getD 0) else .error .overflowError

def text (s : String) : Value := .leaf (.str s)

def normalized : Object → Except TransferFailure Value
  | .sqlNull => .ok (.arr [text "sql-null"])
  | .datetime wall offset => do
    let t ← astimezone wall offset
    .ok (.arr [text "utc", text (isoformat t)])
  | .value (.leaf (.float x)) =>
    if x.IsFinite then .ok (.arr [text "float", text (String.ofList x.hex)])
    else .error (.transferError "Non-finite numeric value found; review source data")
  | .value v => .ok (.arr [text "value", v])

def rowBytes (row : Dict) : Except TransferFailure (List UInt8) := do
  let fields ← row.mapM fun field => (fun v => (field.1, v)) <$> normalized field.2
  match (dumps (.obj fields)).bind encodeAscii with
  | some bytes => .ok bytes
  | none => .error (.transferError "Unsupported data value found; review source data")

/-! ## Marked values -/

theorem isoformat_inj {t t' : ℤ} (ht : InRange t) (ht' : InRange t')
    (h : isoformat t = isoformat t') : t = t' := by
  have hread := fromisoformat_isoformat ht
  rw [h, fromisoformat_isoformat ht'] at hread
  exact (Option.some.inj hread).symm

@[simp] theorem text_inj {s t : String} : text s = text t ↔ s = t := by simp [text]

/-- The canonical form of a marked value. -/
theorem canonical_pair (mark : String) (v : Value) :
    (Tree.arr [text mark, v]).canonical = .arr [text mark, v.canonical] := rfl

theorem leaf_of_canonical {v : Value} {a : Scalar} (h : v.canonical = .leaf a) : v = .leaf a := by
  cases v with
  | leaf a => exact h
  | arr items => cases h
  | obj members => cases h

/-! ## Values with their types -/

/-- A value as it is compared: SQL NULL, an instant, or a value up to the order of members. -/
inductive Typed
  | null
  | instant (t : ℤ)
  | value (v : Value)

namespace Object

def typed : Object → Typed
  | sqlNull => .null
  | datetime wall offset => .instant (wall - offset.getD 0)
  | value v => .value v.canonical

/-- Whether a value can be compared. -/
def Comparable : Object → Prop
  | sqlNull => True
  | datetime wall offset => InRange (wall - offset.getD 0)
  | value v => v.all Scalar.encodable

/-- The normalized value of an object that can be compared. -/
def normal : Object → Value
  | sqlNull => .arr [text "sql-null"]
  | datetime wall offset => .arr [text "utc", text (isoformat (wall - offset.getD 0))]
  | value (.leaf (.float x)) => .arr [text "float", text (String.ofList x.hex)]
  | value v => .arr [text "value", v]

/-- The condition under which an object is normalized. -/
def Normal : Object → Prop
  | sqlNull => True
  | datetime wall offset => InRange (wall - offset.getD 0)
  | value (.leaf (.float x)) => x.IsFinite
  | value _ => True

variable {o o' : Object}

/-- A value that is no float is written as it is. -/
theorem value_cases (v : Value) :
    (∃ x, v = .leaf (.float x)) ∨ (∀ x, v ≠ .leaf (.float x)) ∧
      normalized (value v) = .ok (.arr [text "value", v]) ∧
      (value v).normal = .arr [text "value", v] ∧ (value v).Normal := by
  cases v with
  | leaf a =>
    cases a with
    | float x => exact Or.inl ⟨x, rfl⟩
    | null => exact Or.inr ⟨by simp, rfl, rfl, trivial⟩
    | bool b => exact Or.inr ⟨by simp, rfl, rfl, trivial⟩
    | int n => exact Or.inr ⟨by simp, rfl, rfl, trivial⟩
    | str s => exact Or.inr ⟨by simp, rfl, rfl, trivial⟩
    | bytes bs => exact Or.inr ⟨by simp, rfl, rfl, trivial⟩
  | arr items => exact Or.inr ⟨by simp, rfl, rfl, trivial⟩
  | obj members => exact Or.inr ⟨by simp, rfl, rfl, trivial⟩

theorem succeeds_normalized (o : Object) : Succeeds (normalized o) o.Normal o.normal := by
  cases o with
  | sqlNull => exact Succeeds.pure _
  | datetime wall offset =>
    have hinstant : Succeeds (astimezone wall offset) (InRange (wall - offset.getD 0))
        (wall - offset.getD 0) := Succeeds.ite _ _
    have hwrite : Succeeds (.ok (datetime wall offset).normal : Except TransferFailure Value) True
        (datetime wall offset).normal := Succeeds.pure _
    exact (hinstant.bind hwrite).congr (by rw [and_true, Normal])
  | value v =>
    rcases value_cases v with ⟨x, rfl⟩ | ⟨-, hnormalized, hnormal, hcondition⟩
    · exact Succeeds.ite _ _
    · rw [hnormalized, hnormal]
      exact (Succeeds.pure _).congr (iff_of_true trivial hcondition)

theorem comparable_iff (o : Object) :
    o.Comparable ↔ o.Normal ∧ o.normal.all Scalar.encodable := by
  cases o with
  | sqlNull => simp [Comparable, Normal, normal, text, Tree.all, Tree.allItems, Scalar.encodable]
  | datetime wall offset =>
    simp [Comparable, Normal, normal, text, Tree.all, Tree.allItems, Scalar.encodable]
  | value v =>
    rcases value_cases v with ⟨x, rfl⟩ | ⟨-, -, hnormal, hcondition⟩
    · simp [Comparable, Normal, normal, text, Tree.all, Tree.allItems, Scalar.encodable]
    · rw [hnormal, and_iff_right hcondition]
      simp [Comparable, text, Tree.all, Tree.allItems, Scalar.encodable]

/-- Objects have one normal form, up to the order of members, exactly if they are equal with their
types. -/
theorem normal_canonical_iff (ho : o.Comparable) (ho' : o'.Comparable) :
    o.normal.canonical = o'.normal.canonical ↔ o.typed = o'.typed := by
  have hnull : (sqlNull.normal).canonical = .arr [text "sql-null"] := rfl
  have hdatetime : ∀ wall offset, ((datetime wall offset).normal).canonical =
      .arr [text "utc", text (isoformat (wall - offset.getD 0))] := fun _ _ => rfl
  have hfloat : ∀ x : Double, ((value (.leaf (.float x))).normal).canonical =
      .arr [text "float", text (String.ofList x.hex)] := fun _ => rfl
  cases o with
  | sqlNull =>
    cases o' with
    | sqlNull => simp
    | datetime wall' offset' => simp [hnull, hdatetime, typed]
    | value w =>
      rcases value_cases w with ⟨y, rfl⟩ | ⟨-, -, hw, -⟩
      · simp [hnull, hfloat, typed]
      · simp [hnull, hw, canonical_pair, typed]
  | datetime wall offset =>
    cases o' with
    | sqlNull => simp [hnull, hdatetime, typed]
    | datetime wall' offset' =>
      simp only [hdatetime, typed, Tree.arr.injEq, List.cons.injEq, text_inj, and_true, true_and,
        Typed.instant.injEq]
      exact ⟨isoformat_inj ho ho', fun h => by rw [h]⟩
    | value w =>
      rcases value_cases w with ⟨y, rfl⟩ | ⟨-, -, hw, -⟩
      · simp [hdatetime, hfloat, typed]
      · simp [hdatetime, hw, canonical_pair, typed]
  | value v =>
    rcases value_cases v with ⟨x, rfl⟩ | ⟨hv', -, hv, -⟩
    · cases o' with
      | sqlNull => simp [hnull, hfloat, typed]
      | datetime wall' offset' => simp [hdatetime, hfloat, typed]
      | value w =>
        rcases value_cases w with ⟨y, rfl⟩ | ⟨hw', -, hw, -⟩
        · have hhex : String.ofList x.hex = String.ofList y.hex ↔ x = y :=
            ⟨fun h => Double.hex_inj (String.ofList_injective h), fun h => by rw [h]⟩
          simp [hfloat, typed, hhex, Tree.canonical]
        · have hne : (Typed.value (.leaf (.float x))) ≠ .value w.canonical := fun h =>
            hw' x (leaf_of_canonical (Typed.value.inj h).symm)
          exact iff_of_false (by simp [hfloat, hw, canonical_pair]) hne
    · cases o' with
      | sqlNull => simp [hnull, hv, canonical_pair, typed]
      | datetime wall' offset' => simp [hdatetime, hv, canonical_pair, typed]
      | value w =>
        rcases value_cases w with ⟨y, rfl⟩ | ⟨hw', -, hw, -⟩
        · have hne : (Typed.value v.canonical) ≠ .value (.leaf (.float y)) := fun h =>
            hv' y (leaf_of_canonical (Typed.value.inj h))
          exact iff_of_false (by simp [hfloat, hv, canonical_pair]) hne
        · simp [hv, hw, canonical_pair, typed]

end Object

/-! ## Rows of the same columns -/

/-- The JSON object of a row. -/
def rowText (row : Dict) : Value := .obj (row.map fun field => (field.1, field.2.normal))

theorem all_rowText (row : Dict) :
    (rowText row).all Scalar.encodable ↔ ∀ field ∈ row, field.2.normal.all Scalar.encodable := by
  rw [rowText, Tree.all, Tree.allMembers_eq_all, List.all_map, List.all_eq_true]
  rfl

/-- The bytes of a row exist exactly if all its values can be compared. -/
theorem succeeds_rowBytes (row : Dict) :
    Succeeds (rowBytes row) (∀ field ∈ row, field.2.Comparable) (rowText row).bytes := by
  have hfields := Succeeds.mapM (l := row) fun field _ =>
    (Object.succeeds_normalized field.2).map (g := fun v => (field.1, v))
  have hwrite : Succeeds (match (dumps (rowText row)).bind encodeAscii with
      | some bytes => .ok bytes
      | none => .error
        (TransferFailure.transferError "Unsupported data value found; review source data"))
      ((rowText row).all Scalar.encodable) (rowText row).bytes := by
    rw [dumps_bind_encodeAscii]
    by_cases hall : (rowText row).all Scalar.encodable
    · rw [if_pos hall]
      exact (Succeeds.pure _).congr (iff_of_true trivial hall)
    · rw [if_neg hall]
      exact Succeeds.error _ _ hall
  refine (hfields.bind hwrite).congr ?_
  rw [all_rowText, ← forall₂_and]
  simp only [Object.comparable_iff]

/-- **Rows of the same columns have the same bytes exactly if they are equal with their types.** -/
theorem rowText_eq_iff {row row' : Dict} (hkeys : row.map Prod.fst = row'.map Prod.fst)
    (hnodup : (row.map Prod.fst).Nodup) (hrow : ∀ field ∈ row, field.2.Comparable)
    (hrow' : ∀ field ∈ row', field.2.Comparable) :
    (rowText row).bytes = (rowText row').bytes ↔
      row.map (fun field => (field.1, field.2.typed)) =
        row'.map fun field => (field.1, field.2.typed) := by
  have hall : ∀ {row : Dict}, (∀ field ∈ row, field.2.Comparable) →
      (rowText row).all Scalar.encodable := fun hrow =>
    (all_rowText _).2 fun field hfield => ((Object.comparable_iff _).1 (hrow field hfield)).2
  have hfst : ∀ {β : Type} (f : Object → β) (row : Dict),
      (row.map fun field => (field.1, f field.2)).map Prod.fst = row.map Prod.fst := by
    intro β f row
    rw [List.map_map]
    rfl
  have hobject : ∀ key, (row.lookup key).map (fun o => o.normal.canonical) =
      (row'.lookup key).map (fun o => o.normal.canonical) ↔
        (row.lookup key).map Object.typed = (row'.lookup key).map Object.typed := by
    intro key
    cases hlookup : row.lookup key with
    | none => cases hlookup' : row'.lookup key <;> simp
    | some o =>
      cases hlookup' : row'.lookup key with
      | none => simp
      | some o' =>
        have ho := hrow _ (mem_of_lookup hlookup)
        have ho' := hrow' _ (mem_of_lookup hlookup')
        rw [Option.map_some, Option.map_some, Option.map_some, Option.map_some, Option.some_inj,
          Option.some_inj, Object.normal_canonical_iff ho ho']
  rw [bytes_eq_iff (hall hrow) (hall hrow'), rowText, rowText,
    Tree.canonical_obj_iff (by rwa [hfst]) (by rwa [hfst, ← hkeys])]
  simp only [lookup_map, Option.map_map, Function.comp_def, hobject]
  constructor
  · intro h
    refine eq_of_lookup (by rw [hfst, hfst, hkeys]) (by rwa [hfst]) fun key => ?_
    rw [lookup_map, lookup_map, h]
  · intro h key
    rw [← lookup_map, ← lookup_map, h]

end ScrapMonitoring.Transfer
