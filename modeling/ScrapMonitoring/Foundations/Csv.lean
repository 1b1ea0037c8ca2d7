import Mathlib.Data.List.Nodup

/-!
# Separated values

A dialect names the characters that separate fields, quote them and end a record. `write` quotes
every field and doubles the quotes in it; `read` follows the grammar of comma-separated values,
with plain fields and quoted ones, where a line may also end with the line feed alone. Whatever the
characters of the fields are, what is written is read as it was (`read_write`).
-/

namespace ScrapMonitoring

/-- The characters of separated values. -/
structure Dialect (α : Type*) where
  delimiter : α
  mark : α
  cr : α
  lf : α
  nodup : [delimiter, mark, cr, lf].Nodup

namespace Dialect

variable {α : Type*}

theorem delimiter_ne_mark (d : Dialect α) : d.delimiter ≠ d.mark := by
  have h := d.nodup
  simp only [List.nodup_cons, List.mem_cons, not_or] at h
  exact h.1.1

theorem cr_ne (d : Dialect α) : d.cr ≠ d.mark ∧ d.cr ≠ d.delimiter := by
  have h := d.nodup
  simp only [List.nodup_cons, List.mem_cons, not_or] at h
  exact ⟨Ne.symm h.2.1.1, Ne.symm h.1.2.1⟩

variable [DecidableEq α] (d : Dialect α)

/-! ## Writing -/

/-- A character in quotes; a quote is doubled. -/
def quoted (c : α) : List α := if c = d.mark then [c, c] else [c]

def field (text : List α) : List α := d.mark :: (text.flatMap d.quoted ++ [d.mark])

def record (fields : List (List α)) : List α :=
  [d.delimiter].intercalate (fields.map d.field) ++ [d.cr, d.lf]

def write (records : List (List (List α))) : List α := records.flatMap d.record

/-! ## Reading -/

/-- Where a reader stands: at the beginning of a record or of a later field, in a plain field, in
quotes, behind a quote in quotes, or between the two characters that end a line. -/
inductive Mode
  | record
  | field
  | plain
  | quotes
  | closing
  | line
  deriving DecidableEq

/-- A reader, with the field, the record and the records that it has read so far. -/
structure Reader (α : Type*) where
  mode : Mode
  text : List α
  fields : List (List α)
  records : List (List (List α))

namespace Reader

variable (r : Reader α)

def start : Reader α := ⟨.record, [], [], []⟩

def endField : Reader α := ⟨.field, [], r.fields ++ [r.text], r.records⟩

def endRecord (mode : Mode) : Reader α := ⟨mode, [], [], r.records ++ [r.fields ++ [r.text]]⟩

/-- What may follow a field. -/
def ends (c : α) : Option (Reader α) :=
  if c = d.delimiter then some r.endField
  else if c = d.cr then some (r.endRecord .line)
  else if c = d.lf then some (r.endRecord .record)
  else none

/-- A character that begins a field, or ends an empty one. -/
def begins (c : α) : Reader α :=
  if c = d.mark then { r with mode := .quotes }
  else (r.ends d c).getD { r with mode := .plain, text := [c] }

def step (r : Reader α) (c : α) : Option (Reader α) :=
  match r.mode with
  | .record => some (r.begins d c)
  | .field => some (r.begins d c)
  | .plain =>
    if c = d.mark then none else some ((r.ends d c).getD { r with text := r.text ++ [c] })
  | .quotes =>
    if c = d.mark then some { r with mode := .closing }
    else some { r with text := r.text ++ [c] }
  | .closing =>
    if c = d.mark then some { r with mode := .quotes, text := r.text ++ [c] } else r.ends d c
  | .line => if c = d.lf then some { r with mode := .record } else none

/-- The records at the end of the text; the last line may lack its end. -/
def finish : Option (List (List (List α))) :=
  match r.mode with
  | .quotes => none
  | .record => some r.records
  | .line => some r.records
  | _ => some (r.records ++ [r.fields ++ [r.text]])

end Reader

def read (text : List α) : Option (List (List (List α))) :=
  (text.foldlM (Reader.step d) Reader.start).bind Reader.finish

/-! ## What is written is read -/

section

variable {d} {text rest : List α} {fields : List (List α)} {records : List (List (List α))}

/-- Behind a quote, the delimiter ends the field. -/
theorem step_delimiter : Reader.step d ⟨.closing, text, fields, records⟩ d.delimiter =
    some ⟨.field, [], fields ++ [text], records⟩ := by
  unfold Reader.step Reader.ends
  dsimp only
  rw [if_neg d.delimiter_ne_mark, if_pos rfl]
  rfl

/-- There the two characters that end a line end the record. -/
theorem foldlM_newline : List.foldlM (Reader.step d) ⟨.closing, text, fields, records⟩
      (d.cr :: d.lf :: rest) =
    List.foldlM (Reader.step d) ⟨.record, [], [], records ++ [fields ++ [text]]⟩ rest := by
  have hcr : Reader.step d ⟨.closing, text, fields, records⟩ d.cr =
      some ⟨.line, [], [], records ++ [fields ++ [text]]⟩ := by
    unfold Reader.step Reader.ends
    dsimp only
    rw [if_neg d.cr_ne.1, if_neg d.cr_ne.2, if_pos rfl]
    rfl
  have hlf : Reader.step d ⟨.line, [], [], records ++ [fields ++ [text]]⟩ d.lf =
      some ⟨.record, [], [], records ++ [fields ++ [text]]⟩ := by
    unfold Reader.step
    dsimp only
    rw [if_pos rfl]
  rw [List.foldlM_cons, hcr, Option.bind_eq_bind, Option.bind_some, List.foldlM_cons, hlf]
  rfl

/-- A character that was quoted is read as it was. -/
theorem foldlM_quoted (c : α) : List.foldlM (Reader.step d) ⟨.quotes, text, fields, records⟩
      (d.quoted c ++ rest) =
    List.foldlM (Reader.step d) ⟨.quotes, text ++ [c], fields, records⟩ rest := by
  unfold quoted
  by_cases hmark : c = d.mark
  · -- the first of the two quotes closes the field, the second opens it again
    have hclose : Reader.step d ⟨.quotes, text, fields, records⟩ c =
        some ⟨.closing, text, fields, records⟩ := by
      unfold Reader.step
      exact if_pos hmark
    have hopen : Reader.step d ⟨.closing, text, fields, records⟩ c =
        some ⟨.quotes, text ++ [c], fields, records⟩ := by
      unfold Reader.step
      exact if_pos hmark
    rw [if_pos hmark, List.cons_append, List.foldlM_cons, hclose, Option.bind_eq_bind,
      Option.bind_some, List.cons_append, List.foldlM_cons, hopen]
    rfl
  · have hstep : Reader.step d ⟨.quotes, text, fields, records⟩ c =
        some ⟨.quotes, text ++ [c], fields, records⟩ := by
      unfold Reader.step
      exact if_neg hmark
    rw [if_neg hmark, List.cons_append, List.foldlM_cons, hstep]
    rfl

theorem foldlM_body (body : List α) :
    List.foldlM (Reader.step d) ⟨.quotes, text, fields, records⟩
      (body.flatMap d.quoted ++ d.mark :: rest) =
    List.foldlM (Reader.step d) ⟨.closing, text ++ body, fields, records⟩ rest := by
  induction body generalizing text with
  | nil =>
    have hclose : Reader.step d ⟨.quotes, text, fields, records⟩ d.mark =
        some ⟨.closing, text, fields, records⟩ := by
      unfold Reader.step
      exact if_pos rfl
    rw [List.flatMap_nil, List.nil_append, List.foldlM_cons, hclose, List.append_nil]
    rfl
  | cons c body ih =>
    rw [List.flatMap_cons, List.append_assoc, foldlM_quoted, ih, List.append_assoc,
      List.singleton_append]

/-- A written field is read from where a field may begin. -/
theorem foldlM_field {mode : Mode} (hmode : mode = .record ∨ mode = .field) (body : List α) :
    List.foldlM (Reader.step d) ⟨mode, [], fields, records⟩ (d.field body ++ rest) =
    List.foldlM (Reader.step d) ⟨.closing, body, fields, records⟩ rest := by
  have hopen : Reader.step d ⟨mode, [], fields, records⟩ d.mark =
      some ⟨.quotes, [], fields, records⟩ := by
    rcases hmode with rfl | rfl <;> exact congrArg some (if_pos rfl)
  rw [field, List.cons_append, List.append_assoc, List.foldlM_cons, hopen, Option.bind_eq_bind,
    Option.bind_some, List.singleton_append, foldlM_body, List.nil_append]

theorem foldlM_fields {mode : Mode} (hmode : mode = .record ∨ mode = .field)
    (body : List α) (bodies : List (List α)) :
    List.foldlM (Reader.step d) ⟨mode, [], fields, records⟩
      ([d.delimiter].intercalate ((body :: bodies).map d.field) ++ d.cr :: d.lf :: rest) =
    List.foldlM (Reader.step d)
      ⟨.record, [], [], records ++ [fields ++ (body :: bodies)]⟩ rest := by
  induction bodies generalizing mode body fields with
  | nil =>
    rw [List.map_singleton, List.intercalate_singleton, foldlM_field hmode, foldlM_newline]
  | cons body' bodies ih =>
    rw [List.map_cons, List.map_cons, List.intercalate_cons_cons, List.append_assoc,
      List.append_assoc, foldlM_field hmode, List.singleton_append, List.foldlM_cons,
      step_delimiter, Option.bind_eq_bind, Option.bind_some, ← List.map_cons, ih (.inr rfl),
      List.append_assoc, List.singleton_append]

theorem foldlM_record (hfields : fields ≠ []) :
    List.foldlM (Reader.step d) ⟨.record, [], [], records⟩ (d.record fields ++ rest) =
    List.foldlM (Reader.step d) ⟨.record, [], [], records ++ [fields]⟩ rest := by
  obtain ⟨body, bodies, rfl⟩ := List.exists_cons_of_ne_nil hfields
  rw [record, List.append_assoc]
  exact foldlM_fields (.inl rfl) body bodies

theorem foldlM_write (written : List (List (List α))) (h : ∀ fields ∈ written, fields ≠ []) :
    List.foldlM (Reader.step d) ⟨.record, [], [], records⟩ (d.write written) =
      some ⟨.record, [], [], records ++ written⟩ := by
  induction written generalizing records with
  | nil =>
    rw [List.append_nil]
    rfl
  | cons fields written ih =>
    rw [write, List.flatMap_cons, foldlM_record (h fields List.mem_cons_self)]
    refine (ih fun fields' hfields' => h fields' (List.mem_cons_of_mem fields hfields')).trans ?_
    rw [List.append_assoc, List.singleton_append]

/-- **What is written is read as it was.** -/
theorem read_write (h : ∀ fields ∈ records, fields ≠ []) :
    d.read (d.write records) = some records := by
  unfold read Reader.start
  rw [foldlM_write records h, List.nil_append]
  rfl

end

end Dialect

end ScrapMonitoring
