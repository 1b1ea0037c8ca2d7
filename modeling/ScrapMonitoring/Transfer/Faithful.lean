import ScrapMonitoring.Transfer.Copy

/-!
# The transfer of a table

The summaries of two sequences of rows are compared, and the rows of a table are copied. Unless the
hashed bytes are a collision of the hash, summaries agree exactly for rows that are equal one by one
with their types; and a copy stores every row once (`transfer_faithful`).
-/

namespace ScrapMonitoring.Transfer

variable {table : Table}

/-- The bytes that two summaries hash are no collision. -/
def CollisionFree (batchSize batchSize' : ℕ) (rows rows' : List (Row table)) : Prop :=
  ∀ d d', digestTable table batchSize rows = .ok d → digestTable table batchSize' rows' = .ok d' →
    sha256 d.hashed = sha256 d'.hashed → d.hashed = d'.hashed

theorem summarize_eq_iff {batchSize batchSize' : ℕ} {rows rows' : List (Row table)}
    (hfree : CollisionFree batchSize batchSize' rows rows') {s s' : TableSummary}
    (hs : summarize table batchSize rows = .ok s)
    (hs' : summarize table batchSize' rows' = .ok s') :
    s = s' ↔ rows.map Row.typed = rows'.map Row.typed := by
  obtain ⟨hrows, rfl⟩ := (succeeds_summarize batchSize rows).of_ok hs
  obtain ⟨hrows', rfl⟩ := (succeeds_summarize batchSize' rows').of_ok hs'
  have hdigest := (succeeds_digestTable batchSize rows).ok hrows
  have hdigest' := (succeeds_digestTable batchSize' rows').ok hrows'
  rw [TableSummary.mk.injEq, ← frames_eq_iff hrows hrows']
  constructor
  · exact fun h => hfree _ _ hdigest hdigest' h.2
  · intro h
    have htyped := congrArg List.length ((frames_eq_iff hrows hrows').1 h)
    rw [List.length_map, List.length_map] at htyped
    exact ⟨htyped, by rw [h]⟩

/-- The hashed bytes of rows begin those of others exactly if the rows begin the others. -/
theorem hashed_isPrefix_iff {batchSize batchSize' : ℕ} {rows rows' : List (Row table)}
    {d d' : Digest} (hd : digestTable table batchSize rows = .ok d)
    (hd' : digestTable table batchSize' rows' = .ok d') :
    d.hashed <+: d'.hashed ↔ rows.map Row.typed <+: rows'.map Row.typed := by
  obtain ⟨hrows, rfl⟩ := (succeeds_digestTable batchSize rows).of_ok hd
  obtain ⟨hrows', rfl⟩ := (succeeds_digestTable batchSize' rows').of_ok hd'
  exact frames_isPrefix_iff hrows hrows'

/-- **Summaries tell rows apart, and copies keep them.** Without a collision of the hash, two
summaries are equal exactly if the rows are equal one by one with their types. The hashed bytes
encode the rows: those of one sequence are those of another, or begin them, exactly if the sequence
is the other one, or begins it. A summary exists exactly if all rows can be hashed, and a copy
exactly if all rows can be compared; and the copy stores every row once, with its values and
types. -/
theorem transfer_faithful (table : Table) (batchSize batchSize' : ℕ)
    (rows rows' : List (Row table)) :
    (CollisionFree batchSize batchSize' rows rows' → ∀ s s',
      summarize table batchSize rows = .ok s → summarize table batchSize' rows' = .ok s' →
        (s = s' ↔ rows.map Row.typed = rows'.map Row.typed)) ∧
    (∀ d d', digestTable table batchSize rows = .ok d →
      digestTable table batchSize' rows' = .ok d' →
        (d.hashed = d'.hashed ↔ rows.map Row.typed = rows'.map Row.typed) ∧
          (d.hashed <+: d'.hashed ↔ rows.map Row.typed <+: rows'.map Row.typed)) ∧
    ((∃ s, summarize table batchSize rows = .ok s) ↔ ∀ row ∈ rows, row.Hashable) ∧
    ((∃ inserts, copyTable table batchSize rows = .ok inserts) ↔
      ∀ row ∈ rows, row.Comparable) ∧
    ∀ inserts, copyTable table batchSize rows = .ok inserts →
      (stored table inserts).Perm (rows.map fun row => some row.typed) := by
  refine ⟨fun hfree s s' hs hs' => summarize_eq_iff hfree hs hs', fun d d' hd hd' => ?_,
    (succeeds_summarize batchSize rows).exists_iff, (succeeds_copyTable batchSize rows).exists_iff,
    fun inserts hinserts => ?_⟩
  · refine ⟨?_, hashed_isPrefix_iff hd hd'⟩
    obtain ⟨hrows, rfl⟩ := (succeeds_digestTable batchSize rows).of_ok hd
    obtain ⟨hrows', rfl⟩ := (succeeds_digestTable batchSize' rows').of_ok hd'
    exact frames_eq_iff hrows hrows'
  · obtain ⟨-, rfl⟩ := (succeeds_copyTable batchSize rows).of_ok hinserts
    exact perm_insertions batchSize rows

/-! ## A table with both nulls -/

def edgeV2Minutes : Table where
  columns := [⟨"site_id", .plain⟩, ⟨"edge_id", .plain⟩, ⟨"bucket_start", .dateTime⟩,
    ⟨"generated_at", .dateTime⟩, ⟨"payload", .json false⟩, ⟨"history_summary", .json true⟩]
  names := by decide
  labels := by decide

/-- A minute with a summary of its own. -/
def minuteAt (bucket : ℤ) (summary : Stored) : Row edgeV2Minutes where
  cells := [(⟨"site_id", .plain⟩, .value (text "site")),
    (⟨"edge_id", .plain⟩, .value (text "edge")),
    (⟨"bucket_start", .dateTime⟩, .datetime bucket none),
    (⟨"generated_at", .dateTime⟩, .datetime 1767258001200000 (some 32400000000)),
    (⟨"payload", .json false⟩, .value (.obj [("b", .leaf (.int 2)), ("a", .arr [.leaf .null,
      .leaf (.float ⟨false, 1022, 0x7333333333333⟩)])])),
    (⟨"history_summary", .json true⟩, summary)]
  columns := rfl
  literals := by simp [text, Column.isJson]

def minute (summary : Stored) : Row edgeV2Minutes := minuteAt 1767225600000000 summary

theorem hashable_minute : (minute (.value (.leaf .null))).Hashable ∧ (minute .null).Hashable := by
  decide +kernel

theorem collisionFree_minutes :
    CollisionFree 50 1 [minute (.value (.leaf .null))] [minute .null] := by
  intro d d' hd hd' hsha
  obtain ⟨-, rfl⟩ := (succeeds_digestTable 50 _).of_ok hd
  obtain ⟨-, rfl⟩ := (succeeds_digestTable 1 _).of_ok hd'
  have hne : sha256 (frames [minute (.value (.leaf .null))]) ≠ sha256 (frames [minute .null]) := by
    decide +kernel
  exact absurd hsha hne

/-- A transfer keeps SQL NULL and the JSON literal null apart. -/
theorem transfer_faithful_minutes :
    (∃ s s', summarize edgeV2Minutes 50 [minute (.value (.leaf .null))] = .ok s ∧
      summarize edgeV2Minutes 1 [minute .null] = .ok s' ∧ s ≠ s') ∧
    ∃ inserts, copyTable edgeV2Minutes 1 [minute (.value (.leaf .null)), minute .null] =
        .ok inserts ∧
      (stored edgeV2Minutes inserts).Perm
        [some (minute (.value (.leaf .null))).typed, some (minute .null).typed] := by
  obtain ⟨hliteral, hnull⟩ := hashable_minute
  have hne : [minute (.value (.leaf .null))].map Row.typed ≠ [minute .null].map Row.typed := by
    simp [Row.typed, minute, minuteAt, Stored.typed]
  constructor
  · obtain ⟨hsummary, -, hexists, -⟩ := transfer_faithful edgeV2Minutes 50 1
      [minute (.value (.leaf .null))] [minute .null]
    obtain ⟨-, -, hexists', -⟩ := transfer_faithful edgeV2Minutes 1 1 [minute .null] []
    obtain ⟨s, hs⟩ := hexists.2 (by simpa using hliteral)
    obtain ⟨s', hs'⟩ := hexists'.2 (by simpa using hnull)
    have heq := hsummary collisionFree_minutes s s' hs hs'
    exact ⟨s, s', hs, hs', fun h => hne (heq.1 h)⟩
  · obtain ⟨-, -, -, hexists, hstored⟩ := transfer_faithful edgeV2Minutes 1 1
      [minute (.value (.leaf .null)), minute .null] []
    obtain ⟨inserts, hinserts⟩ := hexists.2 (by simpa using ⟨hliteral.1, hnull.1⟩)
    exact ⟨inserts, hinserts, hstored inserts hinserts⟩

end ScrapMonitoring.Transfer
