import ScrapMonitoring.Events.Table
import ScrapMonitoring.Foundations.Csv
import ScrapMonitoring.Foundations.DoubleText
import ScrapMonitoring.Foundations.Quote
import ScrapMonitoring.Foundations.Tree

/-!
# Rows as separated values

`encode_csv` of `services/history_csv.py` writes a header and the cells of every row, in UTF-8
behind a byte order mark, up to a size. A reader of the file finds the header and every cell of
every row, and there is no file exactly if it would be too large (`encodeCsv_faithful`). A
spreadsheet takes no cell for a formula but a number (`cell_not_formula`).

A value of a row is one of the JSON mode of a model: a scalar, a list or a dictionary.
-/

namespace ScrapMonitoring.Downloads

open Events (ApiError)

/-! ## Values and their texts -/

inductive Scalar
  | null
  | bool (b : Bool)
  | int (n : ℤ)
  | float (x : Double)
  | str (s : String)
  deriving DecidableEq

abbrev Value := Tree Scalar

/-- A dictionary from columns to values. -/
abbrev Row := List (String × Value)

/-- `row.get(key)` -/
def Row.get (row : Row) (key : String) : Value := (row.lookup key).getD (.leaf .null)

def boolText (b : Bool) : List Char := if b then "true".toList else "false".toList

def intText (n : ℤ) : List Char := Double.signText (n < 0) ++ Nat.toDigits 10 n.natAbs

/-- The text of a float; the others have the given names for infinity and for no number. -/
def floatText (infinity nan : String) (x : Double) : List Char :=
  if x.IsFinite then x.repr
  else if x.fraction.val = 0 then Double.signText x.negative ++ infinity.toList
  else nan.toList

/-- A character of a JSON string where `ensure_ascii` is off. -/
def escapeUnicode (c : Char) : List Char :=
  match shortEscapes.lookup c with
  | some letter => ['\\', letter]
  | none => if c < ' ' then unitEscape c.toNat else [c]

def quoteUnicode (s : String) : List Char := '"' :: (s.toList.flatMap escapeUnicode ++ ['"'])

def Scalar.dumps : Scalar → List Char
  | null => "null".toList
  | bool b => boolText b
  | int n => intText n
  | float x => floatText "Infinity" "NaN" x
  | str s => quoteUnicode s

mutual

/-- `json.dumps(value, ensure_ascii=False, separators=(",", ":"))` -/
def dumps : Value → List Char
  | .leaf a => a.dumps
  | .arr [] => ['[', ']']
  | .arr (v :: vs) => '[' :: (dumps v ++ dumpsItems vs)
  | .obj [] => ['{', '}']
  | .obj ((k, v) :: ms) => '{' :: (quoteUnicode k ++ ':' :: (dumps v ++ dumpsMembers ms))

def dumpsItems : List Value → List Char
  | [] => [']']
  | v :: vs => ',' :: (dumps v ++ dumpsItems vs)

def dumpsMembers : List (String × Value) → List Char
  | [] => ['}']
  | (k, v) :: ms => ',' :: (quoteUnicode k ++ ':' :: (dumps v ++ dumpsMembers ms))

end

/-! ## Cells -/

def byteOrderMark : Char := '\ufeff'

/-- What is passed over where a formula may begin. -/
def blanks : List Char := [' ', '\t', '\r', '\n', byteOrderMark]

/-- The characters that begin a formula, also in full width. -/
def formulaMarks : List Char := ['=', '+', '-', '@', '\uff1d', '\uff0b', '\uff0d', '\uff20']

/-- A text that a spreadsheet may take for a formula. -/
def FormulaLike (text : List Char) : Prop :=
  (∃ c ∈ text.head?, c ∈ ['\t', '\r', '\n']) ∨
  ∃ c ∈ (text.dropWhile (· ∈ blanks)).head?, c ∈ formulaMarks

instance (text : List Char) : Decidable (FormulaLike text) :=
  decidable_of_iff ((text.head?.any (· ∈ ['\t', '\r', '\n']) ||
      (text.dropWhile (· ∈ blanks)).head?.any (· ∈ formulaMarks)) = true) <| by
    simp [FormulaLike, Option.any_eq_true]

def apostrophe : Char := Char.ofNat 39

/-- `cell`: the text of a value; one that is like a formula begins with an apostrophe. -/
def cell : Value → List Char
  | .leaf .null => []
  | .leaf (.bool b) => boolText b
  | .leaf (.str s) => if FormulaLike s.toList then apostrophe :: s.toList else s.toList
  | .leaf (.int n) => intText n
  | .leaf (.float x) => floatText "inf" "nan" x
  | value => dumps value

/-! ## Files -/

/-- `csv.writer` with `QUOTE_ALL`: commas, double quotes and line ends of two characters. -/
def excel : Dialect Char where
  delimiter := ','
  mark := '"'
  cr := '\r'
  lf := '\n'
  nodup := by decide

def maxCsvBytes : ℕ := 8 * 1024 * 1024

/-- `encode("utf-8")` -/
def utf8 (text : List Char) : ByteArray := (String.ofList text).toByteArray

def line (fields : List (List Char)) : ByteArray := utf8 (excel.record fields)

def bom : ByteArray := ⟨#[0xef, 0xbb, 0xbf]⟩

def sizeLimitExceeded : ApiError := ⟨422, "CSV_SIZE_LIMIT_EXCEEDED"⟩

/-- The cells of a row. -/
def cells (columns : List String) (row : Row) : List (List Char) :=
  columns.map fun key => cell (row.get key)

/-- The loop of `encode_csv`, with the output so far. -/
def encodeRows (columns : List String) : List Row → ByteArray → Except ApiError ByteArray
  | [], output => .ok output
  | row :: rows, output =>
    let encoded := line (cells columns row)
    if maxCsvBytes < output.size + encoded.size then .error sizeLimitExceeded
    else encodeRows columns rows (output ++ encoded)

/-- `encode_csv` -/
def encodeCsv (columns : List String) (rows : List Row) : Except ApiError ByteArray :=
  let output := bom ++ line (columns.map String.toList)
  if maxCsvBytes < output.size then .error sizeLimitExceeded else encodeRows columns rows output

/-- The records of a file, if it is text in UTF-8; a byte order mark is passed over. -/
def readCsv (body : ByteArray) : Option (List (List (List Char))) :=
  body.utf8Decode?.bind fun text =>
    excel.read (if text.toList.head? = some byteOrderMark then text.toList.tail else text.toList)

/-! ## The file as a whole -/

section

variable {columns : List String} {rows : List Row} {output body : ByteArray}

/-- The file of all rows. -/
def wholeFile (columns : List String) (rows : List Row) : ByteArray :=
  utf8 (byteOrderMark :: excel.write (columns.map String.toList :: rows.map (cells columns)))

theorem utf8_append (s t : List Char) : utf8 (s ++ t) = utf8 s ++ utf8 t := List.utf8Encode_append

theorem utf8_write_cons (fields : List (List Char)) (records : List (List (List Char))) :
    utf8 (excel.write (fields :: records)) = line fields ++ utf8 (excel.write records) := by
  unfold Dialect.write line
  rw [List.flatMap_cons, utf8_append]

/-- The rows are added to the output exactly if all of them fit. -/
theorem encodeRows_eq (rows : List Row) (houtput : output.size ≤ maxCsvBytes) :
    encodeRows columns rows output =
      if maxCsvBytes < (output ++ utf8 (excel.write (rows.map (cells columns)))).size then
        .error sizeLimitExceeded
      else .ok (output ++ utf8 (excel.write (rows.map (cells columns)))) := by
  induction rows generalizing output with
  | nil =>
    have hnil : utf8 (excel.write []) = ByteArray.empty := List.utf8Encode_nil
    rw [List.map_nil, hnil, ByteArray.append_empty, if_neg (not_lt.2 houtput)]
    rfl
  | cons row rows ih =>
    unfold encodeRows
    dsimp only
    rw [List.map_cons, utf8_write_cons, ← ByteArray.append_assoc]
    by_cases hfits : maxCsvBytes < output.size + (line (cells columns row)).size
    · -- what follows does not make the file smaller
      have hlarge : maxCsvBytes < (output ++ line (cells columns row) ++
          utf8 (excel.write (rows.map (cells columns)))).size := by
        rw [ByteArray.size_append, ByteArray.size_append]
        omega
      rw [if_pos hfits, if_pos hlarge]
    · rw [if_neg hfits]
      apply ih
      rw [ByteArray.size_append]
      exact not_lt.1 hfits

theorem bom_eq : bom = utf8 [byteOrderMark] := by decide

theorem wholeFile_eq : wholeFile columns rows = bom ++ line (columns.map String.toList) ++
    utf8 (excel.write (rows.map (cells columns))) := by
  unfold wholeFile
  rw [← List.singleton_append, utf8_append, utf8_write_cons, ← bom_eq, ByteArray.append_assoc]

/-- **A file has all rows, or there is none.** -/
theorem encodeCsv_eq (columns : List String) (rows : List Row) : encodeCsv columns rows =
    if maxCsvBytes < (wholeFile columns rows).size then .error sizeLimitExceeded
    else .ok (wholeFile columns rows) := by
  unfold encodeCsv
  dsimp only
  rw [wholeFile_eq]
  by_cases hheader : maxCsvBytes < (bom ++ line (columns.map String.toList)).size
  · have hlarge : maxCsvBytes < (bom ++ line (columns.map String.toList) ++
        utf8 (excel.write (rows.map (cells columns)))).size := by
      rw [ByteArray.size_append]
      omega
    rw [if_pos hheader, if_pos hlarge]
  · rw [if_neg hheader]
    exact encodeRows_eq rows (not_lt.1 hheader)

/-- The whole file is read as its header and its cells. -/
theorem readCsv_wholeFile (hcolumns : columns ≠ []) : readCsv (wholeFile columns rows) =
    some (columns.map String.toList :: rows.map (cells columns)) := by
  have hrecords : ∀ fields ∈ columns.map String.toList :: rows.map (cells columns),
      fields ≠ [] := by
    intro fields hfields
    rcases List.mem_cons.1 hfields with rfl | hfields
    · exact fun h => hcolumns (List.map_eq_nil_iff.1 h)
    · obtain ⟨row, -, rfl⟩ := List.mem_map.1 hfields
      exact fun h => hcolumns (List.map_eq_nil_iff.1 h)
  have hdecode : ∀ text, (utf8 text).utf8Decode? = some text.toArray :=
    fun text => List.utf8Decode?_utf8Encode
  unfold readCsv wholeFile
  rw [hdecode, Option.bind_some, List.toList_toArray, List.head?_cons,
    if_pos rfl, List.tail_cons]
  exact Dialect.read_write hrecords

end

/-! ## No cell is taken for a formula -/

/-- Integers and floats are written as they are. -/
def isNumber : Value → Bool
  | .leaf (.int _) => true
  | .leaf (.float _) => true
  | _ => false

theorem not_formulaLike_cons {c : Char} (text : List Char) (hblank : c ∉ blanks)
    (hmark : c ∉ formulaMarks) : ¬FormulaLike (c :: text) := by
  rintro (⟨c', hc', hmem⟩ | ⟨c', hc', hmem⟩)
  · obtain rfl := Option.some.inj hc'
    refine hblank ?_
    simp only [List.mem_cons, List.not_mem_nil, or_false] at hmem
    rcases hmem with rfl | rfl | rfl <;> decide
  · rw [List.dropWhile_cons_of_neg (by simpa using hblank)] at hc'
    obtain rfl := Option.some.inj hc'
    exact hmark hmem

theorem dumps_head (value : Value) (h : ∀ a, value ≠ .leaf a) :
    ∃ text, dumps value = '[' :: text ∨ dumps value = '{' :: text := by
  cases value with
  | leaf a => exact absurd rfl (h a)
  | arr vs =>
    cases vs with
    | nil => exact ⟨_, .inl rfl⟩
    | cons v vs => exact ⟨_, .inl rfl⟩
  | obj ms =>
    cases ms with
    | nil => exact ⟨_, .inr rfl⟩
    | cons m ms => exact ⟨_, .inr rfl⟩

theorem not_formulaLike_dumps (value : Value) (h : ∀ a, value ≠ .leaf a) :
    ¬FormulaLike (dumps value) := by
  obtain ⟨text, htext | htext⟩ := dumps_head value h
  · rw [htext]
    exact not_formulaLike_cons text (by decide) (by decide)
  · rw [htext]
    exact not_formulaLike_cons text (by decide) (by decide)

/-- **A spreadsheet takes no cell for a formula**, numbers aside. -/
theorem cell_not_formula (value : Value) (h : isNumber value = false) :
    ¬FormulaLike (cell value) := by
  cases value with
  | leaf a =>
    cases a with
    | null => decide
    | bool b => cases b <;> decide
    | int n => cases h
    | float x => cases h
    | str s =>
      change ¬FormulaLike (if FormulaLike s.toList then apostrophe :: s.toList else s.toList)
      split_ifs with hformula
      · exact not_formulaLike_cons s.toList (by decide) (by decide)
      · exact hformula
  | arr vs => exact not_formulaLike_dumps _ fun a ha => by cases ha
  | obj ms => exact not_formulaLike_dumps _ fun a ha => by cases ha

/-- **A file is what it was made of.** A file has its size and is read as the header and, for every
row in order, the cells of its columns; there is none exactly if all of this would be too large. A
cell that is no number is not taken for a formula. -/
theorem encodeCsv_faithful (columns : List String) (rows : List Row) (hcolumns : columns ≠ []) :
    (∀ body, encodeCsv columns rows = .ok body → body.size ≤ maxCsvBytes ∧
      readCsv body = some (columns.map String.toList :: rows.map (cells columns))) ∧
    (∀ e, encodeCsv columns rows = .error e ↔
      e = sizeLimitExceeded ∧ maxCsvBytes < (wholeFile columns rows).size) ∧
    ∀ row ∈ rows, ∀ key ∈ columns, isNumber (row.get key) = false →
      ¬FormulaLike (cell (row.get key)) := by
  refine ⟨fun body hbody => ?_, fun e => ?_, fun row _ key _ => cell_not_formula _⟩
  · rw [encodeCsv_eq] at hbody
    split_ifs at hbody with hlarge
    obtain rfl := Except.ok.inj hbody
    exact ⟨not_lt.1 hlarge, readCsv_wholeFile hcolumns⟩
  · rw [encodeCsv_eq]
    split_ifs with hlarge
    · rw [Except.error.injEq, eq_comm, and_iff_left hlarge]
    · exact iff_of_false (fun h => by cases h) fun h => hlarge h.2

/-- Two rows, one with a formula, a quote and a line end in its texts, the other without a value. -/
def sampleRows : List Row :=
  [[("id", .leaf (.int 1)), ("detail", .leaf (.str "=\"a\"\r\n,b"))], [("id", .leaf (.int 2))]]

theorem encodeCsv_faithful_sample : ∃ body, encodeCsv ["id", "detail"] sampleRows = .ok body ∧
    readCsv body = some [["id".toList, "detail".toList],
      ["1".toList, apostrophe :: "=\"a\"\r\n,b".toList], ["2".toList, []]] := by
  have hfits : ¬maxCsvBytes < (wholeFile ["id", "detail"] sampleRows).size := by decide +kernel
  have hbody : encodeCsv ["id", "detail"] sampleRows =
      .ok (wholeFile ["id", "detail"] sampleRows) := by
    rw [encodeCsv_eq, if_neg hfits]
  have hread := ((encodeCsv_faithful ["id", "detail"] sampleRows (by decide)).1 _ hbody).2
  exact ⟨_, hbody, hread⟩

end ScrapMonitoring.Downloads
