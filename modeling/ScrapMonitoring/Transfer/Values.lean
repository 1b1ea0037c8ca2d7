import ScrapMonitoring.Foundations.Calendar
import ScrapMonitoring.Foundations.DoubleText
import ScrapMonitoring.Foundations.Succeeds
import ScrapMonitoring.Foundations.TreeText

/-!
# The values of a row, as text

The values of a row are compared as JSON texts. `normalized` tells apart what JSON would confuse:
it marks SQL NULL, instants and floats. `dumps` is the text of a value with sorted keys, in ASCII;
it fails for a value with a part that JSON does not have.

Two values have one text exactly if they are equal up to the order of members (`dumps_eq_iff`).
-/

namespace ScrapMonitoring.Transfer

/-! ## Scalars -/

/-- A value of Python without parts. Bytes are no JSON. -/
inductive Scalar
  | null
  | bool (b : Bool)
  | int (n : ℤ)
  | float (x : Double)
  | str (s : String)
  | bytes (bs : List UInt8)
  deriving DecidableEq

abbrev Value := Tree Scalar

namespace Scalar

/-- Whether a scalar has a JSON text. Python does not write an integer with more than 4300
digits. -/
def encodable : Scalar → Bool
  | int n => decide (n.natAbs < 10 ^ 4300)
  | float x => decide x.IsFinite
  | bytes _ => false
  | _ => true

def text : Scalar → List Char
  | null => ['n', 'u', 'l', 'l']
  | bool true => ['t', 'r', 'u', 'e']
  | bool false => ['f', 'a', 'l', 's', 'e']
  | int n => Double.signText (n < 0) ++ Nat.toDigits 10 n.natAbs
  | float x => x.repr
  | str s => quote s
  | bytes _ => []

end Scalar

/-! ## Tokens -/

/-- The marks that may stand behind a value. -/
def IsMark (c : Char) : Prop := c = ',' ∨ c = ']' ∨ c = '}'

/-- Up to the next mark, a text is determined. -/
theorem token_append_inj {x y s t : List Char} (hx : ∀ c ∈ x, ¬IsMark c) (hy : ∀ c ∈ y, ¬IsMark c)
    (hs : Tree.Follows s) (ht : Tree.Follows t) (h : x ++ s = y ++ t) : x = y ∧ s = t := by
  induction x generalizing y with
  | nil =>
    cases y with
    | nil => exact ⟨rfl, h⟩
    | cons d y =>
      rw [List.nil_append] at h
      exact absurd (hs d (by rw [h]; rfl)) (hy d List.mem_cons_self)
  | cons c x ih =>
    cases y with
    | nil =>
      rw [List.nil_append] at h
      exact absurd (ht c (by rw [← h]; rfl)) (hx c List.mem_cons_self)
    | cons d y =>
      rw [List.cons_append, List.cons_append, List.cons.injEq] at h
      obtain ⟨rfl, htail⟩ := ih (fun e he => hx e (List.mem_cons_of_mem c he))
        (fun e he => hy e (List.mem_cons_of_mem d he)) h.2
      exact ⟨by rw [h.1], htail⟩

theorem isMark_iff {c : Char} : IsMark c ↔ c ∈ [',', ']', '}'] := by simp [IsMark]

/-- The letters that begin a word, the marks and the quotation mark are in no number. -/
theorem not_isNumeral {l : List Char} (hl : l ⊆ ['n', 't', 'f', '"', ',', ']', '}', '[', '{'])
    {c : Char} (h : c ∈ l) : ¬Double.IsNumeral c := by
  have hall : (['n', 't', 'f', '"', ',', ']', '}', '[', '{'].all fun c =>
      ¬Double.IsNumeral c) = true := by
    decide
  exact of_decide_eq_true (List.all_eq_true.1 hall c (hl h))

namespace Scalar

variable {a b : Scalar}

theorem isNumeral_int (n : ℤ) : ∀ c ∈ (int n).text, c.isDigit ∨ c = '-' := by
  intro c hc
  rw [text, List.mem_append] at hc
  rcases hc with hc | hc
  · rw [Double.signText] at hc
    split_ifs at hc
    · exact Or.inr (List.mem_singleton.1 hc)
    · simp at hc
  · exact Or.inl (Double.isDigit_toDigits _ c hc)

def isNumber : Scalar → Bool
  | int _ => true
  | float _ => true
  | _ => false

theorem isNumber_cases (ha : a.isNumber) : (∃ n, a = int n) ∨ ∃ x, a = float x := by
  cases a with
  | int n => exact Or.inl ⟨n, rfl⟩
  | float x => exact Or.inr ⟨x, rfl⟩
  | null => cases ha
  | bool b => cases ha
  | str s => cases ha
  | bytes bs => cases ha

theorem isNumeral_number (ha : a.isNumber) : ∀ c ∈ a.text, Double.IsNumeral c := by
  rcases isNumber_cases ha with ⟨n, rfl⟩ | ⟨x, rfl⟩
  · exact fun c hc => (isNumeral_int n c hc).imp id Or.inl
  · exact Double.isNumeral_repr x

theorem number_ne_nil (ha : a.isNumber) : a.text ≠ [] := by
  rcases isNumber_cases ha with ⟨n, rfl⟩ | ⟨x, rfl⟩
  · rw [text]
    exact List.append_ne_nil_of_right_ne_nil _ Nat.toDigits_ne_nil
  · intro hnil
    have hpoint := Double.point_mem_repr x
    rw [text] at hnil
    simp [hnil] at hpoint

theorem int_inj {m n : ℤ} (h : (int m).text = (int n).text) : m = n := by
  have hdigits : ∀ k : ℕ, ∃ c ∈ (Nat.toDigits 10 k).head?, c.isDigit := by
    intro k
    obtain ⟨c, rest, hc⟩ := List.exists_cons_of_ne_nil (Nat.toDigits_ne_nil (n := k) (b := 10))
    exact ⟨c, by rw [hc]; rfl, Double.isDigit_toDigits k c (by rw [hc]; exact List.mem_cons_self)⟩
  obtain ⟨hsign, htext⟩ := Double.signText_append_inj (hdigits _) (hdigits _) h
  have habs : m.natAbs = n.natAbs := by
    rw [← Nat.ofDigitChars_ten_toDigits (n := m.natAbs), htext, Nat.ofDigitChars_ten_toDigits]
  have hneg : m < 0 ↔ n < 0 := decide_eq_decide.1 hsign
  omega

/-- A float has a point or an exponent. -/
theorem int_ne_float (n : ℤ) (x : Double) : (int n).text ≠ (float x).text := by
  intro h
  have hpoint := Double.point_mem_repr x
  rw [show x.repr = (int n).text from h.symm] at hpoint
  rcases hpoint with hc | hc
  · exact absurd (isNumeral_int n _ hc) (by decide)
  · exact absurd (isNumeral_int n _ hc) (by decide)

theorem number_inj (ha : a.isNumber) (hb : b.isNumber) (h : a.text = b.text) : a = b := by
  rcases isNumber_cases ha with ⟨m, rfl⟩ | ⟨x, rfl⟩
  · rcases isNumber_cases hb with ⟨n, rfl⟩ | ⟨y, rfl⟩
    · rw [int_inj h]
    · exact absurd h (int_ne_float m y)
  · rcases isNumber_cases hb with ⟨n, rfl⟩ | ⟨y, rfl⟩
    · exact absurd h.symm (int_ne_float n x)
    · rw [Double.repr_inj h]

/-! ## The texts of the scalars form a code -/

/-- The character with which a text begins; `0` for all numbers. -/
def kind : Scalar → Char
  | null => 'n'
  | bool true => 't'
  | bool false => 'f'
  | str _ => '"'
  | _ => '0'

theorem kind_number (ha : a.isNumber) : a.kind = '0' := by
  rcases isNumber_cases ha with ⟨n, rfl⟩ | ⟨x, rfl⟩
  · rfl
  · rfl

/-- The first character tells the kind. -/
theorem head_kind (ha : a.encodable) :
    ∃ c ∈ a.text.head?, c ∉ ['[', ']', '{'] ∧
      a.kind = if c ∈ ['n', 't', 'f', '"'] then c else '0' := by
  have hnumber : a.isNumber → ∃ c ∈ a.text.head?, c ∉ ['[', ']', '{'] ∧
      a.kind = if c ∈ ['n', 't', 'f', '"'] then c else '0' := by
    intro hnum
    obtain ⟨c, rest, hc⟩ := List.exists_cons_of_ne_nil (number_ne_nil hnum)
    have hnumeral := isNumeral_number hnum c (by rw [hc]; exact List.mem_cons_self)
    refine ⟨c, by rw [hc]; rfl, fun hmem => not_isNumeral (by decide) hmem hnumeral, ?_⟩
    rw [if_neg fun hmem => not_isNumeral (by decide) hmem hnumeral, kind_number hnum]
  cases a with
  | null => exact ⟨'n', rfl, by decide⟩
  | bool b => cases b <;> exact ⟨_, rfl, by decide⟩
  | str s => exact ⟨'"', rfl, by decide, rfl⟩
  | int n => exact hnumber rfl
  | float x => exact hnumber rfl
  | bytes bs => cases ha

theorem kind_eq {s t : List Char} (ha : a.encodable) (hb : b.encodable)
    (h : a.text ++ s = b.text ++ t) : a.kind = b.kind := by
  obtain ⟨c, hc, -, hkind⟩ := head_kind ha
  obtain ⟨d, hd, -, hkind'⟩ := head_kind hb
  obtain ⟨x, hx⟩ := List.head?_eq_some_iff.1 hc
  obtain ⟨y, hy⟩ := List.head?_eq_some_iff.1 hd
  rw [hx, hy] at h
  rw [hkind, hkind', List.head_eq_of_cons_eq h]

theorem of_kind (hb : b.encodable) :
    (b.kind = 'n' → b = null) ∧ (b.kind = 't' → b = bool true) ∧ (b.kind = 'f' → b = bool false) ∧
      (b.kind = '"' → ∃ s, b = str s) ∧ (b.kind = '0' → b.isNumber) := by
  cases b with
  | null => simp [kind]
  | bool b => cases b <;> simp [kind]
  | int n => simp [kind, isNumber]
  | float x => simp [kind, isNumber]
  | str s => simp [kind]
  | bytes bs => cases hb

/-- Two scalars of one kind are the same word, two numbers or two strings. -/
theorem eq_of_kind (ha : a.encodable) (hb : b.encodable) (h : a.kind = b.kind) :
    a = b ∨ a.isNumber ∧ b.isNumber ∨ ∃ s t, a = str s ∧ b = str t := by
  obtain ⟨hnull, htrue, hfalse, hstr, hnumber⟩ := of_kind hb
  cases a with
  | null => exact Or.inl (hnull h.symm).symm
  | bool x =>
    cases x
    · exact Or.inl (hfalse h.symm).symm
    · exact Or.inl (htrue h.symm).symm
  | int n => exact Or.inr (Or.inl ⟨rfl, hnumber h.symm⟩)
  | float x => exact Or.inr (Or.inl ⟨rfl, hnumber h.symm⟩)
  | str s =>
    obtain ⟨t, rfl⟩ := hstr h.symm
    exact Or.inr (Or.inr ⟨s, t, rfl, rfl⟩)
  | bytes bs => cases ha

theorem append_inj {s t : List Char} (ha : a.encodable) (hb : b.encodable) (hs : Tree.Follows s)
    (ht : Tree.Follows t) (h : a.text ++ s = b.text ++ t) : a = b ∧ s = t := by
  have hmark : ∀ {a : Scalar}, a.isNumber → ∀ c ∈ a.text, ¬IsMark c := fun hnum c hc hm =>
    not_isNumeral (by decide) (isMark_iff.1 hm) (isNumeral_number hnum c hc)
  rcases eq_of_kind ha hb (kind_eq ha hb h) with rfl | ⟨hnum, hnum'⟩ | ⟨x, y, rfl, rfl⟩
  · exact ⟨rfl, List.append_cancel_left h⟩
  · obtain ⟨htext, htail⟩ := token_append_inj (hmark hnum) (hmark hnum') hs ht h
    exact ⟨number_inj hnum hnum' htext, htail⟩
  · obtain ⟨rfl, htail⟩ := quote_append_inj h
    exact ⟨rfl, htail⟩

theorem code : Tree.Code text encodable where
  append_inj := append_inj
  head := by
    intro a ha
    obtain ⟨c, hc, hne, -⟩ := head_kind ha
    simp only [List.mem_cons, List.not_mem_nil, or_false, not_or] at hne
    exact ⟨c, hc, hne⟩

theorem ascii_text (a : Scalar) : ∀ c ∈ a.text, c.toNat < 128 := by
  have hnumber : a.isNumber → ∀ c ∈ a.text, c.toNat < 128 := by
    intro hnum c hc
    rcases isNumeral_number hnum c hc with hdigit | rfl | rfl | rfl | rfl
    · simp only [Char.isDigit, Bool.and_eq_true, decide_eq_true_iff] at hdigit
      exact Nat.lt_of_le_of_lt (UInt32.le_iff_toNat_le.1 hdigit.2) (by decide)
    · decide
    · decide
    · decide
    · decide
  cases a with
  | null => simp [text]
  | bool b => cases b <;> simp [text]
  | int n => exact hnumber rfl
  | float x => exact hnumber rfl
  | str s => exact ascii_quote s
  | bytes bs => exact fun c hc => absurd hc List.not_mem_nil

end Scalar

/-! ## The text of a value -/

/-- `json.dumps` with sorted keys, in ASCII and without infinities; nothing for the values that it
does not write. -/
def dumps (v : Value) : Option (List Char) :=
  if v.all Scalar.encodable then some (v.canonical.write Scalar.text) else none

/-- `str.encode("ascii")` -/
def encodeAscii (text : List Char) : Option (List UInt8) :=
  if text.all fun c => c.toNat < 128 then some (text.map fun c => UInt8.ofNat c.toNat) else none

/-- The bytes of a value. -/
def Value.bytes (v : Value) : List UInt8 :=
  (v.canonical.write Scalar.text).map fun c => UInt8.ofNat c.toNat

theorem ascii_value {v : Value} (hv : v.all Scalar.encodable) :
    ∀ c ∈ v.canonical.write Scalar.text, c.toNat < 128 :=
  Tree.ascii_write (fun a _ => Scalar.ascii_text a) v.canonical (by rwa [Tree.all_canonical])

theorem dumps_bind_encodeAscii (v : Value) :
    (dumps v).bind encodeAscii = if v.all Scalar.encodable then some v.bytes else none := by
  rw [dumps]
  split_ifs with hv
  · have hall : (v.canonical.write Scalar.text).all fun c => c.toNat < 128 :=
      List.all_eq_true.2 fun c hc => decide_eq_true (ascii_value hv c hc)
    rw [Option.bind_some, encodeAscii, if_pos hall, Value.bytes]
  · rfl

/-- ASCII is read back. -/
theorem map_asciiChar {text : List Char} (h : ∀ c ∈ text, c.toNat < 128) :
    (text.map fun c => UInt8.ofNat c.toNat).map (fun b => Char.ofNat b.toNat) = text := by
  rw [List.map_map]
  refine (List.map_congr_left fun c hc => ?_).trans (List.map_id text)
  have hlt := h c hc
  rw [Function.comp_apply, UInt8.toNat_ofNat', Nat.mod_eq_of_lt (by omega), Char.ofNat_toNat]
  rfl

/-- **Two values have the same bytes exactly if they are the same up to the order of members.** -/
theorem bytes_eq_iff {v w : Value} (hv : v.all Scalar.encodable) (hw : w.all Scalar.encodable) :
    v.bytes = w.bytes ↔ v.canonical = w.canonical := by
  constructor
  · intro h
    have htext : v.canonical.write Scalar.text = w.canonical.write Scalar.text := by
      rw [← map_asciiChar (ascii_value hv), ← map_asciiChar (ascii_value hw)]
      exact congrArg (List.map fun b => Char.ofNat b.toNat) h
    exact Scalar.code.write_inj (by rwa [Tree.all_canonical]) (by rwa [Tree.all_canonical]) htext
  · intro h
    rw [Value.bytes, Value.bytes, h]

end ScrapMonitoring.Transfer
