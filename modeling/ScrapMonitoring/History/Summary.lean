import ScrapMonitoring.History.Original

/-!
# The reader of summaries

The summary of a minute is the group of its slots, stored as JSON beside the row
(`buildMinuteSummary`). The reader of summaries takes a minute that lies in the range as a whole
from its summary, if `restoreSummary` finds it to be one of this row, and reads the original row of
any other. What it restores from the summary of a row represents the slots of the row
(`restore_build`), so both readers have the same points (`summary_reader_eq`).
-/

namespace ScrapMonitoring.History

/-! ## Building -/

def number (value : Option ℚ) : Json := (value.map Json.float).getD .null

/-- The group of a summary; every group of a minute has a newest slot. -/
def Group.dump (group : Group) : Option Fields :=
  group.lastSlot.map fun slot =>
    [("total", .float group.total), ("count", .int group.count), ("invalid", .int group.invalid),
      ("minimum", number group.minimum), ("maximum", number group.maximum),
      ("sources", .arr ((sortedTexts group.sources).map Json.str)),
      ("methods", .arr ((sortedTexts group.methods).map Json.str)),
      ("mixed", .bool group.mixed), ("simulated", .bool group.simulated),
      ("last_time", .str (isoformat slot.lastTime)), ("value", number slot.value),
      ("last", .obj slot.last), ("last_source", slot.lastSource),
      ("last_method", slot.lastMethod)]

/-- Only a normal complete minute is summarized. -/
def buildMinuteSummary (minute generatedAt : ℤ) (payload : MinutePayload) : Json :=
  let result (usable : Bool) : Fields :=
    [("version", .int 1), ("bucketStartAt", .str (isoformat minute)),
      ("generatedAt", .str (isoformat generatedAt)), ("usable", .bool usable)]
  if payload.values = [] ∨ 60 < payload.values.length then .obj (result false)
  else if ¬ ∀ v ∈ payload.values,
      minute ≤ seconds v.1 ∧ seconds v.1 < minute + seconds 60 then .obj (result false)
  else
    match (wholeMinute (fun _ => none) 0 payload 0).bind Group.dump with
    | none => .obj (result false)
    | some group => .obj (result true ++ [("group", .obj group)])

/-! ## Restoring -/

/-- An item of a list as the pair that `dict` makes of it; a key that is no string is left out. -/
def pair? : Json → Option (Option (String × Json))
  | .arr [.str key, value] => some (some (key, value))
  | .arr [.arr _, _] => none
  | .arr [.obj _, _] => none
  | .arr [_, _] => some none
  | .str text => if text.length = 2 then some none else none
  | .obj [(key, _), (value, _)] => some (some (key, .str value))
  | _ => none

/-- `dict(value)`. Of two pairs with one key the second counts. -/
def dict? : Json → Option Fields
  | .obj members => some members
  | .arr items => (items.mapM pair?).map fun pairs => (pairs.filterMap id).reverse
  | _ => none

/-- A number of samples: an integer, no boolean, of at most a minute. -/
def sampleCount? : Json → Option ℕ
  | .int n => if 0 ≤ n ∧ n ≤ 60 then some n.toNat else none
  | _ => none

/-- A finite number; an integer beyond the floats is none. -/
def number? : Json → Option ℚ
  | .bool b => some (if b then 1 else 0)
  | .int n => if n.natAbs < 2 ^ 1024 - 2 ^ 970 then some n else none
  | .float q => some q
  | _ => none

def optionalNumber? : Json → Option (Option ℚ)
  | .null => some none
  | v => (number? v).map some

def string? : Json → Option String
  | .str text => some text
  | _ => none

/-- A list of at most two strings, as a set. -/
def strings? : Json → Option (Finset String)
  | .arr items =>
    if items.length ≤ 2 then (items.mapM string?).map List.toFinset else none
  | _ => none

def bool? : Json → Option Bool
  | .bool b => some b
  | _ => none

def requiredMembers : List String :=
  ["count", "invalid", "total", "minimum", "maximum", "sources", "methods", "simulated", "mixed",
    "last_time", "value", "last", "last_source", "last_method"]

def requiredLast : List String :=
  ["generatedAt", "observedAt", "assessmentId", "dataState", "reasonCodes"]

/-- The checks of the group of a summary: `none` is a failed one, `some none` the exception of a
newest slot that is no object, which nothing catches. -/
def checkGroup (group : Fields) (minute : ℤ) : Option (Option Group) := do
  guard (requiredMembers.all fun key => (group.lookup key).isSome)
  let count ← (group.lookup "count").bind sampleCount?
  let invalid ← (group.lookup "invalid").bind sampleCount?
  guard (0 < count + invalid ∧ count + invalid ≤ 60)
  let total ← (group.lookup "total").bind number?
  let lastTime ← (group.lookup "last_time").bind instant?
  guard (minute ≤ lastTime ∧ lastTime < minute + seconds 60)
  let sources ← (group.lookup "sources").bind strings?
  let methods ← (group.lookup "methods").bind strings?
  let minimum ← (group.lookup "minimum").bind optionalNumber?
  let maximum ← (group.lookup "maximum").bind optionalNumber?
  let value ← (group.lookup "value").bind optionalNumber?
  guard (count = 0 ∨ minimum.isSome ∧ maximum.isSome)
  let simulated ← (group.lookup "simulated").bind bool?
  let mixed ← (group.lookup "mixed").bind bool?
  let last ← group.lookup "last"
  let lastSource ← group.lookup "last_source"
  let lastMethod ← group.lookup "last_method"
  match last with
  | .obj fields =>
    guard (requiredLast.all fun key => (fields.lookup key).isSome)
    return some
      { total := total, count := count, invalid := invalid, minimum := minimum, maximum := maximum,
        sources := sources, methods := methods, mixed := mixed, simulated := simulated,
        lastSlot := some ⟨lastTime, value, fields, lastSource, lastMethod⟩ }
  | _ => return none

/-- The group of a summary; `some none` rejects it, `none` is an uncaught exception. -/
def restoreSummary (summary : Option Json) (minute generatedAt : ℤ) : Option (Option Group) :=
  match summary with
  | some (.obj members) =>
    if members.lookup "version" = some (.int 1) ∧ members.lookup "usable" = some (.bool true) ∧
        members.lookup "bucketStartAt" = some (.str (isoformat minute)) ∧
        members.lookup "generatedAt" = some (.str (isoformat generatedAt)) then
      match ((members.lookup "group").bind dict?).bind fun group => checkGroup group minute with
      | none => some none
      | some group => group.map some
    else some none
  | _ => some none

/-! ## Reading -/

def mergeSummary (target part : Group) : Group :=
  let target := target.stats part.count part.invalid part.total part.minimum part.maximum
  let target := { target with
    sources := (sortedTexts part.sources).foldl distinct target.sources
    methods := (sortedTexts part.methods).foldl distinct target.methods
    simulated := target.simulated || part.simulated
    mixed := target.mixed || part.mixed }
  match part.lastSlot with
  | none => target
  | some slot => target.setLast slot

/-- A row with what its summary restores; only a minute in the range is restored. -/
def restorePart (start stop : ℤ) (row : EdgeV2Minute) : Option (EdgeV2Minute × Option Group) :=
  let part :=
    if start ≤ row.bucketStart ∧ row.bucketStart + seconds 60 ≤ stop then
      restoreSummary row.historySummary row.bucketStart row.generatedAt
    else some none
  part.map fun part => (row, part)

/-- The payloads of the rows that no summary stands for. -/
def originalData (store : EdgeV2Minutes) (source : MonitoringSource) (originals : List ℤ)
    (bucketStart : ℤ) : Option MinutePayload :=
  (((store.ofSource source).filter fun row => row.bucketStart ∈ originals).find? fun row =>
    row.bucketStart = bucketStart).map EdgeV2Minute.payload

/-- A row of a page is merged, or its original added. -/
def mergePart (original : ℤ → Option MinutePayload) (start stop interval : ℤ) (groups : Groups)
    (part : EdgeV2Minute × Option Group) : Groups :=
  match part.2 with
  | some summary =>
    groups.modify (bucketOf interval part.1.bucketStart) fun group => mergeSummary group summary
  | none =>
    match original part.1.bucketStart with
    | some payload => accumulateMinute groups part.1.bucketStart payload start stop interval
    | none => groups

/-- The groups of the rows that a query returned page by page, by their summaries. -/
def summaryStreamGroups (store : EdgeV2Minutes) (source : MonitoringSource)
    (pages : List (List EdgeV2Minute)) (start stop interval : ℤ) : Option Groups :=
  pages.foldlM (fun groups page =>
    (page.mapM (restorePart start stop)).map fun parts =>
      let originals := (parts.filter fun part => part.2.isNone).map fun part => part.1.bucketStart
      parts.foldl (mergePart (originalData store source originals) start stop interval) groups)
    fun _ => none

/-! ## What is restored -/

theorem optionalNumber_number {o r : Option ℚ} (h : optionalNumber? (number o) = some r) :
    r = o := by
  cases o with
  | none => simpa [number, optionalNumber?] using h.symm
  | some q => simpa [number, optionalNumber?, number?] using h.symm

theorem mapM_string (l : List String) : (l.map Json.str).mapM string? = some l := by
  induction l with
  | nil => rfl
  | cons a l ih =>
    rw [List.map_cons, List.mapM_cons, ih]
    rfl

theorem strings_sort {kept r : Finset String}
    (h : strings? (.arr ((sortedTexts kept).map Json.str)) = some r) : r = kept := by
  rw [strings?, mapM_string] at h
  split_ifs at h
  rw [← Option.some.inj h]
  exact toFinset_sortedTexts _

theorem sampleCount_int {n r : ℕ} (h : sampleCount? (.int n) = some r) : r = n := by
  rw [sampleCount?] at h
  split_ifs at h
  simpa using h.symm

/-- The members of the group of a summary. -/
theorem dump_lookup {group : Group} {fields : Fields} (hdump : group.dump = some fields) :
    ∃ slot, group.lastSlot = some slot ∧
      fields.lookup "count" = some (.int group.count) ∧
      fields.lookup "invalid" = some (.int group.invalid) ∧
      fields.lookup "total" = some (.float group.total) ∧
      fields.lookup "last_time" = some (.str (isoformat slot.lastTime)) ∧
      fields.lookup "sources" = some (.arr ((sortedTexts group.sources).map Json.str)) ∧
      fields.lookup "methods" = some (.arr ((sortedTexts group.methods).map Json.str)) ∧
      fields.lookup "minimum" = some (number group.minimum) ∧
      fields.lookup "maximum" = some (number group.maximum) ∧
      fields.lookup "value" = some (number slot.value) ∧
      fields.lookup "simulated" = some (.bool group.simulated) ∧
      fields.lookup "mixed" = some (.bool group.mixed) ∧
      fields.lookup "last" = some (.obj slot.last) ∧
      fields.lookup "last_source" = some slot.lastSource ∧
      fields.lookup "last_method" = some slot.lastMethod := by
  obtain ⟨slot, hslot, rfl⟩ := Option.map_eq_some_iff.1 hdump
  exact ⟨slot, hslot, rfl, rfl, rfl, rfl, rfl, rfl, rfl, rfl, rfl, rfl, rfl, rfl, rfl, rfl⟩

/-- The checks find the group of a summary as it was stored. -/
theorem checkGroup_dump {group : Group} {fields : Fields} (hdump : group.dump = some fields)
    {minute : ℤ} {r : Option Group} (h : checkGroup fields minute = some r) : r = some group := by
  obtain ⟨slot, hslot, lcount, linvalid, ltotal, ltime, lsources, lmethods, llow, lhigh, lvalue,
    lsimulated, lmixed, llast, lsource, lmethod⟩ := dump_lookup hdump
  unfold checkGroup at h
  obtain ⟨-, -, h⟩ := Option.bind_eq_some_iff.1 h
  obtain ⟨count, hcount, h⟩ := Option.bind_eq_some_iff.1 h
  obtain ⟨invalid, hinvalid, h⟩ := Option.bind_eq_some_iff.1 h
  obtain ⟨-, -, h⟩ := Option.bind_eq_some_iff.1 h
  obtain ⟨total, htotal, h⟩ := Option.bind_eq_some_iff.1 h
  obtain ⟨time, htime, h⟩ := Option.bind_eq_some_iff.1 h
  obtain ⟨-, -, h⟩ := Option.bind_eq_some_iff.1 h
  obtain ⟨sources, hsources, h⟩ := Option.bind_eq_some_iff.1 h
  obtain ⟨methods, hmethods, h⟩ := Option.bind_eq_some_iff.1 h
  obtain ⟨low, hlow, h⟩ := Option.bind_eq_some_iff.1 h
  obtain ⟨high, hhigh, h⟩ := Option.bind_eq_some_iff.1 h
  obtain ⟨value, hvalue, h⟩ := Option.bind_eq_some_iff.1 h
  obtain ⟨-, -, h⟩ := Option.bind_eq_some_iff.1 h
  obtain ⟨simulated, hsimulated, h⟩ := Option.bind_eq_some_iff.1 h
  obtain ⟨mixed, hmixed, h⟩ := Option.bind_eq_some_iff.1 h
  obtain ⟨last, hlast, h⟩ := Option.bind_eq_some_iff.1 h
  obtain ⟨source, hsource, h⟩ := Option.bind_eq_some_iff.1 h
  obtain ⟨method, hmethod, h⟩ := Option.bind_eq_some_iff.1 h
  rw [lcount] at hcount
  rw [linvalid] at hinvalid
  rw [ltotal] at htotal
  rw [ltime] at htime
  rw [lsources] at hsources
  rw [lmethods] at hmethods
  rw [llow] at hlow
  rw [lhigh] at hhigh
  rw [lvalue] at hvalue
  rw [lsimulated] at hsimulated
  rw [lmixed] at hmixed
  obtain rfl := Option.some.inj (llast.symm.trans hlast)
  obtain rfl := Option.some.inj (lsource.symm.trans hsource)
  obtain rfl := Option.some.inj (lmethod.symm.trans hmethod)
  obtain ⟨-, -, h⟩ := Option.bind_eq_some_iff.1 h
  obtain rfl := Option.some.inj h
  obtain rfl := sampleCount_int hcount
  obtain rfl := sampleCount_int hinvalid
  obtain rfl := Option.some.inj htotal
  obtain rfl := eq_of_fromisoformat_isoformat htime
  obtain rfl := strings_sort hsources
  obtain rfl := strings_sort hmethods
  obtain rfl := optionalNumber_number hlow
  obtain rfl := optionalNumber_number hhigh
  obtain rfl := optionalNumber_number hvalue
  obtain rfl := Option.some.inj hsimulated
  obtain rfl := Option.some.inj hmixed
  rw [Option.some.injEq, ← hslot]

/-- **The summary of a row is rejected, or restores a group of the slots of the row.** -/
theorem restore_build {row : EdgeV2Minute} (h : Located row) :
    restoreSummary (some (buildMinuteSummary row.bucketStart row.generatedAt row.payload))
        row.bucketStart row.generatedAt = some none ∨
      row.payload.values ≠ [] ∧ ∃ part,
        restoreSummary (some (buildMinuteSummary row.bucketStart row.generatedAt row.payload))
          row.bucketStart row.generatedAt = some (some part) ∧
        Represents part row.payload.slots := by
  simp only [buildMinuteSummary]
  split_ifs with hempty hplaced
  · exact Or.inl (by simp [restoreSummary, List.lookup_cons])
  · simp only [not_or] at hempty
    have hne := hempty.1
    rw [wholeMinute_eq h _ _ hne, Groups.modify, Function.update_self, Option.getD_none,
      Option.bind_some]
    have hrep : Represents (Group.absorbSlots {} row.payload.slots) row.payload.slots :=
      represents_nil.absorbSlots row.payload.slots
    cases hdump : (Group.absorbSlots {} row.payload.slots).dump with
    | none => exact Or.inl (by simp [restoreSummary, List.lookup_cons])
    | some fields =>
      cases hcheck : checkGroup fields row.bucketStart with
      | none => exact Or.inl (by simp [restoreSummary, List.lookup_cons, dict?, hcheck])
      | some r =>
        obtain rfl := checkGroup_dump hdump hcheck
        exact Or.inr ⟨hne, _, by simp [restoreSummary, List.lookup_cons, dict?, hcheck], hrep⟩
  · exact Or.inl (by simp [restoreSummary, List.lookup_cons])

/-! ## The two readers agree -/

theorem mergeSummary_eq (target part : Group) :
    mergeSummary target part =
      target.absorb part ((sortedTexts part.sources).foldl distinct target.sources)
        ((sortedTexts part.methods).foldl distinct target.methods) := by
  simp only [mergeSummary, Group.absorb]
  cases part.lastSlot <;> rfl

theorem Represents.mergeSummary {target part : Group} {l l' : List Slot} (h : Represents target l)
    (h' : Represents part l') : Represents (mergeSummary target part) (l ++ l') := by
  have hadds : ∀ kept new : Finset String,
      Adds kept new ((sortedTexts new).foldl distinct kept) := by
    intro kept new
    have hfold := adds_foldl_distinct (sortedTexts new) kept
    rwa [toFinset_sortedTexts] at hfold
  rw [mergeSummary_eq]
  exact h.absorb h' (hadds _ _) (hadds _ _)

/-- The summaries that the reader may meet: none, one that `restoreSummary` rejects, or the summary
of the row. -/
def Summarized (row : EdgeV2Minute) : Prop :=
  row.historySummary = none ∨
    restoreSummary row.historySummary row.bucketStart row.generatedAt = some none ∨
    row.historySummary = some (buildMinuteSummary row.bucketStart row.generatedAt row.payload)

/-- What a row restores: nothing, or a group of its slots if it lies in the range. -/
theorem restorePart_eq {row : EdgeV2Minute} (h : Located row) (hsummary : Summarized row)
    (start stop : ℤ) :
    restorePart start stop row = some (row, none) ∨
      (start ≤ row.bucketStart ∧ row.bucketStart + seconds 60 ≤ stop) ∧ row.payload.values ≠ [] ∧
        ∃ part, restorePart start stop row = some (row, some part) ∧
          Represents part row.payload.slots := by
  simp only [restorePart]
  split_ifs with hwhole
  · rcases hsummary with hnone | hrejected | hbuild
    · exact Or.inl (by rw [hnone]; rfl)
    · exact Or.inl (by rw [hrejected]; rfl)
    · rw [hbuild]
      rcases restore_build h with hrejected | ⟨hne, part, hpart, hrep⟩
      · exact Or.inl (by rw [hrejected]; rfl)
      · exact Or.inr ⟨hwhole, hne, part, by rw [hpart]; rfl, hrep⟩
  · exact Or.inl rfl

/-- The original of a row of the page. -/
theorem originalData_eq {store : EdgeV2Minutes} {source : MonitoringSource} {row : EdgeV2Minute}
    (hrow : row ∈ store.ofSource source) {originals : List ℤ} (h : row.bucketStart ∈ originals) :
    originalData store source originals row.bucketStart = some row.payload := by
  rw [originalData, find_bucketStart (fun _ hr => (List.mem_filter.1 hr).1)
    (List.mem_filter.2 ⟨hrow, decide_eq_true h⟩)]
  rfl

theorem mapM_restorePart (start stop : ℤ) {page : List EdgeV2Minute}
    (h : ∀ row ∈ page, Located row ∧ Summarized row) :
    ∃ parts, page.mapM (restorePart start stop) = some parts ∧ parts.map Prod.fst = page ∧
      ∀ part ∈ parts, part.2 = none ∨
        (start ≤ part.1.bucketStart ∧ part.1.bucketStart + seconds 60 ≤ stop) ∧
          part.1.payload.values ≠ [] ∧
          ∃ summary, part.2 = some summary ∧ Represents summary part.1.payload.slots := by
  induction page with
  | nil => exact ⟨[], rfl, rfl, by simp⟩
  | cons row page ih =>
    obtain ⟨parts, hparts, hrows, hall⟩ := ih fun r hr => h r (List.mem_cons_of_mem _ hr)
    obtain ⟨hwritten, hsummary⟩ := h row List.mem_cons_self
    rcases restorePart_eq hwritten hsummary start stop with hpart | ⟨hwhole, hne, part, hpart, hrep⟩
    · refine ⟨(row, none) :: parts, ?_, ?_, ?_⟩
      · rw [List.mapM_cons, hpart, hparts]
        rfl
      · rw [List.map_cons, hrows]
      · rw [List.forall_mem_cons]
        exact ⟨Or.inl rfl, hall⟩
    · refine ⟨(row, some part) :: parts, ?_, ?_, ?_⟩
      · rw [List.mapM_cons, hpart, hparts]
        rfl
      · rw [List.map_cons, hrows]
      · rw [List.forall_mem_cons]
        exact ⟨Or.inr ⟨hwhole, hne, part, rfl, hrep⟩, hall⟩

/-- A page of rows is added, each by its summary or by its original. -/
theorem page_represents {store : EdgeV2Minutes} {source : MonitoringSource}
    {page : List EdgeV2Minute} (hpage : ∀ row ∈ page, row ∈ store.ofSource source)
    {parts : List (EdgeV2Minute × Option Group)} {start stop interval : ℤ}
    (hinterval : 60 ∣ interval) (hwritten : ∀ row ∈ store.rows, Located row)
    (hrows : parts.map Prod.fst = page)
    (hparts : ∀ part ∈ parts, part.2 = none ∨
      (start ≤ part.1.bucketStart ∧ part.1.bucketStart + seconds 60 ≤ stop) ∧
        part.1.payload.values ≠ [] ∧
        ∃ summary, part.2 = some summary ∧ Represents summary part.1.payload.slots)
    {groups : Groups} {slots : List Slot} (h : groups.Represents interval slots) :
    (parts.foldl (mergePart (originalData store source ((parts.filter fun part =>
        part.2.isNone).map fun part => part.1.bucketStart)) start stop interval)
      groups).Represents interval (slots ++ rangeSlots page start stop) := by
  have hslots : rangeSlots page start stop =
      parts.flatMap fun part => inWindow start stop part.1.payload.slots := by
    rw [rangeSlots, ← hrows, List.flatMap_map]
  rw [hslots]
  refine foldl_represents parts (fun part hpart groups slots h => ?_) h
  have hmem : part.1 ∈ store.ofSource source := hpage _ (hrows ▸ List.mem_map_of_mem hpart)
  have hw := hwritten _ (List.mem_filter.1 hmem).1
  rw [mergePart]
  rcases hparts part hpart with hnone | ⟨hwhole, hne, summary, hsome, hrep⟩
  · have horiginal : part.1.bucketStart ∈ (parts.filter fun part => part.2.isNone).map
        fun part => part.1.bucketStart :=
      List.mem_map.2 ⟨part, List.mem_filter.2 ⟨hpart, by rw [hnone]; rfl⟩, rfl⟩
    rw [hnone]
    simp only [originalData_eq hmem horiginal]
    exact accumulateMinute_represents hw hinterval h
  · rw [hsome]
    exact hw.represents_whole hinterval hwhole h hne fun group l hgroup =>
      hgroup.mergeSummary hrep

theorem summary_represents {store : EdgeV2Minutes} {source : MonitoringSource}
    {pages : List (List EdgeV2Minute)} (hpages : ∀ row ∈ pages.flatten, row ∈ store.ofSource source)
    {start stop interval : ℤ} (hinterval : 60 ∣ interval)
    (hwritten : ∀ row ∈ store.rows, Located row)
    (hsummary : ∀ row ∈ store.rows, Summarized row) :
    ∃ groups, summaryStreamGroups store source pages start stop interval = some groups ∧
      groups.Represents interval (rangeSlots pages.flatten start stop) := by
  rw [summaryStreamGroups]
  suffices hfold : ∀ {groups : Groups} {slots : List Slot}, groups.Represents interval slots →
      ∃ groups', pages.foldlM (fun groups page =>
          (page.mapM (restorePart start stop)).map fun parts =>
            let originals := (parts.filter fun part => part.2.isNone).map
              fun part => part.1.bucketStart
            parts.foldl (mergePart (originalData store source originals) start stop interval)
              groups) groups = some groups' ∧
        groups'.Represents interval (slots ++ rangeSlots pages.flatten start stop) by
    simpa using hfold (Groups.represents_nil interval)
  induction pages with
  | nil => exact fun h => ⟨_, rfl, by simpa [rangeSlots] using h⟩
  | cons page pages ih =>
    intro groups slots h
    have hpage : ∀ row ∈ page, row ∈ store.ofSource source := fun row hrow =>
      hpages row (List.mem_flatten.2 ⟨page, List.mem_cons_self, hrow⟩)
    obtain ⟨parts, hparts, hrows, hall⟩ := mapM_restorePart start stop fun row hrow =>
      ⟨hwritten _ (List.mem_filter.1 (hpage row hrow)).1,
        hsummary _ (List.mem_filter.1 (hpage row hrow)).1⟩
    obtain ⟨groups', hgroups', hrep⟩ := ih
      (fun row hrow => hpages row (by
        rw [List.flatten_cons]
        exact List.mem_append_right _ hrow))
      (page_represents hpage hinterval hwritten hrows hall h)
    refine ⟨groups', ?_, ?_⟩
    · rw [List.foldlM_cons, hparts]
      exact hgroups'
    · rw [List.flatten_cons, rangeSlots, List.flatMap_append, ← List.append_assoc]
      exact hrep

/-- **The reader of summaries has the points of the reader of the original rows**, whatever the
pages and the order in which each of them reads the rows. -/
theorem summary_reader_eq {store : EdgeV2Minutes} {source : MonitoringSource}
    {start stop interval : ℤ} (hinterval : 60 ∣ interval)
    (hwritten : ∀ row ∈ store.rows, Written row) (hsummary : ∀ row ∈ store.rows, Summarized row)
    {pages pages' : List (List EdgeV2Minute)}
    (hpages : pages.flatten.Perm (store.between source start stop))
    (hpages' : pages'.flatten.Perm (store.between source start stop)) :
    (summaryStreamGroups store source pages start stop interval).map
        (fun groups => compactResult groups start stop) =
      some (compactResult (legacyStreamGroups pages' start stop interval) start stop) := by
  have hlocated : ∀ row ∈ store.rows, Located row := fun row hrow => (hwritten row hrow).located
  have hmem : ∀ row ∈ pages.flatten, row ∈ store.ofSource source :=
    fun row hrow => (List.mem_filter.1 (hpages.mem_iff.1 hrow)).1
  obtain ⟨groups, hgroups, hrep⟩ := summary_represents hmem hinterval hlocated hsummary
  rw [hgroups, Option.map_some, hrep.result_eq, legacy_result_eq hinterval hlocated hpages',
    tallies_range hlocated interval (rangeSlots_perm hpages start stop)]

def demoRetained : Retained :=
  ⟨[("generatedAt", .str "2026-01-01T00:00:01.200000+00:00"), ("observedAt", .null),
    ("assessmentId", .null), ("observationId", .str "observation-1"),
    ("dataState", .str "AVAILABLE"), ("reasonCodes", .arr [])], 1767225601200000,
    by decide +kernel⟩

/-- A minute with statistics; its second slot is invalid. -/
def demoPayload : MinutePayload where
  values := [(1767225601, some 10), (1767225640, none)]
  metadata := [(1767225601, demoRetained)]
  sources := [(1767225601, "HEIGHT_SECTIONS")]
  methods := [(1767225601, some "synthetic-v1"), (1767225640, none)]
  last := demoRetained
  validCount := some 1
  invalidCount := some 1
  sum := some 10
  minimum := some 10
  maximum := some 10

/-- A minute with a summary, and one without statistics or summary. -/
def demoStore : EdgeV2Minutes where
  rows := [⟨"site-demo", "edge-demo", 1767225600000000, 1767225640000000, demoPayload,
      some (buildMinuteSummary 1767225600000000 1767225640000000 demoPayload)⟩,
    ⟨"site-demo", "edge-demo", 1767225660000000, 1767225661000000,
      { values := [(1767225661, some 30), (1767225719, some 50)], metadata := [], sources := [],
        methods := [], last := demoRetained }, none⟩]
  primaryKey := by decide

theorem demoStore_written : ∀ row ∈ demoStore.rows, Written row := by
  simp only [demoStore, List.forall_mem_cons, List.not_mem_nil, false_implies, implies_true,
    and_true]
  refine ⟨⟨by decide, by decide, by decide, ?_, by decide, Or.inr (by decide +kernel)⟩,
    ⟨by decide, by decide, by decide, by simp, by simp, Or.inl rfl⟩⟩
  intro v hv r hr
  simp only [demoPayload, List.mem_cons, List.not_mem_nil, or_false] at hv
  rcases hv with rfl | rfl
  · obtain rfl : demoRetained = r := by simpa [demoPayload, List.lookup_cons] using hr
    decide
  · simp [demoPayload, List.lookup_cons] at hr

/-- A summary that is restored, and a minute that the end of the range cuts. -/
theorem summary_reader_eq_demo :
    (restoreSummary (some (buildMinuteSummary 1767225600000000 1767225640000000 demoPayload))
        1767225600000000 1767225640000000).join.isSome ∧
      (summaryStreamGroups demoStore ⟨"site-demo", "edge-demo"⟩ (demoStore.rows.map fun r => [r])
          1767225600000000 1767225690000000 300).map
          (fun groups => compactResult groups 1767225600000000 1767225690000000) =
        some (compactResult (legacyStreamGroups [demoStore.rows] 1767225600000000
          1767225690000000 300) 1767225600000000 1767225690000000) := by
  refine ⟨by decide +kernel, summary_reader_eq (by decide) demoStore_written ?_ ?_ ?_⟩
  · simp only [demoStore, List.forall_mem_cons, List.not_mem_nil, false_implies, implies_true,
      and_true]
    exact ⟨Or.inr (Or.inr rfl), Or.inl rfl⟩
  · exact List.Perm.refl _
  · exact List.Perm.refl _

end ScrapMonitoring.History
