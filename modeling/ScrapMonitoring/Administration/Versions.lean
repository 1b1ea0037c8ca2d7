import ScrapMonitoring.Administration.Recipients
import ScrapMonitoring.Foundations.Traverse

/-!
# Updates of recipients take effect one after the other

However the statements of requests interleave, a save changes the row that its request has read, and
only in the fields that its patch names; no version of a row is saved over twice, and the version
counts the saves (`updates_serialized`). A request that is not answered with a recipient has changed
nothing, and what its answer says was so at one of its statements (`answers_true`).
-/

namespace ScrapMonitoring.Administration

/-! ## Lists as texts -/

theorem parts_joined {names : List String} (h : ∀ name ∈ names, name ≠ "" ∧ ',' ∉ name.toList) :
    parts (joined names) = names.map String.toList := by
  have hparts : ∀ part ∈ names.map String.toList, part ≠ [] ∧ ',' ∉ part := by
    intro part hpart
    obtain ⟨name, hname, rfl⟩ := List.mem_map.1 hpart
    exact ⟨fun hnil => (h name hname).1 (String.toList_eq_nil_iff.1 hnil), (h name hname).2⟩
  unfold parts joined
  by_cases hnil : names.map String.toList = []
  · rw [hnil]
    rfl
  · rw [List.splitOn_intercalate ',' (fun part hpart => (hparts part hpart).2) hnil,
      List.filter_eq_self.2 fun part hpart => by simpa using (hparts part hpart).1]

theorem channels_joined (channels : List NotificationChannel) :
    (parts (joined (channels.map NotificationChannel.name))).mapM channel? = some channels := by
  rw [parts_joined, List.map_map, List.mapM_map]
  · have hid := mapM_eq_some
      (f := fun channel : NotificationChannel => channel? channel.name.toList) (g := id)
      (l := channels) fun channel _ => by cases channel <;> decide
    rw [List.map_id] at hid
    exact hid
  · intro name hname
    obtain ⟨channel, -, rfl⟩ := List.mem_map.1 hname
    cases channel <;> decide

theorem eventTypes_joined (types : List ConfigurableAlertEventType) :
    (parts (joined (types.map ConfigurableAlertEventType.name))).mapM eventType? = some types := by
  rw [parts_joined, List.map_map, List.mapM_map]
  · have hid := mapM_eq_some
      (f := fun type : ConfigurableAlertEventType => eventType? type.name.toList)
      (g := id) (l := types) fun type _ => by cases type <;> decide
    rw [List.map_id] at hid
    exact hid
  · intro name hname
    obtain ⟨type, -, rfl⟩ := List.mem_map.1 hname
    cases type <;> decide

/-- The texts of the row are lists of names. -/
def Recipient.Listed (row : Recipient) : Prop :=
  ∃ (channels : List NotificationChannel) (types : List ConfigurableAlertEventType),
    row.channels = joined (channels.map NotificationChannel.name) ∧
    row.eventTypes = joined (types.map ConfigurableAlertEventType.name)

/-- **Such a row can be shown**, with its lists. -/
theorem Recipient.Listed.view {row : Recipient} (h : row.Listed) :
    ∃ item, row.view = some item ∧ item.id = row.id ∧ item.version = etag row.version ∧
      row.channels = joined (item.channels.map NotificationChannel.name) ∧
      row.eventTypes = joined (item.eventTypes.map ConfigurableAlertEventType.name) := by
  obtain ⟨channels, types, hchannels, htypes⟩ := h
  unfold Recipient.view
  rw [hchannels, htypes, channels_joined, eventTypes_joined]
  exact ⟨_, rfl, rfl, rfl, rfl, rfl⟩

theorem RecipientPatch.apply_listed {patch : RecipientPatch} {read row : Recipient}
    (h : row.Listed) : (patch.apply read row).Listed := by
  obtain ⟨channels, types, hchannels, htypes⟩ := h
  refine ⟨patch.channels.getD channels, patch.eventTypes.getD types, ?_, ?_⟩
  · unfold RecipientPatch.apply
    dsimp only
    cases patch.channels with
    | none => exact hchannels
    | some _ => rfl
  · unfold RecipientPatch.apply
    dsimp only
    cases patch.eventTypes with
    | none => exact htypes
    | some _ => rfl

/-! ## The table -/

section

variable {store store' : Recipients} {row row' read : Recipient} {id : String}

theorem Recipients.eq_of_id (hrow : row ∈ store.rows) (hrow' : row' ∈ store.rows)
    (hid : row.id = row'.id) : row = row' :=
  List.inj_on_of_nodup_map store.ids hrow hrow' hid

theorem Recipients.find_spec (h : store.find id = some row) : row ∈ store.rows ∧ row.id = id := by
  have hid := List.find?_some h
  exact ⟨List.mem_of_find?_eq_some h, of_decide_eq_true hid⟩

theorem Recipients.replace_rows (h : store.replace row = some store') :
    store'.rows = store.rows.map fun other => if other.id = row.id then row else other := by
  unfold Recipients.replace at h
  split_ifs at h
  rw [← Option.some.inj h]

theorem Recipients.insert_spec (h : store.insert row = some store') :
    store'.rows = row :: store.rows ∧ ∀ other ∈ store.rows, other.id ≠ row.id := by
  unfold Recipients.insert at h
  split_ifs at h with hfresh
  rw [← Option.some.inj h]
  exact ⟨rfl, fun other hother hid => hfresh.1 (List.mem_map.2 ⟨other, hother, hid⟩)⟩

/-- Every row stays, with its version or a later one, and with one version it has one content. -/
def Later (store store' : Recipients) : Prop :=
  ∀ row ∈ store.rows, ∃ row' ∈ store'.rows, row'.id = row.id ∧ row.version ≤ row'.version ∧
    (row'.version = row.version → row' = row)

theorem Later.refl (store : Recipients) : Later store store :=
  fun row hrow => ⟨row, hrow, rfl, le_rfl, fun _ => rfl⟩

/-- The row that was read is still there, or a later version of it. -/
def Reads (store : Recipients) (read : Recipient) : Prop :=
  ∃ row ∈ store.rows, row.id = read.id ∧ read.version ≤ row.version ∧
    (row.version = read.version → row = read)

theorem Reads.later (h : Reads store read) (hlater : Later store store') : Reads store' read := by
  obtain ⟨row, hrow, hid, hle, heq⟩ := h
  obtain ⟨row', hrow', hid', hle', heq'⟩ := hlater row hrow
  refine ⟨row', hrow', hid'.trans hid, hle.trans hle', fun hversion => ?_⟩
  have hsame : row.version = read.version := le_antisymm (hversion ▸ hle') hle
  rw [heq' (hversion.trans hsame.symm), heq hsame]

/-- **A row of the version that was read is the row that was read.** -/
theorem Reads.eq (h : Reads store read) (hrow : row ∈ store.rows) (hid : row.id = read.id)
    (hversion : row.version = read.version) : row = read := by
  obtain ⟨other, hother, hid', -, heq⟩ := h
  obtain rfl := store.eq_of_id hrow hother (hid.trans hid'.symm)
  exact heq hversion

/-! ## What a statement does -/

/-- The statements of requests, and what each of them finds. -/
inductive Acts (store : Recipients) : Stage → Recipients → Stage → Effect → Prop
  | missing {id : String} {patch : RecipientPatch} {ifMatch : Option String}
      (hfind : store.find id = none) :
      Acts store (.update id patch ifMatch) store (.finished .notFound) .none
  | refused {id : String} {patch : RecipientPatch} {ifMatch : Option String} {read : Recipient}
      (hfind : store.find id = some read) (hmatch : ∃ m ∈ ifMatch, m ≠ etag read.version) :
      Acts store (.update id patch ifMatch) store (.finished changed) .none
  | began {id : String} {patch : RecipientPatch} {ifMatch : Option String} {read : Recipient}
      {stage : Stage} (hfind : store.find id = some read)
      (hmatch : ∀ m ∈ ifMatch, m = etag read.version)
      (hstage : stage = .save patch read ∨
        ∃ email, patch.newEmail read = some email ∧ stage = .checkEmail patch read email) :
      Acts store (.update id patch ifMatch) store stage .none
  | emailTaken {patch : RecipientPatch} {read : Recipient} {email : String}
      (htaken : store.taken email = true) :
      Acts store (.checkEmail patch read email) store (.finished (inUse email)) .none
  | emailFree {patch : RecipientPatch} {read : Recipient} {email : String}
      (hfree : store.taken email = false) :
      Acts store (.checkEmail patch read email) store (.save patch read) .none
  | late {patch : RecipientPatch} {read : Recipient}
      (hnone : ∀ row ∈ store.rows, row.id = read.id → row.version ≠ read.version) :
      Acts store (.save patch read) store (.finished changed) .none
  | saved {patch : RecipientPatch} {read row : Recipient} {store' : Recipients}
      (hrow : row ∈ store.rows) (hid : row.id = read.id) (hversion : row.version = read.version)
      (hreplace : store.replace (patch.apply read row) = some store') :
      Acts store (.save patch read) store' (.refresh read.id) (.saved row (patch.apply read row))
  | conflicted {patch : RecipientPatch} {read : Recipient} {stage : Stage}
      (hstage : stage = .finished .failed ∨
        ∃ email, patch.newEmail read = some email ∧ stage = .checkConflict read.id email) :
      Acts store (.save patch read) store stage .none
  | conflictTaken {id email : String} (htaken : store.takenBy email id = true) :
      Acts store (.checkConflict id email) store (.finished (inUse email)) .none
  | refreshed {id : String} {row : Recipient} (hfind : store.find id = some row)
      {item : NotificationRecipient} (hview : row.view = some item) :
      Acts store (.refresh id) store (.finished (.found item)) .none
  | createTaken {payload : RecipientCreate} {stage : Stage}
      (hstage : stage = .create payload ∨ stage = .checkCreated payload)
      (htaken : store.taken payload.email = true) :
      Acts store stage store (.finished (alreadyExists payload.email)) .none
  | createFree {payload : RecipientCreate} (hfree : store.taken payload.email = false) :
      Acts store (.create payload) store (.insert payload) .none
  | created {payload : RecipientCreate} {id : String} {store' : Recipients}
      (hinsert : store.insert (payload.row id) = some store') :
      Acts store (.insert payload) store' (.refreshCreated payload id) (.created (payload.row id))
  | insertRefused {payload : RecipientCreate} :
      Acts store (.insert payload) store (.checkCreated payload) .none
  | refreshedCreated {payload : RecipientCreate} {id : String} {row : Recipient}
      (hfind : store.find id = some row) {item : NotificationRecipient}
      (hitem : viewedCreated payload (some row) = .finished (.found item)) :
      Acts store (.refreshCreated payload id) store (.finished (.found item)) .none
  | failed {stage : Stage} : Acts store stage store (.finished .failed) .none

theorem acts_start {id : String} {patch : RecipientPatch} {ifMatch : Option String} :
    Acts store (.update id patch ifMatch) store (startUpdate store id patch ifMatch) .none := by
  unfold startUpdate
  cases hfind : store.find id with
  | none => exact .missing hfind
  | some read =>
    dsimp only
    by_cases hmatch : ifMatch.any (· ≠ etag read.version) = true
    · rw [if_pos hmatch]
      obtain ⟨m, hm, hne⟩ := (Option.any_eq_true _ _).1 hmatch
      exact .refused hfind ⟨m, hm, of_decide_eq_true hne⟩
    · rw [if_neg hmatch]
      have hall : ∀ m ∈ ifMatch, m = etag read.version := by
        intro m hm
        by_contra hne
        exact hmatch ((Option.any_eq_true _ _).2 ⟨m, hm, decide_eq_true hne⟩)
      cases hemail : patch.newEmail read with
      | none => exact .began hfind hall (.inl rfl)
      | some email => exact .began hfind hall (.inr ⟨email, hemail, rfl⟩)

theorem acts_save (store : Recipients) (patch : RecipientPatch) (read : Recipient) :
    Acts store (.save patch read) (saveUpdate store patch read).1 (saveUpdate store patch read).2.1
      (saveUpdate store patch read).2.2 := by
  unfold saveUpdate
  cases hfind : store.rows.find? fun row => row.id = read.id ∧ row.version = read.version with
  | none =>
    refine .late fun row hrow hid hversion => ?_
    simpa [hid, hversion] using List.find?_eq_none.1 hfind row hrow
  | some row =>
    have hfound := List.find?_some hfind
    obtain ⟨hid, hversion⟩ := of_decide_eq_true hfound
    dsimp only
    cases hreplace : store.replace (patch.apply read row) with
    | some store' => exact .saved (List.mem_of_find?_eq_some hfind) hid hversion hreplace
    | none =>
      dsimp only
      cases hemail : patch.newEmail read with
      | none => exact .conflicted (.inl rfl)
      | some email => exact .conflicted (.inr ⟨email, hemail, rfl⟩)

/-- **What a statement does.** -/
theorem acts {stage stage' : Stage} {reply : Reply} {effect : Effect}
    (h : act store stage reply = some (store', stage', effect)) :
    Acts store stage store' stage' effect := by
  cases reply with
  | error =>
    cases stage <;> simp only [act, Option.some.injEq, Prod.mk.injEq, reduceCtorEq] at h
    all_goals
      obtain ⟨rfl, rfl, rfl⟩ := h
      exact .failed
  | rows drawn =>
    cases stage with
    | update id patch ifMatch =>
      simp only [act, Option.some.injEq, Prod.mk.injEq] at h
      obtain ⟨rfl, rfl, rfl⟩ := h
      exact acts_start
    | checkEmail patch read email =>
      simp only [act, Option.some.injEq, Prod.mk.injEq] at h
      obtain ⟨rfl, rfl, rfl⟩ := h
      split_ifs with htaken
      · exact .emailTaken htaken
      · exact .emailFree (Bool.eq_false_iff.2 htaken)
    | save patch read =>
      simp only [act, Option.some.injEq] at h
      have hsave := acts_save store patch read
      rwa [h] at hsave
    | checkConflict id email =>
      simp only [act, Option.some.injEq, Prod.mk.injEq] at h
      obtain ⟨rfl, rfl, rfl⟩ := h
      split_ifs with htaken
      · exact .conflictTaken htaken
      · exact .failed
    | refresh id =>
      simp only [act, Option.some.injEq, Prod.mk.injEq] at h
      obtain ⟨rfl, rfl, rfl⟩ := h
      unfold viewed
      cases hfind : store.find id with
      | none => exact .failed
      | some row =>
        rw [Option.bind_some]
        cases hview : row.view with
        | none => exact .failed
        | some item => exact .refreshed hfind hview
    | create payload =>
      simp only [act, Option.some.injEq, Prod.mk.injEq] at h
      obtain ⟨rfl, rfl, rfl⟩ := h
      split_ifs with htaken
      · exact .createTaken (.inl rfl) htaken
      · exact .createFree (Bool.eq_false_iff.2 htaken)
    | insert payload =>
      simp only [act] at h
      cases hinsert : store.insert (payload.row drawn) with
      | none =>
        rw [hinsert] at h
        simp only [Option.some.injEq, Prod.mk.injEq] at h
        obtain ⟨rfl, rfl, rfl⟩ := h
        exact .insertRefused
      | some store'' =>
        rw [hinsert] at h
        simp only [Option.some.injEq, Prod.mk.injEq] at h
        obtain ⟨rfl, rfl, rfl⟩ := h
        exact .created hinsert
    | checkCreated payload =>
      simp only [act, Option.some.injEq, Prod.mk.injEq] at h
      obtain ⟨rfl, rfl, rfl⟩ := h
      split_ifs with htaken
      · exact .createTaken (.inr rfl) htaken
      · exact .failed
    | refreshCreated payload id =>
      simp only [act, Option.some.injEq, Prod.mk.injEq] at h
      obtain ⟨rfl, rfl, rfl⟩ := h
      cases hfind : store.find id with
      | none => exact .failed
      | some row => exact .refreshedCreated hfind rfl
    | finished answer => cases h

/-- **No statement loses a row or goes back a version.** -/
theorem Acts.later {stage stage' : Stage} {effect : Effect}
    (h : Acts store stage store' stage' effect) : Later store store' := by
  cases h with
  | @saved patch read row store' hrow hid hversion hreplace =>
    intro other hother
    rw [Recipients.replace_rows hreplace]
    by_cases hsame : other.id = (patch.apply read row).id
    · obtain rfl := store.eq_of_id hother hrow hsame
      refine ⟨patch.apply read other, List.mem_map.2 ⟨other, hother, if_pos hsame⟩, rfl, ?_, ?_⟩
      · rw [hversion]
        exact Nat.le_succ _
      · intro heq
        exact absurd (heq.trans hversion) (Nat.succ_ne_self _)
    · exact ⟨other, List.mem_map.2 ⟨other, hother, if_neg hsame⟩, rfl, le_rfl, fun _ => rfl⟩
  | created hinsert =>
    intro other hother
    rw [(Recipients.insert_spec hinsert).1]
    exact ⟨other, List.mem_cons_of_mem _ hother, rfl, le_rfl, fun _ => rfl⟩
  | _ => exact Later.refl store

/-- The rows stay rows of names. -/
theorem Acts.listed {stage stage' : Stage} {effect : Effect}
    (h : Acts store stage store' stage' effect) (hlisted : ∀ row ∈ store.rows, row.Listed) :
    ∀ row ∈ store'.rows, row.Listed := by
  cases h with
  | @saved patch read row store' hrow hid hversion hreplace =>
    intro other hother
    rw [Recipients.replace_rows hreplace] at hother
    obtain ⟨old, hold, rfl⟩ := List.mem_map.1 hother
    split_ifs
    · exact RecipientPatch.apply_listed (hlisted row hrow)
    · exact hlisted old hold
  | @created payload id store' hinsert =>
    intro other hother
    rw [(Recipients.insert_spec hinsert).1] at hother
    rcases List.mem_cons.1 hother with rfl | hother
    · exact ⟨payload.channels, payload.eventTypes, rfl, rfl⟩
    · exact hlisted other hother
  | _ => exact hlisted

end

/-! ## What a request knows -/

section

variable {ι : Type*} {calls : ι → Call} {store : Recipients}
variable {s s' : Shared ι Recipients Stage} {i : ι} {call : Call} {stage stage' : Stage}
variable {effect : Effect}

abbrev RecipientStep (ι : Type*) := Entry (Shared ι Recipients Stage) (ι × Reply) Effect

variable {es : List (RecipientStep ι)} {e : RecipientStep ι}

/-- The row that a request has read is still there, or a later version of it. -/
def Current (store : Recipients) : Stage → Prop
  | .checkEmail _ read _ => Reads store read
  | .save _ read => Reads store read
  | _ => True

theorem Acts.current {store' : Recipients} (h : Acts store stage store' stage' effect)
    (hcurrent : Current store stage) : Current store' stage' := by
  cases h with
  | began hfind hmatch hstage =>
    obtain ⟨hmem, -⟩ := Recipients.find_spec hfind
    rcases hstage with rfl | ⟨email, -, rfl⟩ <;> exact ⟨_, hmem, rfl, le_rfl, fun _ => rfl⟩
  | emailFree hfree => exact hcurrent
  | conflicted hstage => rcases hstage with rfl | ⟨email, -, rfl⟩ <;> trivial
  | _ => trivial

theorem Current.later {store' : Recipients} (h : Current store stage)
    (hlater : Later store store') : Current store' stage := by
  cases stage with
  | checkEmail patch read email => exact Reads.later h hlater
  | save patch read => exact Reads.later h hlater
  | _ => trivial

/-- What one request does to the table leaves what the others have read. -/
theorem guarded : Guarded (fun _ : ι => act) (fun _ => True) (fun _ => Current)
    (fun _ => Later) where
  keeps _ hcurrent h := ⟨trivial, (acts h).current hcurrent⟩
  guarantee _ _ h _ _ := (acts h).later
  stable h hlater := h.later hlater

theorem current_of_run [DecidableEq ι] (hrun : Run step ⟨store, fun i => (calls i).stage⟩ es s)
    (i : ι) : Current s.store (s.locals i) := by
  have hstart : ∀ i, Current store (calls i).stage := by
    intro i
    cases calls i <;> trivial
  exact (guarded.of_run trivial hstart hrun).2 i

/-- The request has changed nothing. -/
def Silent (es : List (RecipientStep ι)) (i : ι) : Prop := ∀ e ∈ es, e.op.1 = i → e.out = .none

/-- A statement of the request has found the row, and its version is the expected one. -/
def Found (es : List (RecipientStep ι)) (i : ι) (id : String) (ifMatch : Option String)
    (read : Recipient) : Prop :=
  ∃ f ∈ es, f.op.1 = i ∧ f.pre.store.find id = some read ∧ ∀ m ∈ ifMatch, m = etag read.version

/-- A statement of the request has found a row with the e-mail. -/
def Taken (es : List (RecipientStep ι)) (i : ι) (email : String) : Prop :=
  ∃ f ∈ es, f.op.1 = i ∧ ∃ row ∈ f.pre.store.rows, row.email = email

/-- The request has saved a row, and a statement of it has found the row that is shown. -/
structure Updated (es : List (RecipientStep ι)) (i : ι) (id : String)
    (item : NotificationRecipient) : Prop where
  saved : ∃ e ∈ es, e.op.1 = i ∧ ∃ before after, e.out = .saved before after ∧ before.id = id
  shown : ∃ f ∈ es, f.op.1 = i ∧ ∃ row, f.pre.store.find id = some row ∧ row.view = some item

/-- The request has created a row, and a statement of it has found the row that is shown. -/
structure Created (es : List (RecipientStep ι)) (i : ι) (payload : RecipientCreate)
    (item : NotificationRecipient) : Prop where
  created : ∃ e ∈ es, e.op.1 = i ∧ e.out = .created (payload.row item.id)
  shown : ∃ f ∈ es, f.op.1 = i ∧ ∃ row, f.pre.store.find item.id = some row ∧
    viewedCreated payload (some row) = .finished (.found item)

/-- **What an answer vouches for.** -/
inductive Answered (es : List (RecipientStep ι)) (i : ι) : Call → Answer → Prop
  | updated {id : String} {patch : RecipientPatch} {ifMatch : Option String}
      {item : NotificationRecipient} (h : Updated es i id item) :
      Answered es i (.update id patch ifMatch) (.found item)
  | created {payload : RecipientCreate} {item : NotificationRecipient}
      (h : Created es i payload item) : Answered es i (.create payload) (.found item)
  | notFound {id : String} {patch : RecipientPatch} {ifMatch : Option String}
      (hsilent : Silent es i) (h : ∃ f ∈ es, f.op.1 = i ∧ f.pre.store.find id = none) :
      Answered es i (.update id patch ifMatch) .notFound
  | mismatch {id : String} {patch : RecipientPatch} {ifMatch : Option String}
      (hsilent : Silent es i) (h : ∃ f ∈ es, f.op.1 = i ∧ ∃ read, f.pre.store.find id = some read ∧
        ∃ m ∈ ifMatch, m ≠ etag read.version) :
      Answered es i (.update id patch ifMatch) changed
  | overtaken {id : String} {patch : RecipientPatch} {ifMatch : Option String} {read : Recipient}
      (hsilent : Silent es i) (hread : Found es i id ifMatch read)
      (h : ∃ f ∈ es, f.op.1 = i ∧ ∃ row ∈ f.pre.store.rows, row.id = id ∧
        read.version < row.version) :
      Answered es i (.update id patch ifMatch) changed
  | inUse {id email : String} {patch : RecipientPatch} {ifMatch : Option String}
      (hsilent : Silent es i) (hemail : patch.email = some email) (htaken : Taken es i email) :
      Answered es i (.update id patch ifMatch) (inUse email)
  | alreadyExists {payload : RecipientCreate} (hsilent : Silent es i)
      (htaken : Taken es i payload.email) :
      Answered es i (.create payload) (alreadyExists payload.email)
  | failed {call : Call} : Answered es i call .failed

/-- What is known of a request at each of its stages. -/
inductive Knows (es : List (RecipientStep ι)) (i : ι) : Call → Stage → Prop
  | update {id : String} {patch : RecipientPatch} {ifMatch : Option String}
      (hsilent : Silent es i) :
      Knows es i (.update id patch ifMatch) (.update id patch ifMatch)
  | checkEmail {id email : String} {patch : RecipientPatch} {ifMatch : Option String}
      {read : Recipient} (hsilent : Silent es i) (hread : Found es i id ifMatch read)
      (hemail : patch.newEmail read = some email) :
      Knows es i (.update id patch ifMatch) (.checkEmail patch read email)
  | save {id : String} {patch : RecipientPatch} {ifMatch : Option String} {read : Recipient}
      (hsilent : Silent es i) (hread : Found es i id ifMatch read) :
      Knows es i (.update id patch ifMatch) (.save patch read)
  | checkConflict {id email : String} {patch : RecipientPatch} {ifMatch : Option String}
      (hsilent : Silent es i) (hemail : patch.email = some email) :
      Knows es i (.update id patch ifMatch) (.checkConflict id email)
  | refresh {id : String} {patch : RecipientPatch} {ifMatch : Option String}
      (hsaved : ∃ e ∈ es, e.op.1 = i ∧
        ∃ before after, e.out = .saved before after ∧ before.id = id) :
      Knows es i (.update id patch ifMatch) (.refresh id)
  | create {payload : RecipientCreate} (hsilent : Silent es i) :
      Knows es i (.create payload) (.create payload)
  | insert {payload : RecipientCreate} (hsilent : Silent es i) :
      Knows es i (.create payload) (.insert payload)
  | checkCreated {payload : RecipientCreate} (hsilent : Silent es i) :
      Knows es i (.create payload) (.checkCreated payload)
  | refreshCreated {payload : RecipientCreate} {id : String}
      (hcreated : ∃ e ∈ es, e.op.1 = i ∧ e.out = .created (payload.row id)) :
      Knows es i (.create payload) (.refreshCreated payload id)
  | finished {call : Call} {answer : Answer} (h : Answered es i call answer) :
      Knows es i call (.finished answer)

/-! ### Another request acts -/

theorem exists_mono {P : RecipientStep ι → Prop} {es' : List (RecipientStep ι)}
    (h : ∃ f ∈ es, f.op.1 = i ∧ P f) : ∃ f ∈ es ++ es', f.op.1 = i ∧ P f := by
  obtain ⟨f, hf, hP⟩ := h
  exact ⟨f, List.mem_append_left _ hf, hP⟩

theorem Silent.snoc (h : Silent es i) (he : e.op.1 = i → e.out = .none) :
    Silent (es ++ [e]) i := by
  intro f hf hop
  rcases List.mem_append.1 hf with hf | hf
  · exact h f hf hop
  · rw [List.mem_singleton.1 hf] at hop ⊢
    exact he hop

theorem Answered.others {answer : Answer} (h : Answered es i call answer) (hne : e.op.1 ≠ i) :
    Answered (es ++ [e]) i call answer := by
  have hsnoc : Silent es i → Silent (es ++ [e]) i := fun h => h.snoc fun hop => absurd hop hne
  cases h with
  | updated h => exact .updated ⟨exists_mono h.saved, exists_mono h.shown⟩
  | created h => exact .created ⟨exists_mono h.created, exists_mono h.shown⟩
  | notFound hsilent h => exact .notFound (hsnoc hsilent) (exists_mono h)
  | mismatch hsilent h => exact .mismatch (hsnoc hsilent) (exists_mono h)
  | overtaken hsilent hread h =>
    exact .overtaken (hsnoc hsilent) (exists_mono hread) (exists_mono h)
  | inUse hsilent hemail htaken => exact .inUse (hsnoc hsilent) hemail (exists_mono htaken)
  | alreadyExists hsilent htaken => exact .alreadyExists (hsnoc hsilent) (exists_mono htaken)
  | failed => exact .failed

theorem Knows.others (h : Knows es i call stage) (hne : e.op.1 ≠ i) :
    Knows (es ++ [e]) i call stage := by
  have hsnoc : Silent es i → Silent (es ++ [e]) i := fun h => h.snoc fun hop => absurd hop hne
  cases h with
  | update hsilent => exact .update (hsnoc hsilent)
  | create hsilent => exact .create (hsnoc hsilent)
  | checkEmail hsilent hread hemail => exact .checkEmail (hsnoc hsilent) (exists_mono hread) hemail
  | save hsilent hread => exact .save (hsnoc hsilent) (exists_mono hread)
  | checkConflict hsilent hemail => exact .checkConflict (hsnoc hsilent) hemail
  | refresh hsaved => exact .refresh (exists_mono hsaved)
  | insert hsilent => exact .insert (hsnoc hsilent)
  | checkCreated hsilent => exact .checkCreated (hsnoc hsilent)
  | refreshCreated hcreated => exact .refreshCreated (exists_mono hcreated)
  | finished h => exact .finished (h.others hne)

/-! ### The request itself acts -/

theorem Found.id {id : String} {ifMatch : Option String} {read : Recipient}
    (h : Found es i id ifMatch read) : read.id = id := by
  obtain ⟨f, -, -, hfind, -⟩ := h
  exact (Recipients.find_spec hfind).2

theorem exists_last {P : RecipientStep ι → Prop} (hop : e.op.1 = i) (h : P e) :
    ∃ f ∈ es ++ [e], f.op.1 = i ∧ P f :=
  ⟨e, List.mem_append_right _ (List.mem_singleton_self e), hop, h⟩

theorem Recipients.exists_of_taken {email : String} (h : store.taken email = true) :
    ∃ row ∈ store.rows, row.email = email := by
  simpa [Recipients.taken] using h

theorem Recipients.exists_of_takenBy {email id : String} (h : store.takenBy email id = true) :
    ∃ row ∈ store.rows, row.email = email := by
  obtain ⟨row, hrow, hboth⟩ := List.any_eq_true.1 h
  exact ⟨row, hrow, (of_decide_eq_true hboth).1⟩

theorem RecipientPatch.newEmail_spec {patch : RecipientPatch} {row : Recipient} {email : String}
    (h : patch.newEmail row = some email) : patch.email = some email ∧ email ≠ row.email := by
  unfold RecipientPatch.newEmail at h
  rw [Option.filter_eq_some_iff] at h
  exact ⟨h.1, (of_decide_eq_true h.2).2⟩

/-- **A statement keeps what is known of its request.** -/
theorem Knows.acts (h : Knows es i call stage) (hop : e.op.1 = i)
    (hcurrent : Current e.pre.store stage)
    (hacts : Acts e.pre.store stage e.post.store stage' e.out) :
    Knows (es ++ [e]) i call stage' := by
  obtain ⟨pre, op, out, post⟩ := e
  dsimp only at hop hcurrent hacts
  generalize hstore : post.store = after at hacts
  cases hacts with
  | missing hfind =>
    cases h with
    | update hsilent =>
      exact .finished (.notFound (hsilent.snoc fun _ => rfl) (exists_last hop hfind))
  | refused hfind hmatch =>
    cases h with
    | update hsilent =>
      exact .finished (.mismatch (hsilent.snoc fun _ => rfl) (exists_last hop ⟨_, hfind, hmatch⟩))
  | began hfind hmatch hstage =>
    cases h with
    | update hsilent =>
      have hsilent' : Silent (es ++ [⟨pre, op, .none, post⟩]) i := hsilent.snoc fun _ => rfl
      rcases hstage with rfl | ⟨email, hemail, rfl⟩
      · exact .save hsilent' (exists_last hop ⟨hfind, hmatch⟩)
      · exact .checkEmail hsilent' (exists_last hop ⟨hfind, hmatch⟩) hemail
  | emailTaken htaken =>
    cases h with
    | checkEmail hsilent hread hemail =>
      exact .finished (.inUse (hsilent.snoc fun _ => rfl) (RecipientPatch.newEmail_spec hemail).1
        (exists_last hop (Recipients.exists_of_taken htaken)))
  | emailFree hfree =>
    cases h with
    | checkEmail hsilent hread hemail =>
      exact .save (hsilent.snoc fun _ => rfl) (exists_mono hread)
  | late hnone =>
    cases h with
    | save hsilent hread =>
      obtain ⟨row, hrow, hid, hle, -⟩ := hcurrent
      have hlt := lt_of_le_of_ne hle (Ne.symm (hnone row hrow hid))
      have hid' := hread.id
      exact .finished (.overtaken (hsilent.snoc fun _ => rfl) (exists_mono hread)
        (exists_last hop ⟨row, hrow, hid.trans hid', hlt⟩))
  | @saved patch read row store' hrow hid hversion hreplace =>
    cases h with
    | save hsilent hread =>
      have hid' := hread.id
      subst hid'
      exact .refresh (exists_last hop ⟨row, _, rfl, hid⟩)
  | conflicted hstage =>
    cases h with
    | save hsilent hread =>
      have hid' := hread.id
      rcases hstage with rfl | ⟨email, hemail, rfl⟩
      · exact .finished .failed
      · subst hid'
        exact .checkConflict (hsilent.snoc fun _ => rfl) (RecipientPatch.newEmail_spec hemail).1
  | conflictTaken htaken =>
    cases h with
    | checkConflict hsilent hemail =>
      exact .finished (.inUse (hsilent.snoc fun _ => rfl) hemail
        (exists_last hop (Recipients.exists_of_takenBy htaken)))
  | refreshed hfind hview =>
    cases h with
    | refresh hsaved =>
      exact .finished (.updated ⟨exists_mono hsaved, exists_last hop ⟨_, hfind, hview⟩⟩)
  | createTaken hstage htaken =>
    have hrow := Recipients.exists_of_taken htaken
    rcases hstage with rfl | rfl
    · cases h with
      | create hsilent =>
        exact .finished (.alreadyExists (hsilent.snoc fun _ => rfl) (exists_last hop hrow))
    · cases h with
      | checkCreated hsilent =>
        exact .finished (.alreadyExists (hsilent.snoc fun _ => rfl) (exists_last hop hrow))
  | createFree hfree =>
    cases h with
    | create hsilent => exact .insert (hsilent.snoc fun _ => rfl)
  | created hinsert =>
    cases h with
    | insert hsilent => exact .refreshCreated (exists_last hop rfl)
  | insertRefused =>
    cases h with
    | insert hsilent => exact .checkCreated (hsilent.snoc fun _ => rfl)
  | @refreshedCreated payload id row hfind item hitem =>
    cases h with
    | refreshCreated hcreated =>
      have hid : item.id = id := by
        unfold viewedCreated at hitem
        cases hitem
        exact (Recipients.find_spec hfind).2
      subst hid
      exact .finished (.created ⟨exists_mono hcreated, exists_last hop ⟨row, hfind, hitem⟩⟩)
  | failed => exact .finished .failed

/-- **What is known of every request** in every run. -/
theorem knows_of_run [DecidableEq ι] (hrun : Run step ⟨store, fun i => (calls i).stage⟩ es s)
    (i : ι) : Knows es i (calls i) (s.locals i) := by
  induction hrun with
  | nil =>
    dsimp only
    cases calls i with
    | update id patch ifMatch => exact .update (by simp [Silent])
    | create payload => exact .create (by simp [Silent])
  | @snoc es s s' op out hrun hs ih =>
    obtain ⟨hact, hframe⟩ := interleave_cases hs
    by_cases hi : op.1 = i
    · subst hi
      exact ih.acts rfl (current_of_run hrun _) (Administration.acts hact)
    · rw [hframe i (Ne.symm hi)]
      exact ih.others hi

/-- **An answer is true.** A request that is answered with a recipient has saved or created it; any
other answer but that of an exception means that the request has changed nothing, and names what one
of its statements has found. -/
theorem answers_true [DecidableEq ι] (hrun : Run step ⟨store, fun i => (calls i).stage⟩ es s)
    {answer : Answer} (hanswer : s.locals i = .finished answer) :
    Answered es i (calls i) answer := by
  have h := knows_of_run hrun i
  rw [hanswer] at h
  generalize calls i = call at h ⊢
  cases h with
  | finished h => exact h

/-! ## Saves -/

/-- The row that a step saves over. -/
def savedRow (e : RecipientStep ι) : Option Recipient :=
  match e.out with
  | .saved row _ => some row
  | _ => none

/-- The step has saved over the row that its request has read. -/
structure Saves (calls : ι → Call) (es : List (RecipientStep ι)) (e : RecipientStep ι)
    (row row' : Recipient) : Prop where
  call : ∃ patch ifMatch, calls e.op.1 = .update row.id patch ifMatch ∧
    (∀ m ∈ ifMatch, m = etag row.version) ∧ row' = patch.apply row row ∧
    Found es e.op.1 row.id ifMatch row
  held : row ∈ e.pre.store.rows
  rows : e.post.store.rows =
    e.pre.store.rows.map fun other => if other.id = row.id then row' else other

theorem saves_of_step [DecidableEq ι] (hrun : Run step ⟨store, fun i => (calls i).stage⟩ es e.pre)
    (hstep : step e.pre e.op = some (e.post, e.out)) {row row' : Recipient}
    (hout : e.out = .saved row row') : Saves calls es e row row' := by
  obtain ⟨hact, -⟩ := interleave_cases hstep
  have hacts := acts hact
  have hknows := knows_of_run hrun e.op.1
  have hcurrent := current_of_run hrun e.op.1
  rw [hout] at hacts
  generalize e.pre.locals e.op.1 = stage at hacts hknows hcurrent
  generalize e.post.locals e.op.1 = stage' at hacts
  generalize hpost : e.post.store = post at hacts
  generalize hcall : calls e.op.1 = call at hknows
  cases hacts with
  | saved hrow hid hversion hreplace =>
    obtain rfl := Reads.eq hcurrent hrow hid hversion
    cases hknows with
    | save hsilent hread =>
      have hid' := hread.id
      subst hid'
      refine ⟨⟨_, _, hcall, ?_, rfl, hread⟩, hrow, ?_⟩
      · obtain ⟨-, -, -, -, hmatch⟩ := hread
        exact hmatch
      · rw [hpost]
        exact Recipients.replace_rows hreplace

/-- A step that creates adds the row that its request asks for, with a new identifier. -/
structure Creates (calls : ι → Call) (e : RecipientStep ι) (row : Recipient) : Prop where
  call : ∃ payload, calls e.op.1 = .create payload ∧ row = payload.row row.id
  rows : e.post.store.rows = row :: e.pre.store.rows
  fresh : ∀ other ∈ e.pre.store.rows, other.id ≠ row.id

theorem creates_of_step [DecidableEq ι] (hrun : Run step ⟨store, fun i => (calls i).stage⟩ es e.pre)
    (hstep : step e.pre e.op = some (e.post, e.out)) {row : Recipient}
    (hout : e.out = .created row) : Creates calls e row := by
  obtain ⟨hact, -⟩ := interleave_cases hstep
  have hacts := acts hact
  have hknows := knows_of_run hrun e.op.1
  rw [hout] at hacts
  generalize e.pre.locals e.op.1 = stage at hacts hknows
  generalize e.post.locals e.op.1 = stage' at hacts
  generalize hpost : e.post.store = post at hacts
  generalize hcall : calls e.op.1 = call at hknows
  cases hacts with
  | created hinsert =>
    cases hknows with
    | insert hsilent =>
      obtain ⟨hrows, hfresh⟩ := Recipients.insert_spec hinsert
      exact ⟨⟨_, hcall, rfl⟩, hpost ▸ hrows, hfresh⟩

/-- A step that saves and creates nothing leaves the table as it is. -/
theorem store_of_none [DecidableEq ι] (hstep : step e.pre e.op = some (e.post, e.out))
    (hout : e.out = .none) : e.post.store = e.pre.store := by
  obtain ⟨hact, -⟩ := interleave_cases hstep
  have hacts := acts hact
  rw [hout] at hacts
  generalize e.pre.locals e.op.1 = stage at hacts
  generalize e.post.locals e.op.1 = stage' at hacts
  generalize e.post.store = post at hacts ⊢
  cases hacts <;> rfl

/-- The saves over one row. -/
def savesOf (id : String) (es : List (RecipientStep ι)) : ℕ :=
  (es.filterMap savedRow).countP fun row => row.id = id

/-- The versions after some steps. -/
structure Versioned (store : Recipients) (es : List (RecipientStep ι)) (final : Recipients) :
    Prop where
  increasing : (es.filterMap savedRow).Pairwise fun row row' =>
    row.id = row'.id → row.version < row'.version
  outlived : ∀ old ∈ es.filterMap savedRow, ∃ row ∈ final.rows, row.id = old.id ∧
    old.version < row.version
  counted : ∀ row ∈ final.rows, ∃ first : Recipient,
    (first ∈ store.rows ∨ ∃ e ∈ es, e.out = .created first) ∧ first.id = row.id ∧
    row.version = first.version + savesOf row.id es

theorem Versioned.start (store : Recipients) :
    Versioned store ([] : List (RecipientStep ι)) store :=
  ⟨List.Pairwise.nil, by simp, fun row hrow => ⟨row, .inl hrow, rfl, rfl⟩⟩

theorem filterMap_snoc_some {row : Recipient} (h : savedRow e = some row) :
    (es ++ [e]).filterMap savedRow = es.filterMap savedRow ++ [row] := by
  simp [List.filterMap_append, h]

theorem filterMap_snoc_none (h : savedRow e = none) :
    (es ++ [e]).filterMap savedRow = es.filterMap savedRow := by
  simp [List.filterMap_append, h]

theorem first_mono {first : Recipient}
    (h : first ∈ store.rows ∨ ∃ f ∈ es, f.out = .created first) :
    first ∈ store.rows ∨ ∃ f ∈ es ++ [e], f.out = .created first :=
  h.imp_right fun ⟨f, hf, hout⟩ => ⟨f, List.mem_append_left _ hf, hout⟩

/-- A save is the next one of its row. -/
theorem Versioned.saved {row row' : Recipient} (h : Versioned store es e.pre.store)
    (hout : e.out = .saved row row') (hsaves : Saves calls es e row row') :
    Versioned store (es ++ [e]) e.post.store := by
  obtain ⟨patch, ifMatch, -, -, hrow', -⟩ := hsaves.call
  have hsaved : savedRow e = some row := by simp [savedRow, hout]
  have hid : row'.id = row.id := by rw [hrow']; rfl
  have hversion : row'.version = row.version + 1 := by rw [hrow']; rfl
  have hmem : row' ∈ e.post.store.rows := by
    rw [hsaves.rows]
    exact List.mem_map.2 ⟨row, hsaves.held, if_pos rfl⟩
  have hbelow : ∀ old ∈ es.filterMap savedRow, old.id = row.id → old.version < row.version := by
    intro old hold hsame
    obtain ⟨held, hheld, hheldId, hlt⟩ := h.outlived old hold
    rwa [e.pre.store.eq_of_id hheld hsaves.held (hheldId.trans hsame)] at hlt
  refine ⟨?_, ?_, ?_⟩
  · rw [filterMap_snoc_some hsaved]
    refine List.pairwise_append.2 ⟨h.increasing, List.pairwise_singleton _ _, ?_⟩
    intro old hold last hlast
    rw [List.mem_singleton.1 hlast]
    exact hbelow old hold
  · rw [filterMap_snoc_some hsaved]
    intro old hold
    rcases List.mem_append.1 hold with hold | hold
    · by_cases hsame : old.id = row.id
      · refine ⟨row', hmem, hid.trans hsame.symm, ?_⟩
        have := hbelow old hold hsame
        omega
      · obtain ⟨held, hheld, hheldId, hlt⟩ := h.outlived old hold
        refine ⟨held, ?_, hheldId, hlt⟩
        rw [hsaves.rows]
        exact List.mem_map.2 ⟨held, hheld, if_neg fun hne => hsame (hheldId.symm.trans hne)⟩
    · rw [List.mem_singleton.1 hold]
      exact ⟨row', hmem, hid, by omega⟩
  · intro last hlast
    rw [hsaves.rows] at hlast
    obtain ⟨held, hheld, rfl⟩ := List.mem_map.1 hlast
    obtain ⟨first, hfirst, hfirstId, hcount⟩ := h.counted held hheld
    refine ⟨first, first_mono hfirst, ?_⟩
    unfold savesOf at hcount ⊢
    rw [filterMap_snoc_some hsaved, List.countP_append]
    split_ifs with hsame
    · obtain rfl := e.pre.store.eq_of_id hheld hsaves.held hsame
      refine ⟨hfirstId.trans hid.symm, ?_⟩
      rw [hversion, hcount, hid]
      simp [Nat.add_assoc]
    · refine ⟨hfirstId, ?_⟩
      rw [hcount]
      simp [Ne.symm hsame]

theorem Versioned.created {row : Recipient} (h : Versioned store es e.pre.store)
    (hout : e.out = .created row) (hcreates : Creates calls e row) :
    Versioned store (es ++ [e]) e.post.store := by
  have hnone : savedRow e = none := by simp [savedRow, hout]
  refine ⟨?_, ?_, ?_⟩
  · rw [filterMap_snoc_none hnone]
    exact h.increasing
  · rw [filterMap_snoc_none hnone]
    intro old hold
    obtain ⟨held, hheld, hrest⟩ := h.outlived old hold
    exact ⟨held, hcreates.rows ▸ List.mem_cons_of_mem _ hheld, hrest⟩
  · intro last hlast
    unfold savesOf
    rw [filterMap_snoc_none hnone]
    rw [hcreates.rows] at hlast
    rcases List.mem_cons.1 hlast with rfl | hlast
    · -- No save has been over a row with the new identifier.
      have hzero : savesOf last.id es = 0 := by
        refine List.countP_eq_zero.2 fun old hold hsame => ?_
        obtain ⟨held, hheld, hheldId, -⟩ := h.outlived old hold
        exact hcreates.fresh held hheld (hheldId.trans (of_decide_eq_true hsame))
      refine ⟨last, .inr ⟨e, List.mem_append_right _ (List.mem_singleton_self e), hout⟩, rfl, ?_⟩
      unfold savesOf at hzero
      rw [hzero]
      rfl
    · obtain ⟨first, hfirst, hrest⟩ := h.counted last hlast
      exact ⟨first, first_mono hfirst, hrest⟩

theorem Versioned.unchanged (h : Versioned store es e.pre.store) (hout : e.out = .none)
    (hstore : e.post.store = e.pre.store) : Versioned store (es ++ [e]) e.post.store := by
  have hnone : savedRow e = none := by simp [savedRow, hout]
  rw [hstore]
  refine ⟨?_, ?_, ?_⟩
  · rw [filterMap_snoc_none hnone]
    exact h.increasing
  · rw [filterMap_snoc_none hnone]
    exact h.outlived
  · intro row hrow
    obtain ⟨first, hfirst, hrest⟩ := h.counted row hrow
    unfold savesOf at hrest ⊢
    rw [filterMap_snoc_none hnone]
    exact ⟨first, first_mono hfirst, hrest⟩

/-- What a step reports is what it has done to the table. -/
structure Effective [DecidableEq ι] (calls : ι → Call) (es : List (RecipientStep ι))
    (e : RecipientStep ι) : Prop where
  saved : ∀ {row row'}, e.out = .saved row row' → Saves calls es e row row'
  created : ∀ {row}, e.out = .created row → Creates calls e row
  unchanged : e.out = .none → e.post.store = e.pre.store

theorem effective_of_step [DecidableEq ι]
    (hrun : Run step ⟨store, fun i => (calls i).stage⟩ es e.pre)
    (hstep : step e.pre e.op = some (e.post, e.out)) : Effective calls es e :=
  ⟨saves_of_step hrun hstep, creates_of_step hrun hstep, store_of_none hstep⟩

theorem versioned_of_run [DecidableEq ι] (hrun : Run step ⟨store, fun i => (calls i).stage⟩ es s) :
    Versioned store es s.store := by
  induction hrun with
  | nil => exact Versioned.start store
  | @snoc es s s' op out hrun hs ih =>
    have heffective : Effective calls es ⟨s, op, out, s'⟩ := effective_of_step hrun hs
    cases out with
    | saved row row' => exact ih.saved rfl (heffective.saved rfl)
    | created row => exact ih.created rfl (heffective.created rfl)
    | none => exact ih.unchanged rfl (heffective.unchanged rfl)

theorem listed_of_run [DecidableEq ι] (hrun : Run step ⟨store, fun i => (calls i).stage⟩ es s)
    (hlisted : ∀ row ∈ store.rows, row.Listed) : ∀ row ∈ s.store.rows, row.Listed := by
  induction hrun with
  | nil => exact hlisted
  | snoc hrun hs ih =>
    obtain ⟨hact, -⟩ := interleave_cases hs
    exact (acts hact).listed ih

/-- **Updates take effect one after the other.** In every run a save changes the row that its
request has read, with the version that the request has asked for; of one row the versions saved
over increase, so no two requests save over the same one, and its version is the first one plus the
number of saves. Rows that can be shown stay so. -/
theorem updates_serialized [DecidableEq ι]
    (hrun : Run step ⟨store, fun i => (calls i).stage⟩ es s) :
    (∀ before e after, es = before ++ e :: after → Effective calls before e) ∧
    Versioned store es s.store ∧
    ((∀ row ∈ store.rows, row.Listed) → ∀ row ∈ s.store.rows, row.Listed) := by
  refine ⟨fun before e after hes => ?_, versioned_of_run hrun, listed_of_run hrun⟩
  subst hes
  obtain ⟨hbefore, hstep⟩ := hrun.of_append_cons
  exact effective_of_step hbefore hstep

end

/-! ## Two updates of one version -/

def sampleRow : Recipient where
  id := "recipient-1"
  version := 1
  name := "Kim"
  team := "A"
  email := "kim@example.com"
  phone := none
  enabled := true
  channels := joined ["email", "sms"]
  subscriptionMode := .custom
  eventTypes := joined ["device_error"]

def sampleRows : Recipients := ⟨[sampleRow], List.nodup_singleton _, List.nodup_singleton _⟩

/-- Only the team is to change. -/
def samplePatch (team : String) : RecipientPatch :=
  ⟨none, some team, none, none, none, none, none, none⟩

def sampleCalls (b : Bool) : Call :=
  .update "recipient-1" (samplePatch (if b then "B" else "C")) (some "\"1\"")

/-- Both requests read the row before either saves it. -/
def sampleOps : List (Bool × Reply) :=
  [true, false, true, false, true].map fun b => (b, .rows "")

def sampleSaved : Recipient := { sampleRow with version := 2, team := "B" }

def sampleShown : NotificationRecipient :=
  { sampleSaved with version := "\"2\"", channels := [.email, .sms], eventTypes := [.deviceError] }

theorem sample_exec : ∃ es s,
    exec step ⟨sampleRows, fun i => (sampleCalls i).stage⟩ sampleOps = some (es, s) ∧
      s.store.rows = [sampleSaved] ∧ s.locals true = .finished (.found sampleShown) ∧
      s.locals false = .finished changed :=
  ⟨_, _, rfl, rfl, rfl, rfl⟩

/-- The sample of `updates_serialized`: the second save is refused, and the version is 2. -/
theorem updates_serialized_sample : ∃ es s,
    Run step ⟨sampleRows, fun i => (sampleCalls i).stage⟩ es s ∧ s.store.rows = [sampleSaved] ∧
      s.locals false = .finished changed ∧ Versioned sampleRows es s.store := by
  obtain ⟨es, s, hexec, hrows, -, hlate⟩ := sample_exec
  have hrun := Run.of_exec hexec
  exact ⟨es, s, hrun, hrows, hlate, (updates_serialized hrun).2.1⟩

/-- The sample of `answers_true`, for both requests. -/
theorem answers_true_sample : ∃ es s,
    Run step ⟨sampleRows, fun i => (sampleCalls i).stage⟩ es s ∧
      Answered es true (sampleCalls true) (.found sampleShown) ∧
      Answered es false (sampleCalls false) changed := by
  obtain ⟨es, s, hexec, -, hfound, hlate⟩ := sample_exec
  have hrun := Run.of_exec hexec
  exact ⟨es, s, hrun, answers_true hrun hfound, answers_true hrun hlate⟩

end ScrapMonitoring.Administration
