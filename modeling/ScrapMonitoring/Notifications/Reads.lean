import ScrapMonitoring.Notifications.Rows

/-!
# A notification is read once

However the requests of all accounts interleave, a committed read stays as it is, with its first
time, and an account has at most one of an alert. Every read comes from one statement of a request
of its own account, for an alert that was there and that the account had not read (`reads_once`). A
request that is answered has done what its answer says (`notification_answers`).
-/

namespace ScrapMonitoring.Notifications

section

variable {ι : Type} {tables tables' : Tables ι}

theorem addAlert_alerts {log : AlertLog} (h : tables.addAlert log = some tables') :
    tables'.alerts = log :: tables.alerts ∧ tables'.reads = tables.reads := by
  unfold Tables.addAlert at h
  split_ifs at h
  rw [← Option.some.inj h]
  exact ⟨rfl, rfl⟩

theorem findAlert_spec {id : ℕ} {log : AlertLog} (h : tables.findAlert id = some log) :
    log ∈ tables.alerts ∧ log.id = id := by
  have hid := List.find?_some h
  exact ⟨List.mem_of_find?_eq_some h, of_decide_eq_true hid⟩

end

section

variable {ι : Type} [DecidableEq ι]

/-! ## What a statement does -/

/-- The statements of requests, and what each of them finds. -/
inductive Acts (i : ι) (tables : Tables ι) : Reply → Stage → Tables ι → Stage → Effect → Prop
  | missing {now : ℤ} {username : String} {id : ℕ} {read : Bool}
      (hnone : tables.findAlert id = none) :
      Acts i tables (.ok now) (.get username id read) tables (.finished .notFound) .none
  | got {now : ℤ} {username : String} {id : ℕ} {read : Bool} {log : AlertLog}
      (hlog : tables.findAlert id = some log) :
      Acts i tables (.ok now) (.get username id read) tables
        (if read then .insert username log else .readBack username log) .none
  | inserted {now : ℤ} {username : String} {log : AlertLog}
      {reads : Uncommitted ι NotificationRead.key}
      (hinsert : tables.reads.insert i [⟨username, log.id, now⟩] = some reads) :
      Acts i tables (.ok now) (.insert username log) (tables.withReads reads)
        (.readBack username log) (.inserted (tables.reads.fresh i [⟨username, log.id, now⟩]))
  | readBack {now : ℤ} {username : String} {log : AlertLog} {item : Notification}
      (hitem : notification log
        ((tables.findRead i username log.id).map NotificationRead.readAt) = some item) :
      Acts i tables (.ok now) (.readBack username log) tables (.commit item) .none
  | committed {reply : Reply} {item : Notification} {answer : Answer}
      (hanswer : answer = .item item ∨ answer = unavailable) :
      Acts i tables reply (.commit item) (tables.withReads (tables.reads.commit i))
        (.finished answer) (.committed (tables.reads.mine i))
  | markedAll {now : ℤ} {username : String} {reads : Uncommitted ι NotificationRead.key}
      (hinsert : tables.reads.insert i (tables.unread i username now) = some reads) :
      Acts i tables (.ok now) (.markAll username) (tables.withReads reads)
        (.commitAll (tables.reads.fresh i (tables.unread i username now)).length)
        (.inserted (tables.reads.fresh i (tables.unread i username now)))
  | committedAll {reply : Reply} {count : ℕ} {answer : Answer}
      (hanswer : answer = .marked count ∨ answer = unavailable) :
      Acts i tables reply (.commitAll count) (tables.withReads (tables.reads.commit i))
        (.finished answer) (.committed (tables.reads.mine i))
  | counted {now : ℤ} {username : String} {unreadOnly : Bool} {page pageSize : ℕ} :
      Acts i tables (.ok now) (.counts username unreadOnly page pageSize) tables
        (afterCounts username unreadOnly page pageSize (counts (tables.joined i username)).1
          (counts (tables.joined i username)).2) .none
  | listed {now : ℤ} {username : String} {unreadOnly : Bool} {pageMeta : PageMetadata}
      {unreadCount : ℕ} :
      Acts i tables (.ok now) (.rows username unreadOnly pageMeta unreadCount) tables
        (.finished (pageAnswer pageMeta unreadCount
          (ordered unreadOnly (tables.joined i username)))) .none
  | alerted {now : ℤ} {log : AlertLog} {tables' : Tables ι}
      (hadd : tables.addAlert log = some tables') :
      Acts i tables (.ok now) (.alert log) tables' (.finished .stored) (.alerted log)
  | failedAlert {reply : Reply} {log : AlertLog} :
      Acts i tables reply (.alert log) tables (.finished .failed) .none
  | rolledBack {reply : Reply} {stage : Stage} {answer : Answer}
      (hanswer : answer = unavailable ∨ answer = .failed) :
      Acts i tables reply stage (tables.withReads (tables.reads.rollback i)) (.finished answer)
        .none

variable {i : ι} {tables tables' : Tables ι} {stage stage' : Stage} {reply : Reply}
variable {effect : Effect}

theorem acts_statement {now : ℤ}
    (h : statement i tables now stage = some (tables', stage', effect)) :
    Acts i tables (.ok now) stage tables' stage' effect := by
  cases stage with
  | get username id read =>
    simp only [statement] at h
    cases hlog : tables.findAlert id with
    | none =>
      rw [hlog] at h
      simp only [Option.some.injEq, Prod.mk.injEq] at h
      obtain ⟨rfl, rfl, rfl⟩ := h
      exact .missing hlog
    | some log =>
      rw [hlog] at h
      simp only [Option.some.injEq, Prod.mk.injEq] at h
      obtain ⟨rfl, rfl, rfl⟩ := h
      exact .got hlog
  | insert username log =>
    simp only [statement, Option.map_eq_some_iff, Prod.mk.injEq] at h
    obtain ⟨reads, hinsert, rfl, rfl, rfl⟩ := h
    exact .inserted hinsert
  | readBack username log =>
    simp only [statement] at h
    cases hitem : notification log
        ((tables.findRead i username log.id).map NotificationRead.readAt) with
    | none =>
      rw [hitem] at h
      simp only [Option.some.injEq, Prod.mk.injEq] at h
      obtain ⟨rfl, rfl, rfl⟩ := h
      exact .rolledBack (.inr rfl)
    | some item =>
      rw [hitem] at h
      simp only [Option.some.injEq, Prod.mk.injEq] at h
      obtain ⟨rfl, rfl, rfl⟩ := h
      exact .readBack hitem
  | commit item =>
    simp only [statement, Option.some.injEq, Prod.mk.injEq] at h
    obtain ⟨rfl, rfl, rfl⟩ := h
    exact .committed (.inl rfl)
  | markAll username =>
    simp only [statement, Option.map_eq_some_iff, Prod.mk.injEq] at h
    obtain ⟨reads, hinsert, rfl, rfl, rfl⟩ := h
    exact .markedAll hinsert
  | commitAll count =>
    simp only [statement, Option.some.injEq, Prod.mk.injEq] at h
    obtain ⟨rfl, rfl, rfl⟩ := h
    exact .committedAll (.inl rfl)
  | counts username unreadOnly page pageSize =>
    simp only [statement, Option.some.injEq, Prod.mk.injEq] at h
    obtain ⟨rfl, rfl, rfl⟩ := h
    exact .counted
  | rows username unreadOnly pageMeta unreadCount =>
    simp only [statement, Option.some.injEq, Prod.mk.injEq] at h
    obtain ⟨rfl, rfl, rfl⟩ := h
    exact .listed
  | alert log =>
    simp only [statement, Option.map_eq_some_iff, Prod.mk.injEq] at h
    obtain ⟨tables'', hadd, rfl, rfl, rfl⟩ := h
    exact .alerted hadd
  | finished answer => cases h

/-- **What a statement does.** -/
theorem acts (h : act i tables stage reply = some (tables', stage', effect)) :
    Acts i tables reply stage tables' stage' effect := by
  cases reply with
  | ok now => exact acts_statement h
  | error =>
    cases stage with
    | finished answer => cases h
    | alert log =>
      simp only [act, failure, Option.some.injEq, Prod.mk.injEq] at h
      obtain ⟨rfl, rfl, rfl⟩ := h
      exact .failedAlert
    | _ =>
      simp only [act, failure, Option.some.injEq, Prod.mk.injEq] at h
      obtain ⟨rfl, rfl, rfl⟩ := h
      exact .rolledBack (.inl rfl)
  | lost =>
    cases stage with
    | commit item =>
      simp only [act, lostCommit, Option.some.injEq, Prod.mk.injEq] at h
      obtain ⟨rfl, rfl, rfl⟩ := h
      exact .committed (.inr rfl)
    | commitAll count =>
      simp only [act, lostCommit, Option.some.injEq, Prod.mk.injEq] at h
      obtain ⟨rfl, rfl, rfl⟩ := h
      exact .committedAll (.inr rfl)
    | _ => cases h

/-- To the reads a statement does one of the four things. -/
theorem Acts.move (h : Acts i tables reply stage tables' stage' effect) :
    Uncommitted.Move i tables.reads tables'.reads := by
  cases h with
  | inserted hinsert => exact .insert hinsert
  | markedAll hinsert => exact .insert hinsert
  | committed hanswer => exact .commit
  | committedAll hanswer => exact .commit
  | rolledBack hanswer => exact .rollback
  | alerted hadd =>
    rw [(addAlert_alerts hadd).2]
    exact .read
  | _ => exact .read

/-- No statement takes an alert away. -/
theorem Acts.alerts (h : Acts i tables reply stage tables' stage' effect) :
    ∀ log ∈ tables.alerts, log ∈ tables'.alerts := by
  intro log hlog
  cases h with
  | alerted hadd =>
    rw [(addAlert_alerts hadd).1]
    exact List.mem_cons_of_mem _ hlog
  | _ => exact hlog

/-- The read that is found is the one with the key. -/
theorem findRead_eq {username : String} {id : ℕ} {row : NotificationRead}
    (hrow : row ∈ tables.reads.view i) (hkey : row.key = (username, id)) :
    tables.findRead i username id = some row := by
  obtain ⟨husername, hid⟩ := Prod.mk.inj hkey
  unfold Tables.findRead
  cases hfind : (tables.reads.view i).find? fun row =>
      row.username = username && row.alertId = id with
  | none =>
    have hnot := List.find?_eq_none.1 hfind row hrow
    simp [husername, hid] at hnot
  | some row' =>
    have hboth := List.find?_some hfind
    rw [Bool.and_eq_true, decide_eq_true_iff, decide_eq_true_iff] at hboth
    have hkey' : row'.key = row.key := by
      rw [hkey]
      exact Prod.ext hboth.1 hboth.2
    rw [Uncommitted.eq_of_key (List.mem_of_find?_eq_some hfind) hrow hkey']

end

/-! ## What is known of a request -/

section

variable {ι : Type} [DecidableEq ι] {calls : ι → Call} {tables tables' : Tables ι}
variable {s s' : Shared ι (Tables ι) Stage} {i : ι} {call : Call} {stage stage' : Stage}
variable {effect : Effect}

abbrev ReadStep (ι : Type) := Entry (Shared ι (Tables ι) Stage) (ι × Reply) Effect

variable {es : List (ReadStep ι)} {e : ReadStep ι}

/-- A statement of the request has inserted the rows, and with these rows its account has read all
alerts that were there. -/
def MarkedAll (es : List (ReadStep ι)) (i : ι) (username : String)
    (inserted rows : List NotificationRead) : Prop :=
  ∃ e ∈ es, e.op.1 = i ∧ e.out = .inserted inserted ∧
    ∀ log ∈ e.pre.store.alerts, ∃ row ∈ rows, row.key = (username, log.id)

/-- The statement has counted the numbers of the page. -/
structure Counts (e : ReadStep ι) (i : ι) (username : String) (unreadOnly : Bool)
    (page pageSize : ℕ) (answer : NotificationPage) : Prop where
  op : e.op.1 = i
  unreadCount : answer.unreadCount = (counts (e.pre.store.joined i username)).2
  page : answer.page = pageMetadata page pageSize (if unreadOnly then answer.unreadCount
    else (counts (e.pre.store.joined i username)).1)

/-- The statement has found the items of the place of the page. -/
structure Finds (e : ReadStep ι) (i : ι) (username : String) (unreadOnly : Bool)
    (page pageSize : ℕ) (answer : NotificationPage) : Prop where
  op : e.op.1 = i
  items : some answer.items =
    (pageOf pageSize page (ordered unreadOnly (e.pre.store.joined i username))).mapM
      fun row => notification row.1 (row.2.map NotificationRead.readAt)

/-- The page holds numbers that one statement has counted, and the items of its place that a later
statement has found. -/
def Listed (es : List (ReadStep ι)) (i : ι) (username : String) (unreadOnly : Bool)
    (page pageSize : ℕ) (answer : NotificationPage) : Prop :=
  ∃ before e after, es = before ++ e :: after ∧
    Counts e i username unreadOnly page pageSize answer ∧
    ((answer.items = [] ∧ answer.page.totalItems ≤ (page - 1) * pageSize) ∨
      ∃ f ∈ after, Finds f i username unreadOnly page pageSize answer)

/-- **What an answer vouches for.** -/
inductive Answered (es : List (ReadStep ι)) (reads : List NotificationRead) (i : ι) :
    Call → Answer → Prop
  | item {username text : String} {read : Bool} {log : AlertLog} {readAt : Option ℤ}
      {item : Notification} (hid : parseNotificationId text = some log.id)
      (hitem : notification log readAt = some item)
      (hread : read = true → ∃ row ∈ reads, row.key = (username, log.id) ∧
        readAt = some row.readAt) :
      Answered es reads i (.update username text read) (.item item)
  | notFound {username text : String} {read : Bool}
      (hnone : parseNotificationId text = none ∨ ∃ e ∈ es, e.op.1 = i ∧
        ∀ log ∈ e.pre.store.alerts, parseNotificationId text ≠ some log.id) :
      Answered es reads i (.update username text read) .notFound
  | marked {username : String} {rows : List NotificationRead}
      (hall : MarkedAll es i username rows reads)
      (hrows : ∃ e ∈ es, e.op.1 = i ∧ e.out = .committed rows) :
      Answered es reads i (.markAll username) (.marked rows.length)
  | page {username : String} {unreadOnly : Bool} {page pageSize : ℕ} {answer : NotificationPage}
      (h : Listed es i username unreadOnly page pageSize answer) :
      Answered es reads i (.list username unreadOnly page pageSize) (.page answer)
  | stored {log : AlertLog} : Answered es reads i (.alert log) .stored
  | unavailable {call : Call} : Answered es reads i call unavailable
  | failed {call : Call} : Answered es reads i call .failed

/-- What is known of a request at each of its stages. -/
inductive Knows (es : List (ReadStep ι)) (tables : Tables ι) (i : ι) : Call → Stage → Prop
  | get {username text : String} {id : ℕ} {read : Bool} (hid : parseNotificationId text = some id)
      (hidle : tables.reads.mine i = []) :
      Knows es tables i (.update username text read) (.get username id read)
  | insert {username text : String} {log : AlertLog} (hid : parseNotificationId text = some log.id)
      (hlog : log ∈ tables.alerts) (hidle : tables.reads.mine i = []) :
      Knows es tables i (.update username text true) (.insert username log)
  | readBack {username text : String} {log : AlertLog} {read : Bool}
      (hid : parseNotificationId text = some log.id)
      (hread : read = true → ∃ row ∈ tables.reads.view i, row.key = (username, log.id)) :
      Knows es tables i (.update username text read) (.readBack username log)
  | commit {username text : String} {log : AlertLog} {read : Bool} {readAt : Option ℤ}
      {item : Notification} (hid : parseNotificationId text = some log.id)
      (hitem : notification log readAt = some item)
      (hread : read = true → ∃ row ∈ tables.reads.view i, row.key = (username, log.id) ∧
        readAt = some row.readAt) :
      Knows es tables i (.update username text read) (.commit item)
  | markAll {username : String} (hidle : tables.reads.mine i = []) :
      Knows es tables i (.markAll username) (.markAll username)
  | commitAll {username : String}
      (hall : MarkedAll es i username (tables.reads.mine i) (tables.reads.view i)) :
      Knows es tables i (.markAll username) (.commitAll (tables.reads.mine i).length)
  | counts {username : String} {unreadOnly : Bool} {page pageSize : ℕ} :
      Knows es tables i (.list username unreadOnly page pageSize)
        (.counts username unreadOnly page pageSize)
  | rows {username : String} {unreadOnly : Bool} {page pageSize total unread : ℕ}
      (hcounted : ∃ e ∈ es, e.op.1 = i ∧ counts (e.pre.store.joined i username) = (total, unread)) :
      Knows es tables i (.list username unreadOnly page pageSize)
        (.rows username unreadOnly
          (pageMetadata page pageSize (if unreadOnly then unread else total)) unread)
  | alert {log : AlertLog} : Knows es tables i (.alert log) (.alert log)
  | finished {call : Call} {answer : Answer}
      (h : Answered es tables.reads.committed i call answer) :
      Knows es tables i call (.finished answer)

/-! ### Another request acts -/

omit [DecidableEq ι] in
theorem exists_mono {P : ReadStep ι → Prop} (h : ∃ f ∈ es, f.op.1 = i ∧ P f) :
    ∃ f ∈ es ++ [e], f.op.1 = i ∧ P f := by
  obtain ⟨f, hf, hP⟩ := h
  exact ⟨f, List.mem_append_left _ hf, hP⟩

omit [DecidableEq ι] in
theorem exists_last {P : ReadStep ι → Prop} (hop : e.op.1 = i) (h : P e) :
    ∃ f ∈ es ++ [e], f.op.1 = i ∧ P f :=
  ⟨e, List.mem_append_right _ (List.mem_singleton_self e), hop, h⟩

omit [DecidableEq ι] in
theorem MarkedAll.mono {username : String} {inserted rows rows' : List NotificationRead}
    (h : MarkedAll es i username inserted rows) (hrows : ∀ row ∈ rows, row ∈ rows') :
    MarkedAll (es ++ [e]) i username inserted rows' := by
  refine exists_mono ?_
  obtain ⟨f, hf, hop, hout, hall⟩ := h
  refine ⟨f, hf, hop, hout, fun log hlog => ?_⟩
  obtain ⟨row, hrow, hkey⟩ := hall log hlog
  exact ⟨row, hrows row hrow, hkey⟩

theorem Listed.mono {username : String} {unreadOnly : Bool} {page pageSize : ℕ}
    {answer : NotificationPage} (h : Listed es i username unreadOnly page pageSize answer) :
    Listed (es ++ [e]) i username unreadOnly page pageSize answer := by
  obtain ⟨before, f, after, rfl, hcounts, hitems⟩ := h
  refine ⟨before, f, after ++ [e], by simp, hcounts, hitems.imp_right ?_⟩
  rintro ⟨g, hg, hfinds⟩
  exact ⟨g, List.mem_append_left _ hg, hfinds⟩

theorem Answered.mono {reads reads' : List NotificationRead} {answer : Answer}
    (h : Answered es reads i call answer) (hreads : ∀ row ∈ reads, row ∈ reads') :
    Answered (es ++ [e]) reads' i call answer := by
  cases h with
  | item hid hitem hread =>
    refine .item hid hitem fun hr => ?_
    obtain ⟨row, hrow, hrest⟩ := hread hr
    exact ⟨row, hreads row hrow, hrest⟩
  | notFound hnone => exact .notFound (hnone.imp_right exists_mono)
  | marked hall hrows => exact .marked (hall.mono hreads) (exists_mono hrows)
  | page h => exact .page h.mono
  | stored => exact .stored
  | unavailable => exact .unavailable
  | failed => exact .failed

theorem Knows.others (h : Knows es tables i call stage)
    (halerts : ∀ log ∈ tables.alerts, log ∈ tables'.alerts)
    (hothers : Uncommitted.Others i tables.reads tables'.reads) :
    Knows (es ++ [e]) tables' i call stage := by
  have hmine := hothers.mine
  cases h with
  | get hid hidle => exact .get hid (hmine.trans hidle)
  | insert hid hlog hidle => exact .insert hid (halerts _ hlog) (hmine.trans hidle)
  | readBack hid hread =>
    refine .readBack hid fun hr => ?_
    obtain ⟨row, hrow, hkey⟩ := hread hr
    exact ⟨row, hothers.view row hrow, hkey⟩
  | commit hid hitem hread =>
    refine .commit hid hitem fun hr => ?_
    obtain ⟨row, hrow, hrest⟩ := hread hr
    exact ⟨row, hothers.view row hrow, hrest⟩
  | markAll hidle => exact .markAll (hmine.trans hidle)
  | commitAll hall =>
    rw [← hmine] at hall ⊢
    exact .commitAll (hall.mono hothers.view)
  | counts => exact .counts
  | rows hcounted => exact .rows (exists_mono hcounted)
  | alert => exact .alert
  | finished h => exact .finished (h.mono hothers.committed)

/-! ### The request itself acts -/

theorem answered_missing {username text : String} {id : ℕ} {read : Bool}
    (hid : parseNotificationId text = some id) (hop : e.op.1 = i)
    (hnone : e.pre.store.findAlert id = none) (reads : List NotificationRead) :
    Answered (es ++ [e]) reads i (.update username text read) .notFound := by
  refine .notFound (.inr (exists_last hop fun log hlog heq => ?_))
  rw [hid] at heq
  obtain rfl := Option.some.inj heq
  simpa using List.find?_eq_none.1 hnone log hlog

/-- After the statement an account has read all alerts. -/
theorem markedAll_insert {username : String} {now : ℤ}
    {reads : Uncommitted ι NotificationRead.key}
    (hinsert : tables.reads.insert i (tables.unread i username now) = some reads) :
    ∀ log ∈ tables.alerts, ∃ row ∈ reads.view i, row.key = (username, log.id) := by
  intro log hlog
  cases hfind : tables.findRead i username log.id with
  | none =>
    have hmem : (⟨username, log.id, now⟩ : NotificationRead) ∈ tables.unread i username now :=
      List.mem_map.2 ⟨log, List.mem_filter.2 ⟨hlog, by rw [hfind]; rfl⟩, rfl⟩
    exact Uncommitted.insert_key hinsert hmem
  | some row =>
    have hrow := List.mem_of_find?_eq_some hfind
    have hboth := List.find?_some hfind
    rw [Bool.and_eq_true, decide_eq_true_iff, decide_eq_true_iff] at hboth
    exact ⟨row, Uncommitted.insert_view hinsert row hrow, Prod.ext hboth.1 hboth.2⟩

theorem knows_afterCounts {username : String} {unreadOnly : Bool} {page pageSize : ℕ}
    (hop : e.op.1 = i) :
    Knows (es ++ [e]) tables i (.list username unreadOnly page pageSize)
      (afterCounts username unreadOnly page pageSize (counts (e.pre.store.joined i username)).1
        (counts (e.pre.store.joined i username)).2) := by
  unfold afterCounts
  dsimp only
  by_cases hoffset : (pageMetadata page pageSize
      (if unreadOnly then (counts (e.pre.store.joined i username)).2
        else (counts (e.pre.store.joined i username)).1)).totalItems ≤ (page - 1) * pageSize
  · rw [if_pos hoffset]
    exact .finished (.page ⟨es, e, [], rfl, ⟨hop, rfl, rfl⟩, .inl ⟨rfl, hoffset⟩⟩)
  · rw [if_neg hoffset]
    exact .rows (exists_last hop rfl)

theorem answered_page {username : String} {unreadOnly : Bool} {page pageSize total unread : ℕ}
    (hop : e.op.1 = i)
    (hcounted : ∃ f ∈ es, f.op.1 = i ∧ counts (f.pre.store.joined i username) = (total, unread))
    (reads : List NotificationRead) :
    Answered (es ++ [e]) reads i (.list username unreadOnly page pageSize)
      (pageAnswer (pageMetadata page pageSize (if unreadOnly then unread else total)) unread
        (ordered unreadOnly (e.pre.store.joined i username))) := by
  unfold pageAnswer
  cases hitems : ((((ordered unreadOnly (e.pre.store.joined i username)).drop
      (((pageMetadata page pageSize (if unreadOnly then unread else total)).page - 1) *
        (pageMetadata page pageSize (if unreadOnly then unread else total)).pageSize)).take
      (pageMetadata page pageSize (if unreadOnly then unread else total)).pageSize).mapM
      fun row => notification row.1 (row.2.map NotificationRead.readAt)) with
  | none => exact .failed
  | some items =>
    obtain ⟨f, hf, hfop, hcounts⟩ := hcounted
    obtain ⟨before, after, rfl⟩ := List.append_of_mem hf
    refine .page ⟨before, f, after ++ [e], by simp, ⟨hfop, ?_, ?_⟩,
      .inr ⟨e, List.mem_append_right _ (List.mem_singleton_self e), hop, ?_⟩⟩
    · rw [hcounts]
    · rw [hcounts]
    · rw [pageOf_eq]
      exact hitems.symm

/-- **A statement keeps what is known of its request.** -/
theorem Knows.acts (h : Knows es e.pre.store i call stage) (hop : e.op.1 = i)
    (hacts : Acts i e.pre.store e.op.2 stage e.post.store stage' e.out) :
    Knows (es ++ [e]) e.post.store i call stage' := by
  obtain ⟨pre, op, out, post⟩ := e
  dsimp only at h hop hacts ⊢
  generalize hreply : op.2 = reply at hacts
  generalize hafter : post.store = after at hacts ⊢
  cases hacts with
  | missing hnone =>
    cases h with
    | get hid hidle => exact .finished (answered_missing hid hop hnone _)
  | @got now username id read log hlog =>
    obtain ⟨hmem, hlogid⟩ := findAlert_spec hlog
    subst hlogid
    cases h with
    | get hid hidle =>
      cases read with
      | true => exact .insert hid hmem hidle
      | false => exact .readBack hid nofun
  | inserted hinsert =>
    cases h with
    | insert hid hlog hidle =>
      refine .readBack hid fun _ => ?_
      exact Uncommitted.insert_key hinsert (List.mem_singleton_self _)
  | readBack hitem =>
    cases h with
    | readBack hid hread =>
      refine .commit hid hitem fun hr => ?_
      obtain ⟨row, hrow, hkey⟩ := hread hr
      exact ⟨row, hrow, hkey, by rw [findRead_eq hrow hkey]; rfl⟩
  | committed hanswer =>
    cases h with
    | commit hid hitem hread =>
      rcases hanswer with rfl | rfl
      · exact .finished (.item hid hitem hread)
      · exact .finished .unavailable
  | @markedAll now username reads hinsert =>
    cases h with
    | markAll hidle =>
      have hmine : reads.mine i = pre.store.reads.fresh i (pre.store.unread i username now) := by
        rw [Uncommitted.insert_mine hinsert, hidle, List.nil_append]
      rw [← hmine]
      exact .commitAll (exists_last hop ⟨rfl, markedAll_insert hinsert⟩)
  | committedAll hanswer =>
    cases h with
    | commitAll hall =>
      rcases hanswer with rfl | rfl
      · exact .finished (.marked (hall.mono fun row hrow => hrow) (exists_last hop rfl))
      · exact .finished .unavailable
  | counted =>
    cases h with
    | counts => exact knows_afterCounts hop
  | listed =>
    cases h with
    | rows hcounted => exact .finished (answered_page hop hcounted _)
  | alerted hadd =>
    cases h with
    | alert => exact .finished .stored
  | failedAlert => exact .finished .failed
  | rolledBack hanswer =>
    rcases hanswer with rfl | rfl
    · exact .finished .unavailable
    · exact .finished .failed

theorem knows_start (hidle : tables.reads.mine i = []) (call : Call) :
    Knows ([] : List (ReadStep ι)) tables i call call.stage := by
  cases call with
  | update username text read =>
    simp only [Call.stage]
    cases hid : parseNotificationId text with
    | none => exact .finished (.notFound (.inl hid))
    | some id => exact .get hid hidle
  | markAll username => exact .markAll hidle
  | list username unreadOnly page pageSize => exact .counts
  | alert log => exact .alert

/-- **What is known of every request** in every run. -/
theorem knows_of_run (hidle : tables.reads.pending = [])
    (hrun : Run step ⟨tables, fun i => (calls i).stage⟩ es s) (i : ι) :
    Knows es s.store i (calls i) (s.locals i) := by
  induction hrun with
  | nil =>
    refine knows_start ?_ (calls i)
    unfold Uncommitted.mine
    rw [hidle]
    rfl
  | @snoc es s s' op out hrun hs ih =>
    obtain ⟨hact, hframe⟩ := interleave_cases hs
    by_cases hi : i = op.1
    · subst hi
      have hknows : Knows (es ++ [⟨s, op, out, s'⟩]) s'.store op.1 (calls op.1)
        (s'.locals op.1) := ih.acts rfl (acts hact)
      exact hknows
    · rw [hframe i hi]
      exact ih.others (acts hact).alerts ((acts hact).move.others hi)

/-- **An answer is true.** A request that marks an alert shows the time of the read that is stored;
one that marks all has published as many reads as it says, and its account has then read every alert
that was there; a page holds what its statements have found. -/
theorem notification_answers (hidle : tables.reads.pending = [])
    (hrun : Run step ⟨tables, fun i => (calls i).stage⟩ es s) {answer : Answer}
    (hanswer : s.locals i = .finished answer) :
    Answered es s.store.reads.committed i (calls i) answer := by
  have h := knows_of_run hidle hrun i
  rw [hanswer] at h
  generalize calls i = call at h ⊢
  cases h with
  | finished h => exact h

/-! ## Where reads come from -/

/-- The statement has inserted the read for its own account, of an alert that was there and that the
account had not read. -/
structure Inserts (calls : ι → Call) (e : ReadStep ι) (row : NotificationRead) : Prop where
  call : (∃ text, calls e.op.1 = .update row.username text true ∧
    parseNotificationId text = some row.alertId) ∨ calls e.op.1 = .markAll row.username
  now : e.op.2 = .ok row.readAt
  inserted : ∃ rows, e.out = .inserted rows ∧ row ∈ rows
  alert : ∃ log ∈ e.pre.store.alerts, log.id = row.alertId
  unread : ∀ row' ∈ e.pre.store.reads.committed, row'.key ≠ row.key

theorem inserts_of_acts (hknows : Knows es e.pre.store e.op.1 (calls e.op.1) stage)
    (hacts : Acts e.op.1 e.pre.store e.op.2 stage e.post.store stage' e.out)
    {rows : List NotificationRead} (hout : e.out = .inserted rows) :
    ∀ row ∈ rows, Inserts calls e row := by
  intro row hrow
  have hinserted : ∃ rows, e.out = .inserted rows ∧ row ∈ rows := ⟨rows, hout, hrow⟩
  rw [hout] at hacts
  generalize hcall : calls e.op.1 = call at hknows
  generalize hreply : e.op.2 = reply at hacts
  generalize e.post.store = after at hacts
  cases hacts with
  | inserted hinsert =>
    cases hknows with
    | insert hid hlog hidle =>
      obtain ⟨hmem, hunread⟩ := (Uncommitted.mem_fresh _ _).1 hrow
      obtain rfl := List.mem_singleton.1 hmem
      exact ⟨.inl ⟨_, hcall, hid⟩, hreply, hinserted, ⟨_, hlog, rfl⟩,
        fun row' hrow' => hunread row' (List.mem_append_left _ hrow')⟩
  | markedAll hinsert =>
    cases hknows with
    | markAll hidle =>
      obtain ⟨hmem, hunread⟩ := (Uncommitted.mem_fresh _ _).1 hrow
      obtain ⟨log, hlog, rfl⟩ := List.mem_map.1 hmem
      exact ⟨.inr hcall, hreply, hinserted, ⟨log, (List.mem_filter.1 hlog).1, rfl⟩,
        fun row' hrow' => hunread row' (List.mem_append_left _ hrow')⟩

/-- The reads that a step publishes. -/
def published (e : ReadStep ι) : List NotificationRead :=
  match e.out with
  | .committed rows => rows
  | _ => []

/-- Where the reads of the tables come from. -/
structure Traced (calls : ι → Call) (first : List NotificationRead) (es : List (ReadStep ι))
    (tables : Tables ι) : Prop where
  committed : tables.reads.committed = first ++ es.flatMap published
  published : ∀ row ∈ es.flatMap published, ∃ e ∈ es, Inserts calls e row
  mine : ∀ i, ∀ row ∈ tables.reads.mine i, ∃ e ∈ es, Inserts calls e row

omit [DecidableEq ι] in
theorem flatMap_snoc (es : List (ReadStep ι)) (e : ReadStep ι) :
    (es ++ [e]).flatMap published = es.flatMap published ++ published e := by
  rw [List.flatMap_append, List.flatMap_singleton]

omit [DecidableEq ι] in
theorem inserts_mono {row : NotificationRead} (h : ∃ f ∈ es, Inserts calls f row) :
    ∃ f ∈ es ++ [e], Inserts calls f row := by
  obtain ⟨f, hf, hinserts⟩ := h
  exact ⟨f, List.mem_append_left _ hf, hinserts⟩

/-- What a request has inserted is known, whatever it does next. -/
theorem Traced.mine_step {first : List NotificationRead} (h : Traced calls first es e.pre.store)
    (hacts : Acts e.op.1 e.pre.store e.op.2 stage e.post.store stage' e.out)
    (hinserts : ∀ rows, e.out = .inserted rows → ∀ row ∈ rows, Inserts calls e row) :
    ∀ row ∈ e.post.store.reads.mine e.op.1, ∃ f ∈ es ++ [e], Inserts calls f row := by
  intro row hrow
  have hkept : row ∈ e.pre.store.reads.mine e.op.1 → ∃ f ∈ es ++ [e], Inserts calls f row :=
    fun hmem => inserts_mono (h.mine _ row hmem)
  have hnew : ∀ {rows}, e.out = .inserted rows → row ∈ rows →
      ∃ f ∈ es ++ [e], Inserts calls f row := fun hout hmem =>
    ⟨e, List.mem_append_right _ (List.mem_singleton_self e), hinserts _ hout row hmem⟩
  generalize hout : e.out = out at hacts
  generalize e.op.2 = reply at hacts
  generalize e.post.store = after at hacts hrow
  cases hacts with
  | inserted hinsert =>
    unfold Tables.withReads at hrow
    rw [Uncommitted.insert_mine hinsert] at hrow
    exact (List.mem_append.1 hrow).elim hkept (hnew hout)
  | markedAll hinsert =>
    unfold Tables.withReads at hrow
    rw [Uncommitted.insert_mine hinsert] at hrow
    exact (List.mem_append.1 hrow).elim hkept (hnew hout)
  | committed hanswer =>
    unfold Tables.withReads at hrow
    rw [Uncommitted.commit_mine] at hrow
    cases hrow
  | committedAll hanswer =>
    unfold Tables.withReads at hrow
    rw [Uncommitted.commit_mine] at hrow
    cases hrow
  | rolledBack hanswer =>
    unfold Tables.withReads at hrow
    rw [Uncommitted.rollback_mine] at hrow
    cases hrow
  | alerted hadd =>
    rw [(addAlert_alerts hadd).2] at hrow
    exact hkept hrow
  | _ => exact hkept hrow

/-- A step publishes the reads of its request, or nothing. -/
theorem Acts.published (hacts : Acts e.op.1 e.pre.store e.op.2 stage e.post.store stage' e.out) :
    e.post.store.reads.committed = e.pre.store.reads.committed ++ published e ∧
      ∀ row ∈ published e, row ∈ e.pre.store.reads.mine e.op.1 := by
  unfold Notifications.published
  generalize e.out = out at hacts ⊢
  generalize e.op.2 = reply at hacts
  generalize e.post.store = after at hacts ⊢
  cases hacts with
  | inserted hinsert =>
    exact ⟨(Uncommitted.insert_committed hinsert).trans (List.append_nil _).symm, nofun⟩
  | markedAll hinsert =>
    exact ⟨(Uncommitted.insert_committed hinsert).trans (List.append_nil _).symm, nofun⟩
  | committed hanswer => exact ⟨rfl, fun row hrow => hrow⟩
  | committedAll hanswer => exact ⟨rfl, fun row hrow => hrow⟩
  | alerted hadd =>
    rw [(addAlert_alerts hadd).2]
    exact ⟨(List.append_nil _).symm, nofun⟩
  | _ => exact ⟨(List.append_nil _).symm, nofun⟩

theorem Traced.step {first : List NotificationRead} (h : Traced calls first es e.pre.store)
    (hacts : Acts e.op.1 e.pre.store e.op.2 stage e.post.store stage' e.out)
    (hinserts : ∀ rows, e.out = .inserted rows → ∀ row ∈ rows, Inserts calls e row) :
    Traced calls first (es ++ [e]) e.post.store := by
  obtain ⟨hcommitted, hmine⟩ := hacts.published
  refine ⟨?_, fun row hrow => ?_, fun i row hrow => ?_⟩
  · rw [hcommitted, h.committed, flatMap_snoc, List.append_assoc]
  · rw [flatMap_snoc] at hrow
    rcases List.mem_append.1 hrow with hrow | hrow
    · exact inserts_mono (h.published row hrow)
    · exact inserts_mono (h.mine _ row (hmine row hrow))
  · by_cases hi : i = e.op.1
    · rw [hi] at hrow
      exact h.mine_step hacts hinserts row hrow
    · rw [(hacts.move.others hi).mine] at hrow
      exact inserts_mono (h.mine i row hrow)

theorem traced_of_run (hidle : tables.reads.pending = [])
    (hrun : Run step ⟨tables, fun i => (calls i).stage⟩ es s) :
    Traced calls tables.reads.committed es s.store := by
  induction hrun with
  | nil =>
    refine ⟨(List.append_nil _).symm, nofun, fun i row hrow => ?_⟩
    unfold Uncommitted.mine at hrow
    rw [hidle] at hrow
    cases hrow
  | @snoc es s s' op out hrun hs ih =>
    have hacts := acts (interleave_cases hs).1
    have hinserts : ∀ rows, out = .inserted rows → ∀ row ∈ rows,
        Inserts calls ⟨s, op, out, s'⟩ row := fun rows hout =>
      inserts_of_acts (e := ⟨s, op, out, s'⟩) (knows_of_run hidle hrun op.1) hacts hout
    have hstep : Traced calls tables.reads.committed (es ++ [⟨s, op, out, s'⟩]) s'.store :=
      Traced.step ih hacts hinserts
    exact hstep

/-- **A notification is read once.** In every run the committed reads are the first ones and those
that requests have published, in that order, so none is lost or changed; no account has two of an
alert; and each that is published comes from one statement, which has inserted it at its time for
the account of its request, of an alert that was there and that the account had not read. -/
theorem reads_once (hidle : tables.reads.pending = [])
    (hrun : Run step ⟨tables, fun i => (calls i).stage⟩ es s) :
    s.store.reads.committed = tables.reads.committed ++ es.flatMap published ∧
    (s.store.reads.committed.map NotificationRead.key).Nodup ∧
    ∀ row ∈ es.flatMap published, ∃ e ∈ es, Inserts calls e row := by
  have htraced := traced_of_run hidle hrun
  exact ⟨htraced.committed, (List.nodup_append.1 s.store.reads.keys).1, htraced.published⟩

end

end ScrapMonitoring.Notifications
