import ScrapMonitoring.Notifications.Reads

/-!
# Pages of notifications

On tables that do not change between its statements, a listing of an account shows every alert once,
the latest first, with the account's own reads, and no other (`pages_complete`). The identifier of a
notification is that of its alert, for a listing and for an update alike (`parse_notificationId`).
-/

namespace ScrapMonitoring.Notifications

/-! ## Identifiers -/

theorem toList_notificationId (id : ℕ) :
    (notificationId id).toList = "notif-".toList ++ Nat.toDigits 10 id := by
  unfold notificationId
  rw [String.toList_append]
  exact congrArg (_ ++ ·) Nat.toList_repr

theorem isspace_of_isDigit {c : Char} (h : c.isDigit) : isspace c = false := by
  have hrange : 48 ≤ c.toNat ∧ c.toNat ≤ 57 := by
    simpa [Char.isDigit, Char.le_def, UInt32.le_iff_toNat_le] using h
  unfold isspace
  simp only [Bool.or_eq_false_iff, Bool.and_eq_false_iff, decide_eq_false_iff_not]
  omega

/-- A text without blanks at its ends stays. -/
theorem strip_eq {c d : Char} {text : List Char} (hc : isspace c = false) (hd : isspace d = false) :
    strip (c :: text ++ [d]) = c :: text ++ [d] := by
  unfold strip
  rw [List.cons_append, List.dropWhile_cons_of_neg (by simp [hc]), ← List.cons_append,
    List.reverse_append, List.reverse_singleton, List.singleton_append,
    List.dropWhile_cons_of_neg (by simp [hd]), List.reverse_cons, List.reverse_reverse]

/-- **The identifier of a notification is read as that of its alert.** -/
theorem parse_notificationId {id : ℕ} (hid : 1 ≤ id ∧ id ≤ 2147483647) :
    parseNotificationId (notificationId id) = some id := by
  have hdigit : ∀ c ∈ Nat.toDigits 10 id, c.isDigit := fun c hc =>
    Nat.isDigit_of_mem_toDigits (by decide) (by decide) hc
  have hstrip : strip (notificationId id).toList = "notif-".toList ++ Nat.toDigits 10 id := by
    rw [toList_notificationId]
    obtain ⟨front, last, hlast⟩ := List.eq_nil_or_concat (Nat.toDigits 10 id) |>.resolve_left
      Nat.toDigits_ne_nil
    rw [hlast]
    have hspace : isspace last = false := isspace_of_isDigit (hdigit last (by simp [hlast]))
    have hcut : strip ('n' :: (['o', 't', 'i', 'f', '-'] ++ front) ++ [last]) =
        'n' :: (['o', 't', 'i', 'f', '-'] ++ front) ++ [last] := strip_eq (by decide) hspace
    simpa using hcut
  have hlength : (Nat.toDigits 10 id).length ≤ 10 :=
    (Nat.length_toDigits_le_iff (by decide) (by decide)).2 (by omega)
  have htag : withoutTag ("notif-".toList ++ Nat.toDigits 10 id) = Nat.toDigits 10 id := by
    unfold withoutTag
    rw [if_pos (List.prefix_append _ _)]
    rfl
  have hany : (Nat.toDigits 10 id).any (fun c => !c.isDigit) = false := by
    rw [List.any_eq_false]
    intro c hc
    simp [hdigit c hc]
  unfold parseNotificationId
  rw [hstrip, htag]
  dsimp only
  rw [if_neg, Nat.ofDigitChars_ten_toDigits, if_pos hid]
  rintro (hnil | hsome | hlong)
  · exact Nat.toDigits_ne_nil hnil
  · rw [hany] at hsome
    cases hsome
  · omega

/-! ## Rows -/

section

variable {ι : Type} [DecidableEq ι] {tables : Tables ι} {i : ι} {username : String}

/-- Beside every alert stands the account's own read. -/
theorem joined_eq (tables : Tables ι) (i : ι) (username : String) :
    tables.joined i username =
      tables.alerts.map fun log => (log, tables.findRead i username log.id) := by
  have hkeys : ((tables.reads.view i).map NotificationRead.key).Nodup :=
    (tables.reads.keys_commit i).sublist (List.sublist_append_left _ _)
  have hon : ∀ log ∈ tables.alerts, ∀ row row' : NotificationRead,
      (row.alertId = log.id && row.username = username) = true →
      (row'.alertId = log.id && row'.username = username) = true → row.key = row'.key := by
    intro log _ row row' hrow hrow'
    simp only [Bool.and_eq_true, decide_eq_true_eq] at hrow hrow'
    exact Prod.ext (hrow.2.trans hrow'.2.symm) (hrow.1.trans hrow'.1.symm)
  unfold Tables.joined joinedReads
  rw [outerJoin_eq_map NotificationRead.key hkeys hon]
  refine List.map_congr_left fun log _ => ?_
  unfold Tables.findRead
  refine congrArg (Prod.mk log) (congrArg (List.find? · _) ?_)
  funext row
  exact Bool.and_comm _ _

/-- An account has not read an alert. -/
def Tables.isUnread (tables : Tables ι) (i : ι) (username : String) (log : AlertLog) : Bool :=
  (tables.findRead i username log.id).isNone

/-- The alerts of a listing, the latest first. -/
def Tables.listed (tables : Tables ι) (i : ι) (username : String) (unreadOnly : Bool) :
    List AlertLog :=
  sortedBy (fun log => toLex (-log.triggeredAt, -(log.id : ℤ)))
    (tables.alerts.filter fun log => !unreadOnly || tables.isUnread i username log)

/-- An alert as the account sees it. -/
def Tables.shown (tables : Tables ι) (i : ι) (username : String) (log : AlertLog) :
    Option Notification :=
  notification log ((tables.findRead i username log.id).map NotificationRead.readAt)

theorem ordered_joined (unreadOnly : Bool) :
    ordered unreadOnly (tables.joined i username) =
      (tables.listed i username unreadOnly).map fun log =>
        (log, tables.findRead i username log.id) := by
  unfold ordered Tables.listed
  rw [joined_eq, List.filter_map]
  exact (map_sortedBy _ (fun log : AlertLog => (log, tables.findRead i username log.id)) _).symm

theorem counts_joined : counts (tables.joined i username) =
    (tables.alerts.length, tables.alerts.countP (tables.isUnread i username)) := by
  unfold counts
  rw [joined_eq, List.length_map, List.countP_map]
  rfl

theorem length_listed (unreadOnly : Bool) :
    (tables.listed i username unreadOnly).length =
      if unreadOnly then tables.alerts.countP (tables.isUnread i username)
      else tables.alerts.length := by
  unfold Tables.listed
  rw [(sortedBy_perm _ _).length_eq]
  cases unreadOnly with
  | true =>
    rw [if_pos rfl, List.countP_eq_length_filter]
    rfl
  | false =>
    have hall : (tables.alerts.filter fun log => !false || tables.isUnread i username log) =
        tables.alerts := List.filter_eq_self.2 fun _ _ => rfl
    rw [if_neg nofun, hall]

/-! ## Pages -/

/-- The answer to a listing whose statements find the same tables. -/
def listNotifications (i : ι) (tables : Tables ι) (username : String) (unreadOnly : Bool)
    (page pageSize : ℕ) : Answer :=
  match afterCounts username unreadOnly page pageSize (counts (tables.joined i username)).1
      (counts (tables.joined i username)).2 with
  | .rows _ unreadOnly pageMeta unreadCount =>
    pageAnswer pageMeta unreadCount (ordered unreadOnly (tables.joined i username))
  | .finished answer => answer
  | _ => .failed

/-- It is the answer after one statement or two. -/
theorem listNotifications_acts (tables : Tables ι) (username : String) (unreadOnly : Bool)
    (page pageSize : ℕ) (now now' : ℤ) :
    ∃ stage, act i tables (.counts username unreadOnly page pageSize) (.ok now) =
        some (tables, stage, .none) ∧
      (stage = .finished (listNotifications i tables username unreadOnly page pageSize) ∨
        act i tables stage (.ok now') = some (tables,
          .finished (listNotifications i tables username unreadOnly page pageSize), .none)) := by
  refine ⟨_, rfl, ?_⟩
  unfold listNotifications afterCounts
  dsimp only
  by_cases hoffset : (pageMetadata page pageSize
      (if unreadOnly then (counts (tables.joined i username)).2
        else (counts (tables.joined i username)).1)).totalItems ≤ (page - 1) * pageSize
  · rw [if_pos hoffset]
    exact .inl rfl
  · rw [if_neg hoffset]
    exact .inr rfl

theorem notification_id {log : AlertLog} {readAt : Option ℤ} {item : Notification}
    (h : notification log readAt = some item) : item.id = notificationId log.id := by
  unfold notification at h
  obtain ⟨type, -, h⟩ := Option.bind_eq_some_iff.1 h
  obtain ⟨severity, -, h⟩ := Option.bind_eq_some_iff.1 h
  rw [← Option.some.inj h]

/-- Whether an alert can be shown does not depend on who has read it. -/
theorem isSome_notification (log : AlertLog) (readAt : Option ℤ) :
    (notification log readAt).isSome = (notification log none).isSome := by
  unfold notification
  cases EventType.parse (orElse log.eventType "collection_required") with
  | none => rfl
  | some type =>
    cases NotificationSeverity.parse (orElse log.severity "warning") <;> rfl

theorem mapM_of_isSome {α β : Type} {f : α → Option β} {l : List α}
    (h : ∀ a ∈ l, (f a).isSome) : l.mapM f = some (l.filterMap f) := by
  induction l with
  | nil => rfl
  | cons a l ih =>
    obtain ⟨b, hb⟩ := Option.isSome_iff_exists.1 (h a List.mem_cons_self)
    rw [List.mapM_cons, hb, ih fun a' ha' => h a' (List.mem_cons_of_mem a ha'),
      List.filterMap_cons_some hb]
    rfl

theorem map_some_filterMap {α β : Type} {f : α → Option β} {l : List α}
    (h : ∀ a ∈ l, (f a).isSome) : (l.filterMap f).map some = l.map f := by
  induction l with
  | nil => rfl
  | cons a l ih =>
    obtain ⟨b, hb⟩ := Option.isSome_iff_exists.1 (h a List.mem_cons_self)
    rw [List.filterMap_cons_some hb, List.map_cons, List.map_cons, hb,
      ih fun a' ha' => h a' (List.mem_cons_of_mem a ha')]

/-- The items of a page. -/
def Tables.pageItems (tables : Tables ι) (i : ι) (username : String) (unreadOnly : Bool)
    (page pageSize : ℕ) : List Notification :=
  (pageOf pageSize page (tables.listed i username unreadOnly)).filterMap (tables.shown i username)

theorem mem_listed {unreadOnly : Bool} {log : AlertLog}
    (h : log ∈ tables.listed i username unreadOnly) : log ∈ tables.alerts :=
  List.mem_of_mem_filter ((mem_sortedBy _ _).1 h)

theorem mem_pageOf {α : Type} {size page : ℕ} {rows : List α} {a : α}
    (h : a ∈ pageOf size page rows) : a ∈ rows := by
  rw [pageOf_eq] at h
  exact List.mem_of_mem_drop (List.mem_of_mem_take h)

theorem totalPages_eq (total : ℕ) {pageSize : ℕ} (hsize : 0 < pageSize) :
    (if 0 < total then totalPages total pageSize else 0) = totalPages total pageSize := by
  split_ifs with htotal
  · rfl
  · unfold totalPages
    refine (Nat.div_eq_of_lt ?_).symm
    omega

theorem pageAnswer_eq {pageMeta : PageMetadata} {unreadCount : ℕ}
    {rows : List (AlertLog × Option NotificationRead)} {items : List Notification}
    (h : ((rows.drop ((pageMeta.page - 1) * pageMeta.pageSize)).take pageMeta.pageSize).mapM
      (fun row => notification row.1 (row.2.map NotificationRead.readAt)) = some items) :
    pageAnswer pageMeta unreadCount rows = .page ⟨items, pageMeta, unreadCount⟩ := by
  unfold pageAnswer
  rw [h]

/-- **A page and its numbers.** -/
theorem listNotifications_eq (unreadOnly : Bool) (page : ℕ) {pageSize : ℕ} (hsize : 0 < pageSize)
    (hvalid : ∀ log ∈ tables.alerts, (notification log none).isSome) :
    listNotifications i tables username unreadOnly page pageSize = .page
      ⟨tables.pageItems i username unreadOnly page pageSize,
        ⟨page, pageSize, (tables.listed i username unreadOnly).length,
          totalPages (tables.listed i username unreadOnly).length pageSize⟩,
        tables.alerts.countP (tables.isUnread i username)⟩ := by
  have hmeta : pageMetadata page pageSize (if unreadOnly then
      tables.alerts.countP (tables.isUnread i username) else tables.alerts.length) =
        ⟨page, pageSize, (tables.listed i username unreadOnly).length,
          totalPages (tables.listed i username unreadOnly).length pageSize⟩ := by
    rw [← length_listed]
    unfold pageMetadata
    rw [totalPages_eq _ hsize]
  unfold listNotifications afterCounts
  rw [counts_joined]
  dsimp only
  rw [hmeta]
  dsimp only
  by_cases hoffset : (tables.listed i username unreadOnly).length ≤ (page - 1) * pageSize
  · have hitems : tables.pageItems i username unreadOnly page pageSize = [] := by
      unfold Tables.pageItems pageOf
      rw [if_neg (not_lt.2 hoffset)]
      rfl
    rw [if_pos hoffset, hitems]
  · rw [if_neg hoffset]
    dsimp only
    refine pageAnswer_eq ?_
    dsimp only
    rw [ordered_joined, ← List.map_drop, ← List.map_take, ← pageOf_eq, List.mapM_map]
    have hshown : ∀ log ∈ pageOf pageSize page (tables.listed i username unreadOnly),
        (tables.shown i username log).isSome := by
      intro log hlog
      unfold Tables.shown
      rw [isSome_notification]
      exact hvalid log (mem_listed (mem_pageOf hlog))
    exact mapM_of_isSome hshown

theorem flatMap_pageItems (unreadOnly : Bool) {pageSize : ℕ} (hsize : 0 < pageSize) :
    (List.range (totalPages (tables.listed i username unreadOnly).length pageSize)).flatMap
      (fun k => tables.pageItems i username unreadOnly (k + 1) pageSize) =
        (tables.listed i username unreadOnly).filterMap (tables.shown i username) := by
  have hpages := pages_flatten hsize (tables.listed i username unreadOnly)
  conv_rhs => rw [← hpages]
  rw [List.filterMap_flatMap]
  rfl

/-- **The pages are the notifications.** On tables that stay as they are, every page of a listing
has the number of all its notifications and of the unread ones; the pages together show each alert
once, the latest first, with the account's own read of it, or, if only these are asked for, each
alert that the account has not read; and the identifier that is shown is read as that of the
alert. -/
theorem pages_complete (tables : Tables ι) (i : ι) (username : String) (unreadOnly : Bool)
    {pageSize : ℕ} (hsize : 0 < pageSize)
    (hvalid : ∀ log ∈ tables.alerts, (notification log none).isSome) :
    ∃ items : ℕ → List Notification,
      (∀ page, listNotifications i tables username unreadOnly page pageSize = .page
        ⟨items page, ⟨page, pageSize, (tables.listed i username unreadOnly).length,
          totalPages (tables.listed i username unreadOnly).length pageSize⟩,
          tables.alerts.countP (tables.isUnread i username)⟩) ∧
      ((List.range (totalPages (tables.listed i username unreadOnly).length pageSize)).flatMap
        fun k => items (k + 1)).map some =
          (tables.listed i username unreadOnly).map (tables.shown i username) ∧
      ∀ page, ∀ item ∈ items page, ∃ log ∈ tables.alerts,
        tables.shown i username log = some item ∧
          parseNotificationId item.id = some log.id := by
  refine ⟨fun page => tables.pageItems i username unreadOnly page pageSize, fun page =>
    listNotifications_eq unreadOnly page hsize hvalid, ?_, fun page item hitem => ?_⟩
  · rw [flatMap_pageItems unreadOnly hsize]
    refine map_some_filterMap fun log hlog => ?_
    unfold Tables.shown
    rw [isSome_notification]
    exact hvalid log (mem_listed hlog)
  · obtain ⟨log, hlog, hshown⟩ := List.mem_filterMap.1 hitem
    refine ⟨log, mem_listed (mem_pageOf hlog), hshown, ?_⟩
    rw [notification_id hshown]
    exact parse_notificationId log.idRange

end

/-! ## Two accounts -/

theorem one_in_range : 1 ≤ 1 ∧ 1 ≤ 2147483647 := by decide

theorem two_in_range : 1 ≤ 2 ∧ 2 ≤ 2147483647 := by decide

def sampleAlert : AlertLog :=
  ⟨1, one_in_range, 10, "SENT", "pit-1 85%", "collection_required", "warning"⟩

def sampleLater : AlertLog :=
  ⟨2, two_in_range, 20, "SENT", "pit-1 95%", "collection_required", "error"⟩

theorem sample_alertIds : ([sampleAlert, sampleLater].map AlertLog.id).Nodup := by decide

def sampleTables : Tables Bool :=
  ⟨[sampleAlert, sampleLater], sample_alertIds, ⟨[], [], List.nodup_nil⟩⟩

/-- One account marks a single alert, and another request of it all of them. -/
def sampleCalls (b : Bool) : Call := if b then .update "kim" "notif-1" true else .markAll "kim"

/-- The request for all waits for the single one, whose time stays. -/
def sampleOps : List (Bool × Reply) :=
  [(true, .ok 30), (true, .ok 31), (true, .ok 32), (true, .ok 33), (false, .ok 34), (false, .ok 35)]

theorem sample_exec : ∃ es s,
    exec step ⟨sampleTables, fun b => (sampleCalls b).stage⟩ sampleOps = some (es, s) ∧
      s.store.reads.committed = [⟨"kim", 1, 31⟩, ⟨"kim", 2, 34⟩] ∧
      s.locals false = .finished (.marked 1) :=
  ⟨_, _, rfl, rfl, rfl⟩

/-- The sample of `reads_once`. -/
theorem reads_once_sample : ∃ es s,
    Run step ⟨sampleTables, fun b => (sampleCalls b).stage⟩ es s ∧
      s.store.reads.committed = [⟨"kim", 1, 31⟩, ⟨"kim", 2, 34⟩] ∧
      ∀ row ∈ es.flatMap published, ∃ e ∈ es, Inserts sampleCalls e row := by
  obtain ⟨es, s, hexec, hreads, -⟩ := sample_exec
  have hrun := Run.of_exec hexec
  exact ⟨es, s, hrun, hreads, (reads_once rfl hrun).2.2⟩

/-- The sample of `notification_answers`. -/
theorem notification_answers_sample : ∃ es s,
    Run step ⟨sampleTables, fun b => (sampleCalls b).stage⟩ es s ∧
      Answered es [⟨"kim", 1, 31⟩, ⟨"kim", 2, 34⟩] false (.markAll "kim") (.marked 1) := by
  obtain ⟨es, s, hexec, hreads, hmarked⟩ := sample_exec
  have hrun := Run.of_exec hexec
  have hanswered := notification_answers rfl hrun hmarked
  rw [hreads] at hanswered
  exact ⟨es, s, hrun, hanswered⟩

/-- The sample of `pages_complete`: one notification on each page, the later one first. -/
theorem pages_complete_sample : ∃ items : ℕ → List Notification,
    ((List.range 2).flatMap fun k => items (k + 1)).map some =
      (sampleTables.listed true "kim" false).map (sampleTables.shown true "kim") := by
  have hvalid : ∀ log ∈ sampleTables.alerts, (notification log none).isSome := by
    intro log hlog
    rcases List.mem_cons.1 hlog with rfl | hlog
    · decide
    · rw [List.mem_singleton.1 hlog]
      decide
  obtain ⟨items, -, hitems, -⟩ := pages_complete sampleTables true "kim" false
    (Nat.zero_lt_one) hvalid
  refine ⟨items, ?_⟩
  rw [length_listed] at hitems
  exact hitems

end ScrapMonitoring.Notifications
