import Mathlib.Data.List.Basic
import Mathlib.Logic.Function.Basic
import ScrapMonitoring.Foundations.Run
import ScrapMonitoring.Foundations.Time

/-!
# Accounts and their sessions

`SessionService`: a login verifies the password of an account (`authenticate`) and stores a session
for what it has verified (`create_session`), in two transactions; `get_session` looks a session up,
`delete_session` ends it, and `reset_password` changes the password of an account and ends its
sessions. Each transaction is one step, and any other may come between the two of a login. A commit
that raises is taken not to have taken effect.

A login goes on with the `AuthenticatedUser` that its first transaction has returned: `issued` lists
these in the order in which they were returned, and `createSession` names one of them.
`accepted_after_reset` says from which logins the sessions are that are accepted after a reset.

The verification of a password against its hash and the digest of a token are parameters.
-/

namespace ScrapMonitoring.Sessions

inductive UserRole
  | viewer
  | administrator
  deriving DecidableEq, Repr

/-- A row of `auth_users`, whose key is the username. -/
structure AuthUser where
  displayName : String
  role : UserRole
  passwordHash : String
  isActive : Bool := true
  credentialVersion : ℤ := 1
  deriving DecidableEq, Repr

structure AuthSession where
  tokenHash : String
  username : String
  credentialVersion : ℤ
  csrfToken : String
  expiresAt : ℤ
  deriving DecidableEq, Repr

structure User where
  id : String
  displayName : String
  role : UserRole
  deriving DecidableEq, Repr

structure Session where
  user : User
  expiresAt : ℤ
  csrfToken : String
  deriving DecidableEq, Repr

structure AuthenticatedUser where
  user : User
  credentialVersion : ℤ
  passwordHash : String
  deriving DecidableEq, Repr

/-- The two tables, and what the logins hold. -/
structure Accounts where
  users : String → Option AuthUser
  sessions : List AuthSession
  issued : List AuthenticatedUser := []

/-- The functions that the service calls. -/
structure Crypto where
  /-- The password has this hash. -/
  verify : String → String → Bool
  /-- The SHA-256 of a token. -/
  tokenDigest : String → String

def userSchema (username : String) (row : AuthUser) : User :=
  ⟨username, row.displayName, row.role⟩

/-- `validate_new_password` -/
def validateNewPassword (password : String) : Bool :=
  decide (12 ≤ password.length ∧ password.length ≤ 1024)

/-- How the commit of a transaction ends. -/
inductive Commit
  | ok
  | fails
  deriving DecidableEq, Repr

/-- The calls, with what they read off the clock, draw, and compute of a new password. -/
inductive Op
  | authenticate (username password : String)
  | createSession (login : ℕ) (persistent : Bool) (now : ℤ) (sessionId csrfToken : String)
      (commit : Commit)
  | getSession (sessionId : String) (now : ℤ)
  | deleteSession (sessionId : String) (commit : Commit)
  | resetPassword (username password encoded : String) (commit : Commit)
  deriving DecidableEq, Repr

inductive Out
  | authenticated (user : Option AuthenticatedUser)
  | created (record : AuthSession) (session : Session)
  | found (session : Option Session)
  | deleted
  | reset (found : Bool)
  | unauthorized (detail : String)
  | invalidPassword (detail : String)
  | storageError
  deriving DecidableEq, Repr

/-- Login sessions last a day, or a month. -/
def lifetime (persistent : Bool) : ℤ :=
  if persistent then seconds (30 * 24 * 3600) else seconds (24 * 3600)

section

variable (crypto : Crypto)

def authenticate (accounts : Accounts) (username password : String) : Option AuthenticatedUser :=
  match accounts.users username with
  | some row =>
    if crypto.verify row.passwordHash password ∧ row.isActive then
      some ⟨userSchema username row, row.credentialVersion, row.passwordHash⟩
    else none
  | none => none

/-- The account is still as the login has found it. -/
def stillValid (accounts : Accounts) (login : AuthenticatedUser) : Option AuthUser :=
  (accounts.users login.user.id).filter fun row => row.isActive ∧
    row.credentialVersion = login.credentialVersion ∧ row.passwordHash = login.passwordHash

def createSession (accounts : Accounts) (login : AuthenticatedUser) (persistent : Bool) (now : ℤ)
    (sessionId csrfToken : String) (commit : Commit) : Accounts × Out :=
  match stillValid accounts login with
  | none => (accounts, .unauthorized "Invalid username or password")
  | some row =>
    let record : AuthSession :=
      { tokenHash := crypto.tokenDigest sessionId
        username := login.user.id
        credentialVersion := row.credentialVersion
        csrfToken := csrfToken
        expiresAt := now + lifetime persistent }
    let kept := accounts.sessions.filter fun session => now < session.expiresAt
    if commit = .fails ∨ record.tokenHash ∈ kept.map AuthSession.tokenHash then
      (accounts, .storageError)
    else
      ({ accounts with sessions := kept ++ [record] },
        .created record ⟨userSchema login.user.id row, record.expiresAt, csrfToken⟩)

/-- The row that a session id is accepted for. -/
def acceptedRow (accounts : Accounts) (sessionId : String) (now : ℤ) :
    Option (AuthSession × AuthUser) :=
  if 1 ≤ sessionId.length ∧ sessionId.length ≤ 128 then
    accounts.sessions.findSome? fun session =>
      ((accounts.users session.username).filter fun user =>
        session.tokenHash = crypto.tokenDigest sessionId ∧ now < session.expiresAt ∧ user.isActive ∧
          session.credentialVersion = user.credentialVersion).map (session, ·)
  else none

def getSession (accounts : Accounts) (sessionId : String) (now : ℤ) : Option Session :=
  (acceptedRow crypto accounts sessionId now).map fun (session, user) =>
    ⟨userSchema session.username user, session.expiresAt, session.csrfToken⟩

def deleteSession (accounts : Accounts) (sessionId : String) (commit : Commit) : Accounts × Out :=
  match commit with
  | .ok =>
    ({ accounts with
        sessions :=
          accounts.sessions.filter (·.tokenHash ≠ crypto.tokenDigest sessionId) }, .deleted)
  | .fails => (accounts, .storageError)

def resetPassword (accounts : Accounts) (username password encoded : String) (commit : Commit) :
    Accounts × Out :=
  if validateNewPassword password then
    match accounts.users username with
    | none => (accounts, .reset false)
    | some row =>
      match commit with
      | .ok =>
        ({ accounts with
            users := Function.update accounts.users username (some { row with
              passwordHash := encoded
              credentialVersion := row.credentialVersion + 1 })
            sessions := accounts.sessions.filter (·.username ≠ username) }, .reset true)
      | .fails => (accounts, .storageError)
  else (accounts, .invalidPassword "Password must contain between 12 and 1024 characters")

/-- One transaction. A session is created only for what a login holds. -/
def step (accounts : Accounts) : Op → Option (Accounts × Out)
  | .authenticate username password =>
    match authenticate crypto accounts username password with
    | some user =>
      some ({ accounts with issued := accounts.issued ++ [user] }, .authenticated (some user))
    | none => some (accounts, .authenticated none)
  | .createSession login persistent now sessionId csrfToken commit =>
    (accounts.issued[login]?).map fun user =>
      createSession crypto accounts user persistent now sessionId csrfToken commit
  | .getSession sessionId now => some (accounts, .found (getSession crypto accounts sessionId now))
  | .deleteSession sessionId commit => some (deleteSession crypto accounts sessionId commit)
  | .resetPassword username password encoded commit =>
    some (resetPassword accounts username password encoded commit)

end

/-! ## What a history records -/

abbrev Step := Entry Accounts Op Out

/-- The password of the account has been reset. -/
def ResetOf (username : String) (e : Step) : Prop :=
  ∃ password encoded commit, e.op = .resetPassword username password encoded commit ∧
    e.out = .reset true

/-- The login has been verified as the `n`-th one. -/
def Authenticated (n : ℕ) (login : AuthenticatedUser) (e : Step) : Prop :=
  (∃ password, e.op = .authenticate login.user.id password) ∧ e.out = .authenticated (some login) ∧
    e.pre.issued.length = n

/-- The row has been created for the `n`-th login. -/
def Created (n : ℕ) (record : AuthSession) (e : Step) : Prop :=
  ∃ persistent now sessionId csrfToken commit session,
    e.op = .createSession n persistent now sessionId csrfToken commit ∧
      e.out = .created record session

/-- A row of the same token has been created. -/
def Recreates (tokenHash : String) (e : Step) : Prop :=
  ∃ n record, Created n record e ∧ record.tokenHash = tokenHash

/-- The row is of a login that was verified after every reset of its account, and no row of the same
token has been created since. -/
def OfLogin (record : AuthSession) (es : List Step) : Prop :=
  ∃ before a between c after n login, es = before ++ a :: (between ++ c :: after) ∧
    Authenticated n login a ∧ login.user.id = record.username ∧ Created n record c ∧
    (∀ f ∈ after, ¬Recreates record.tokenHash f) ∧
    ∀ f ∈ between ++ c :: after, ¬ResetOf record.username f

section

variable {crypto : Crypto} {accounts accounts' s₀ s : Accounts} {es : List Step} {e : Step}
variable {n : ℕ} {login : AuthenticatedUser} {record : AuthSession} {username password : String}

/-- Neither a reset nor a new row. -/
def Out.Quiet (out : Out) : Prop :=
  out ≠ .reset true ∧ ∀ record session, out ≠ .created record session

theorem authenticate_some (h : authenticate crypto accounts username password = some login) :
    ∃ row, accounts.users username = some row ∧ login.user.id = username ∧
      login.credentialVersion = row.credentialVersion := by
  unfold authenticate at h
  split at h
  · rename_i row hrow
    split_ifs at h
    obtain rfl := Option.some.inj h
    exact ⟨row, hrow, rfl, rfl⟩
  · cases h

theorem stillValid_some {row : AuthUser} (h : stillValid accounts login = some row) :
    accounts.users login.user.id = some row ∧ row.credentialVersion = login.credentialVersion := by
  obtain ⟨hrow, hvalid⟩ := Option.filter_eq_some_iff.1 h
  exact ⟨hrow, (of_decide_eq_true hvalid).2.1⟩

/-- A row that is created is new, of the account of the login, which is as the login has found
it. -/
theorem createSession_cases {persistent : Bool} {now : ℤ} {sessionId csrfToken : String}
    {commit : Commit} {out : Out}
    (h : createSession crypto accounts login persistent now sessionId csrfToken commit =
      (accounts', out)) :
    (accounts' = accounts ∧ out.Quiet) ∨
    ∃ record session row kept, out = .created record session ∧ record.username = login.user.id ∧
      accounts.users login.user.id = some row ∧ row.credentialVersion = login.credentialVersion ∧
      kept.Sublist accounts.sessions ∧ record.tokenHash ∉ kept.map AuthSession.tokenHash ∧
      accounts' = { accounts with sessions := kept ++ [record] } := by
  unfold createSession at h
  cases hvalid : stillValid accounts login with
  | none =>
    simp only [hvalid, Prod.mk.injEq] at h
    obtain ⟨rfl, rfl⟩ := h
    exact .inl ⟨rfl, by simp [Out.Quiet]⟩
  | some row =>
    obtain ⟨hrow, hversion⟩ := stillValid_some hvalid
    simp only [hvalid] at h
    split_ifs at h with hfails
    · simp only [Prod.mk.injEq] at h
      obtain ⟨rfl, rfl⟩ := h
      exact .inl ⟨rfl, by simp [Out.Quiet]⟩
    · simp only [Prod.mk.injEq] at h
      obtain ⟨rfl, rfl⟩ := h
      exact .inr ⟨_, _, row, _, rfl, rfl, hrow, hversion, List.filter_sublist,
        (not_or.1 hfails).2, rfl⟩

/-- **What a reset does**: a committed one gives the account a new version and ends its sessions. -/
theorem resetPassword_cases {encoded : String} {commit : Commit} {out : Out}
    (h : resetPassword accounts username password encoded commit = (accounts', out)) :
    (accounts' = accounts ∧ out.Quiet) ∨
    ∃ row row', out = .reset true ∧ accounts.users username = some row ∧
      row'.credentialVersion = row.credentialVersion + 1 ∧
      accounts' = { accounts with
        users := Function.update accounts.users username (some row')
        sessions := accounts.sessions.filter (·.username ≠ username) } := by
  unfold resetPassword at h
  split_ifs at h
  · split at h
    · simp only [Prod.mk.injEq] at h
      obtain ⟨rfl, rfl⟩ := h
      exact .inl ⟨rfl, by simp [Out.Quiet]⟩
    · rename_i row hrow
      cases commit with
      | ok =>
        simp only [Prod.mk.injEq] at h
        obtain ⟨rfl, rfl⟩ := h
        exact .inr ⟨row, _, rfl, hrow, rfl, rfl⟩
      | fails =>
        simp only [Prod.mk.injEq] at h
        obtain ⟨rfl, rfl⟩ := h
        exact .inl ⟨rfl, by simp [Out.Quiet]⟩
  · simp only [Prod.mk.injEq] at h
    obtain ⟨rfl, rfl⟩ := h
    exact .inl ⟨rfl, by simp [Out.Quiet]⟩

/-! ## What holds in every run -/

/-- Every login was verified at some point; the version of its account has only grown since, and as
long as it is the same there has been no reset. -/
def LoginsSound (es : List Step) (accounts : Accounts) : Prop :=
  ∀ n login, accounts.issued[n]? = some login →
    ∃ row, accounts.users login.user.id = some row ∧
      login.credentialVersion ≤ row.credentialVersion ∧
      ∃ before a after, es = before ++ a :: after ∧ Authenticated n login a ∧
        (login.credentialVersion = row.credentialVersion →
          ∀ f ∈ after, ¬ResetOf login.user.id f)

/-- Every row was there to begin with, before any reset of its account, or is of a login after all
of them. -/
def RowsSound (s₀ : Accounts) (es : List Step) (accounts : Accounts) : Prop :=
  ∀ record ∈ accounts.sessions,
    (record ∈ s₀.sessions ∧ ∀ f ∈ es, ¬ResetOf record.username f) ∨ OfLogin record es

/-- A step that is no reset of the account and creates no row of the token. -/
theorem OfLogin.extend (h : OfLogin record es) (hreset : ¬ResetOf record.username e)
    (hcreates : ¬Recreates record.tokenHash e) : OfLogin record (es ++ [e]) := by
  obtain ⟨before, a, between, c, after, n, login, rfl, ha, hid, hc, hafter, hresets⟩ := h
  refine ⟨before, a, between, c, after ++ [e], n, login, by simp, ha, hid, hc, ?_, ?_⟩
  · exact List.forall_mem_append.2 ⟨hafter, by simpa using hcreates⟩
  · intro f hf
    rw [← List.cons_append, ← List.append_assoc] at hf
    rcases List.mem_append.1 hf with hf | hf
    · exact hresets f hf
    · rw [List.mem_singleton.1 hf]
      exact hreset

/-- A step that leaves the accounts and the logins as they are. -/
theorem LoginsSound.extend (h : LoginsSound es accounts) (husers : accounts'.users = accounts.users)
    (hissued : accounts'.issued = accounts.issued) (hreset : ∀ username, ¬ResetOf username e) :
    LoginsSound (es ++ [e]) accounts' := by
  intro n login hlogin
  rw [hissued] at hlogin
  obtain ⟨row, hrow, hversion, before, a, after, rfl, ha, hresets⟩ := h n login hlogin
  refine ⟨row, husers ▸ hrow, hversion, before, a, after ++ [e], by simp, ha, fun hsame => ?_⟩
  exact List.forall_mem_append.2 ⟨hresets hsame, by simpa using hreset _⟩

/-- A step that only takes rows out. -/
theorem RowsSound.extend (h : RowsSound s₀ es accounts)
    (hsessions : ∀ record ∈ accounts'.sessions, record ∈ accounts.sessions ∧
      ¬ResetOf record.username e)
    (hcreates : ∀ tokenHash, ¬Recreates tokenHash e) : RowsSound s₀ (es ++ [e]) accounts' := by
  intro record hrecord
  obtain ⟨hmem, hreset⟩ := hsessions record hrecord
  rcases h record hmem with ⟨hinitial, hresets⟩ | hof
  · exact .inl ⟨hinitial, List.forall_mem_append.2 ⟨hresets, by simpa using hreset⟩⟩
  · exact .inr (hof.extend hreset (hcreates _))

theorem not_resetOf (h : e.out ≠ .reset true) (username : String) : ¬ResetOf username e := by
  rintro ⟨_, _, _, -, hout⟩
  exact h hout

theorem not_recreates (h : ∀ record session, e.out ≠ .created record session) (tokenHash : String) :
    ¬Recreates tokenHash e := by
  rintro ⟨_, record, ⟨_, _, _, _, _, session, -, hout⟩, -⟩
  exact h record session hout

/-- A step that changes nothing and returns nothing new. -/
theorem sound_of_same (h : LoginsSound es accounts ∧ RowsSound s₀ es accounts)
    (hquiet : e.out.Quiet) :
    LoginsSound (es ++ [e]) accounts ∧ RowsSound s₀ (es ++ [e]) accounts :=
  ⟨h.1.extend rfl rfl (not_resetOf hquiet.1),
    h.2.extend (fun _ hmem => ⟨hmem, not_resetOf hquiet.1 _⟩) (not_recreates hquiet.2)⟩

/-- A verified login. -/
theorem sound_of_authenticate (h : LoginsSound es accounts ∧ RowsSound s₀ es accounts)
    (hlogin : authenticate crypto accounts username password = some login)
    (he : e = ⟨accounts, .authenticate username password, .authenticated (some login), accounts'⟩)
    (haccounts : accounts' = { accounts with issued := accounts.issued ++ [login] }) :
    LoginsSound (es ++ [e]) accounts' ∧ RowsSound s₀ (es ++ [e]) accounts' := by
  have hreset : ∀ username, ¬ResetOf username e := not_resetOf (by simp [he])
  have hcreated : ∀ tokenHash, ¬Recreates tokenHash e := not_recreates (by simp [he])
  constructor
  · intro n login' hissued
    rw [haccounts] at hissued
    rcases Nat.lt_or_ge n accounts.issued.length with hn | hn
    · rw [List.getElem?_append_left hn] at hissued
      have hold : LoginsSound (es ++ [e]) accounts := h.1.extend rfl rfl hreset
      rw [haccounts]
      exact hold n login' hissued
    · rw [List.getElem?_append_right hn] at hissued
      obtain ⟨hzero, rfl⟩ : n - accounts.issued.length = 0 ∧ login = login' := by
        cases hsub : n - accounts.issued.length with
        | zero =>
          rw [hsub] at hissued
          exact ⟨rfl, by simpa using hissued⟩
        | succ k =>
          rw [hsub] at hissued
          cases hissued
      obtain ⟨row, hrow, hid, hversion⟩ := authenticate_some hlogin
      rw [haccounts, hid]
      refine ⟨row, hrow, hversion.le, es, e, [], rfl, ⟨⟨password, by rw [he, hid]⟩, by rw [he], ?_⟩,
        by simp⟩
      rw [he]
      exact Nat.le_antisymm hn (Nat.sub_eq_zero_iff_le.1 hzero)
  · refine h.2.extend (fun record hmem => ⟨?_, hreset _⟩) hcreated
    rw [haccounts] at hmem
    exact hmem

/-- A row that is created. -/
theorem sound_of_create {row : AuthUser} {kept : List AuthSession}
    (h : LoginsSound es accounts ∧ RowsSound s₀ es accounts)
    (hlogin : accounts.issued[n]? = some login) (hcreated : Created n record e)
    (hid : record.username = login.user.id) (hrow : accounts.users login.user.id = some row)
    (hversion : row.credentialVersion = login.credentialVersion)
    (hkept : kept.Sublist accounts.sessions)
    (hnew : record.tokenHash ∉ kept.map AuthSession.tokenHash)
    (haccounts : accounts' = { accounts with sessions := kept ++ [record] }) :
    LoginsSound (es ++ [e]) accounts' ∧ RowsSound s₀ (es ++ [e]) accounts' := by
  have hreset : ∀ username, ¬ResetOf username e := by
    obtain ⟨_, _, _, _, _, session, -, hout⟩ := hcreated
    exact not_resetOf (by simp [hout])
  have hsame : ∀ tokenHash, Recreates tokenHash e → tokenHash = record.tokenHash := by
    rintro tokenHash ⟨_, record', ⟨_, _, _, _, _, _, -, hout'⟩, rfl⟩
    obtain ⟨_, _, _, _, _, _, -, hout⟩ := hcreated
    rw [hout] at hout'
    simp only [Out.created.injEq] at hout'
    rw [hout'.1]
  refine ⟨h.1.extend (by rw [haccounts]) (by rw [haccounts]) hreset, fun other hother => ?_⟩
  rw [haccounts] at hother
  rcases List.mem_append.1 hother with hother | hother
  · have htoken : ¬Recreates other.tokenHash e := fun hrecreates =>
      hnew (List.mem_map.2 ⟨other, hother, hsame _ hrecreates⟩)
    rcases h.2 other (hkept.mem hother) with ⟨hinitial, hresets⟩ | hof
    · exact .inl ⟨hinitial, List.forall_mem_append.2 ⟨hresets, by simpa using hreset _⟩⟩
    · exact .inr (hof.extend (hreset _) htoken)
  · obtain rfl := List.mem_singleton.1 hother
    obtain ⟨row', hrow', -, before, a, between, rfl, ha, hresets⟩ := h.1 n login hlogin
    rw [hrow] at hrow'
    obtain rfl := Option.some.inj hrow'
    refine .inr ⟨before, a, between, e, [], n, login, by simp, ha, hid.symm, hcreated, by simp, ?_⟩
    rw [hid]
    exact List.forall_mem_append.2 ⟨hresets hversion.symm, by simpa using hreset _⟩

/-- A committed reset: every login of the account is outdated, and no row of the account is left. -/
theorem sound_of_reset {row row' : AuthUser}
    (h : LoginsSound es accounts ∧ RowsSound s₀ es accounts)
    (hreset : ∀ other, ResetOf other e → other = username)
    (hcreated : ∀ record session, e.out ≠ .created record session)
    (hrow : accounts.users username = some row)
    (hversion : row'.credentialVersion = row.credentialVersion + 1)
    (haccounts : accounts' = { accounts with
      users := Function.update accounts.users username (some row')
      sessions := accounts.sessions.filter (·.username ≠ username) }) :
    LoginsSound (es ++ [e]) accounts' ∧ RowsSound s₀ (es ++ [e]) accounts' := by
  constructor
  · intro n login hlogin
    rw [haccounts] at hlogin ⊢
    obtain ⟨old, hold, hle, before, a, after, rfl, ha, hresets⟩ := h.1 n login hlogin
    by_cases hid : login.user.id = username
    · rw [hid, hrow] at hold
      obtain rfl := Option.some.inj hold
      refine ⟨row', by simp [hid], by omega, before, a, after ++ [e], by simp, ha, fun hsame => ?_⟩
      omega
    · refine ⟨old, by simp [Function.update_of_ne hid, hold], hle, before, a, after ++ [e], by simp,
        ha, fun hsame => ?_⟩
      refine List.forall_mem_append.2 ⟨hresets hsame, ?_⟩
      simpa using fun hother => hid (hreset _ hother)
  · refine h.2.extend (fun record hmem => ?_) (not_recreates hcreated)
    rw [haccounts] at hmem
    obtain ⟨hmem, hother⟩ := List.mem_filter.1 hmem
    exact ⟨hmem, fun hof => of_decide_eq_true hother (hreset _ hof)⟩

/-- **One transaction keeps the provenance of logins and rows.** -/
theorem sound_of_step {op : Op} {out : Out} (h : LoginsSound es accounts ∧ RowsSound s₀ es accounts)
    (hs : step crypto accounts op = some (accounts', out)) :
    LoginsSound (es ++ [⟨accounts, op, out, accounts'⟩]) accounts' ∧
      RowsSound s₀ (es ++ [⟨accounts, op, out, accounts'⟩]) accounts' := by
  cases op with
  | authenticate username password =>
    simp only [step] at hs
    cases hlogin : authenticate crypto accounts username password with
    | none =>
      simp only [hlogin, Option.some.injEq, Prod.mk.injEq] at hs
      obtain ⟨rfl, rfl⟩ := hs
      exact sound_of_same h (by simp [Out.Quiet])
    | some login =>
      simp only [hlogin, Option.some.injEq, Prod.mk.injEq] at hs
      obtain ⟨rfl, rfl⟩ := hs
      exact sound_of_authenticate h hlogin rfl rfl
  | createSession n persistent now sessionId csrfToken commit =>
    simp only [step] at hs
    obtain ⟨login, hlogin, hcreate⟩ := Option.map_eq_some_iff.1 hs
    rcases createSession_cases hcreate with
      ⟨rfl, hout⟩ | ⟨record, session, row, kept, rfl, hid, hrow, hversion, hkept, hnew, haccounts⟩
    · exact sound_of_same h hout
    · exact sound_of_create h hlogin ⟨persistent, now, sessionId, csrfToken, commit, session, rfl,
        rfl⟩
        hid hrow hversion hkept hnew haccounts
  | getSession sessionId now =>
    simp only [step, Option.some.injEq, Prod.mk.injEq] at hs
    obtain ⟨rfl, rfl⟩ := hs
    exact sound_of_same h (by simp [Out.Quiet])
  | deleteSession sessionId commit =>
    simp only [step, Option.some.injEq] at hs
    cases commit with
    | ok =>
      simp only [deleteSession, Prod.mk.injEq] at hs
      obtain ⟨rfl, rfl⟩ := hs
      refine ⟨h.1.extend rfl rfl (not_resetOf (by simp)),
        h.2.extend (fun record hmem => ⟨(List.mem_filter.1 hmem).1, ?_⟩) (not_recreates (by simp))⟩
      exact not_resetOf (by simp) _
    | fails =>
      simp only [deleteSession, Prod.mk.injEq] at hs
      obtain ⟨rfl, rfl⟩ := hs
      exact sound_of_same h (by simp [Out.Quiet])
  | resetPassword username password encoded commit =>
    simp only [step, Option.some.injEq] at hs
    rcases resetPassword_cases hs with ⟨rfl, hout⟩ | ⟨row, row', rfl, hrow, hversion, haccounts⟩
    · exact sound_of_same h hout
    · refine sound_of_reset h ?_ (by simp) hrow hversion haccounts
      rintro other ⟨_, _, _, hop, -⟩
      simp only [Op.resetPassword.injEq] at hop
      exact hop.1.symm

theorem sound_of_run {users : String → Option AuthUser} {sessions : List AuthSession}
    (hrun : Run (step crypto) { users, sessions } es s) :
    LoginsSound es s ∧ RowsSound { users, sessions } es s := by
  induction hrun with
  | nil =>
    refine ⟨fun n login h => ?_, fun record h => .inl ⟨h, by simp⟩⟩
    simp at h
  | snoc _ hs ih => exact sound_of_step ih hs

/-- What is accepted is a row of the token that has not expired, of an active account, with its
version. -/
theorem acceptedRow_some {sessionId : String} {now : ℤ} {user : AuthUser}
    (h : acceptedRow crypto accounts sessionId now = some (record, user)) :
    record ∈ accounts.sessions ∧ accounts.users record.username = some user ∧
      record.tokenHash = crypto.tokenDigest sessionId ∧ now < record.expiresAt ∧
      user.isActive = true ∧ record.credentialVersion = user.credentialVersion := by
  unfold acceptedRow at h
  split_ifs at h
  obtain ⟨record', hmem, hfound⟩ := List.exists_of_findSome?_eq_some h
  obtain ⟨user', huser, hpair⟩ := Option.map_eq_some_iff.1 hfound
  simp only [Prod.mk.injEq] at hpair
  obtain ⟨rfl, rfl⟩ := hpair
  obtain ⟨huser, hvalid⟩ := Option.filter_eq_some_iff.1 huser
  exact ⟨hmem, huser, of_decide_eq_true hvalid⟩

/-- The login of the row comes after any reset of its account. -/
theorem OfLogin.after_reset {before after : List Step} (h : OfLogin record es)
    (hes : es = before ++ e :: after) (hreset : ResetOf record.username e) :
    OfLogin record after := by
  obtain ⟨l, a, between, c, rest, n, login, hsplit, ha, hid, hc, hrest, hresets⟩ := h
  have hne : e ≠ a := by
    rintro rfl
    obtain ⟨⟨_, hop⟩, -⟩ := ha
    obtain ⟨_, _, _, hop', -⟩ := hreset
    rw [hop] at hop'
    cases hop'
  rw [hes] at hsplit
  rcases List.append_eq_append_iff.1 hsplit with ⟨mid, hl, hmid⟩ | ⟨mid, -, hmid⟩
  · cases mid with
    | nil => exact absurd (List.cons.inj hmid).1 hne
    | cons f mid =>
      obtain ⟨rfl, rfl⟩ := List.cons.inj hmid
      exact ⟨mid, a, between, c, rest, n, login, rfl, ha, hid, hc, hrest, hresets⟩
  · cases mid with
    | nil => exact absurd (List.cons.inj hmid).1.symm hne
    | cons f mid =>
      obtain ⟨rfl, hrest'⟩ := List.cons.inj hmid
      exact absurd hreset (hresets e (by rw [hrest']; simp))

/-- **A reset ends every older session.** A session that is accepted has not expired, belongs to an
active account and has its version; and after a reset of this account it is of a login that was
verified after the reset. -/
theorem accepted_after_reset {users : String → Option AuthUser} {sessions : List AuthSession}
    {sessionId : String} {now : ℤ} {session : Session}
    (hrun : Run (step crypto) { users, sessions } es s)
    (haccepted : getSession crypto s sessionId now = some session) :
    ∃ record ∈ s.sessions, ∃ user, s.users record.username = some user ∧
      record.tokenHash = crypto.tokenDigest sessionId ∧
      session = ⟨userSchema record.username user, record.expiresAt, record.csrfToken⟩ ∧
      now < record.expiresAt ∧ user.isActive = true ∧
      record.credentialVersion = user.credentialVersion ∧
      ∀ before e after, es = before ++ e :: after → ResetOf record.username e →
        OfLogin record after := by
  obtain ⟨⟨record, user⟩, hrow, rfl⟩ := Option.map_eq_some_iff.1 haccepted
  obtain ⟨hmem, huser, htoken, hexpires, hactive, hversion⟩ := acceptedRow_some hrow
  refine ⟨record, hmem, user, huser, htoken, rfl, hexpires, hactive, hversion, ?_⟩
  intro before e after hes hreset
  rcases (sound_of_run hrun).2 record hmem with ⟨-, hresets⟩ | hof
  · exact absurd hreset (hresets e (by rw [hes]; simp))
  · exact hof.after_reset hes hreset

end

/-! ## A run -/

def sampleCrypto : Crypto where
  verify encoded password := encoded = "hash of " ++ password
  tokenDigest token := "digest of " ++ token

def sampleUsers (username : String) : Option AuthUser :=
  if username = "admin" then
    some { displayName := "Admin", role := .administrator, passwordHash := "hash of old password" }
  else none

/-- A login is verified, the password is reset, the login goes on in vain, and a new one
succeeds. -/
def sampleOps : List Op :=
  [.authenticate "admin" "old password",
    .resetPassword "admin" "new password" "hash of new password" .ok,
    .createSession 0 false 0 "first" "csrf" .ok,
    .authenticate "admin" "new password",
    .createSession 1 false 0 "second" "csrf" .ok]

theorem exec_sample : ∃ e₁ e₂ e₃ e₄ e₅ s,
    exec (step sampleCrypto) { users := sampleUsers, sessions := [] } sampleOps =
      some ([e₁, e₂, e₃, e₄, e₅], s) ∧
    e₂.op = .resetPassword "admin" "new password" "hash of new password" .ok ∧
    e₂.out = .reset true ∧ e₃.out = .unauthorized "Invalid username or password" ∧
    getSession sampleCrypto s "second" 1 =
      some ⟨⟨"admin", "Admin", .administrator⟩, seconds 86400, "csrf"⟩ ∧
    s.sessions.map AuthSession.username = ["admin"] :=
  ⟨_, _, _, _, _, _, rfl, rfl, by decide +kernel, by decide +kernel, by decide +kernel,
    by decide +kernel⟩

theorem accepted_after_reset_sample : ∃ es s before e after record,
    Run (step sampleCrypto) { users := sampleUsers, sessions := [] } es s ∧
    es = before ++ e :: after ∧ ResetOf "admin" e ∧ record ∈ s.sessions ∧ OfLogin record after := by
  obtain ⟨e₁, e₂, e₃, e₄, e₅, s, hexec, hop, hout, -, hget, husers⟩ := exec_sample
  obtain ⟨record, hmem, user, -, -, -, -, -, -, hafter⟩ :=
    accepted_after_reset (.of_exec hexec) hget
  have husername : record.username = "admin" := by
    have hmap := List.mem_map_of_mem (f := AuthSession.username) hmem
    rw [husers] at hmap
    simpa using hmap
  have hreset : ResetOf "admin" e₂ := ⟨_, _, _, hop, hout⟩
  exact ⟨_, s, [e₁], e₂, [e₃, e₄, e₅], record, .of_exec hexec, rfl, hreset, hmem,
    hafter [e₁] e₂ [e₃, e₄, e₅] rfl (husername ▸ hreset)⟩

end ScrapMonitoring.Sessions
