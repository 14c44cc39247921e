/-
# How long sessions live

A run is a list of logins, logouts, saves and deletions of users, each with its process and the
instant at which the process reads its clock. Beside the tables stands the last login of each user
that still exists, until the session is logged out. `auth_logout` deletes the session under the
text that it is given; everything else trims the text of a session first.
-/

import Tunnara.Console.Logins
import Tunnara.Data.Rfc3339

namespace Tunnara.Console

open Sql Attempt Transition Access Rfc3339

/-! ## Runs -/

/-- The login of the HTTP commands, before its answer is written as JSON. -/
def loginHttp (host : Host) (login senha : String) : Action LoginResponse :=
  loginWith host login senha fun _ user =>
    return ⟨true, "Login efetuado com sucesso.", some host.uuid, some user⟩

inductive SessionCall
  | login (http : Bool) (name senha : String)
  | logout (sessionToken : String)
  | logoutHttp (api : AppCommands.ApiState) (sessionToken : String)
  | userSave (sessionToken : String) (payload : List (String × Value))
  | userDelete (sessionToken : String) (id : ℤ)

/-- `Duration::days(7)`, in nanoseconds. -/
def sevenDays : ℕ := 7 * 86400 * 10 ^ 9

/-- A call at an instant. The process tells the time, and its tokens have no spaces around them. -/
structure SessionEvent where
  time : ℕ
  host : Host
  call : SessionCall
  now_eq : host.now = rfc3339 time
  inSevenDays_eq : host.inSevenDays = rfc3339 (time + sevenDays)
  uuid_trimmed : trimText host.uuid = host.uuid
  uuid_ne : host.uuid ≠ ""

/-- A login that has succeeded. -/
structure Issue where
  token : String
  userId : ℤ
  time : ℕ

structure Watch where
  store : Store
  /-- The last login of each user that still exists, unless it has been logged out. -/
  issued : List Issue
  clock : ℕ

def loginOf (host : Host) (http : Bool) (login senha : String) : Action LoginResponse :=
  if http then loginHttp host login senha else authLogin host login senha

/-- The tables after a call. -/
def SessionCall.after (host : Host) (s : Store) : SessionCall → Store
  | .login http name senha => (exec (loginOf host http name senha) s).2
  | .logout sessionToken => (exec (authLogout host sessionToken) s).2
  | .logoutHttp api sessionToken => (exec (AppCommands.executeCommand host api "auth_logout"
      [("session_token", .string sessionToken)]) s).2
  | .userSave sessionToken payload => (exec (Access.userSave host sessionToken payload) s).2
  | .userDelete sessionToken id => (exec (Access.userDelete host sessionToken id) s).2

/-- `require_session_by_token` accepts the text for the user. -/
def Accepts (host : Host) (text : String) (userId : ℤ) (s : Store) : Prop :=
  ∃ identity, (exec (requireSessionByToken host text) s).1 = .ok identity ∧ identity.userId = userId

instance {host : Host} {text : String} {userId : ℤ} {s : Store} :
    Decidable (Accepts host text userId s) :=
  match h : (exec (requireSessionByToken host text) s).1 with
  | .error _ => isFalse fun ⟨_, hok, _⟩ => by rw [h] at hok; cases hok
  | .ok identity =>
    if hid : identity.userId = userId then isTrue ⟨identity, h, hid⟩
    else isFalse fun ⟨_, hok, hother⟩ => by
      rw [h] at hok
      cases hok
      exact hid hother

/-- The logins that still count when a call has answered, besides those of users that are gone. -/
def SessionCall.counts (host : Host) (time : ℕ) (s : Store) (issued : List Issue) :
    SessionCall → List Issue
  | .login http name senha =>
    match (exec (loginOf host http name senha) s).1 with
    | .ok ⟨true, _, some token, some user⟩ =>
      ⟨token, user.id, time⟩ :: issued.filter fun issue => issue.userId ≠ user.id
    | _ => issued
  | .logout sessionToken | .logoutHttp _ sessionToken =>
    issued.filter fun issue =>
      ¬ (trimText sessionToken = issue.token ∧ Accepts host sessionToken issue.userId s)
  | .userSave _ _ | .userDelete _ _ => issued

instance {table : Table} {id : ℤ} {s : Store} : Decidable (Present table id s) :=
  inferInstanceAs (Decidable (∃ row ∈ _, _))

def sessionStep (w : Watch) (event : SessionEvent) : Watch where
  store := event.call.after event.host w.store
  issued := (event.call.counts event.host event.time w.store w.issued).filter fun issue =>
    Present .usuarios issue.userId (event.call.after event.host w.store)
  clock := event.time

def ActiveUser (userId : ℤ) (s : Store) : Prop :=
  ∃ user ∈ rowsOf .usuarios s, user "id" = .integer userId ∧ ∃ n, user "ativo" = .integer n ∧ n ≠ 0

/-- **The promise**: a text is accepted exactly while the login that issued it counts, for seven
days and an active user; and of two texts that are accepted for a user both name one token. -/
def LivesRight (w : Watch) : Prop :=
  ∀ host time, host.now = rfc3339 time → w.clock ≤ time → time < horizon →
    (∀ text userId, Accepts host text userId w.store ↔
      ∃ issue ∈ w.issued, issue.userId = userId ∧ trimText text = issue.token ∧
        time < issue.time + sevenDays ∧ ActiveUser userId w.store) ∧
    ∀ text other userId, Accepts host text userId w.store → Accepts host other userId w.store →
      trimText text = trimText other

/-! ## What a session is checked for -/

variable {host : Host} {s next : Store} {text token : String} {userId : ℤ}

/-- What tells a session from others: its user, its token and its end. -/
def stamp (session : Row) : SqlValue × SqlValue × SqlValue :=
  (session "usuario_id", session "session_token", session "expires_at")

def stamps (s : Store) : List (SqlValue × SqlValue × SqlValue) :=
  (rowsOf .userSessions s).map stamp

theorem exec_noteActivity {label : String} :
    ∃ count, (exec (updateRows host .file .userSessions "session_token" (.text token)
        [("last_activity_at", .text host.now)] label) s).1 = .ok count ∧
      stamps (exec (updateRows host .file .userSessions "session_token" (.text token)
        [("last_activity_at", .text host.now)] label) s).2 = stamps s := by
  have hbreach : (s .file).updateBreach catalog (host.dialect .file) .userSessions "session_token"
      (.text token) [("last_activity_at", .text host.now)] = none := by
    unfold Database.updateBreach
    rw [List.findSome?_eq_none_iff]
    intro row hrow
    obtain ⟨session, -, rfl⟩ := List.mem_map.1 hrow
    have hassigned : (fun name => ([("last_activity_at", SqlValue.text host.now)].lookup
        name).isSome) = fun name => name == "last_activity_at" := by
      funext name
      rw [List.lookup_cons]
      cases name == "last_activity_at" <;> rfl
    rw [hassigned, breach_eq_none]
    refine ⟨?_, ?_, ?_⟩
    · intro column hcolumn _ hname
      rw [eq_of_beq hname]
      exact nofun
    · intro key hkey hname
      exact absurd hname (by revert key; decide)
    · intro reference hreference hname
      exact absurd hname (by revert reference; decide)
  unfold updateRows
  rw [exec_statement]
  unfold Database.update
  dsimp only [catalogAt]
  rw [hbreach]
  refine ⟨_, rfl, ?_⟩
  unfold stamps rowsOf Database.write
  dsimp only
  rw [Function.update_self]
  dsimp only
  rw [Function.update_self, List.map_map]
  apply List.map_congr_left
  intro session _
  dsimp only [Function.comp]
  split_ifs <;> rfl

theorem accepts_iff : Accepts host text userId s ↔ trimText text ≠ "" ∧ ∃ session user,
    sessionOf (s .file) (trimText text) host.now = some (session, user) ∧
      ∃ rank active, readSession session user = .ok (userId, rank, active) ∧ active ≠ 0 := by
  unfold Accepts requireSessionByToken
  dsimp only
  split_ifs with hblank
  · exact iff_of_false not_error fun h => h.1 hblank
  rw [and_iff_right hblank, exec_bind, exec_get]
  dsimp only
  cases hfound : sessionOf (s .file) (trimText text) host.now with
  | none => exact iff_of_false not_error fun ⟨_, _, h, _⟩ => by cases h
  | some found =>
    obtain ⟨session, user⟩ := found
    rw [exec_bind, exec_ofExcept]
    cases hread : readSession session user with
    | error error =>
      refine iff_of_false not_error ?_
      rintro ⟨_, _, hsame, rank, active, hother, -⟩
      cases hsame
      rw [hread] at hother
      cases hother
    | ok read =>
      obtain ⟨id, rank, active⟩ := read
      dsimp only
      by_cases hactive : active = 0
      · rw [if_pos hactive]
        refine iff_of_false not_error ?_
        rintro ⟨_, _, hsame, _, _, hother, hne⟩
        cases hsame
        rw [hread] at hother
        cases hother
        exact hne hactive
      · rw [if_neg hactive]
        obtain ⟨count, hnoted, -⟩ := @exec_noteActivity host s (trimText text)
          "Falha ao atualizar atividade da sessão"
        have hreturned : (exec (updateRows host .file .userSessions "session_token"
            (.text (trimText text)) [("last_activity_at", .text host.now)]
            "Falha ao atualizar atividade da sessão" >>= fun _ =>
              pure (SessionIdentity.mk id (rank = 1))) s).1 = .ok ⟨id, rank = 1⟩ := by
          rw [exec_bind]
          generalize exec (updateRows host .file .userSessions "session_token" _ _ _) s = run
            at hnoted
          cases run with
          | mk result last =>
            cases hnoted
            rfl
        rw [hreturned]
        constructor
        · rintro ⟨_, hsame, hid⟩
          cases hsame
          exact ⟨session, user, rfl, rank, active, by rw [hread, ← hid], hactive⟩
        · rintro ⟨_, _, hsame, _, _, hother, -⟩
          cases hsame
          rw [hread] at hother
          cases hother
          exact ⟨_, rfl, rfl⟩

/-- What a command does with the sessions is what the deletions and logins in it do. -/
def KeepsStamps {α : Type} (m : Action α) : Prop := Changes (fun s next => stamps next = stamps s) m

theorem Spares.keepsStamps {α : Type} {m : Action α} (h : Spares .userSessions m) :
    KeepsStamps m := fun s => congrArg (List.map stamp) (h s)

theorem KeepsStamps.bind {α β : Type} {m : Action α} {f : α → Action β} (hm : KeepsStamps m)
    (hf : ∀ a, KeepsStamps (f a)) : KeepsStamps (m >>= f) :=
  Changes.bind hm hf fun hfirst hsecond => hsecond.trans hfirst

theorem keepsStamps_requireSession {text : String} :
    KeepsStamps (requireSessionByToken host text) := by
  unfold requireSessionByToken
  dsimp only
  split
  · exact spares_throw.keepsStamps
  · refine spares_get.keepsStamps.bind fun store => ?_
    split
    · exact spares_throw.keepsStamps
    · refine spares_ofExcept.keepsStamps.bind fun read => ?_
      split
      · exact spares_throw.keepsStamps
      · refine KeepsStamps.bind (fun s => ?_) fun _ => spares_pure.keepsStamps
        exact exec_noteActivity.choose_spec.2

theorem keepsStamps_ensureMaster {text : String} : KeepsStamps (ensureMaster host text) := by
  refine keepsStamps_requireSession.bind fun identity => ?_
  split
  · exact spares_pure.keepsStamps
  · exact spares_throw.keepsStamps

variable {payload : List (String × Value)} {sessionToken : String}

theorem keepsStamps_userSave : KeepsStamps (Access.userSave host sessionToken payload) := by
  rw [userSave_eq]
  refine KeepsStamps.bind ?_ fun admitted => ?_
  · refine keepsStamps_ensureMaster.bind fun actorId => Spares.keepsStamps ?_
    exact spares_ofExcept.bind fun _ => spares_loadLoginMinLength.bind fun _ =>
      spares_get.bind fun _ => spares_ofExcept.bind fun _ => spares_ofExcept.bind fun _ =>
        spares_pure
  · refine KeepsStamps.bind (Spares.keepsStamps ?_) fun recordId => ?_
    · unfold upsertRecord
      split
      · exact (spares_updateRows (by decide)).bind fun _ => spares_pure
      · exact spares_insertRow (by decide)
    · refine (spares_deleteRows (by decide) (by decide)).keepsStamps.bind fun _ => ?_
      refine (spares_deleteRows (by decide) (by decide)).keepsStamps.bind fun _ => ?_
      refine (spares_linkUser (by decide)).keepsStamps.bind fun _ => ?_
      refine (spares_linkUser (by decide)).keepsStamps.bind fun _ => ?_
      refine (spares_enqueueSync (by decide)).keepsStamps.bind fun _ => ?_
      refine (spares_writeAudit (by decide)).keepsStamps.bind fun _ => ?_
      exact keepsStamps_requireSession.bind fun _ => spares_userRecord.keepsStamps

/-! ## The sessions of a run -/

/-- The session that a login stores. -/
def Issue.stamp (issue : Issue) : SqlValue × SqlValue × SqlValue :=
  (.integer issue.userId, .text issue.token, .text (rfc3339 (issue.time + sevenDays)))

/-- The flags of the users are numbers. -/
def Flagged (s : Store) : Prop :=
  ∀ user ∈ rowsOf .usuarios s,
    (∃ rank, user "master_user" = .integer rank) ∧ ∃ active, user "ativo" = .integer active

/-- The sessions are those of the logins that count, and none that counts and has not expired is
missing. -/
structure Faithful (w : Watch) : Prop where
  keyed : Keyed .usuarios w.store
  flagged : Flagged w.store
  issued : ∀ session ∈ stamps w.store, ∃ issue ∈ w.issued, session = issue.stamp
  stored : ∀ issue ∈ w.issued, issue.stamp ∈ stamps w.store ∨ issue.time + sevenDays ≤ w.clock
  userOnce : ∀ issue ∈ w.issued, ∀ other ∈ w.issued, issue.userId = other.userId → issue = other
  tokenOnce : ∀ issue ∈ w.issued, ∀ other ∈ w.issued, issue.token = other.token → issue = other
  written : ∀ issue ∈ w.issued, issue.token ≠ "" ∧ trimText issue.token = issue.token ∧
    issue.time + sevenDays < horizon
  present : ∀ issue ∈ w.issued, Present .usuarios issue.userId w.store

variable {w : Watch} {time : ℕ}

variable {session user : Row} {id : ℤ}

theorem sessionOf_eq_some {db : Database Table} {now : String}
    (h : sessionOf db token now = some (session, user)) :
    session ∈ db.rows .userSessions ∧ session "session_token" = .text token ∧
      isAfter (session "expires_at") now = true ∧ user ∈ db.rows .usuarios ∧
        user "id" = session "usuario_id" := by
  obtain ⟨found, hfound, h⟩ := List.exists_of_findSome?_eq_some h
  split_ifs at h with hhit
  obtain ⟨owner, howner, hpair⟩ := Option.map_eq_some_iff.1 h
  cases hpair
  rw [Bool.and_eq_true, decide_eq_true_eq] at hhit
  have hid := List.find?_some (p := fun row : Row => decide (row "id" = session "usuario_id"))
    howner
  exact ⟨hfound, hhit.1, hhit.2, List.mem_of_find?_eq_some howner, of_decide_eq_true hid⟩

theorem sessionOf_isSome {db : Database Table} {now : String}
    (hsession : session ∈ db.rows .userSessions) (htoken : session "session_token" = .text token)
    (hafter : isAfter (session "expires_at") now = true) (huser : user ∈ db.rows .usuarios)
    (hid : user "id" = session "usuario_id") :
    ∃ found owner, sessionOf db token now = some (found, owner) := by
  have hsome : (sessionOf db token now).isSome := by
    unfold sessionOf
    rw [List.findSome?_isSome_iff]
    refine ⟨session, hsession, ?_⟩
    rw [if_pos (by rw [Bool.and_eq_true, decide_eq_true_eq]; exact ⟨htoken, hafter⟩),
      Option.isSome_map, List.find?_isSome]
    exact ⟨user, huser, decide_eq_true hid⟩
  obtain ⟨⟨found, owner⟩, hfound⟩ := Option.isSome_iff_exists.1 hsome
  exact ⟨found, owner, hfound⟩

theorem readSession_eq_ok {rank active : ℤ} :
    readSession session user = .ok (id, rank, active) ↔
      (session "usuario_id").asInteger = some id ∧ (user "master_user").asInteger = some rank ∧
        (user "ativo").asInteger = some active := by
  unfold readSession
  rw [labelled_eq_ok]
  constructor
  · intro h
    obtain ⟨owner, howner, h⟩ := bind_eq_ok.1 h
    obtain ⟨read, hrank, h⟩ := bind_eq_ok.1 h
    obtain ⟨flag, hflag, h⟩ := bind_eq_ok.1 h
    cases h
    exact ⟨readInt_eq_ok.1 howner, readInt_eq_ok.1 hrank, readInt_eq_ok.1 hflag⟩
  · rintro ⟨howner, hrank, hflag⟩
    exact bind_eq_ok.2 ⟨id, readInt_eq_ok.2 howner, bind_eq_ok.2 ⟨rank, readInt_eq_ok.2 hrank,
      bind_eq_ok.2 ⟨active, readInt_eq_ok.2 hflag, rfl⟩⟩⟩

theorem isAfter_stamp_iff {issue : Issue} (hissue : issue.time + sevenDays < horizon)
    (htime : time < horizon) :
    isAfter issue.stamp.2.2 (rfc3339 time) = true ↔ time < issue.time + sevenDays :=
  decide_eq_true_iff.trans (rfc3339_lt_iff htime hissue)

theorem Faithful.accepts_iff (h : Faithful w) (hnow : host.now = rfc3339 time)
    (hclock : w.clock ≤ time) (htime : time < horizon) : Accepts host text userId w.store ↔
      ∃ issue ∈ w.issued, issue.userId = userId ∧ trimText text = issue.token ∧
        time < issue.time + sevenDays ∧ ActiveUser userId w.store := by
  rw [Console.accepts_iff]
  constructor
  · rintro ⟨-, session, user, hfound, rank, active, hread, hactive⟩
    obtain ⟨hsession, htoken, hafter, huser, hid⟩ := sessionOf_eq_some hfound
    obtain ⟨issue, hissue, hstamp⟩ := h.issued _ (List.mem_map_of_mem hsession)
    obtain ⟨howner, hsame⟩ := Prod.mk.inj hstamp
    obtain ⟨hissued, hexpires⟩ := Prod.mk.inj hsame
    rw [hexpires, hnow] at hafter
    obtain ⟨-, -, hhorizon⟩ := h.written issue hissue
    obtain ⟨hreadOwner, -, hreadActive⟩ := readSession_eq_ok.1 hread
    rw [howner] at hreadOwner hid
    have hsameUser : issue.userId = userId := Option.some.inj hreadOwner
    refine ⟨issue, hissue, hsameUser, SqlValue.text.inj (htoken.symm.trans hissued),
      (isAfter_stamp_iff hhorizon htime).1 hafter, user, huser, by rw [hid, hsameUser], ?_⟩
    obtain ⟨-, flag, hflag⟩ := h.flagged user huser
    rw [hflag] at hreadActive
    exact ⟨flag, hflag, Option.some.inj hreadActive ▸ hactive⟩
  · rintro ⟨issue, hissue, rfl, htoken, hbefore, user, huser, hid, active, hactive, hne⟩
    obtain ⟨hblank, -, hhorizon⟩ := h.written issue hissue
    rw [htoken, hnow]
    refine ⟨hblank, ?_⟩
    have hstored : issue.stamp ∈ stamps w.store :=
      (h.stored issue hissue).resolve_right (by omega)
    obtain ⟨session, hsession, hstamp⟩ := List.mem_map.1 hstored
    obtain ⟨howner, hsame⟩ := Prod.mk.inj hstamp
    obtain ⟨hissued, hexpires⟩ := Prod.mk.inj hsame
    obtain ⟨found, owner, hfound⟩ := sessionOf_isSome hsession hissued
      (by rw [hexpires]; exact (isAfter_stamp_iff hhorizon htime).2 hbefore) huser (hid.trans howner.symm)
    refine ⟨found, owner, hfound, ?_⟩
    -- the session that is found is one of the same login
    obtain ⟨hmem, hfoundToken, -, hownerMem, hownerId⟩ := sessionOf_eq_some hfound
    obtain ⟨other, hother, hotherStamp⟩ := h.issued _ (List.mem_map_of_mem hmem)
    obtain ⟨hotherOwner, hotherRest⟩ := Prod.mk.inj hotherStamp
    have hotherToken := SqlValue.text.inj
      (hfoundToken.symm.trans (Prod.mk.inj hotherRest).1)
    have hsameIssue := h.tokenOnce issue hissue other hother hotherToken
    subst hsameIssue
    rw [hotherOwner] at hownerId
    have hsameUser := List.inj_on_of_nodup_map h.keyed hownerMem huser (hownerId.trans hid.symm)
    subst hsameUser
    obtain ⟨⟨rank, hrank⟩, -⟩ := h.flagged owner huser
    refine ⟨rank, active, readSession_eq_ok.2 ⟨?_, ?_, ?_⟩, hne⟩
    · rw [hotherOwner]
      rfl
    · rw [hrank]
      rfl
    · rw [hactive]
      rfl

theorem Faithful.livesRight (h : Faithful w) : LivesRight w := by
  intro host time hnow hclock htime
  have hiff (text : String) (userId : ℤ) :=
    @Faithful.accepts_iff host text userId w time h hnow hclock htime
  refine ⟨hiff, fun text other userId htext hother => ?_⟩
  obtain ⟨issue, hissue, huser, htoken, -⟩ := (hiff text userId).1 htext
  obtain ⟨twin, htwin, htwinUser, htwinToken, -⟩ := (hiff other userId).1 hother
  rw [htoken, htwinToken, h.userOnce issue hissue twin htwin (huser.trans htwinUser.symm)]

/-! ## Logouts -/

theorem exec_deleteSessions (hit : Row → Bool) (label : String) :
    ∃ count last, exec (deleteRows .file .userSessions hit label) s = (.ok count, last) ∧
      rowsOf .userSessions last = (rowsOf .userSessions s).filter (fun row => !hit row) ∧
      rowsOf .usuarios last = rowsOf .usuarios s := by
  have hends := @ends_deleteRows s .userSessions label (by decide)
    (by intro child; cases child <;> rfl) hit
  unfold Ends at hends
  cases hexec : exec (deleteRows .file .userSessions hit label) s with
  | mk result last =>
    rw [hexec] at hends
    cases result with
    | error error => exact absurd trivial hends
    | ok count =>
      obtain ⟨-, hrows, -⟩ := hends
      refine ⟨count, last, rfl, ?_, ?_⟩
      · unfold rowsOf
        rw [hrows, Function.update_self]
      · unfold rowsOf
        rw [hrows, Function.update_of_ne (by decide)]

def otherTokens (token : String) (s : Store) : List (SqlValue × SqlValue × SqlValue) :=
  (stamps s).filter fun session => session.2.1 ≠ .text token

theorem stamps_filter {hit : Row → Bool} {q : SqlValue × SqlValue × SqlValue → Bool}
    (h : ∀ session, (!hit session) = q (stamp session)) {rows : List Row} :
    (rows.filter fun row => !hit row).map stamp = (rows.map stamp).filter q := by
  rw [List.filter_map]
  congr 1
  exact List.filter_congr fun session _ => h session

theorem exec_endSession (token label : String) :
    ∃ count last, exec (deleteRows .file .userSessions
        (fun session => session "session_token" = .text token) label) s = (.ok count, last) ∧
      stamps last = otherTokens token s ∧ rowsOf .usuarios last = rowsOf .usuarios s := by
  obtain ⟨count, last, hexec, hrows, husers⟩ := exec_deleteSessions (s := s)
    (fun session => session "session_token" = .text token) label
  refine ⟨count, last, hexec, ?_, husers⟩
  unfold stamps
  rw [hrows]
  exact stamps_filter (fun session => by
    rw [← decide_not]
    rfl)

theorem authLogout_leaves (text : String) :
    stamps (exec (authLogout host text) s).2 = otherTokens text s ∧
      rowsOf .usuarios (exec (authLogout host text) s).2 = rowsOf .usuarios s := by
  obtain ⟨count, last, hexec, hstamps, husers⟩ := @exec_endSession s text
    "Falha ao encerrar sessão"
  have hrest (table : Table) (htable : table ≠ .appLogs) :
      Spares table (noteAppLog host (userLog "info" "session" "Sessão encerrada." none) >>= fun _ =>
        pure true) := (spares_noteAppLog htable).bind fun _ => spares_pure
  unfold authLogout
  rw [exec_bind, hexec]
  exact ⟨((hrest .userSessions (by decide)).keepsStamps last).trans hstamps,
    (hrest .usuarios (by decide) last).trans husers⟩

theorem logoutHttp_leaves (api : AppCommands.ApiState) (text : String) :
    let last := (exec (AppCommands.executeCommand host api "auth_logout"
      [("session_token", .string text)]) s).2
    stamps last = otherTokens (trimText text) s ∧ rowsOf .usuarios last = rowsOf .usuarios s := by
  obtain ⟨count, last, hexec, hstamps, husers⟩ := @exec_endSession s (trimText text)
    "Falha ao encerrar sessão"
  have hname : AppCommands.Command.ofName "auth_logout" = .data .authLogout := by decide
  have htoken : AppCommands.getString [("session_token", .string text)] "session_token" =
      trimText text := rfl
  unfold AppCommands.executeCommand
  rw [hname]
  dsimp only [AppCommands.dataAnswer]
  rw [htoken, exec_bind, hexec]
  exact ⟨hstamps, husers⟩

def NamesAlike (text deleted : String) (w : Watch) (time : ℕ) : Prop :=
  ∀ issue ∈ w.issued, issue.token = trimText text → time < issue.time + sevenDays →
    (trimText text = deleted ↔ ActiveUser issue.userId w.store)

theorem Present.congr (h : rowsOf .usuarios next = rowsOf .usuarios s) :
    Present .usuarios userId next ↔ Present .usuarios userId s := by
  change (∃ row ∈ rowsOf .usuarios next, _) ↔ ∃ row ∈ rowsOf .usuarios s, _
  rw [h]

theorem Faithful.logout {deleted : String} (h : Faithful w) (hnow : host.now = rfc3339 time)
    (hclock : w.clock ≤ time) (htime : time < horizon)
    (hdeleted : trimText deleted = trimText text)
    (hstamps : stamps next = otherTokens deleted w.store)
    (husers : rowsOf .usuarios next = rowsOf .usuarios w.store)
    (hnames : NamesAlike text deleted w time) :
    Faithful ⟨next, (w.issued.filter fun issue =>
      ¬ (trimText text = issue.token ∧ Accepts host text issue.userId w.store)).filter
        fun issue => Present .usuarios issue.userId next, time⟩ where
  keyed := by
    unfold Keyed
    rw [husers]
    exact h.keyed
  flagged := by
    unfold Flagged
    rw [husers]
    exact h.flagged
  issued := by
    intro session hsession
    rw [hstamps] at hsession
    obtain ⟨hmem, hother⟩ := List.mem_filter.1 hsession
    obtain ⟨issue, hissue, rfl⟩ := h.issued session hmem
    refine ⟨issue, List.mem_filter.2 ⟨List.mem_filter.2 ⟨hissue, decide_eq_true ?_⟩,
      decide_eq_true ((Present.congr husers).2 (h.present issue hissue))⟩, rfl⟩
    rintro ⟨htoken, haccepts⟩
    obtain ⟨twin, htwin, htwinUser, -, hbefore, hactive⟩ :=
      (h.accepts_iff hnow hclock htime).1 haccepts
    have hsame := h.userOnce twin htwin issue hissue htwinUser
    subst hsame
    have hnamed := (hnames twin htwin htoken.symm hbefore).2 hactive
    exact of_decide_eq_true hother (congrArg SqlValue.text (htoken.symm.trans hnamed))
  stored := by
    intro issue hissue
    obtain ⟨hcounts, -⟩ := List.mem_filter.1 hissue
    obtain ⟨hold, hquiet⟩ := List.mem_filter.1 hcounts
    have hquiet := of_decide_eq_true hquiet
    rw [hstamps]
    by_cases hexpired : issue.time + sevenDays ≤ time
    · exact .inr hexpired
    rcases h.stored issue hold with hstored | hlate
    swap
    · exact .inr (hlate.trans hclock)
    refine .inl (List.mem_filter.2 ⟨hstored, decide_eq_true fun htoken => ?_⟩)
    have htoken : issue.token = deleted := SqlValue.text.inj htoken
    have hnamed : issue.token = trimText text := by
      rw [← hdeleted, ← htoken]
      exact (h.written issue hold).2.1.symm
    have hbefore : time < issue.time + sevenDays := by omega
    have hactive := (hnames issue hold hnamed hbefore).1 (hnamed.symm.trans htoken)
    exact hquiet ⟨hnamed.symm, (h.accepts_iff hnow hclock htime).2
      ⟨issue, hold, rfl, hnamed.symm, hbefore, hactive⟩⟩
  userOnce := fun issue hissue other hother => h.userOnce issue
    (List.mem_of_mem_filter (List.mem_of_mem_filter hissue)) other
    (List.mem_of_mem_filter (List.mem_of_mem_filter hother))
  tokenOnce := fun issue hissue other hother => h.tokenOnce issue
    (List.mem_of_mem_filter (List.mem_of_mem_filter hissue)) other
    (List.mem_of_mem_filter (List.mem_of_mem_filter hother))
  written := fun issue hissue =>
    h.written issue (List.mem_of_mem_filter (List.mem_of_mem_filter hissue))
  present := fun issue hissue => of_decide_eq_true (List.mem_filter.1 hissue).2

/-! ## Saves and deletions -/

theorem flagged_reassigned {fields : List (String × SqlValue)} {rows : List Row}
    (hrows : ∀ user ∈ rows, (∃ rank, user "master_user" = .integer rank) ∧
      ∃ active, user "ativo" = .integer active)
    (hassign : ∀ row, (∃ rank, row "master_user" = .integer rank) →
      (∃ active, row "ativo" = .integer active) →
      (∃ rank, Database.assign catalog (host.dialect .file) .usuarios fields row "master_user" =
        .integer rank) ∧
      ∃ active, Database.assign catalog (host.dialect .file) .usuarios fields row "ativo" =
        .integer active) :
    ∀ user ∈ reassigned host .usuarios userId fields rows,
      (∃ rank, user "master_user" = .integer rank) ∧ ∃ active, user "ativo" = .integer active := by
  intro user huser
  obtain ⟨row, hrow, rfl⟩ := List.mem_map.1 huser
  obtain ⟨hrank, hactive⟩ := hrows row hrow
  split_ifs
  · exact hassign row hrank hactive
  · exact ⟨hrank, hactive⟩

theorem flagged_userSave (h : Flagged s) :
    Flagged (exec (Access.userSave host sessionToken payload) s).2 := by
  unfold Flagged at *
  rw [usuarios_userSave]
  have hnext := @spares_admitUser host sessionToken payload .usuarios (by decide) s
  split
  · exact h
  · rename_i actorId input hash hadmitted
    cases hid : input.id with
    | none =>
      obtain ⟨added, hfresh, hadded⟩ := @usuarios_storeUser_of_new host sessionToken
        (exec (admitUser host sessionToken payload) s).2 actorId input hash hid
      rw [hadded, hnext]
      intro user huser
      rcases List.mem_append.1 huser with hold | hnew
      · exact h user hold
      · obtain ⟨-, hrank, hactive, -⟩ := hfresh user (Option.mem_toList.1 hnew)
        exact ⟨⟨_, hrank⟩, _, hactive⟩
    | some id =>
      rw [usuarios_storeUser_of_id hid, hnext]
      split_ifs
      · refine flagged_reassigned h fun row _ _ => ?_
        obtain ⟨-, hrank, hactive⟩ := @assign_updatedFields host input hash row
        exact ⟨⟨_, hrank⟩, _, hactive⟩
      · exact h

theorem mem_reassigned_of_id {fields : List (String × SqlValue)} {rows : List Row}
    (hassign : ∀ row, Database.assign catalog (host.dialect .file) .usuarios fields row "id" =
      row "id") (h : ∃ row ∈ rows, row "id" = .integer userId) :
    ∃ row ∈ reassigned host .usuarios id fields rows, row "id" = .integer userId := by
  obtain ⟨row, hrow, hid⟩ := h
  refine ⟨_, List.mem_map_of_mem hrow, ?_⟩
  split_ifs
  · rw [hassign, hid]
  · exact hid

theorem present_userSave (h : Present .usuarios userId s) :
    Present .usuarios userId (exec (Access.userSave host sessionToken payload) s).2 := by
  change ∃ row ∈ rowsOf .usuarios _, row "id" = .integer userId
  rw [usuarios_userSave]
  have hnext := @spares_admitUser host sessionToken payload .usuarios (by decide) s
  split
  · exact h
  · rename_i actorId input hash hadmitted
    cases hid : input.id with
    | none =>
      obtain ⟨added, -, hadded⟩ := @usuarios_storeUser_of_new host sessionToken
        (exec (admitUser host sessionToken payload) s).2 actorId input hash hid
      rw [hadded, hnext]
      obtain ⟨row, hrow, hrowId⟩ := h
      exact ⟨row, List.mem_append_left _ hrow, hrowId⟩
    | some id =>
      rw [usuarios_storeUser_of_id hid, hnext]
      split_ifs
      · exact mem_reassigned_of_id (fun row => (@assign_updatedFields host input hash row).1) h
      · exact h

theorem Faithful.quiet (h : Faithful w) (hclock : w.clock ≤ time)
    (hstamps : stamps next = stamps w.store) (hkeyed : Keyed .usuarios next)
    (hflagged : Flagged next)
    (hpresent : ∀ id, Present .usuarios id w.store → Present .usuarios id next) :
    Faithful ⟨next, w.issued.filter fun issue => Present .usuarios issue.userId next, time⟩ where
  keyed := hkeyed
  flagged := hflagged
  issued := by
    intro session hsession
    rw [hstamps] at hsession
    obtain ⟨issue, hissue, hstamp⟩ := h.issued session hsession
    exact ⟨issue, List.mem_filter.2 ⟨hissue, decide_eq_true
      (hpresent _ (h.present issue hissue))⟩, hstamp⟩
  stored := by
    intro issue hissue
    rw [hstamps]
    exact (h.stored issue (List.mem_of_mem_filter hissue)).imp id hclock.trans'
  userOnce := fun issue hissue other hother =>
    h.userOnce issue (List.mem_of_mem_filter hissue) other (List.mem_of_mem_filter hother)
  tokenOnce := fun issue hissue other hother =>
    h.tokenOnce issue (List.mem_of_mem_filter hissue) other (List.mem_of_mem_filter hother)
  written := fun issue hissue => h.written issue (List.mem_of_mem_filter hissue)
  present := fun issue hissue => of_decide_eq_true (List.mem_filter.1 hissue).2

theorem Faithful.still (h : Faithful w) (hclock : w.clock ≤ time)
    (hstamps : stamps next = stamps w.store)
    (husers : rowsOf .usuarios next = rowsOf .usuarios w.store) :
    Faithful ⟨next, w.issued.filter fun issue => Present .usuarios issue.userId next, time⟩ := by
  refine h.quiet hclock hstamps ?_ ?_ fun _ => (Present.congr husers).2
  · unfold Keyed
    rw [husers]
    exact h.keyed
  · unfold Flagged
    rw [husers]
    exact h.flagged

/-- The sessions and the users after a user has been deleted. -/
def WithoutUser (id : ℤ) (s next : Store) : Prop :=
  stamps next = (stamps s).filter (fun session => session.1 ≠ .integer id) ∧
    rowsOf .usuarios next = (rowsOf .usuarios s).filter fun user => user "id" ≠ .integer id

theorem exec_deleteUser {id : ℤ} (label : String)
    (h : ∀ session ∈ rowsOf .userSessions s, session "usuario_id" ≠ .integer id) :
    ∃ count last, exec (deleteRows .file .usuarios (fun user => user "id" = .integer id) label) s =
        (.ok count, last) ∧ rowsOf .userSessions last = rowsOf .userSessions s ∧
      rowsOf .usuarios last = (rowsOf .usuarios s).filter fun user => user "id" ≠ .integer id := by
  have hexec := exec_statement .file label
    (fun db => db.delete (catalogAt .file) .usuarios fun user => user "id" = .integer id) s
  obtain ⟨after, hdelete⟩ := @delete_eq .usuarios (by decide) (s .file)
    fun user => user "id" = .integer id
  dsimp only [catalogAt] at hexec
  rw [hdelete] at hexec
  refine ⟨_, _, hexec, ?_⟩
  unfold Database.delete at hdelete
  dsimp only at hdelete
  split at hdelete
  · cases hdelete
  · cases hdelete
    unfold rowsOf
    rw [Function.update_self]
    constructor <;> dsimp only
    · rw [if_neg (by decide)]
      refine List.filter_eq_self.2 fun session hsession => ?_
      rw [Bool.not_eq_true', List.any_eq_false]
      intro user huser hid
      obtain ⟨-, huserId⟩ := List.mem_filter.1 huser
      exact h session hsession ((of_decide_eq_true hid).symm.trans (of_decide_eq_true huserId))
    · rw [if_pos rfl]
      exact List.filter_congr fun user _ => decide_not.symm

theorem removeUser_leaves {actorId id : ℤ} :
    WithoutUser id s (exec (removeUser host actorId id) s).2 := by
  obtain ⟨sessions, cleared, hcleared, hsessions, husers⟩ := exec_deleteSessions (s := s)
    (fun session => session "usuario_id" = .integer id) "Falha ao limpar sessões do usuário"
  obtain ⟨affected, removed, hremoved, hkept, hrest⟩ := @exec_deleteUser cleared id
    "Falha ao excluir usuário" (by
      intro session hsession howner
      rw [hsessions] at hsession
      have hout := (List.mem_filter.1 hsession).2
      rw [decide_eq_true howner] at hout
      cases hout)
  have htail : KeepsStamps (if affected = 0 then throw "Usuário não encontrado."
      else do
        writeAudit host "usuarios" "delete" (some id) (.object [("actor_id", .ofInt actorId)])
        return true : Action Bool) ∧
      Spares .usuarios (if affected = 0 then throw "Usuário não encontrado."
      else do
        writeAudit host "usuarios" "delete" (some id) (.object [("actor_id", .ofInt actorId)])
        return true : Action Bool) := by
    split
    · exact ⟨spares_throw.keepsStamps, spares_throw⟩
    · exact ⟨((spares_writeAudit (by decide)).bind fun _ => spares_pure).keepsStamps,
        (spares_writeAudit (by decide)).bind fun _ => spares_pure⟩
  unfold removeUser
  rw [exec_bind, hcleared]
  dsimp only
  rw [exec_bind, hremoved]
  refine ⟨(htail.1 removed).trans ?_, (htail.2 removed).trans (by rw [hrest, husers])⟩
  unfold stamps
  rw [hkept, hsessions]
  exact stamps_filter (fun session => by
    rw [← decide_not]
    rfl)

theorem userDelete_leaves (sessionToken : String) (id : ℤ) :
    (stamps (exec (Access.userDelete host sessionToken id) s).2 = stamps s ∧
        rowsOf .usuarios (exec (Access.userDelete host sessionToken id) s).2 = rowsOf .usuarios s) ∨
      WithoutUser id s (exec (Access.userDelete host sessionToken id) s).2 := by
  have husers := @spares_ensureMaster host .usuarios (by decide) sessionToken s
  have hstamps := @keepsStamps_ensureMaster host sessionToken s
  unfold Access.userDelete
  rw [exec_bind]
  cases hexec : exec (ensureMaster host sessionToken) s with
  | mk result next =>
    rw [hexec] at husers hstamps
    cases result with
    | error error => exact .inl ⟨hstamps, husers⟩
    | ok actorId =>
      dsimp only
      split
      · exact .inl ⟨hstamps, husers⟩
      · rw [exec_bind, exec_get]
        dsimp only
        rw [exec_bind, exec_ofExcept]
        cases targetIsMaster (next .file) id with
        | error error => exact .inl ⟨hstamps, husers⟩
        | ok rank =>
          dsimp only
          split
          · exact .inl ⟨hstamps, husers⟩
          · obtain ⟨hless, hfewer⟩ := @removeUser_leaves host next actorId id
            exact .inr ⟨hless.trans (by rw [hstamps]), hfewer.trans (by rw [husers])⟩

theorem Faithful.without (h : Faithful w) (hclock : w.clock ≤ time)
    (hwithout : WithoutUser id w.store next) :
    Faithful ⟨next, w.issued.filter fun issue => Present .usuarios issue.userId next, time⟩ where
  keyed := by
    unfold Keyed
    rw [hwithout.2]
    exact List.Nodup.sublist (List.filter_sublist.map _) h.keyed
  flagged := by
    intro user huser
    rw [hwithout.2] at huser
    exact h.flagged user (List.mem_of_mem_filter huser)
  issued := by
    intro session hsession
    rw [hwithout.1] at hsession
    obtain ⟨hmem, hother⟩ := List.mem_filter.1 hsession
    obtain ⟨issue, hissue, rfl⟩ := h.issued session hmem
    refine ⟨issue, List.mem_filter.2 ⟨hissue, decide_eq_true ?_⟩, rfl⟩
    obtain ⟨user, huser, hid⟩ := h.present issue hissue
    change ∃ row ∈ rowsOf .usuarios next, row "id" = .integer issue.userId
    rw [hwithout.2]
    refine ⟨user, List.mem_filter.2 ⟨huser, decide_eq_true ?_⟩, hid⟩
    rw [hid]
    exact of_decide_eq_true hother
  stored := by
    intro issue hissue
    obtain ⟨hold, hpresent⟩ := List.mem_filter.1 hissue
    rw [hwithout.1]
    refine (h.stored issue hold).imp (fun hstored => ?_) hclock.trans'
    refine List.mem_filter.2 ⟨hstored, decide_eq_true fun howner => ?_⟩
    obtain ⟨user, huser, hid⟩ := of_decide_eq_true hpresent
    change user ∈ rowsOf .usuarios next at huser
    rw [hwithout.2] at huser
    exact of_decide_eq_true (List.mem_filter.1 huser).2 (hid.trans howner)
  userOnce := fun issue hissue other hother =>
    h.userOnce issue (List.mem_of_mem_filter hissue) other (List.mem_of_mem_filter hother)
  tokenOnce := fun issue hissue other hother =>
    h.tokenOnce issue (List.mem_of_mem_filter hissue) other (List.mem_of_mem_filter hother)
  written := fun issue hissue => h.written issue (List.mem_of_mem_filter hissue)
  present := fun issue hissue => of_decide_eq_true (List.mem_filter.1 hissue).2

/-! ## Logins -/

/-- The password of the login is right, and its user is active. -/
def Verifies (host : Host) (name senha : String) (userId : ℤ) (s : Store) : Prop :=
  ∃ user found, namedUser host name s = some user ∧ readLogin user = .ok found ∧
    found.ativo ≠ 0 ∧ host.verifyPassword senha found.senhaHash = .ok true ∧ found.id = userId

/-- What a login that succeeds answers and leaves. -/
structure Entered (host : Host) (userId : ℤ) (s : Store)
    (run : Except String LoginResponse × Store) : Prop where
  present : Present .usuarios userId s
  answer : ∃ message read, run.1 = .ok ⟨true, message, some host.uuid, some read⟩ ∧ read.id = userId
  sessions : rowsOf .userSessions run.2 = keptSessions host userId s ++ [newSession host userId s]
  users : rowsOf .usuarios run.2 = reassigned host .usuarios userId (loginNote host)
    (rowsOf .usuarios s)

/-- The end of a login keeps what the session and the user have become. -/
def Finishes (host : Host) (finish : LoginRow → AuthUser → Action LoginResponse) : Prop :=
  ∀ row read t, (∃ message, (exec (finish row read) t).1 =
      .ok ⟨true, message, some host.uuid, some read⟩) ∧
    rowsOf .userSessions (exec (finish row read) t).2 = rowsOf .userSessions t ∧
      rowsOf .usuarios (exec (finish row read) t).2 = rowsOf .usuarios t

theorem asInteger_eq_some {value : SqlValue} {n : ℤ} :
    value.asInteger = some n ↔ value = .integer n := by
  cases value with
  | integer m => exact Option.some_inj.trans (SqlValue.integer.injEq m n).symm.to_iff
  | _ => exact iff_of_false nofun nofun

theorem entered_openSession {finish : LoginRow → AuthUser → Action LoginResponse}
    (hfinish : Finishes host finish) {row : LoginRow} (hpresent : Present .usuarios userId s)
    (hcan : CanEnter host userId s) :
    Entered host userId s (exec (openSession host userId >>= fun _ =>
      buildAuthUser host userId >>= finish row) s) := by
  have hopen := @ends_openSession host userId s hpresent
  unfold Ends at hopen
  rw [exec_bind]
  cases hexec : exec (openSession host userId) s with
  | mk result opened =>
    rw [hexec] at hopen
    cases result with
    | error error => exact absurd hcan.2 hopen
    | ok done =>
      obtain ⟨-, hrows, -⟩ := hopen
      obtain ⟨read, hread⟩ := hcan.1
      have hback := (buildAuthUser_opened hrows).trans hread
      have hsame := @reads_buildAuthUser host userId opened
      dsimp only
      rw [exec_bind]
      cases hbuild : exec (buildAuthUser host userId) opened with
      | mk result last =>
        rw [hbuild] at hback hsame
        cases hback
        cases hsame
        obtain ⟨⟨message, hanswer⟩, hsessions, husers⟩ := hfinish row read last
        refine ⟨hpresent, ⟨message, read, hanswer, buildAuthUser_id hread⟩, hsessions.trans ?_,
          husers.trans ?_⟩
        · unfold rowsOf
          rw [hrows]
          rfl
        · unfold rowsOf
          rw [hrows]
          rfl

theorem loginWith_cases {finish : LoginRow → AuthUser → Action LoginResponse}
    (hfinish : Finishes host finish) {name senha : String}
    (hcan : ∀ userId, Verifies host name senha userId s → CanEnter host userId s) :
    (exec (loginWith host name senha finish) s).2 = s ∧
        (∀ response, (exec (loginWith host name senha finish) s).1 = .ok response →
          response.success = false) ∨
      ∃ userId, Entered host userId s (exec (loginWith host name senha finish) s) := by
  have hrefused (message : String) : ∀ response,
      (Except.ok (LoginResponse.refused message) : Except String LoginResponse) = .ok response →
        response.success = false := by
    rintro response ⟨⟩
    rfl
  unfold loginWith
  rw [exec_bind, exec_loginRow]
  cases hnamed : namedUser host name s with
  | none => exact .inl ⟨rfl, hrefused _⟩
  | some user =>
    dsimp only
    cases hlogin : readLogin user with
    | error error => exact .inl ⟨rfl, fun _ h => absurd h error_ne_ok⟩
    | ok found =>
      dsimp only [Except.map]
      by_cases hactive : found.ativo = 0
      · rw [if_pos hactive]
        exact .inl ⟨rfl, hrefused _⟩
      rw [if_neg hactive, exec_bind, exec_ofExcept]
      cases hverify : host.verifyPassword senha found.senhaHash with
      | error error => exact .inl ⟨rfl, fun _ h => absurd h error_ne_ok⟩
      | ok verified =>
        cases verified with
        | false => exact .inl ⟨rfl, hrefused _⟩
        | true =>
          have henter := hcan found.id ⟨user, found, hnamed, hlogin, hactive, hverify, rfl⟩
          have hid := asInteger_eq_some.1 (readLogin_reads hlogin).1
          exact .inr ⟨found.id, entered_openSession hfinish
            ⟨user, List.mem_of_find?_eq_some hnamed, hid⟩ henter⟩

theorem finishes_authLogin : Finishes host fun row user => do
    noteAppLog host (userLog "info" "auth" "Login efetuado com sucesso."
      (some (.object [("usuario_id", .ofInt row.id), ("login", .string row.login)])))
    return ⟨true,
      if user.senhaProvisoria then
        "Login efetuado com sucesso. Este usuário está com senha provisória."
      else "Login efetuado com sucesso.", some host.uuid, some user⟩ := by
  intro row read t
  have hnote := @exec_noteAppLog host (userLog "info" "auth" "Login efetuado com sucesso."
    (some (.object [("usuario_id", .ofInt row.id), ("login", .string row.login)]))) t
  have hspared (table : Table) (htable : table ≠ .appLogs) :=
    @spares_noteAppLog host table htable (userLog "info" "auth" "Login efetuado com sucesso."
      (some (.object [("usuario_id", .ofInt row.id), ("login", .string row.login)]))) t
  rw [exec_bind]
  generalize exec (noteAppLog host _) t = run at hnote hspared
  cases run with
  | mk result last =>
    cases hnote
    exact ⟨⟨_, rfl⟩, hspared .userSessions (by decide), hspared .usuarios (by decide)⟩

theorem loginOf_cases {http : Bool} {name senha : String}
    (hcan : ∀ userId, Verifies host name senha userId s → CanEnter host userId s) :
    (exec (loginOf host http name senha) s).2 = s ∧
        (∀ response, (exec (loginOf host http name senha) s).1 = .ok response →
          response.success = false) ∨
      ∃ userId, Entered host userId s (exec (loginOf host http name senha) s) := by
  unfold loginOf
  split
  · exact loginWith_cases (fun row read t => ⟨⟨_, rfl⟩, rfl, rfl⟩) hcan
  · exact loginWith_cases finishes_authLogin hcan

theorem Faithful.login {run : Except String LoginResponse × Store} (h : Faithful w)
    (hnow : host.now = rfc3339 time) (hlater : host.inSevenDays = rfc3339 (time + sevenDays))
    (hclock : w.clock ≤ time) (hhorizon : time + sevenDays < horizon)
    (htrimmed : trimText host.uuid = host.uuid) (hnonempty : host.uuid ≠ "")
    (hfresh : ∀ issue ∈ w.issued, issue.token ≠ host.uuid)
    (hentered : Entered host userId w.store run) :
    Faithful ⟨run.2, ((⟨host.uuid, userId, time⟩ :: w.issued.filter fun issue =>
      issue.userId ≠ userId) : List Issue).filter fun issue =>
        Present .usuarios issue.userId run.2, time⟩ := by
  have htime : time < horizon := lt_of_le_of_lt (Nat.le_add_right _ _) hhorizon
  have hkept : (keptSessions host userId w.store).map stamp = (stamps w.store).filter
      fun session => !(session.1 = .integer userId ||
        (session.2.2 ≠ .null && !isAfter session.2.2 host.now)) :=
    stamps_filter (fun _ => rfl)
  have hnew : stamp (newSession host userId w.store) =
      Issue.stamp ⟨host.uuid, userId, time⟩ := by
    change (SqlValue.integer userId, SqlValue.text host.uuid, SqlValue.text host.inSevenDays) = _
    rw [hlater]
    rfl
  have hstamps : stamps run.2 = (keptSessions host userId w.store).map stamp ++
      [Issue.stamp ⟨host.uuid, userId, time⟩] := by
    unfold stamps
    rw [hentered.sessions, List.map_append, ← hnew]
    rfl
  have hpresent (issue : Issue) (hissue : issue ∈ w.issued) :
      Present .usuarios issue.userId run.2 := by
    change ∃ row ∈ rowsOf .usuarios run.2, _
    rw [hentered.users]
    exact mem_reassigned_of_id (fun row => rfl) (h.present issue hissue)
  have huser : Present .usuarios userId run.2 := by
    change ∃ row ∈ rowsOf .usuarios run.2, _
    rw [hentered.users]
    exact mem_reassigned_of_id (fun row => rfl) hentered.present
  have hmem {issue : Issue} (hissue : issue ∈ ((⟨host.uuid, userId, time⟩ ::
      w.issued.filter fun issue => issue.userId ≠ userId) : List Issue).filter fun issue =>
        Present .usuarios issue.userId run.2) :
      issue = ⟨host.uuid, userId, time⟩ ∨ issue ∈ w.issued ∧ issue.userId ≠ userId := by
    rcases List.mem_cons.1 (List.mem_of_mem_filter hissue) with hsame | hold
    · exact .inl hsame
    · exact .inr ⟨List.mem_of_mem_filter hold, of_decide_eq_true (List.mem_filter.1 hold).2⟩
  constructor
  · unfold Keyed
    rw [hentered.users]
    exact keyed_reassigned (fun row => rfl) h.keyed
  · intro user huser
    rw [hentered.users] at huser
    exact @flagged_reassigned host userId (loginNote host) _ h.flagged
      (fun row hrank hactive => ⟨hrank, hactive⟩) user huser
  · intro session hsession
    rw [hstamps] at hsession
    rcases List.mem_append.1 hsession with hold | hnew
    · rw [hkept] at hold
      obtain ⟨hmem, hquiet⟩ := List.mem_filter.1 hold
      obtain ⟨issue, hissue, rfl⟩ := h.issued session hmem
      refine ⟨issue, List.mem_filter.2 ⟨List.mem_cons_of_mem _ (List.mem_filter.2
        ⟨hissue, decide_eq_true fun howner => ?_⟩), decide_eq_true (hpresent issue hissue)⟩, rfl⟩
      subst howner
      rw [show issue.stamp.1 = SqlValue.integer issue.userId from rfl, decide_eq_true rfl] at hquiet
      cases hquiet
    · rw [List.mem_singleton.1 hnew]
      exact ⟨_, List.mem_filter.2 ⟨List.mem_cons_self, decide_eq_true huser⟩, rfl⟩
  · intro issue hissue
    rw [hstamps]
    rcases hmem hissue with rfl | ⟨hold, howner⟩
    · exact .inl (List.mem_append_right _ (List.mem_singleton.2 rfl))
    · by_cases hexpired : issue.time + sevenDays ≤ time
      · exact .inr hexpired
      refine (h.stored issue hold).imp (fun hstored => List.mem_append_left _ ?_) hclock.trans'
      rw [hkept]
      refine List.mem_filter.2 ⟨hstored, ?_⟩
      have hother : issue.stamp.1 ≠ .integer userId := fun hsame =>
        howner (SqlValue.integer.inj hsame)
      rw [hnow, (isAfter_stamp_iff (h.written issue hold).2.2 htime).2 (by omega),
        decide_eq_false hother]
      simp
  · intro issue hissue other hother hsame
    rcases hmem hissue with rfl | ⟨hold, howner⟩ <;> rcases hmem hother with rfl | ⟨hold', howner'⟩
    · rfl
    · exact absurd hsame.symm howner'
    · exact absurd hsame howner
    · exact h.userOnce issue hold other hold' hsame
  · intro issue hissue other hother hsame
    rcases hmem hissue with rfl | ⟨hold, -⟩ <;> rcases hmem hother with rfl | ⟨hold', -⟩
    · rfl
    · exact absurd hsame.symm (hfresh other hold')
    · exact absurd hsame (hfresh issue hold)
    · exact h.tokenOnce issue hold other hold' hsame
  · intro issue hissue
    rcases hmem hissue with rfl | ⟨hold, -⟩
    · exact ⟨hnonempty, htrimmed, hhorizon⟩
    · exact h.written issue hold
  · exact fun issue hissue => of_decide_eq_true (List.mem_filter.1 hissue).2

/-! ## Runs -/

/-- **The condition** on a step, next to what is given: the clock does not run backwards, and a
token has not been issued before. The seven days end before the year 10000; a login that is not
refused can open its session; and the text of a logout names a session of an active user, as it
stands. -/
def Orderly (w : Watch) (event : SessionEvent) : Prop :=
  w.clock ≤ event.time ∧ event.time + sevenDays < horizon ∧
  match event.call with
  | .login _ name senha => (∀ issue ∈ w.issued, issue.token ≠ event.host.uuid) ∧
      ∀ userId, Verifies event.host name senha userId w.store → CanEnter event.host userId w.store
  | .logout text => NamesAlike text text w event.time
  | .logoutHttp _ text => NamesAlike text (trimText text) w event.time
  | .userSave _ _ | .userDelete _ _ => True

theorem faithful_step (h : Faithful w) (event : SessionEvent) (horderly : Orderly w event) :
    Faithful (sessionStep w event) := by
  obtain ⟨time, host, call, hnow, hlater, htrimmed, hnonempty⟩ := event
  obtain ⟨hclock, hhorizon, hcall⟩ := horderly
  have htime : time < horizon := lt_of_le_of_lt (Nat.le_add_right _ _) hhorizon
  cases call with
  | login http name senha =>
    obtain ⟨hfresh, hcan⟩ := hcall
    rcases loginOf_cases hcan with ⟨hsame, hrefused⟩ | ⟨userId, hentered⟩
    · have hcounts : SessionCall.counts host time w.store w.issued (.login http name senha) =
          w.issued := by
        unfold SessionCall.counts
        dsimp only
        split
        · rename_i message token user hanswer
          cases hrefused _ hanswer
        · rfl
      unfold sessionStep
      rw [hcounts]
      exact h.still hclock (congrArg stamps hsame) (congrArg (rowsOf .usuarios) hsame)
    · obtain ⟨message, read, hanswer, hid⟩ := hentered.answer
      have hcounts : SessionCall.counts host time w.store w.issued (.login http name senha) =
          ⟨host.uuid, userId, time⟩ :: w.issued.filter fun issue => issue.userId ≠ userId := by
        unfold SessionCall.counts
        dsimp only
        rw [hanswer, ← hid]
      unfold sessionStep
      dsimp only
      rw [hcounts]
      exact h.login hnow hlater hclock hhorizon htrimmed hnonempty hfresh hentered
  | logout text =>
    obtain ⟨hstamps, husers⟩ := @authLogout_leaves host w.store text
    exact h.logout hnow hclock htime rfl hstamps husers hcall
  | logoutHttp api text =>
    obtain ⟨hstamps, husers⟩ := @logoutHttp_leaves host w.store api text
    exact h.logout hnow hclock htime trimText_trimText hstamps husers hcall
  | userSave sessionToken payload =>
    exact h.quiet hclock (keepsStamps_userSave w.store)
      (keyed_userSave h.keyed) (flagged_userSave h.flagged) fun _ => present_userSave
  | userDelete sessionToken id =>
    rcases @userDelete_leaves host w.store sessionToken id with ⟨hstamps, husers⟩ | hwithout
    · exact h.still hclock hstamps husers
    · exact h.without hclock hwithout

theorem faithful_start {start : Store} (hnone : rowsOf .userSessions start = [])
    (hkeyed : Keyed .usuarios start) (hflagged : Flagged start) : Faithful ⟨start, [], 0⟩ where
  keyed := hkeyed
  flagged := hflagged
  issued := by
    intro session hsession
    unfold stamps at hsession
    rw [hnone] at hsession
    cases hsession
  stored := nofun
  userOnce := nofun
  tokenOnce := nofun
  written := nofun
  present := nofun

/-- In every state of a run whose steps meet the condition, sessions live as long as they
should. -/
theorem livesRight_throughout (start : Store) (hnone : rowsOf .userSessions start = [])
    (hkeyed : Keyed .usuarios start) (hflagged : Flagged start) (events : List SessionEvent)
    (horderly : Along sessionStep Orderly ⟨start, [], 0⟩ events) :
    Throughout sessionStep LivesRight ⟨start, [], 0⟩ events :=
  (Along.throughout (fun _ event h horderly => faithful_step h event horderly) horderly
    (faithful_start hnone hkeyed hflagged)).mono fun _ => Faithful.livesRight

/-- A process at an instant. -/
def hostAt (time : ℕ) : Host :=
  { plainHost with now := rfc3339 time, inSevenDays := rfc3339 (time + sevenDays) }

def eventAt (time : ℕ) (call : SessionCall) : SessionEvent :=
  ⟨time, hostAt time, call, rfl, rfl, show trimText "7f3c" = "7f3c" by decide,
    show "7f3c" ≠ "" by decide⟩

/-- The first instant of 2026. -/
def newYear : ℕ := 1767225600 * 10 ^ 9

def signedOut : Store := fileWith fun table => if table = .usuarios then [rita] else []

theorem orderly_login :
    Orderly ⟨signedOut, [], 0⟩ (eventAt newYear (.login false "rita" "segredo")) := by
  refine ⟨Nat.zero_le _, by decide, nofun, ?_⟩
  rintro userId ⟨user, found, hnamed, hlogin, -, -, rfl⟩
  have huser : user = rita := List.mem_singleton.1 (List.mem_of_find?_eq_some hnamed)
  subst huser
  cases hlogin
  exact ⟨⟨_, rfl⟩, by decide +kernel, by decide +kernel⟩

theorem livesRight_throughout_login : Throughout sessionStep LivesRight ⟨signedOut, [], 0⟩
    [eventAt newYear (.login false "rita" "segredo")] :=
  livesRight_throughout signedOut rfl (List.nodup_singleton _)
    (by rintro user huser; rw [List.mem_singleton.1 huser]; exact ⟨⟨1, rfl⟩, 1, rfl⟩) _
    ⟨orderly_login, trivial⟩

def spacedLogout : List SessionEvent :=
  [eventAt newYear (.login false "rita" "segredo"), eventAt (newYear + 10 ^ 9) (.logout " 7f3c")]

/-- The text of the logout is accepted as the session, which is accepted afterwards as well. -/
theorem not_livesRight_spacedLogout :
    ¬ Throughout sessionStep LivesRight ⟨signedOut, [], 0⟩ spacedLogout := by
  intro h
  obtain ⟨hiff, -⟩ := h.last (hostAt (newYear + 10 ^ 9)) (newYear + 10 ^ 9) rfl le_rfl (by decide)
  have haccepts : Accepts (hostAt (newYear + 10 ^ 9)) "7f3c" 1
      (run sessionStep ⟨signedOut, [], 0⟩ spacedLogout).store := by decide +kernel
  have hnone : (run sessionStep ⟨signedOut, [], 0⟩ spacedLogout).issued = [] := by decide +kernel
  obtain ⟨issue, hissue, -⟩ := (hiff "7f3c" 1).1 haccepts
  rw [hnone] at hissue
  cases hissue

end Tunnara.Console
