/-
# What a login does

Both logins look a user up, verify the password against the hash, replace the sessions of the
user by a new one and read the user back. Besides the password it takes an active user whose
data can be read, and room for the session.
-/

import Tunnara.Console.Masters

namespace Tunnara.Console

open Sql Attempt

section

variable (host : Host) (userId : ℤ)

/-- A session that a login takes away: one of the user, or one that has expired. -/
def replaced (session : Row) : Bool :=
  session "usuario_id" = .integer userId ||
    (session "expires_at" ≠ .null && !isAfter (session "expires_at") host.now)

def keptSessions (s : Store) : List Row :=
  (rowsOf .userSessions s).filter fun session => !replaced host userId session

def sessionFields : List (String × SqlValue) :=
  [("usuario_id", .integer userId), ("session_token", .text host.uuid),
    ("created_at", .text host.now), ("expires_at", .text host.inSevenDays),
    ("last_activity_at", .text host.now)]

/-- The number of the new session. -/
def sessionId (s : Store) : ℤ :=
  ((keptSessions host userId s).filterMap fun session => (session "id").asInteger).foldl max
    ((s .file).sequence .userSessions) + 1

def newSession (s : Store) : Row :=
  Database.newRow catalog (host.dialect .file) .userSessions (sessionId host userId s)
    (sessionFields host userId)

/-- There is a number for the session, and its token is new. -/
def SessionFits (s : Store) : Prop :=
  sessionId host userId s < 2 ^ 63 ∧
    ∀ session ∈ keptSessions host userId s, session "session_token" ≠ .text host.uuid

def loginNote : List (String × SqlValue) := [("ultimo_login_em", .text host.now)]

def openedRows (s : Store) : Table → List Row :=
  Function.update (Function.update (s .file).rows .userSessions
      (keptSessions host userId s ++ [newSession host userId s])) .usuarios
    (reassigned host .usuarios userId (loginNote host) (rowsOf .usuarios s))

end

variable {host : Host} {userId : ℤ} {s next : Store} {login senha : String} {table : Table}
  {label : String}

theorem updateBreach_loginNote {id : SqlValue} :
    (s .file).updateBreach catalog (host.dialect .file) .usuarios "id" id (loginNote host) =
      none := by
  unfold Database.updateBreach
  rw [List.findSome?_eq_none_iff]
  intro row _
  have hassigned : (fun name => ((loginNote host).lookup name).isSome) =
      fun name => name == "ultimo_login_em" := by
    funext name
    unfold loginNote
    rw [List.lookup_cons]
    cases name == "ultimo_login_em" <;> rfl
  rw [hassigned, breach_eq_none]
  refine ⟨?_, ?_, nofun⟩
  · intro column hcolumn hrequired hname
    exact absurd hname (by revert column; decide)
  · intro key hkey hname
    exact absurd hname (by revert key; decide)

theorem breach_newSession {id : ℤ} {kept : List Row} {parents : Table → List Row}
    (huser : ∃ user ∈ parents .usuarios, user "id" = .integer userId) :
    catalog.breach .userSessions (fun _ => true) kept parents
        (Database.newRow catalog (host.dialect .file) .userSessions id
          (sessionFields host userId)) = none ↔
      ∀ session ∈ kept, session "session_token" ≠ .text host.uuid := by
  rw [breach_eq_none]
  constructor
  · rintro ⟨-, hfree, -⟩ session hsession htaken
    refine hfree ["session_token"] (List.mem_singleton.2 rfl) rfl session hsession ?_
    intro name hname
    rw [List.mem_singleton.1 hname]
    exact ⟨nofun, htaken⟩
  · intro hfree
    refine ⟨?_, ?_, ?_⟩
    · intro column hcolumn hrequired _
      change column ∈ Table.columns .userSessions at hcolumn
      simp only [Table.columns, List.map_cons, List.map_nil, List.cons_append, List.nil_append,
        List.mem_cons, List.not_mem_nil, or_false] at hcolumn
      rcases hcolumn with rfl | rfl | rfl | rfl | rfl | rfl <;> exact nofun
    · intro key hkey _ session hsession htaken
      rw [List.mem_singleton.1 hkey] at htaken
      exact hfree session hsession (htaken "session_token" (List.mem_singleton.2 rfl)).2
    · intro reference hreference _ _
      rw [List.mem_singleton.1 hreference]
      exact huser

theorem ends_openSession (huser : Present .usuarios userId s) :
    Ends (SessionFits host userId s)
      (fun _ => Leaves (openedRows host userId s)
        (Function.update (s .file).sequence .userSessions (sessionId host userId s)))
      (openSession host userId) s := by
  have hfits : SessionFits host userId s ↔ True ∧ SessionFits host userId s ∧ True ∧ True := by
    simp only [true_and, and_true]
  refine Ends.congr (Ends.bind (ends_deleteRows (by decide) (by intro child; cases child <;> rfl)) fun _ _ cleared hcleared => ?_) hfits.symm
  obtain ⟨hrows, hsequence⟩ := hcleared
  have hkept : (cleared .file).rows .userSessions = keptSessions host userId s := by
    rw [hrows, Function.update_self]
    rfl
  have hid : (cleared .file).nextId .userSessions = sessionId host userId s := by
    unfold Database.nextId sessionId
    rw [hkept, hsequence]
  have husers : (cleared .file).rows .usuarios = rowsOf .usuarios s := by
    rw [hrows, Function.update_of_ne (by decide)]
    rfl
  refine Ends.bind (Ends.congr ends_insertRow_nextId ?_) fun _ _ inserted ⟨_, hinserted⟩ => ?_
  · rw [hid, hkept]
    refine and_congr_right fun _ => breach_newSession ?_
    rw [husers]
    exact huser
  · rw [hid, hkept, hrows, hsequence] at hinserted
    obtain ⟨hrowsInserted, hsequenceInserted⟩ := hinserted
    refine Ends.bind (Ends.congr ends_updateRows
      (iff_of_true updateBreach_loginNote trivial)) fun _ _ noted hnoted => ends_pure ?_
    obtain ⟨hrowsNoted, hsequenceNoted⟩ := hnoted
    refine ⟨?_, hsequenceNoted.trans hsequenceInserted⟩
    rw [hrowsNoted, hrowsInserted, Function.update_idem, Function.update_of_ne (by decide)]
    rfl

variable {α : Type} {user : Row} {hash : String}

theorem result_ofExcept_bind {β : Type} {result : Except String α} {f : α → Action β}
    (h : ∀ a, (exec (f a) next).1 = (exec (f a) s).1) :
    (exec (ofExcept result >>= f) next).1 = (exec (ofExcept result >>= f) s).1 := by
  rw [exec_bind, exec_ofExcept, exec_bind, exec_ofExcept]
  cases result with
  | error error => rfl
  | ok a => exact h a

theorem buildAuthUser_congr (huser : (userById (next .file) userId).map readAuthUser =
      (userById (s .file) userId).map readAuthUser)
    (hrows : ∀ table ∈ [Table.usuariosPerfis, .perfisAcesso, .usuariosEmpresas, .empresas,
      .perfisPermissoes], (next .file).rows table = (s .file).rows table) :
    (exec (buildAuthUser host userId) next).1 = (exec (buildAuthUser host userId) s).1 := by
  have hprofiles := hrows .usuariosPerfis (by decide)
  have haccess := hrows .perfisAcesso (by decide)
  have hlinks := hrows .usuariosEmpresas (by decide)
  have hcompanies := hrows .empresas (by decide)
  have hgrants := hrows .perfisPermissoes (by decide)
  unfold buildAuthUser
  rw [exec_bind, exec_get, exec_bind, exec_get]
  dsimp only
  rw [hprofiles, haccess, hlinks, hcompanies, hgrants]
  cases hnext : userById (next .file) userId with
  | none =>
    cases hs : userById (s .file) userId with
    | none => rfl
    | some row =>
      rw [hnext, hs] at huser
      cases huser
  | some row =>
    cases hs : userById (s .file) userId with
    | none =>
      rw [hnext, hs] at huser
      cases huser
    | some other =>
      rw [hnext, hs] at huser
      dsimp only
      rw [Option.some.inj huser]
      refine result_ofExcept_bind fun base => ?_
      split
      · rfl
      · refine result_ofExcept_bind fun profiles => result_ofExcept_bind fun companies => ?_
        split
        · rfl
        · exact result_ofExcept_bind fun grants => rfl

theorem labelled_eq_ok {result : Except String α} {a : α} :
    labelled label result = .ok a ↔ result = .ok a := by
  cases result with
  | error error => exact iff_of_false nofun nofun
  | ok b => exact Iff.rfl

theorem readInt_eq_ok {row : Row} {index : ℕ} {column : String} {n : ℤ} :
    readInt row index column = .ok n ↔ (row column).asInteger = some n := by
  unfold readInt
  cases (row column).asInteger with
  | none => exact iff_of_false nofun nofun
  | some m => exact ⟨fun h => by cases h; rfl, fun h => by cases h; rfl⟩

theorem readText_eq_ok {row : Row} {index : ℕ} {column text : String} :
    readText row index column = .ok text ↔ (row column).asText = some text := by
  unfold readText
  cases (row column).asText with
  | none => exact iff_of_false nofun nofun
  | some other => exact ⟨fun h => by cases h; rfl, fun h => by cases h; rfl⟩

theorem readLogin_reads {found : LoginRow} (h : readLogin user = .ok found) :
    (user "id").asInteger = some found.id ∧ (user "senha_hash").asText = some found.senhaHash ∧
      (user "ativo").asInteger = some found.ativo := by
  obtain ⟨id, hid, h⟩ := bind_eq_ok.1 (labelled_eq_ok.1 h)
  obtain ⟨nome, -, h⟩ := bind_eq_ok.1 h
  obtain ⟨login, -, h⟩ := bind_eq_ok.1 h
  obtain ⟨hash, hhash, h⟩ := bind_eq_ok.1 h
  obtain ⟨administrador, -, h⟩ := bind_eq_ok.1 h
  obtain ⟨ativo, hativo, h⟩ := bind_eq_ok.1 h
  cases h
  exact ⟨readInt_eq_ok.1 hid, readText_eq_ok.1 hhash, readInt_eq_ok.1 hativo⟩

theorem readAuthUser_reads {base : AuthUser × ℤ} (h : readAuthUser user = .ok base) :
    (user "id").asInteger = some base.1.id ∧ (∃ nome, (user "nome").asText = some nome) ∧
      (∃ login, (user "login").asText = some login) ∧
      (∃ rank, (user "administrador").asInteger = some rank) ∧
      (user "ativo").asInteger = some base.2 := by
  obtain ⟨id, hid, h⟩ := bind_eq_ok.1 (labelled_eq_ok.1 h)
  obtain ⟨nome, hnome, h⟩ := bind_eq_ok.1 h
  obtain ⟨login, hlogin, h⟩ := bind_eq_ok.1 h
  obtain ⟨email, -, h⟩ := bind_eq_ok.1 h
  obtain ⟨telefone, -, h⟩ := bind_eq_ok.1 h
  obtain ⟨cargo, -, h⟩ := bind_eq_ok.1 h
  obtain ⟨photoUrl, -, h⟩ := bind_eq_ok.1 h
  obtain ⟨administrador, hadministrador, h⟩ := bind_eq_ok.1 h
  obtain ⟨masterUser, -, h⟩ := bind_eq_ok.1 h
  obtain ⟨senhaProvisoria, -, h⟩ := bind_eq_ok.1 h
  obtain ⟨ativo, hativo, h⟩ := bind_eq_ok.1 h
  cases h
  exact ⟨readInt_eq_ok.1 hid, ⟨nome, readText_eq_ok.1 hnome⟩, ⟨login, readText_eq_ok.1 hlogin⟩,
    ⟨administrador, readInt_eq_ok.1 hadministrador⟩, readInt_eq_ok.1 hativo⟩

theorem readLogin_of_readAuthUser {base : AuthUser × ℤ} (h : readAuthUser user = .ok base)
    (hhash : user "senha_hash" = .text hash) : ∃ found, readLogin user = .ok found := by
  obtain ⟨hid, ⟨nome, hnome⟩, ⟨login, hlogin⟩, ⟨rank, hrank⟩, hactive⟩ := readAuthUser_reads h
  refine ⟨⟨base.1.id, login, hash, base.2⟩, labelled_eq_ok.2 ?_⟩
  refine bind_eq_ok.2 ⟨_, readInt_eq_ok.2 hid, bind_eq_ok.2 ⟨nome, readText_eq_ok.2 hnome, ?_⟩⟩
  refine bind_eq_ok.2 ⟨login, readText_eq_ok.2 hlogin, ?_⟩
  refine bind_eq_ok.2 ⟨hash, readText_eq_ok.2 (by rw [hhash]; rfl), ?_⟩
  exact bind_eq_ok.2 ⟨rank, readInt_eq_ok.2 hrank,
    bind_eq_ok.2 ⟨base.2, readInt_eq_ok.2 hactive, rfl⟩⟩

def namedUser (host : Host) (login : String) (s : Store) : Option Row :=
  (rowsOf .usuarios s).find? fun user =>
    (host.dialect .file).lower (user "login") = .text (host.toLowercase (trimText login))

def Succeeds (m : Action LoginResponse) (s : Store) : Prop :=
  ∃ response, (exec m s).1 = .ok response ∧ response.success = true

/-- What a login takes besides the password: an active user that can be read, and room for the
session. -/
def CanEnter (host : Host) (userId : ℤ) (s : Store) : Prop :=
  (∃ user, (exec (buildAuthUser host userId) s).1 = .ok user) ∧ SessionFits host userId s

theorem buildAuthUser_id {read : AuthUser}
    (h : (exec (buildAuthUser host userId) s).1 = .ok read) : read.id = userId := by
  have hexec : exec (buildAuthUser host userId) s =
      (.ok read, (exec (buildAuthUser host userId) s).2) := Prod.ext h rfl
  obtain ⟨store, s1, hstore, hrest⟩ := exec_bind_eq_ok.1 hexec
  cases hstore
  dsimp only at hrest
  cases hown : userById (s .file) userId with
  | none =>
    rw [hown] at hrest
    cases hrest
  | some row =>
    rw [hown] at hrest
    obtain ⟨base, s2, hbase, hrest⟩ := exec_bind_eq_ok.1 hrest
    rw [exec_ofExcept] at hbase
    have hid := (readAuthUser_reads (Prod.mk.inj hbase).1).1
    rw [of_decide_eq_true (List.find?_some (p := fun user : Row => decide (user "id" = _)) hown)]
      at hid
    split at hrest
    · cases hrest
    · obtain ⟨profiles, s3, -, hrest⟩ := exec_bind_eq_ok.1 hrest
      obtain ⟨companies, s4, -, hrest⟩ := exec_bind_eq_ok.1 hrest
      split at hrest
      · cases hrest
        exact (Option.some.inj hid).symm
      · obtain ⟨grants, s5, -, hrest⟩ := exec_bind_eq_ok.1 hrest
        cases hrest
        exact (Option.some.inj hid).symm

theorem exec_noteAppLog (input : AppLogInput) (s : Store) :
    (exec (noteAppLog host input) s).1 = .ok () := by
  unfold noteAppLog
  rw [exec_tryCatch]
  cases exec (writeAppLog host input) s with
  | mk result next => cases result <;> rfl

theorem exec_loginRow : exec (loginRow host login) s =
    (match namedUser host login s with
      | none => .ok none
      | some user => (readLogin user).map some, s) := by
  unfold loginRow namedUser
  rw [exec_bind, exec_get]
  dsimp only [rowsOf]
  cases hfound : ((s .file).rows .usuarios).find? fun user =>
      (host.dialect .file).lower (user "login") = .text (host.toLowercase (trimText login)) with
  | none => rfl
  | some user =>
    dsimp only
    cases readLogin user <;> rfl

theorem readable_of_buildAuthUser {read : AuthUser} (hown : userById (s .file) userId = some user)
    (hhash : user "senha_hash" = .text hash)
    (h : (exec (buildAuthUser host userId) s).1 = .ok read) :
    ∃ found, readLogin user = .ok found ∧ found.ativo ≠ 0 := by
  unfold buildAuthUser at h
  rw [exec_bind, exec_get] at h
  dsimp only at h
  rw [hown] at h
  rw [exec_bind, exec_ofExcept] at h
  cases hbase : readAuthUser user with
  | error error =>
    rw [hbase] at h
    cases h
  | ok base =>
    rw [hbase] at h
    dsimp only at h
    obtain ⟨found, hfound⟩ := readLogin_of_readAuthUser hbase hhash
    obtain ⟨-, -, -, -, hactive⟩ := readAuthUser_reads hbase
    refine ⟨found, hfound, fun hzero => ?_⟩
    have hsame := (readLogin_reads hfound).2.2.symm.trans hactive
    rw [if_pos ((Option.some.inj hsame).symm.trans hzero)] at h
    cases h

theorem buildAuthUser_opened (h : (next .file).rows = openedRows host userId s) :
    (exec (buildAuthUser host userId) next).1 = (exec (buildAuthUser host userId) s).1 := by
  apply buildAuthUser_congr
  · unfold userById
    rw [h]
    unfold openedRows reassigned
    rw [Function.update_self, List.find?_map, Option.map_map]
    have hids : (fun user : Row => decide (user "id" = .integer userId)) ∘ (fun row =>
        if row "id" = .integer userId then
          Database.assign catalog (host.dialect .file) .usuarios (loginNote host) row else row) =
        fun user => decide (user "id" = .integer userId) := by
      funext user
      dsimp only [Function.comp]
      split_ifs <;> rfl
    rw [hids]
    congr 1
    funext user
    dsimp only [Function.comp]
    split_ifs <;> rfl
  · intro table htable
    rw [h]
    unfold openedRows
    rw [Function.update_of_ne, Function.update_of_ne]
    · rintro rfl
      exact absurd htable (by decide)
    · rintro rfl
      exact absurd htable (by decide)

theorem succeeds_pure {response : LoginResponse} :
    Succeeds (pure response) s ↔ response.success = true :=
  ⟨fun ⟨_, hreturned, hsuccess⟩ => by cases hreturned; exact hsuccess, fun h => ⟨response, rfl, h⟩⟩

theorem error_ne_ok {error : String} {a : α} :
    (.error error : Except String α) ≠ .ok a := nofun

theorem not_error {error : String} {p : α → Prop} :
    ¬ ∃ a, (.error error : Except String α) = .ok a ∧ p a :=
  fun ⟨_, h, _⟩ => error_ne_ok h

theorem succeeds_opened_iff {finish : AuthUser → Action LoginResponse}
    (hfinish : ∀ user t, Succeeds (finish user) t) (hpresent : Present .usuarios userId s) :
    Succeeds (openSession host userId >>= fun _ => buildAuthUser host userId >>= finish) s ↔
      CanEnter host userId s := by
  have hopen := @ends_openSession host userId s hpresent
  unfold Succeeds CanEnter
  unfold Ends at hopen
  rw [exec_bind]
  cases hexec : exec (openSession host userId) s with
  | mk result next =>
    rw [hexec] at hopen
    cases result with
    | error error => exact iff_of_false not_error fun henter => hopen henter.2
    | ok done =>
      obtain ⟨hfits, hrows, -⟩ := hopen
      have hsame := buildAuthUser_opened hrows
      dsimp only
      rw [exec_bind, and_iff_left hfits, ← hsame]
      cases hread : exec (buildAuthUser host userId) next with
      | mk read last =>
        cases read with
        | error error => exact iff_of_false not_error fun ⟨_, h⟩ => error_ne_ok h
        | ok user => exact iff_of_true (hfinish user last) ⟨user, rfl⟩

theorem succeeds_loginWith_iff {finish : LoginRow → AuthUser → Action LoginResponse}
    (hfinish : ∀ row user t, Succeeds (finish row user) t)
    (hnamed : namedUser host login s = some user) (hown : userById (s .file) userId = some user)
    (hhash : user "senha_hash" = .text hash) :
    Succeeds (loginWith host login senha finish) s ↔
      host.verifyPassword senha hash = .ok true ∧ CanEnter host userId s := by
  have hid : user "id" = .integer userId :=
    of_decide_eq_true (List.find?_some (p := fun row : Row => decide (row "id" = _)) hown)
  have hreadable : CanEnter host userId s → ∃ found, readLogin user = .ok found ∧
      found.ativo ≠ 0 := fun ⟨⟨read, hread⟩, _⟩ => readable_of_buildAuthUser hown hhash hread
  unfold Succeeds loginWith
  rw [exec_bind, exec_loginRow, hnamed]
  dsimp only
  cases hlogin : readLogin user with
  | error error =>
    refine iff_of_false not_error fun ⟨_, henter⟩ => ?_
    obtain ⟨found, hfound, -⟩ := hreadable henter
    rw [hlogin] at hfound
    cases hfound
  | ok found =>
    obtain ⟨hfoundId, hfoundHash, -⟩ := readLogin_reads hlogin
    rw [hid] at hfoundId
    rw [hhash] at hfoundHash
    have hsameId : found.id = userId := (Option.some.inj hfoundId).symm
    have hsameHash : found.senhaHash = hash := (Option.some.inj hfoundHash).symm
    dsimp only [Except.map]
    by_cases hactive : found.ativo = 0
    · rw [if_pos hactive]
      refine iff_of_false (fun h => ?_) fun ⟨_, henter⟩ => ?_
      · exact absurd (succeeds_pure.1 h) (by decide)
      · obtain ⟨other, hother, hne⟩ := hreadable henter
        rw [hlogin] at hother
        cases hother
        exact hne hactive
    · rw [if_neg hactive, exec_bind, exec_ofExcept, hsameHash, hsameId]
      cases hverify : host.verifyPassword senha hash with
      | error error => exact iff_of_false not_error fun h => error_ne_ok h.1
      | ok verified =>
        cases verified with
        | false =>
          refine iff_of_false (fun h => ?_) fun h => absurd (Except.ok.inj h.1) (by decide)
          exact absurd (succeeds_pure.1 h) (by decide)
        | true =>
          rw [and_iff_right rfl]
          exact succeeds_opened_iff (hfinish found)
            ⟨user, List.mem_of_find?_eq_some hown, hid⟩

end Tunnara.Console
