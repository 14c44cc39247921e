/-
# Passwords and logins

A password is stored as the hash of its trimmed text, by `user_save` and by both ways to change
it. The login of the HTTP commands trims what it is given as well; `auth_login` verifies it as
it came.
-/

import Tunnara.Console.Logins

namespace Tunnara.Console

open Sql Attempt Access

inductive PasswordCall
  | userSave (sessionToken : String) (payload : List (String × Value))
  | change (sessionToken currentPassword newPassword : String)
  | changeHttp (args : AppCommands.Args)

namespace PasswordCall

/-- The call carries the text as the password; a blank `senha` is none. -/
def Carries (password : String) : PasswordCall → Prop
  | userSave _ payload => getField payload "senha" = some (.string password) ∧
      trimText password ≠ ""
  | change _ _ newPassword => newPassword = password
  | changeHttp args => getField args "new_password" = some (.string password)

variable (host : Host)

/-- The call is accepted and leaves these tables. -/
def Accepted (s next : Store) : PasswordCall → Prop
  | userSave sessionToken payload =>
    ∃ saved, exec (Access.userSave host sessionToken payload) s = (.ok saved, next)
  | change sessionToken currentPassword newPassword =>
    exec (authChangePassword host sessionToken currentPassword newPassword) s = (.ok true, next)
  | changeHttp args =>
    exec (AppCommands.authChangePasswordHttp host args) s = (.ok (.bool true), next)

/-- The user of the call: the one that is saved, or that of the session. -/
def Subject (s : Store) (userId : ℤ) : PasswordCall → Prop
  | userSave _ payload =>
    match getI64 payload "id" with
    | some id => id = userId
    | none => ¬ Present .usuarios userId s
  | change sessionToken _ _ => ∃ identity,
      (exec (requireSessionByToken host sessionToken) s).1 = .ok identity ∧ identity.userId = userId
  | changeHttp args => ∃ identity,
      (exec (requireSessionByToken host (AppCommands.getString args "session_token")) s).1 =
        .ok identity ∧ identity.userId = userId

end PasswordCall

/-- `auth_login` lets the text in. -/
def LogsIn (host : Host) (login senha : String) (s : Store) : Prop :=
  Succeeds (authLogin host login senha) s

/-- The command `auth_login` lets the text in. -/
def LogsInHttp (host : Host) (api : AppCommands.ApiState) (login senha : String) (s : Store) :
    Prop :=
  ∃ fields, (exec (AppCommands.executeCommand host api "auth_login"
      [("login", .string login), ("senha", .string senha)]) s).1 = .ok (.object fields) ∧
    getField fields "success" = some (.bool true)

/-- **The promise**: both logins let the password in, and nothing but it up to spaces around. -/
def RoundTrips (host : Host) (api : AppCommands.ApiState) (login password : String) (s : Store) :
    Prop :=
  (LogsIn host login password s ∧ LogsInHttp host api login password s) ∧
    ∀ senha, LogsIn host login senha s ∨ LogsInHttp host api login senha s →
      trimText senha = trimText password

/-- What a hash is made of verifies against it, and nothing else does. -/
def Argon2 (host verifier : Host) : Prop :=
  ∀ password hash, host.hashPassword password = .ok hash → ∀ other,
    verifier.verifyPassword other hash = .ok (decide (other = password))

variable {host : Host} {api : AppCommands.ApiState} {s next : Store} {userId : ℤ}
  {login senha hash : String} {user : Row}

theorem logsIn_iff (hnamed : namedUser host login s = some user)
    (hown : userById (s .file) userId = some user) (hhash : user "senha_hash" = .text hash) :
    LogsIn host login senha s ↔
      host.verifyPassword senha hash = .ok true ∧ CanEnter host userId s := by
  refine succeeds_loginWith_iff (fun row user t => ?_) hnamed hown hhash
  have hnote := @exec_noteAppLog host (userLog "info" "auth" "Login efetuado com sucesso."
    (some (.object [("usuario_id", .ofInt row.id), ("login", .string row.login)]))) t
  unfold Succeeds
  rw [exec_bind]
  cases hexec : exec (noteAppLog host (userLog "info" "auth" "Login efetuado com sucesso."
      (some (.object [("usuario_id", .ofInt row.id), ("login", .string row.login)])))) t with
  | mk result last =>
    rw [hexec] at hnote
    cases hnote
    exact ⟨_, rfl, rfl⟩

theorem getString_of_getField {args : AppCommands.Args} {key text : String}
    (h : getField args key = some (.string text)) : AppCommands.getString args key = trimText text := by
  unfold AppCommands.getString
  rw [h]
  rfl

theorem eitherString_of_getField {args : AppCommands.Args} {first second text : String}
    (hfirst : getField args first = some (.string text)) (hsecond : getField args second = none) :
    AppCommands.eitherString args first second = trimText text := by
  unfold AppCommands.eitherString
  rw [getString_of_getField hfirst]
  split_ifs with hblank
  · rfl
  · rw [not_not.1 hblank]
    unfold AppCommands.getString
    rw [hsecond]
    rfl

theorem logsInHttp_iff : LogsInHttp host api login senha s ↔
    Succeeds (loginWith host (trimText login) (trimText senha) fun _ user =>
      return ⟨true, "Login efetuado com sucesso.", some host.uuid, some user⟩) s := by
  have hname : AppCommands.Command.ofName "auth_login" = .data .authLogin := by decide
  unfold LogsInHttp AppCommands.executeCommand
  rw [hname]
  dsimp only [AppCommands.dataAnswer]
  rw [eitherString_of_getField rfl rfl, eitherString_of_getField rfl rfl]
  unfold AppCommands.authLoginHttp Succeeds
  rw [exec_bind]
  cases exec (loginWith host (trimText login) (trimText senha) fun _ user =>
      return ⟨true, "Login efetuado com sucesso.", some host.uuid, some user⟩) s with
  | mk result next =>
    cases result with
    | error error => exact iff_of_false (fun ⟨_, h, _⟩ => error_ne_ok h) not_error
    | ok response =>
      constructor
      · rintro ⟨fields, hfields, hsuccess⟩
        cases hfields
        exact ⟨response, rfl, Value.bool.inj (Option.some.inj hsuccess)⟩
      · rintro ⟨other, hother, hsuccess⟩
        cases hother
        exact ⟨_, rfl, congrArg (some ∘ Value.bool) hsuccess⟩

theorem namedUser_trimText : namedUser host (trimText login) s = namedUser host login s := by
  unfold namedUser
  rw [trimText_trimText]

def HasHash (userId : ℤ) (hash : String) (s : Store) : Prop :=
  ∀ user ∈ rowsOf .usuarios s, user "id" = .integer userId → user "senha_hash" = .text hash

theorem hasHash_reassigned {fields : List (String × SqlValue)}
    (hhash : ∀ row, Database.assign catalog (host.dialect .file) .usuarios fields row "senha_hash" =
      .text hash) {rows : List Row} (huser : user ∈ reassigned host .usuarios userId fields rows)
    (hown : user "id" = .integer userId) : user "senha_hash" = .text hash := by
  obtain ⟨row, hrow, rfl⟩ := List.mem_map.1 huser
  split_ifs at hown ⊢ with hsame
  · exact hhash row
  · exact absurd hown hsame

variable {payload : List (String × Value)} {password : String}

theorem exec_admitUser {sessionToken : String} {actorId : ℤ} {input : UserInput}
    {stored : Option String}
    (h : exec (admitUser host sessionToken payload) s = (.ok (actorId, input, stored), next)) :
    readUser host payload = .ok input ∧ passwordHash host input = .ok stored := by
  obtain ⟨actor, s1, -, h⟩ := exec_bind_eq_ok.1 h
  obtain ⟨read, s2, hread, h⟩ := exec_bind_eq_ok.1 h
  obtain ⟨least, s3, -, h⟩ := exec_bind_eq_ok.1 h
  obtain ⟨store, s4, -, h⟩ := exec_bind_eq_ok.1 h
  obtain ⟨checked, s5, -, h⟩ := exec_bind_eq_ok.1 h
  obtain ⟨made, s6, hmade, h⟩ := exec_bind_eq_ok.1 h
  rw [exec_ofExcept] at hread hmade
  cases h
  exact ⟨(Prod.mk.inj hread).1, (Prod.mk.inj hmade).1⟩

theorem hash_of_readUser {input : UserInput} {stored : Option String}
    (hsenha : getField payload "senha" = some (.string password)) (hblank : trimText password ≠ "")
    (hread : readUser host payload = .ok input) (hstored : passwordHash host input = .ok stored) :
    ∃ hash, stored = some hash ∧ host.hashPassword (trimText password) = .ok hash := by
  have hpassword : input.password = some (trimText password) := by
    have hgiven : getString host payload "senha" = some (trimText password) := by
      unfold getString
      rw [hsenha]
      exact Option.filter_some_pos (decide_eq_true hblank)
    unfold readUser at hread
    split at hread
    · cases hread
    · cases hread
    · cases hread
      exact hgiven
  unfold passwordHash at hstored
  rw [hpassword] at hstored
  dsimp only at hstored
  rw [trimText_trimText] at hstored
  split_ifs at hstored
  obtain ⟨hash, hhash, rfl⟩ := map_eq_ok.1 hstored
  exact ⟨hash, rfl, hhash⟩

theorem hasHash_userSave {sessionToken : String} {saved : List (String × Value)}
    (hsenha : getField payload "senha" = some (.string password)) (hblank : trimText password ≠ "")
    (haccepted : exec (Access.userSave host sessionToken payload) s = (.ok saved, next))
    (hsubject : match getI64 payload "id" with
      | some id => id = userId
      | none => ¬ Present .usuarios userId s) :
    ∃ hash, host.hashPassword (trimText password) = .ok hash ∧ HasHash userId hash next := by
  rw [userSave_eq] at haccepted
  obtain ⟨⟨actorId, input, stored⟩, mid, hadmitted, haccepted⟩ := exec_bind_eq_ok.1 haccepted
  have hmid := @spares_admitUser host sessionToken payload .usuarios (by decide) s
  rw [hadmitted] at hmid
  obtain ⟨hread, hstored⟩ := exec_admitUser hadmitted
  obtain ⟨hash, rfl, hhash⟩ := hash_of_readUser hsenha hblank hread hstored
  refine ⟨hash, hhash, fun user huser hid => ?_⟩
  have hinput : input.id = getI64 payload "id" := by
    unfold readUser at hread
    split at hread
    · cases hread
    · cases hread
    · cases hread
      rfl
  rw [← hinput] at hsubject
  cases hsaved : input.id with
  | some id =>
    rw [hsaved] at hsubject
    subst hsubject
    have hrows := @usuarios_storeUser_of_id host sessionToken mid actorId id input (some hash)
      hsaved
    rw [haccepted] at hrows
    split_ifs at hrows with hbreach
    · rw [hrows] at huser
      exact hasHash_reassigned (fun row => rfl) huser hid
    · exfalso
      obtain ⟨breach, hbreach⟩ := Option.ne_none_iff_exists'.1 hbreach
      unfold storeUser upsertRecord at haccepted
      rw [hsaved] at haccepted
      rw [bind_assoc, exec_bind, exec_updateRows_of_breach hbreach] at haccepted
      cases haccepted
  | none =>
    rw [hsaved] at hsubject
    obtain ⟨added, hfresh, hadded⟩ := @usuarios_storeUser_of_new host sessionToken mid actorId
      input (some hash) hsaved
    rw [haccepted] at hadded
    rw [hadded, hmid] at huser
    rcases List.mem_append.1 huser with hold | hnew
    · exact absurd ⟨user, hold, hid⟩ hsubject
    · exact (hfresh user (Option.mem_toList.1 hnew)).2.2.2 hash rfl

theorem hasHash_storePassword (h : exec (storePassword host userId hash) s = (.ok (), next)) :
    HasHash userId hash next := by
  obtain ⟨count, noted, hupdate, h⟩ := exec_bind_eq_ok.1 h
  cases h
  intro user huser hid
  cases hbreach : (s .file).updateBreach catalog (host.dialect .file) .usuarios "id"
      (.integer userId) [("senha_hash", .text hash), ("senha_provisoria", .integer 0),
        ("updated_at", .text host.now)] with
  | some breach =>
    rw [exec_updateRows_of_breach hbreach] at hupdate
    cases hupdate
  | none =>
    rw [exec_updateRows hbreach] at hupdate
    cases hupdate
    unfold rowsOf Database.write at huser
    rw [Function.update_self] at huser
    dsimp only at huser
    rw [Function.update_self] at huser
    exact hasHash_reassigned (fun row => rfl) huser hid

theorem hasHash_replacePassword {answer : Value}
    (h : exec (ofExcept (host.hashPassword password) >>= fun newHash =>
      storePassword host userId newHash >>= fun _ => pure (Value.bool true)) s =
        (.ok answer, next)) :
    ∃ hash, host.hashPassword password = .ok hash ∧ HasHash userId hash next := by
  obtain ⟨hash, hashed, hhash, h⟩ := exec_bind_eq_ok.1 h
  obtain ⟨done, stored, hdone, h⟩ := exec_bind_eq_ok.1 h
  cases h
  rw [exec_ofExcept] at hhash
  exact ⟨hash, (Prod.mk.inj hhash).1, hasHash_storePassword hdone⟩

theorem hasHash_of_accepted {call : PasswordCall} (hcarries : call.Carries password)
    (haccepted : call.Accepted host s next) (hsubject : call.Subject host s userId) :
    ∃ hash, host.hashPassword (trimText password) = .ok hash ∧ HasHash userId hash next := by
  cases call with
  | userSave sessionToken payload =>
    obtain ⟨saved, haccepted⟩ := haccepted
    exact hasHash_userSave hcarries.1 hcarries.2 haccepted hsubject
  | change sessionToken currentPassword newPassword =>
    cases hcarries
    obtain ⟨identity, hidentity, rfl⟩ := hsubject
    obtain ⟨session, s1, hsession, haccepted⟩ := exec_bind_eq_ok.1 haccepted
    rw [hsession] at hidentity
    cases hidentity
    split at haccepted
    · cases haccepted
    · obtain ⟨current, s2, -, haccepted⟩ := exec_bind_eq_ok.1 haccepted
      obtain ⟨verified, s3, -, haccepted⟩ := exec_bind_eq_ok.1 haccepted
      split at haccepted
      · cases haccepted
      · obtain ⟨hash, s4, hhash, haccepted⟩ := exec_bind_eq_ok.1 haccepted
        obtain ⟨done, s5, hdone, haccepted⟩ := exec_bind_eq_ok.1 haccepted
        obtain ⟨noted, s6, hnoted, haccepted⟩ := exec_bind_eq_ok.1 haccepted
        cases haccepted
        rw [exec_ofExcept] at hhash
        refine ⟨hash, (Prod.mk.inj hhash).1, ?_⟩
        have hspared := @spares_noteAppLog host .usuarios (by decide) (userLog "info" "auth"
          "Senha alterada com sucesso."
          (some (.object [("usuario_id", .ofInt identity.userId)]))) s5
        rw [hnoted] at hspared
        unfold HasHash
        rw [hspared]
        exact hasHash_storePassword hdone
  | changeHttp args =>
    obtain ⟨identity, hidentity, rfl⟩ := hsubject
    unfold PasswordCall.Accepted AppCommands.authChangePasswordHttp at haccepted
    dsimp only at haccepted
    rw [getString_of_getField hcarries] at haccepted
    split at haccepted
    · cases haccepted
    · obtain ⟨session, s1, hsession, haccepted⟩ := exec_bind_eq_ok.1 haccepted
      rw [hsession] at hidentity
      cases hidentity
      obtain ⟨current, s2, -, haccepted⟩ := exec_bind_eq_ok.1 haccepted
      -- without a current password nothing is verified
      split at haccepted
      all_goals
        obtain ⟨verified, s3, -, haccepted⟩ := exec_bind_eq_ok.1 haccepted
        split at haccepted
        · cases haccepted
        · exact hasHash_replacePassword haccepted

/-- A password that an accepted call carries round-trips exactly if there are no spaces around it,
for a user that may log in. -/
theorem passwordRoundTrips_iff (host verifier : Host) (api : AppCommands.ApiState)
    (call : PasswordCall) (password login : String) (s next : Store) (userId : ℤ) (user : Row)
    (hargon : Argon2 host verifier) (hcarries : call.Carries password)
    (haccepted : call.Accepted host s next) (hsubject : call.Subject host s userId)
    (hkeyed : Keyed .usuarios next) (hnamed : namedUser verifier login next = some user)
    (hown : user "id" = .integer userId) :
    RoundTrips verifier api login password next ↔
      trimText password = password ∧ CanEnter verifier userId next := by
  obtain ⟨hash, hhash, hstored⟩ := hasHash_of_accepted hcarries haccepted hsubject
  have hmem : user ∈ rowsOf .usuarios next := List.mem_of_find?_eq_some hnamed
  have hfound := userById_of_keyed hkeyed hmem hown
  have huser := hstored user hmem hown
  have hverify (senha : String) : verifier.verifyPassword senha hash = .ok true ↔
      senha = trimText password := by
    rw [hargon _ _ hhash senha]
    exact ⟨fun h => of_decide_eq_true (Except.ok.inj h), fun h => congrArg _ (decide_eq_true h)⟩
  have hdesktop (senha : String) : LogsIn verifier login senha next ↔
      senha = trimText password ∧ CanEnter verifier userId next := by
    rw [logsIn_iff hnamed hfound huser, hverify]
  have hhttp (senha : String) : LogsInHttp verifier api login senha next ↔
      trimText senha = trimText password ∧ CanEnter verifier userId next := by
    rw [logsInHttp_iff, succeeds_loginWith_iff (fun _ _ _ => succeeds_pure.2 rfl)
      (namedUser_trimText.trans hnamed) hfound huser, hverify]
  constructor
  · rintro ⟨⟨hlogin, -⟩, -⟩
    obtain ⟨hsame, henter⟩ := (hdesktop password).1 hlogin
    exact ⟨hsame.symm, henter⟩
  · rintro ⟨hsame, henter⟩
    refine ⟨⟨(hdesktop _).2 ⟨hsame.symm, henter⟩, (hhttp _).2 ⟨rfl, henter⟩⟩, ?_⟩
    rintro senha (hlogin | hlogin)
    · rw [((hdesktop senha).1 hlogin).1, trimText_trimText]
    · exact ((hhttp senha).1 hlogin).1

theorem argon2_plainHost : Argon2 plainHost plainHost := by
  intro password hash hhash other
  cases hhash
  have hsplit : ("salt$" ++ password).toList = 's' :: 'a' :: 'l' :: 't' :: '$' :: password.toList :=
    String.toList_append
  change Except.ok (decide (_ = other.toList)) = _
  rw [hsplit]
  congr 1
  refine decide_eq_decide.2 ?_
  rw [eq_comm, ← String.toList_inj]
  exact Iff.rfl

/-- The tables after Rita has changed her password. -/
def afterChange (newPassword : String) : Store :=
  (exec (authChangePassword plainHost "f00d" "segredo" newPassword) oneMaster).2

/-- Rita, as the change leaves her. -/
def changedRita (newPassword : String) : Row :=
  Database.assign catalog (plainHost.dialect .file) .usuarios
    [("senha_hash", .text ("salt$" ++ newPassword)), ("senha_provisoria", .integer 0),
      ("updated_at", .text plainHost.now)] rita

theorem namedUser_changedRita {newPassword stored : String}
    (h : rowsOf .usuarios (afterChange newPassword) = [changedRita stored]) :
    namedUser plainHost "rita" (afterChange newPassword) = some (changedRita stored) := by
  have hlogin : (plainHost.dialect .file).lower (changedRita stored "login") =
      .text (plainHost.toLowercase (trimText "rita")) := by
    change SqlValue.text ("rita".map Char.toLower) = .text ((trimText "rita").map Char.toLower)
    decide +kernel
  unfold namedUser
  rw [h]
  exact List.find?_cons_of_pos (decide_eq_true hlogin)

/-- Without spaces around it a new password lets its user in. -/
theorem passwordRoundTrips_iff_plain : RoundTrips plainHost plainApi "rita" "novasenha"
      (afterChange "novasenha") :=
  (passwordRoundTrips_iff plainHost plainHost plainApi
    (.change "f00d" "segredo" "novasenha") "novasenha" "rita" oneMaster (afterChange "novasenha") 1
    (changedRita "novasenha") argon2_plainHost rfl (Prod.ext (by decide +kernel) rfl) ⟨⟨1, true⟩, by decide +kernel, rfl⟩
    (List.nodup_singleton _) (namedUser_changedRita rfl) rfl).2
    ⟨by decide, ⟨_, rfl⟩, by decide +kernel, by decide +kernel⟩

/-- A new password with a space in front of it is accepted, and lets its user in without the space
only. -/
theorem not_passwordRoundTrips_spaced :
    (exec (authChangePassword plainHost "f00d" "segredo" " novasenha") oneMaster).1 = .ok true ∧
      LogsIn plainHost "rita" "novasenha" (afterChange " novasenha") ∧
      ¬ RoundTrips plainHost plainApi "rita" " novasenha" (afterChange " novasenha") := by
  have hlogin (senha : String) := @logsIn_iff plainHost (afterChange " novasenha") 1 "rita" senha
    "salt$novasenha" (changedRita "novasenha") (namedUser_changedRita rfl) rfl rfl
  refine ⟨by decide +kernel, (hlogin _).2 ⟨argon2_plainHost "novasenha" _ rfl _, ⟨_, rfl⟩,
    by decide +kernel, by decide +kernel⟩, fun h => ?_⟩
  have hverified := ((hlogin _).1 h.1.1).1
  rw [argon2_plainHost "novasenha" "salt$novasenha" rfl] at hverified
  exact absurd (Except.ok.inj hverified) (by decide)

end Tunnara.Console
