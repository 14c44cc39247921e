/-
# Who passes Basic authentication

`basic_auth` splits the decoded credentials with `split(':', 2)`, which cuts off everything behind
a second colon, and gives `undefined` where there is no colon at all.
-/

import Tunnara.Edge.Fidelity
import Tunnara.Policy.Refusals

namespace Tunnara.Edge

open Policy

/-- An account as it is submitted. -/
structure Account where
  (username password : String)
  username_colon : ':' ∉ username.toList
  password_ne : password ≠ ""

def Account.toJson (account : Account) : Json :=
  .obj [("username", .str account.username), ("password", .str account.password)]

def Account.userPass (account : Account) : String := account.username ++ ":" ++ account.password

variable (host : Host)

def storedAccount (account : Account) : Json :=
  .obj [("username", .str account.username),
    ("passwordHash", .str (host.hashPolicySecret account.password))]

/-- What the code relies on: base64 of UTF-8 decodes, and the stored texts are salted digests of
an injective function. -/
structure HashesPasswords (host : Host) : Prop where
  base64Text : ∀ text, host.base64Text (Base64.encode (utf8Bytes text)) = text
  hash : ∀ text, ∃ salt digest : String, salt ≠ "" ∧ digest ≠ "" ∧ '$' ∉ salt.toList ∧
    '$' ∉ digest.toList ∧ host.hashPolicySecret text = "scrypt$" ++ salt ++ "$" ++ digest ∧
    host.base64url digest = host.scrypt text (host.base64url salt)
  injective : ∀ salt p q, host.scrypt p salt = host.scrypt q salt → p = q

/-- What stands behind `Basic` in the header. -/
def basicCredentials (context : Context) : String :=
  schemeCredentials host "Basic" (context.headers.text "authorization")

def PassesAs (action : Json) (context : Context) (result : PolicyResult) (username : String) :
    Prop :=
  ∃ next, basicAuth host action context result = .ok ⟨next, false⟩ ∧
    next.identity = some { type := "basic", subject := .str username }

/-- The header is `Basic` with the credentials of an account of this name. -/
def Presents (accounts : List Account) (context : Context) (username : String) : Prop :=
  ∃ account ∈ accounts, account.username = username ∧
    basicCredentials host context = Base64.encode (utf8Bytes account.userPass)

/-- **The condition**: no account whose credentials the header carries has a colon in its
password, and a header whose first two fields are those of an account is canonical base64 of a
text with exactly one colon. -/
structure ExactCredentials (accounts : List Account) (context : Context) : Prop where
  colon : ∀ account ∈ accounts,
    basicCredentials host context = Base64.encode (utf8Bytes account.userPass) →
      ':' ∉ account.password.toList
  canonical : ∀ account ∈ accounts,
    presentedBasic host context = (account.username, account.password) →
      basicCredentials host context =
          Base64.encode (utf8Bytes (host.base64Text (basicCredentials host context))) ∧
        (host.base64Text (basicCredentials host context)).toList.count ':' = 1

variable {host} {accounts : List Account} {context : Context} {action stored : List (String × Json)}

theorem normalizeAccount_toJson (account : Account) :
    normalizeAccount host account.toJson = .ok (storedAccount host account) := by
  have husername : (orDefault (some (.str account.username)) (.str "")).toJsString host =
      .ok account.username := by
    unfold orDefault
    dsimp only
    split_ifs with htruthy
    · rfl
    · have hempty : account.username = "" := by simpa [Json.truthy] using htruthy
      rw [hempty]
      rfl
  have hpassword : truthy (some (.str account.password)) = true := by
    simpa [truthy, Json.truthy] using account.password_ne
  have hname : property (some account.toJson) "username" = .ok (some (.str account.username)) := rfl
  have hhash : property (some account.toJson) "passwordHash" = .ok none := rfl
  have hsecret : property (some account.toJson) "password" = .ok (some (.str account.password)) :=
    rfl
  unfold normalizeAccount
  rw [hname, hhash, hsecret]
  dsimp only [bind, Except.bind]
  rw [husername]
  rw [hpassword]
  rfl

theorem normalizeAccounts_toJson (accounts : List Account) :
    normalizeAccounts host (accounts.map Account.toJson) =
      .ok (accounts.map (storedAccount host)) := by
  induction accounts with
  | nil => rfl
  | cons account rest ih =>
    rw [List.map_cons, normalizeAccounts, normalizeAccount_toJson]
    rw [ih]
    rfl

theorem accounts_normalizeAction
    (htype : (stringOf host (Json.lookup action "type")).map host.toLowerCase = .ok "basic_auth")
    (haccounts : Json.lookup action "accounts" = some (.arr (accounts.map Account.toJson)))
    (hstored : normalizeAction host action = .ok stored) :
    list ((Json.obj stored).get? "accounts") = accounts.map (storedAccount host) := by
  unfold normalizeAction at hstored
  rw [htype, haccounts] at hstored
  change (normalizeAccounts host (accounts.map Account.toJson) >>= fun accounts =>
    pure (Json.setField action "accounts" (.arr accounts))) = _ at hstored
  rw [normalizeAccounts_toJson] at hstored
  cases hstored
  change list (Json.lookup _ "accounts") = _
  rw [Json.lookup_setField, if_pos rfl]
  rfl

variable {account : Account}

theorem findAccount_stored (hdistinct : (accounts.map Account.username).Nodup)
    (haccount : account ∈ accounts) :
    findAccount account.username (accounts.map (storedAccount host)) =
      .ok (some (storedAccount host account)) := by
  induction accounts with
  | nil => cases haccount
  | cons first rest ih =>
    rw [List.map_cons, List.nodup_cons] at hdistinct
    rw [List.map_cons, findAccount]
    change (if some (Json.str first.username) = some (.str account.username) then
      Except.ok (some (storedAccount host first))
      else findAccount account.username (rest.map (storedAccount host))) = _
    rcases List.mem_cons.1 haccount with rfl | hrest
    · rw [if_pos rfl]
    · rw [if_neg, ih hdistinct.2 hrest]
      intro hsame
      have hname : first.username = account.username := by simpa using hsame
      exact hdistinct.1 (hname ▸ List.mem_map_of_mem hrest)

theorem findAccount_eq_some {username : String} {found : Json}
    (h : findAccount username (accounts.map (storedAccount host)) = .ok (some found)) :
    ∃ account ∈ accounts, account.username = username ∧ found = storedAccount host account := by
  induction accounts with
  | nil => cases h
  | cons first rest ih =>
    rw [List.map_cons, findAccount] at h
    change (if some (Json.str first.username) = some (.str username) then
      Except.ok (some (storedAccount host first))
      else findAccount username (rest.map (storedAccount host))) = _ at h
    split_ifs at h with hsame
    · cases h
      exact ⟨first, List.mem_cons_self, by simpa using hsame, rfl⟩
    · obtain ⟨account, haccount, hname⟩ := ih h
      exact ⟨account, List.mem_cons_of_mem _ haccount, hname⟩

theorem verifyPassword_of_truthy {encoded : String} (p : String)
    (h : (Json.str encoded).truthy = true) : verifyPassword host p (some (.str encoded)) =
      match splitChar '$' encoded with
      | algorithm :: salt :: expected :: _ =>
        if algorithm ≠ "scrypt" ∨ salt = "" ∨ expected = "" then .ok false
        else .ok (decide (host.scrypt p (host.base64url salt) = host.base64url expected))
      | _ => .ok false := by
  unfold verifyPassword
  dsimp only
  rw [h]
  rfl

theorem verifyPassword_hash (hhost : HashesPasswords host) (p q : String) :
    verifyPassword host p (some (.str (host.hashPolicySecret q))) = .ok (decide (p = q)) := by
  obtain ⟨salt, digest, hsalt, hdigest, hsaltFree, hdigestFree, hhash, hverify⟩ := hhost.hash q
  have hsplit : splitChar '$' (host.hashPolicySecret q) = ["scrypt", salt, digest] := by
    have htext : (host.hashPolicySecret q).toList =
        "scrypt".toList ++ '$' :: (salt.toList ++ '$' :: digest.toList) := by
      rw [hhash]
      simp
    unfold splitChar
    rw [htext, List.splitOn_append_cons_self_of_not_mem (by decide),
      List.splitOn_append_cons_self_of_not_mem hsaltFree, List.splitOn_eq_singleton hdigestFree]
    simp
  have htruthy : (Json.str (host.hashPolicySecret q)).truthy = true := by
    rw [hhash]
    simp [Json.truthy]
  rw [verifyPassword_of_truthy p htruthy, hsplit]
  dsimp only
  rw [if_neg (by simp [hsalt, hdigest]), hverify]
  exact congrArg Except.ok (decide_eq_decide.2 ⟨hhost.injective _ p q, fun h => by rw [h]⟩)

theorem splitChar_colon {first rest : String} (h : ':' ∉ first.toList) :
    splitChar ':' (first ++ ":" ++ rest) = first :: splitChar ':' rest :=
  splitChar_append rfl h

theorem headD_splitChar_eq_iff {text : String} :
    (splitChar ':' text).headD "undefined" = text ↔ ':' ∉ text.toList := by
  by_cases hcolon : ':' ∈ text.toList
  · obtain ⟨first, rest, htext, hfree⟩ := List.eq_append_cons_of_mem hcolon
    have heq : text = String.ofList first ++ ":" ++ String.ofList rest := by
      apply String.toList_injective
      rw [htext]
      simp
    have hpiece : (splitChar ':' text).headD "undefined" = String.ofList first := by
      rw [heq, splitChar_colon (by simpa using hfree)]
      rfl
    rw [hpiece]
    refine iff_of_false ?_ (not_not.2 hcolon)
    intro hsame
    rw [← hsame, String.toList_ofList] at hcolon
    exact hfree hcolon
  · rw [splitChar_of_not_mem hcolon]
    exact iff_of_true rfl hcolon

theorem presented_userPass :
    (splitChar ':' account.userPass).headD "" = account.username ∧
      (((splitChar ':' account.userPass).drop 1).headD "undefined" = account.password ↔
        ':' ∉ account.password.toList) := by
  rw [Account.userPass, splitChar_colon account.username_colon]
  exact ⟨rfl, headD_splitChar_eq_iff⟩

theorem eq_userPass_iff {text : String} (hname : (splitChar ':' text).headD "" = account.username)
    (hpassword : ((splitChar ':' text).drop 1).headD "undefined" = account.password) :
    text = account.userPass ↔ text.toList.count ':' = 1 := by
  by_cases hcolon : ':' ∈ text.toList
  · obtain ⟨first, rest, htext, hfree⟩ := List.eq_append_cons_of_mem hcolon
    have heq : text = String.ofList first ++ ":" ++ String.ofList rest := by
      apply String.toList_injective
      rw [htext]
      simp
    rw [heq, splitChar_colon (by simpa using hfree)] at hname hpassword
    change String.ofList first = account.username at hname
    change (splitChar ':' (String.ofList rest)).headD "undefined" = account.password at hpassword
    have hcount : text.toList.count ':' = rest.count ':' + 1 := by
      rw [htext, List.count_append, List.count_cons_self, List.count_eq_zero.2 hfree, Nat.zero_add]
    rw [hcount, heq, hname, Account.userPass, ← hpassword]
    constructor
    · intro hsame
      have hrest : (splitChar ':' (String.ofList rest)).headD "undefined" = String.ofList rest := by
        apply String.toList_injective
        have htail := congrArg String.toList hsame
        simpa using htail.symm
      rw [headD_splitChar_eq_iff, String.toList_ofList, ← List.count_eq_zero] at hrest
      rw [hrest]
    · intro hone
      have hrest : rest.count ':' = 0 := by omega
      rw [List.count_eq_zero] at hrest
      rw [headD_splitChar_eq_iff.2 (by simpa using hrest)]
  · refine iff_of_false ?_ ?_
    · intro hsame
      apply hcolon
      rw [hsame, Account.userPass]
      simp
    · rw [List.count_eq_zero.2 hcolon]
      decide

theorem accountPasses_iff (hhost : HashesPasswords host)
    (hdistinct : (accounts.map Account.username).Nodup)
    (haccounts : list ((Json.obj stored).get? "accounts") = accounts.map (storedAccount host)) :
    accountPasses host (.obj stored) context = .ok true ↔
      ∃ account ∈ accounts, presentedBasic host context = (account.username, account.password) := by
  unfold accountPasses
  rw [haccounts]
  constructor
  · intro h
    obtain ⟨found, hfound, h⟩ := bind_eq_ok.1 h
    cases found with
    | none => cases h
    | some found =>
      obtain ⟨account, haccount, hname, rfl⟩ := findAccount_eq_some hfound
      change verifyPassword host _ (some (.str (host.hashPolicySecret account.password))) = _ at h
      rw [verifyPassword_hash hhost] at h
      have hpassword := of_decide_eq_true (Except.ok.inj h)
      exact ⟨account, haccount, Prod.ext hname.symm hpassword⟩
  · rintro ⟨account, haccount, hpresented⟩
    rw [hpresented, findAccount_stored hdistinct haccount]
    change verifyPassword host account.password
      (some (.str (host.hashPolicySecret account.password))) = _
    rw [verifyPassword_hash hhost, decide_eq_true rfl]

theorem passesAs_iff (hhost : HashesPasswords host)
    (hdistinct : (accounts.map Account.username).Nodup)
    (haccounts : list ((Json.obj stored).get? "accounts") = accounts.map (storedAccount host))
    (result : PolicyResult) (username : String) :
    PassesAs host (.obj stored) context result username ↔ ∃ account ∈ accounts,
      account.username = username ∧
        presentedBasic host context = (account.username, account.password) := by
  unfold PassesAs
  rw [basicAuth_eq]
  constructor
  · rintro ⟨next, hpass, hidentity⟩
    obtain ⟨passes, hpasses, hpass⟩ := bind_eq_ok.1 hpass
    cases passes with
    | false =>
      rw [if_neg Bool.false_ne_true] at hpass
      obtain ⟨realm, -, hpass⟩ := bind_eq_ok.1 hpass
      cases hpass
    | true =>
      cases hpass
      obtain ⟨account, haccount, hpresented⟩ :=
        (accountPasses_iff hhost hdistinct haccounts).1 hpasses
      have hname : (presentedBasic host context).1 = username := by simpa using hidentity
      exact ⟨account, haccount, by rw [← hname, hpresented], hpresented⟩
  · rintro ⟨account, haccount, rfl, hpresented⟩
    have hpasses := (accountPasses_iff hhost hdistinct haccounts).2 ⟨account, haccount, hpresented⟩
    rw [hpasses]
    exact ⟨_, rfl, by rw [hpresented]⟩

/-- The action recognises exactly the accounts that the header names if and only if the header
meets the condition. -/
theorem passesAs_iff_presents (hhost : HashesPasswords host)
    (hdistinct : (accounts.map Account.username).Nodup)
    (htype : (stringOf host (Json.lookup action "type")).map host.toLowerCase = .ok "basic_auth")
    (haccounts : Json.lookup action "accounts" = some (.arr (accounts.map Account.toJson)))
    (hstored : normalizeAction host action = .ok stored) (context : Context)
    (result : PolicyResult) :
    (∀ username, PassesAs host (.obj stored) context result username ↔
        Presents host accounts context username) ↔ ExactCredentials host accounts context := by
  have hlist := accounts_normalizeAction htype haccounts hstored
  have hunique {first second : Account} (hfirst : first ∈ accounts) (hsecond : second ∈ accounts)
      (hname : first.username = second.username) : first = second :=
    List.inj_on_of_nodup_map hdistinct hfirst hsecond hname
  -- the two fields of the account's own credentials
  have hown {account : Account}
      (hcarried : basicCredentials host context = Base64.encode (utf8Bytes account.userPass)) :
      presentedBasic host context = (account.username, account.password) ↔
        ':' ∉ account.password.toList := by
    have htext : host.base64Text (basicCredentials host context) = account.userPass := by
      rw [hcarried, hhost.base64Text]
    obtain ⟨hname, hpassword⟩ := presented_userPass
    rw [← htext] at hname hpassword
    rw [← hpassword]
    exact Prod.mk.injEq _ _ _ _ ▸ and_iff_right hname
  -- what the header presents, if it is canonical
  have hsame {account : Account}
      (hpresented : presentedBasic host context = (account.username, account.password)) :
      basicCredentials host context = Base64.encode (utf8Bytes account.userPass) ↔
        basicCredentials host context =
            Base64.encode (utf8Bytes (host.base64Text (basicCredentials host context))) ∧
          (host.base64Text (basicCredentials host context)).toList.count ':' = 1 := by
    have hexact := eq_userPass_iff (Prod.mk.inj hpresented).1 (Prod.mk.inj hpresented).2
    constructor
    · intro hcarried
      have htext : host.base64Text (basicCredentials host context) = account.userPass := by
        rw [hcarried, hhost.base64Text]
      exact ⟨by rw [htext]; exact hcarried, hexact.1 htext⟩
    · rintro ⟨hcanonical, hone⟩
      rw [hcanonical]
      exact congrArg (fun text => Base64.encode (utf8Bytes text)) (hexact.2 hone)
  simp only [passesAs_iff hhost hdistinct hlist]
  constructor
  · intro h
    constructor
    · intro account haccount hcarried
      obtain ⟨other, hother, hname, hpresented⟩ :=
        (h account.username).2 ⟨account, haccount, rfl, hcarried⟩
      rw [hunique hother haccount hname] at hpresented
      exact (hown hcarried).1 hpresented
    · intro account haccount hpresented
      obtain ⟨other, hother, hname, hcarried⟩ :=
        (h account.username).1 ⟨account, haccount, rfl, hpresented⟩
      rw [hunique hother haccount hname] at hcarried
      exact (hsame hpresented).1 hcarried
  · intro hexact username
    constructor
    · rintro ⟨account, haccount, hname, hpresented⟩
      exact ⟨account, haccount, hname,
        (hsame hpresented).2 (hexact.canonical account haccount hpresented)⟩
    · rintro ⟨account, haccount, hname, hcarried⟩
      exact ⟨account, haccount, hname, (hown hcarried).2 (hexact.colon account haccount hcarried)⟩

/-- Decodes base64 of UTF-8; its digest of a text is the text itself behind one byte. -/
def digestHost : Host :=
  { Host.plain with
    base64Text := fun text => (String.fromUTF8? ⟨(Base64.decode text).toArray⟩).getD "\uFFFD"
    hashPolicySecret := fun text => "scrypt$AAAA$" ++ Base64.encode (0 :: utf8Bytes text)
    scrypt := fun password _ => 0 :: utf8Bytes password
    base64url := Base64.decode }

theorem dollar_not_mem_encode {bytes : List UInt8} : '$' ∉ (Base64.encode bytes).toList := by
  unfold Base64.encode
  rw [String.toList_ofList]
  intro h
  rcases List.mem_append.1 h with hdigit | hpadding
  · obtain ⟨n, hn, hsame⟩ := List.mem_map.1 hdigit
    have hvalue := Base64.value_digit n (Base64.sextets_lt bytes n hn)
    rw [hsame] at hvalue
    cases hvalue
  · exact absurd (List.eq_of_mem_replicate hpadding) (by decide)

theorem hashesPasswords_digestHost : HashesPasswords digestHost where
  base64Text text := by
    have hread : digestHost.base64Text = fun text =>
        (String.fromUTF8? ⟨(Base64.decode text).toArray⟩).getD "\uFFFD" := rfl
    rw [hread]
    dsimp only
    rw [Base64.decode_encode, fromUTF8?_utf8Bytes]
    rfl
  hash text := by
    refine ⟨"AAAA", Base64.encode (0 :: utf8Bytes text), by decide, ?_, by decide,
      dollar_not_mem_encode, ?_, Base64.decode_encode _⟩
    · intro hempty
      have hbytes := Base64.decode_encode (0 :: utf8Bytes text)
      rw [hempty] at hbytes
      cases hbytes
    · rfl
  injective _ p q h := by
    have hbytes : utf8Bytes p = utf8Bytes q := (List.cons.inj h).2
    have htext := fromUTF8?_utf8Bytes p
    rw [hbytes, fromUTF8?_utf8Bytes] at htext
    exact (Option.some.inj htext).symm

def plainAccount : Account := ⟨"alice", "secret", by decide, by decide⟩

def colonAccount : Account := ⟨"alice", "a:b", by decide, by decide⟩

/-- A `basic_auth` action with one account, as it is submitted. -/
def basicAction (account : Account) : List (String × Json) :=
  [("type", .str "basic_auth"), ("accounts", .arr [account.toJson])]

def storedAction (account : Account) : List (String × Json) :=
  [("type", .str "basic_auth"), ("accounts", .arr [storedAccount digestHost account])]

theorem normalizeAction_basicAction :
    normalizeAction digestHost (basicAction account) = .ok (storedAction account) := by
  change (normalizeAccounts digestHost ([account].map Account.toJson) >>= fun accounts =>
    pure (Json.setField (basicAction account) "accounts" (.arr accounts))) = _
  rw [normalizeAccounts_toJson]
  rfl

def basicContext (account : Account) : Context :=
  { method := "GET"
    host := "app.test"
    path := "/"
    headers :=
      [("authorization", .one ("Basic " ++ Base64.encode (utf8Bytes account.userPass)))]
    sourceIp := "10.0.0.1"
    tunnelId := "t1"
    now := 0
    url := ⟨"/", fun _ => none⟩ }

/-- The account with a colon in its password cannot pass. -/
theorem not_passesAs_colon : ¬ ∀ (accounts : List Account) (action stored : List (String × Json))
    (context : Context) (result : PolicyResult), (accounts.map Account.username).Nodup →
      (stringOf digestHost (Json.lookup action "type")).map digestHost.toLowerCase =
        .ok "basic_auth" →
      Json.lookup action "accounts" = some (.arr (accounts.map Account.toJson)) →
      normalizeAction digestHost action = .ok stored → ∀ username,
        (PassesAs digestHost (.obj stored) context result username ↔
          Presents digestHost accounts context username) := by
  intro h
  have hiff := h [colonAccount] (basicAction colonAccount) (storedAction colonAccount)
    (basicContext colonAccount) (initialResult .null "/") (by decide) rfl rfl
    normalizeAction_basicAction "alice"
  have hcarried : basicCredentials digestHost (basicContext colonAccount) =
      Base64.encode (utf8Bytes colonAccount.userPass) := by decide +kernel
  obtain ⟨account, haccount, -, hpresented⟩ :=
    (passesAs_iff hashesPasswords_digestHost
      (show ([colonAccount].map Account.username).Nodup by decide) rfl _ _).1
      (hiff.2 ⟨colonAccount, List.mem_singleton.2 rfl, rfl, hcarried⟩)
  rw [List.mem_singleton.1 haccount] at hpresented
  exact absurd hpresented (by decide +kernel)

theorem passesAs_iff_presents_plain :
    (∀ username, PassesAs digestHost (.obj (storedAction plainAccount))
        (basicContext plainAccount) (initialResult .null "/") username ↔
      Presents digestHost [plainAccount] (basicContext plainAccount) username) ↔
      ExactCredentials digestHost [plainAccount] (basicContext plainAccount) :=
  passesAs_iff_presents hashesPasswords_digestHost (by decide) rfl rfl
    normalizeAction_basicAction (basicContext plainAccount) (initialResult .null "/")

end Tunnara.Edge
