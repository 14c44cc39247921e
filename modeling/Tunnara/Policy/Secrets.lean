/-
# The secrets of a submitted document

The passwords of `basic_auth` and the keys of `api_key`, in whatever shape they are sent, and the
values of a document that its stored form still shows. The stored document holds these values and
no others.
-/

import Tunnara.Policy.StoredRules

variable {items : List Json} {name : String} {account stored : Json}

namespace Tunnara

namespace Json

mutual

/-- The texts and numbers of a value, at any place. -/
def leaves : Json → List Json
  | .str s => [.str s]
  | .num q => [.num q]
  | .arr items => itemLeaves items
  | .obj fields => fieldLeaves fields
  | .null | .bool _ => []

def itemLeaves : List Json → List Json
  | [] => []
  | item :: rest => leaves item ++ itemLeaves rest

def fieldLeaves : List (String × Json) → List Json
  | [] => []
  | (_, value) :: rest => leaves value ++ fieldLeaves rest

end

variable {v : Json}

theorem mem_itemLeaves : v ∈ itemLeaves items ↔ ∃ item ∈ items, v ∈ item.leaves := by
  induction items with
  | nil => simp [itemLeaves]
  | cons item rest ih => simp [itemLeaves, ih]

variable {fields : List (String × Json)}

theorem mem_fieldLeaves : v ∈ fieldLeaves fields ↔ ∃ f ∈ fields, v ∈ f.2.leaves := by
  induction fields with
  | nil => simp [fieldLeaves]
  | cons f rest ih => simp [fieldLeaves, ih]

theorem fieldLeaves_append (fields later : List (String × Json)) :
    fieldLeaves (fields ++ later) = fieldLeaves fields ++ fieldLeaves later := by
  induction fields with
  | nil => rfl
  | cons f rest ih => simp [fieldLeaves, ih]

theorem mem_fieldLeaves_setField {value : Json} :
    v ∈ fieldLeaves (setField fields name value) ↔
      v ∈ fieldLeaves (fields.filter fun f => f.1 ≠ name) ∨ v ∈ value.leaves := by
  simp only [mem_fieldLeaves, List.mem_filter, decide_eq_true_eq]
  unfold setField
  split_ifs with hany
  · obtain ⟨old, hold, hname⟩ := List.any_eq_true.1 hany
    simp only [List.mem_map]
    constructor
    · rintro ⟨f, ⟨g, hg, rfl⟩, hv⟩
      by_cases hset : g.1 = name
      · rw [if_pos hset] at hv
        exact .inr hv
      · rw [if_neg hset] at hv
        exact .inl ⟨g, ⟨hg, hset⟩, hv⟩
    · rintro (⟨f, ⟨hf, hkept⟩, hv⟩ | hv)
      · exact ⟨f, ⟨f, hf, if_neg hkept⟩, hv⟩
      · exact ⟨(name, value), ⟨old, hold, if_pos (of_decide_eq_true hname)⟩, hv⟩
  · have hkept : ∀ f ∈ fields, f.1 ≠ name := fun f hf heq =>
      hany (List.any_eq_true.2 ⟨f, hf, decide_eq_true heq⟩)
    simp only [List.mem_append, List.mem_singleton]
    constructor
    · rintro ⟨f, hf | rfl, hv⟩
      · exact .inl ⟨f, ⟨hf, hkept f hf⟩, hv⟩
      · exact .inr hv
    · rintro (⟨f, ⟨hf, -⟩, hv⟩ | hv)
      · exact ⟨f, .inl hf, hv⟩
      · exact ⟨_, .inr rfl, hv⟩

theorem leaves_of_lookup {value : Json} (h : lookup fields name = some value)
    (hv : v ∈ value.leaves) : v ∈ fieldLeaves fields := by
  obtain ⟨f, hfind, rfl⟩ := Option.map_eq_some_iff.1 h
  exact mem_fieldLeaves.2 ⟨f, List.mem_of_find?_eq_some hfind, hv⟩

end Json

namespace Policy

open Json

variable (host : Host)

/-! ## Secrets -/

/-- The type of an action, whatever its letter case and the spaces around it. -/
def actionKind (action : List (String × Json)) : Option String :=
  match stringOf host (lookup action "type") with
  | .ok type => some (host.toLowerCase (trim type))
  | .error _ => none

/-- The accounts of an action: a list of them, one account, or an object of accounts. -/
def accountsIn : Option Json → List Json
  | some (.arr items) => items
  | some (.obj fields) => .obj fields :: fields.map (·.2)
  | _ => []

def passwordsIn (account : Json) : List Json :=
  match account.get? "password" with
  | some password => password.leaves.filter Json.truthy
  | none => []

def keysIn : Option Json → List Json
  | some keys => keys.leaves.filter Json.truthy
  | none => []

/-- The passwords and keys of an action. -/
def secretsOfAction (action : List (String × Json)) : List Json :=
  if actionKind host action = some "basic_auth" then
    (accountsIn (lookup action "accounts")).flatMap passwordsIn
  else if actionKind host action = some "api_key" then keysIn (lookup action "keys")
  else []

def actionsOf (raw : Json) : List (List (String × Json)) :=
  (list (lookup (object (some raw)) "actions")).map fun action => object (some action)

def secretsOf (document : Option Json) : List Json :=
  (list (lookup (object document) "rules")).flatMap fun raw =>
    (actionsOf raw).flatMap (secretsOfAction host)

/-! ## What stays visible -/

/-- The type that the normaliser compares. -/
def storedType (action : List (String × Json)) : Except JsError String :=
  (stringOf host (lookup action "type")).map host.toLowerCase

/-- The accounts are replaced: `basic_auth` in any letter case, and a list of accounts. -/
def ReplacesAccounts (action : List (String × Json)) (accounts : List Json) : Prop :=
  storedType host action = .ok "basic_auth" ∧ lookup action "accounts" = some (.arr accounts)

/-- The keys are replaced: `api_key` in any letter case, and a list of keys. -/
def ReplacesKeys (action : List (String × Json)) (keys : List Json) : Prop :=
  storedType host action = .ok "api_key" ∧ lookup action "keys" = some (.arr keys)

/-- What shows of an account: its name and a hash. -/
inductive ShowsAccount (account : Json) : Json → Prop
  | username {text : String}
      (h : (orDefault (account.get? "username") (.str "")).toJsString host = .ok text) :
      ShowsAccount account (.str text)
  | given {hash v : Json} (h : account.get? "passwordHash" = some hash)
      (htruthy : hash.truthy = true) (hv : v ∈ hash.leaves) : ShowsAccount account v
  | hashed {password : Json} {text : String}
      (hnone : truthy (account.get? "passwordHash") = false)
      (h : account.get? "password" = some password) (htruthy : password.truthy = true)
      (htext : password.toJsString host = .ok text) :
      ShowsAccount account (.str (host.hashPolicySecret text))
  | blank (hnone : truthy (account.get? "passwordHash") = false)
      (h : truthy (account.get? "password") = false) : ShowsAccount account (.str "")

inductive ShowsAction (action : List (String × Json)) : Json → Prop
  | plain {v : Json} (haccounts : ∀ accounts, ¬ ReplacesAccounts host action accounts)
      (hkeys : ∀ keys, ¬ ReplacesKeys host action keys) (h : v ∈ fieldLeaves action) :
      ShowsAction action v
  | beside {accounts : List Json} {v : Json} (haccounts : ReplacesAccounts host action accounts)
      (h : v ∈ fieldLeaves (action.filter fun f => f.1 ≠ "accounts")) : ShowsAction action v
  | account {accounts : List Json} {account v : Json}
      (haccounts : ReplacesAccounts host action accounts) (hmem : account ∈ accounts)
      (h : ShowsAccount host account v) : ShowsAction action v
  | besideKeys {keys : List Json} {v : Json} (hkeys : ReplacesKeys host action keys)
      (h : v ∈ fieldLeaves ((action.filter fun f => f.1 ≠ "hashes").filter fun f =>
        f.1 ≠ "keys")) : ShowsAction action v
  | hash {keys hashes : List Json} {v : Json} (hkeys : ReplacesKeys host action keys)
      (hhashes : iterate (lookup action "hashes") = .ok hashes) (h : v ∈ itemLeaves hashes) :
      ShowsAction action v
  | digest {keys : List Json} {key : Json} {text : String}
      (hkeys : ReplacesKeys host action keys) (hmem : key ∈ keys)
      (htext : key.toJsString host = .ok text) : ShowsAction action (.str (host.sha256Hex text))

inductive ShowsCriteria (criteria : List (String × Json)) : Json → Prop
  | method {item : Json} {text : String}
      (hmem : item ∈ (list (lookup criteria "methods")).take 32)
      (htext : item.toJsString host = .ok text) :
      ShowsCriteria criteria (.str (host.toUpperCase text))
  | sourceCidr {item : Json} {text : String}
      (hmem : item ∈ (list (lookup criteria "sourceCidrs")).take 256)
      (htext : item.toJsString host = .ok text) : ShowsCriteria criteria (.str text)
  | pathPrefix {s : String} (h : lookup criteria "pathPrefix" = some (.str s)) :
      ShowsCriteria criteria (.str (sliceTo 4096 s))
  | pathRegex {s : String} (h : lookup criteria "pathRegex" = some (.str s)) :
      ShowsCriteria criteria (.str (sliceTo 512 s))
  | host {s : String} (h : lookup criteria "host" = some (.str s)) :
      ShowsCriteria criteria (.str (sliceTo 255 (host.toLowerCase s)))
  | header {v : Json} (h : v ∈ fieldLeaves (object (lookup criteria "headers"))) :
      ShowsCriteria criteria v

inductive ShowsRule (index : ℕ) (raw : Json) : Json → Prop
  | id {text : String} (h : ruleText host raw "id" s!"rule-{index + 1}" = .ok text) :
      ShowsRule index raw (.str (sliceTo 160 text))
  | name {text : String} (h : ruleText host raw "name" s!"Regra {index + 1}" = .ok text) :
      ShowsRule index raw (.str (sliceTo 240 text))
  | criteria {v : Json} (h : ShowsCriteria host (criteriaOf raw) v) : ShowsRule index raw v
  | action {action : List (String × Json)} {v : Json} (hmem : action ∈ (actionsOf raw).take 100)
      (h : ShowsAction host action v) : ShowsRule index raw v

/-- What shows of a document, with the version and the effect that every stored one has. -/
inductive Shows (document : Option Json) : Json → Prop
  | version : Shows document (.str "1")
  | effect : Shows document (.str (effectOf (object document)))
  | rule {index : ℕ} {raw v : Json}
      (hrule : ((list (lookup (object document) "rules")).take 200)[index]? = some raw)
      (h : ShowsRule host index raw v) : Shows document v

/-! ## Actions -/

variable {host} {action fields : List (String × Json)}

theorem normalizeAction_cases (h : normalizeAction host action = .ok fields) :
    (∃ accounts stored, ReplacesAccounts host action accounts ∧
      normalizeAccounts host accounts = .ok stored ∧
      fields = setField action "accounts" (.arr stored)) ∨
    (∃ keys hashes digests, ReplacesKeys host action keys ∧
      iterate (lookup action "hashes") = .ok hashes ∧
      mapStrings host host.sha256Hex keys = .ok digests ∧
      fields = (setField action "hashes" (.arr (dedup (hashes ++ digests)))).filter
        fun f => f.1 ≠ "keys") ∨
    ((∀ accounts, ¬ ReplacesAccounts host action accounts) ∧
      (∀ keys, ¬ ReplacesKeys host action keys) ∧ fields = action) := by
  obtain ⟨type, htype, h⟩ := bind_eq_ok.1 h
  have hstored : ∀ {kind}, storedType host action = .ok kind ↔ type = kind := by
    intro kind
    unfold storedType
    rw [htype]
    simp
  have hkeyed : ∀ {keys}, normalizeAction.apiKeys host action type keys = .ok fields →
      lookup action "keys" = keys → (∀ accounts, ¬ ReplacesAccounts host action accounts) →
      (∃ keys hashes digests, ReplacesKeys host action keys ∧
        iterate (lookup action "hashes") = .ok hashes ∧
        mapStrings host host.sha256Hex keys = .ok digests ∧
        fields = (setField action "hashes" (.arr (dedup (hashes ++ digests)))).filter
          fun f => f.1 ≠ "keys") ∨
      ((∀ accounts, ¬ ReplacesAccounts host action accounts) ∧
        (∀ keys, ¬ ReplacesKeys host action keys) ∧ fields = action) := by
    intro keys hrun hlookup haccounts
    unfold normalizeAction.apiKeys at hrun
    split at hrun
    · next items =>
      split_ifs at hrun with hapi
      · obtain ⟨hashes, hhashes, hrun⟩ := bind_eq_ok.1 hrun
        obtain ⟨digests, hdigests, hrun⟩ := bind_eq_ok.1 hrun
        exact .inl ⟨items, hashes, digests, ⟨hstored.2 hapi, hlookup⟩, hhashes, hdigests,
          (Except.ok.inj hrun).symm⟩
      · exact .inr ⟨haccounts, fun _ hkeys => hapi (hstored.1 hkeys.1), (Except.ok.inj hrun).symm⟩
    · next hother =>
      refine .inr ⟨haccounts, fun items hkeys => ?_, (Except.ok.inj hrun).symm⟩
      exact hother items (hlookup.symm.trans hkeys.2)
  split at h
  · next accounts haccounts =>
    split_ifs at h with hbasic
    · obtain ⟨stored, hnormal, h⟩ := bind_eq_ok.1 h
      exact .inl ⟨accounts, stored, ⟨hstored.2 hbasic, haccounts⟩, hnormal, (Except.ok.inj h).symm⟩
    · exact .inr (hkeyed h rfl fun _ hreplaces => hbasic (hstored.1 hreplaces.1))
  · next hother =>
    exact .inr (hkeyed h rfl fun accounts hreplaces => hother accounts hreplaces.2)

theorem property_eq_ok {value : Option Json} (h : property (some account) name = .ok value) :
    value = account.get? name := by
  cases account with
  | null => cases h
  | _ => exact (Except.ok.inj h).symm

theorem normalizeAccount_eq_ok (h : normalizeAccount host account = .ok stored) : ∃ username hash,
      (orDefault (account.get? "username") (.str "")).toJsString host = .ok username ∧
      stored = .obj [("username", .str username), ("passwordHash", hash)] ∧
      ((truthy (account.get? "passwordHash") = true ∧ account.get? "passwordHash" = some hash) ∨
      (truthy (account.get? "passwordHash") = false ∧ ∃ password text,
        account.get? "password" = some password ∧ password.truthy = true ∧
        password.toJsString host = .ok text ∧ hash = .str (host.hashPolicySecret text)) ∨
      (truthy (account.get? "passwordHash") = false ∧
        truthy (account.get? "password") = false ∧ hash = .str "")) := by
  obtain ⟨name, hname, h⟩ := bind_eq_ok.1 h
  obtain ⟨username, husername, h⟩ := bind_eq_ok.1 h
  obtain ⟨passwordHash, hhash, h⟩ := bind_eq_ok.1 h
  obtain ⟨password, hpassword, h⟩ := bind_eq_ok.1 h
  rw [property_eq_ok hname] at husername
  rw [property_eq_ok hhash, property_eq_ok hpassword] at h
  split_ifs at h with hgiven hset
  · cases hread : account.get? "passwordHash" with
    | none =>
      rw [hread] at hgiven
      cases hgiven
    | some given =>
      rw [hread] at hgiven h
      exact ⟨username, given, husername, (Except.ok.inj h).symm, .inl ⟨hgiven, rfl⟩⟩
  · cases hread : account.get? "password" with
    | none =>
      rw [hread] at hset
      cases hset
    | some password =>
      rw [hread] at hset h
      obtain ⟨hash, hhash, h⟩ := bind_eq_ok.1 h
      obtain ⟨text, htext, rfl⟩ := map_eq_ok.1 hhash
      exact ⟨username, _, husername, (Except.ok.inj h).symm,
        .inr (.inl ⟨by simpa using hgiven, password, text, rfl, hset, htext, rfl⟩)⟩
  · exact ⟨username, _, husername, (Except.ok.inj h).symm,
      .inr (.inr ⟨by simpa using hgiven, by simpa using hset, rfl⟩)⟩

variable {v : Json}

theorem mem_leaves_account (h : normalizeAccount host account = .ok stored) :
    v ∈ stored.leaves ↔ ShowsAccount host account v := by
  obtain ⟨username, hash, husername, rfl, hhash⟩ := normalizeAccount_eq_ok h
  have hleaves : v ∈ (Json.obj [("username", .str username), ("passwordHash", hash)]).leaves ↔
      v = .str username ∨ v ∈ hash.leaves := by
    simp [leaves, fieldLeaves]
  rw [hleaves]
  have hname : ∀ {text}, (orDefault (account.get? "username") (.str "")).toJsString host =
      .ok text → text = username := fun htext => Except.ok.inj (htext.symm.trans husername)
  rcases hhash with ⟨hgiven, hread⟩ | ⟨hnone, password, text, hread, hset, htext, rfl⟩ |
    ⟨hnone, hblank, rfl⟩
  · have htruthy : hash.truthy = true := by
      rw [hread] at hgiven
      exact hgiven
    constructor
    · rintro (rfl | hv)
      · exact .username husername
      · exact .given hread htruthy hv
    · rintro (hv | ⟨hother, -, hv⟩ | ⟨hfalse, -, -, -⟩ | ⟨hfalse, -⟩)
      · exact .inl (by rw [hname hv])
      · cases hread.symm.trans hother
        exact .inr hv
      · rw [hgiven] at hfalse
        cases hfalse
      · rw [hgiven] at hfalse
        cases hfalse
  · constructor
    · rintro (rfl | hv)
      · exact .username husername
      · rw [leaves, List.mem_singleton] at hv
        subst hv
        exact .hashed hnone hread hset htext
    · rintro (hv | ⟨hother, htruthy, hv⟩ | ⟨-, hother, -, hsame⟩ | ⟨-, hfalse⟩)
      · exact .inl (by rw [hname hv])
      · rw [hother] at hnone
        exact absurd (htruthy.symm.trans hnone) nofun
      · cases hread.symm.trans hother
        cases htext.symm.trans hsame
        exact .inr (by simp [leaves])
      · rw [hread] at hfalse
        exact absurd (hset.symm.trans hfalse) nofun
  · constructor
    · rintro (rfl | hv)
      · exact .username husername
      · rw [leaves, List.mem_singleton] at hv
        subst hv
        exact .blank hnone hblank
    · rintro (hv | ⟨hother, htruthy, hv⟩ | ⟨-, hother, htruthy, -⟩ | -)
      · exact .inl (by rw [hname hv])
      · rw [hother] at hnone
        exact absurd (htruthy.symm.trans hnone) nofun
      · rw [hother] at hblank
        exact absurd (htruthy.symm.trans hblank) nofun
      · exact .inr (by simp [leaves])

theorem mem_leaves_accounts {accounts stored : List Json}
    (h : normalizeAccounts host accounts = .ok stored) :
    v ∈ itemLeaves stored ↔ ∃ account ∈ accounts, ShowsAccount host account v := by
  induction accounts generalizing stored with
  | nil =>
    cases h
    simp [itemLeaves]
  | cons account rest ih =>
    obtain ⟨first, hfirst, h⟩ := bind_eq_ok.1 h
    obtain ⟨later, hlater, h⟩ := bind_eq_ok.1 h
    cases h
    simp [itemLeaves, mem_leaves_account hfirst, ih hlater]

theorem mem_leaves_mapStrings {f : String → String} {out : List Json}
    (h : mapStrings host f items = .ok out) :
    v ∈ itemLeaves out ↔ ∃ item ∈ items, ∃ text, item.toJsString host = .ok text ∧
      v = .str (f text) := by
  induction items generalizing out with
  | nil =>
    cases h
    simp [itemLeaves]
  | cons item rest ih =>
    obtain ⟨text, htext, h⟩ := bind_eq_ok.1 h
    obtain ⟨later, hlater, h⟩ := bind_eq_ok.1 h
    cases h
    simp [itemLeaves, leaves, htext, ih hlater]

theorem mem_dedup : v ∈ dedup items ↔ v ∈ items := by
  induction items with
  | nil => rfl
  | cons item rest ih =>
    obtain ⟨keeps, hkeeps, hdedup⟩ : ∃ keeps : Json → Bool,
        (∀ other, other ≠ item → keeps other = true) ∧
        dedup (item :: rest) = item :: (dedup rest).filter keeps :=
      ⟨_, fun other hne => by simp [hne], rfl⟩
    rw [hdedup, List.mem_cons, List.mem_cons, List.mem_filter, ih]
    constructor
    · rintro (hfirst | ⟨hlater, -⟩)
      · exact .inl hfirst
      · exact .inr hlater
    · rintro (hfirst | hlater)
      · exact .inl hfirst
      · by_cases hsame : v = item
        · exact .inl hsame
        · exact .inr ⟨hlater, hkeeps v hsame⟩

theorem mem_fieldLeaves_hashes {hashes : Json} :
    v ∈ fieldLeaves ((setField action "hashes" hashes).filter fun f => f.1 ≠ "keys") ↔
      v ∈ fieldLeaves ((action.filter fun f => f.1 ≠ "hashes").filter fun f => f.1 ≠ "keys") ∨
        v ∈ hashes.leaves := by
  have hfilter : (setField action "hashes" hashes).filter (fun f => f.1 ≠ "keys") =
      setField (action.filter fun f => f.1 ≠ "keys") "hashes" hashes := by
    have hany : ((action.filter fun f => f.1 ≠ "keys").any fun f => f.1 = "hashes") =
        action.any fun f => f.1 = "hashes" := by
      rw [List.any_filter]
      congr 1
      funext f
      by_cases hname : f.1 = "hashes"
      · simp [hname]
      · simp [hname]
    have hkept : ((fun f : String × Json => decide (f.1 ≠ "keys")) ∘
        fun f => if f.1 = "hashes" then ("hashes", hashes) else f) =
        fun f => decide (f.1 ≠ "keys") := by
      funext f
      by_cases hname : f.1 = "hashes"
      · simp [hname]
      · simp [hname]
    unfold setField
    rw [hany]
    split_ifs
    · rw [List.filter_map, hkept]
    · rw [List.filter_append]
      rfl
  rw [hfilter, mem_fieldLeaves_setField]
  simp only [List.filter_filter, Bool.and_comm]

theorem mem_leaves_action (h : normalizeAction host action = .ok fields) :
    v ∈ fieldLeaves fields ↔ ShowsAction host action v := by
  rcases normalizeAction_cases h with ⟨accounts, stored, hreplaces, hstored, rfl⟩ |
    ⟨keys, hashes, digests, hreplaces, hhashes, hdigests, rfl⟩ | ⟨haccounts, hkeys, rfl⟩
  · have hnokeys : ∀ keys, ¬ ReplacesKeys host action keys := fun keys hkeys =>
      absurd (Except.ok.inj (hkeys.1.symm.trans hreplaces.1)) (by decide)
    rw [mem_fieldLeaves_setField, leaves, mem_leaves_accounts hstored]
    constructor
    · rintro (hv | ⟨account, hmem, hv⟩)
      · exact .beside hreplaces hv
      · exact .account hreplaces hmem hv
    · rintro (⟨hnone, -, -⟩ | ⟨-, hv⟩ | ⟨hother, hmem, hv⟩ | ⟨hkeys, -⟩ | ⟨hkeys, -, -⟩ |
        ⟨hkeys, -, -⟩)
      · exact absurd hreplaces (hnone accounts)
      · exact .inl hv
      · cases hreplaces.2.symm.trans hother.2
        exact .inr ⟨_, hmem, hv⟩
      · exact absurd hkeys (hnokeys _)
      · exact absurd hkeys (hnokeys _)
      · exact absurd hkeys (hnokeys _)
  · have hnoaccounts : ∀ accounts, ¬ ReplacesAccounts host action accounts :=
      fun accounts haccounts =>
        absurd (Except.ok.inj (haccounts.1.symm.trans hreplaces.1)) (by decide)
    rw [mem_fieldLeaves_hashes, leaves]
    have hparts : v ∈ itemLeaves (dedup (hashes ++ digests)) ↔
        v ∈ itemLeaves hashes ∨ v ∈ itemLeaves digests := by
      simp only [mem_itemLeaves, mem_dedup, List.mem_append, or_and_right, exists_or]
    rw [hparts, mem_leaves_mapStrings hdigests]
    constructor
    · rintro (hv | hv | ⟨key, hmem, text, htext, rfl⟩)
      · exact .besideKeys hreplaces hv
      · exact .hash hreplaces hhashes hv
      · exact .digest hreplaces hmem htext
    · rintro (⟨-, hnone, -⟩ | ⟨haccounts, -⟩ | ⟨haccounts, -, -⟩ | ⟨-, hv⟩ | ⟨-, hother, hv⟩ |
        ⟨hother, hmem, htext⟩)
      · exact absurd hreplaces (hnone keys)
      · exact absurd haccounts (hnoaccounts _)
      · exact absurd haccounts (hnoaccounts _)
      · exact .inl hv
      · cases hhashes.symm.trans hother
        exact .inr (.inl hv)
      · cases hreplaces.2.symm.trans hother.2
        exact .inr (.inr ⟨_, hmem, _, htext, rfl⟩)
  · constructor
    · exact .plain haccounts hkeys
    · rintro (⟨-, -, hv⟩ | ⟨hreplaces, -⟩ | ⟨hreplaces, -, -⟩ | ⟨hreplaces, -⟩ |
        ⟨hreplaces, -, -⟩ | ⟨hreplaces, -, -⟩)
      · exact hv
      · exact absurd hreplaces (haccounts _)
      · exact absurd hreplaces (haccounts _)
      · exact absurd hreplaces (hkeys _)
      · exact absurd hreplaces (hkeys _)
      · exact absurd hreplaces (hkeys _)

/-! ## Rules and documents -/

theorem mem_fieldLeaves_stringField {w : Option Json} {f : String → String} :
    v ∈ fieldLeaves (stringField name w f) ↔ ∃ s, w = some (.str s) ∧ v = .str (f s) := by
  rcases w with _ | (_ | _ | _ | s | _ | _) <;> simp [stringField, fieldLeaves, leaves]

theorem mem_leaves_criteria {raw : List (String × Json)} {criteria : Json}
    (h : normalizeMatch host raw = .ok criteria) :
    v ∈ criteria.leaves ↔ ShowsCriteria host raw v := by
  obtain ⟨methods, hmethods, h⟩ := bind_eq_ok.1 h
  obtain ⟨cidrs, hcidrs, h⟩ := bind_eq_ok.1 h
  cases h
  have hfirst : v ∈ fieldLeaves [("methods", Json.arr methods)] ↔ v ∈ itemLeaves methods := by
    simp [fieldLeaves, leaves]
  have hlast : v ∈ fieldLeaves [("sourceCidrs", Json.arr cidrs),
      ("headers", .obj (object (lookup raw "headers")))] ↔
      v ∈ itemLeaves cidrs ∨ v ∈ fieldLeaves (object (lookup raw "headers")) := by
    simp [fieldLeaves, leaves]
  rw [leaves]
  simp only [fieldLeaves_append, List.mem_append, mem_fieldLeaves_stringField]
  rw [hfirst, hlast, mem_leaves_mapStrings hmethods, mem_leaves_mapStrings hcidrs]
  constructor
  · rintro ((((⟨item, hmem, text, htext, rfl⟩ | ⟨s, hs, rfl⟩) | ⟨s, hs, rfl⟩) | ⟨s, hs, rfl⟩) |
      ⟨item, hmem, text, htext, rfl⟩ | hv)
    · exact .method hmem htext
    · exact .pathPrefix hs
    · exact .pathRegex hs
    · exact .host hs
    · exact .sourceCidr hmem htext
    · exact .header hv
  · rintro (⟨hmem, htext⟩ | ⟨hmem, htext⟩ | hs | hs | hs | hv)
    · exact .inl (.inl (.inl (.inl ⟨_, hmem, _, htext, rfl⟩)))
    · exact .inr (.inl ⟨_, hmem, _, htext, rfl⟩)
    · exact .inl (.inl (.inl (.inr ⟨_, hs, rfl⟩)))
    · exact .inl (.inl (.inr ⟨_, hs, rfl⟩))
    · exact .inl (.inr ⟨_, hs, rfl⟩)
    · exact .inr (.inr hv)

theorem mem_leaves_actions {actions : List (List (String × Json))} {stored : List Json}
    (h : normalizeActions host (actions.map Json.obj) = .ok stored) :
    v ∈ itemLeaves stored ↔ ∃ action ∈ actions, ShowsAction host action v := by
  induction actions generalizing stored with
  | nil =>
    cases h
    simp [itemLeaves]
  | cons action rest ih =>
    obtain ⟨fields, hfields, h⟩ := bind_eq_ok.1 h
    obtain ⟨later, hlater, h⟩ := bind_eq_ok.1 h
    cases h
    have hfirst : normalizeAction host action = .ok fields := hfields
    simp [itemLeaves, leaves, mem_leaves_action hfirst, ih hlater]

theorem keptActions_eq (raw : Json) :
    keptActions raw = ((actionsOf raw).take 100).map Json.obj := by
  unfold actionsOf
  rw [← List.map_take, List.map_map]
  rfl

theorem mem_leaves_rule {index : ℕ} {raw : Json} (h : StoredRule host index raw stored) :
    v ∈ stored.leaves ↔ ShowsRule host index raw v := by
  obtain ⟨id, name, criteria, actions, hid, hname, hcriteria, hactions, rfl⟩ := h.parts
  rw [keptActions_eq] at hactions
  have hleaves : v ∈ (ruleOf (sliceTo 160 id) (sliceTo 240 name)
      (notFalse (lookup (object (some raw)) "enabled"))
      (notFalse (lookup (object (some raw)) "stop")) criteria actions).leaves ↔
      v = .str (sliceTo 160 id) ∨ v = .str (sliceTo 240 name) ∨ v ∈ criteria.leaves ∨
        v ∈ itemLeaves actions := by
    simp [ruleOf, leaves, fieldLeaves]
  rw [hleaves, mem_leaves_criteria hcriteria, mem_leaves_actions hactions]
  constructor
  · rintro (rfl | rfl | hv | ⟨action, hmem, hv⟩)
    · exact .id hid
    · exact .name hname
    · exact .criteria hv
    · exact .action hmem hv
  · rintro (hother | hother | hv | ⟨hmem, hv⟩)
    · cases hid.symm.trans hother
      exact .inl rfl
    · cases hname.symm.trans hother
      exact .inr (.inl rfl)
    · exact .inr (.inr (.inl hv))
    · exact .inr (.inr (.inr ⟨_, hmem, hv⟩))

theorem mem_leaves_rules {index : ℕ} {raws rules : List Json}
    (h : StoredRules host index raws rules) :
    v ∈ itemLeaves rules ↔ ∃ k raw, raws[k]? = some raw ∧ ShowsRule host (index + k) raw v := by
  induction h with
  | nil => simp [itemLeaves]
  | @cons index raw stored raws rules hrule hrest ih =>
    rw [itemLeaves, List.mem_append, mem_leaves_rule hrule, ih]
    constructor
    · rintro (hv | ⟨k, other, hget, hv⟩)
      · exact ⟨0, raw, rfl, hv⟩
      · exact ⟨k + 1, other, hget, by rwa [Nat.add_right_comm] at hv⟩
    · rintro ⟨k, other, hget, hv⟩
      cases k with
      | zero =>
        cases hget
        exact .inl hv
      | succ k => exact .inr ⟨k, other, hget, by rwa [Nat.add_right_comm]⟩

theorem mem_leaves_stored {document : Option Json}
    (h : normalizePolicyInput host document = .ok stored) :
    v ∈ stored.leaves ↔ Shows host document v := by
  obtain ⟨rules, hrules, rfl⟩ := normalizePolicyInput_eq_ok.1 h
  have hleaves : v ∈ (documentOf (effectOf (object document))
      (notFalse (lookup (object document) "enabled")) rules).leaves ↔
      v = .str "1" ∨ v = .str (effectOf (object document)) ∨ v ∈ itemLeaves rules := by
    simp [documentOf, leaves, fieldLeaves]
  rw [hleaves, mem_leaves_rules hrules]
  constructor
  · rintro (rfl | rfl | ⟨k, raw, hget, hv⟩)
    · exact .version
    · exact .effect
    · rw [Nat.zero_add] at hv
      exact .rule hget hv
  · rintro (_ | _ | ⟨hget, hv⟩)
    · exact .inl rfl
    · exact .inr (.inl rfl)
    · exact .inr (.inr ⟨_, _, hget, by rwa [Nat.zero_add]⟩)

/-! ## Secrets that are not replaced -/

theorem mem_leaves_of_passwordsIn (h : v ∈ passwordsIn account) : v ∈ account.leaves := by
  unfold passwordsIn at h
  split at h
  · next password hread =>
    cases account with
    | obj fields =>
      rw [leaves]
      exact leaves_of_lookup hread (List.mem_of_mem_filter h)
    | _ => cases hread
  · exact absurd h List.not_mem_nil

theorem mem_leaves_of_accountsIn {accounts : Json} (h : account ∈ accountsIn (some accounts))
    (hv : v ∈ account.leaves) : v ∈ accounts.leaves := by
  cases accounts with
  | arr items => exact mem_itemLeaves.2 ⟨account, h, hv⟩
  | obj fields =>
    rcases List.mem_cons.1 h with rfl | hmem
    · exact hv
    · obtain ⟨f, hf, rfl⟩ := List.mem_map.1 hmem
      exact mem_fieldLeaves.2 ⟨f, hf, hv⟩
  | _ => cases h

theorem mem_fieldLeaves_of_secret (h : v ∈ secretsOfAction host action) :
    v ∈ fieldLeaves action := by
  unfold secretsOfAction at h
  split_ifs at h
  · obtain ⟨account, haccount, hv⟩ := List.mem_flatMap.1 h
    cases hread : lookup action "accounts" with
    | none =>
      rw [hread] at haccount
      cases haccount
    | some accounts =>
      rw [hread] at haccount
      exact leaves_of_lookup hread
        (mem_leaves_of_accountsIn haccount (mem_leaves_of_passwordsIn hv))
  · cases hread : lookup action "keys" with
    | none =>
      rw [hread] at h
      cases h
    | some keys =>
      rw [hread] at h
      exact leaves_of_lookup hread (List.mem_of_mem_filter h)
  · cases h

end Policy

end Tunnara
