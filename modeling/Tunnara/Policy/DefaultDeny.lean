/-
# What an allowed request has passed

The decision is one mutable result that the actions of several rules overwrite, so the flag at the
end is that of the last action that set it: the invariant carries, next to the flag, the actions
that were executed since. `RulesRun` records which rules were visited and which actions each visit
executed, with the decision and the rate-limit buckets it found and left.
-/

import Tunnara.Data.Attempt
import Tunnara.Policy.Engine

namespace Tunnara.Policy

open Attempt

variable (host : Host)

/-! ## What the actions ask for -/

/-- `String(action.type || '').toLowerCase()`. -/
def actionType (action : Json) : Except JsError String := do
  let rawType ← property (some action) "type"
  let text ← textOr host rawType ""
  return host.toLowerCase text

/-- User name and password of the `Authorization` header. -/
def presentedBasic (context : Context) : String × String :=
  let encoded := schemeCredentials host "Basic" (context.headers.text "authorization")
  let parts := splitChar ':' (host.base64Text encoded)
  (parts.headD "", (parts.drop 1).headD "undefined")

/-- The API key the request carries where the action looks for it. -/
def presentedKey (action : Json) (context : Context) : Except JsError String :=
  if truthy (action.get? "header") then
    (textOr host (action.get? "header") "").map fun name =>
      context.headers.text (host.toLowerCase name)
  else if truthy (action.get? "query") then
    (textOr host (action.get? "query") "").map fun name => (context.url.searchParam name).getD ""
  else pure ""

/-- An account of the action has the user name, and the password is its password. -/
def BasicVerified (action : Json) (context : Context) : Prop :=
  ∃ account, findAccount (presentedBasic host context).1 (list (action.get? "accounts")) =
      .ok (some account) ∧
    verifyPassword host (presentedBasic host context).2 (account.get? "passwordHash") = .ok true

/-- The hash of the key is one of those of the action. -/
def KeyVerified (action : Json) (context : Context) : Prop :=
  ∃ key, presentedKey host action context = .ok key ∧
    ∃ hash ∈ list (action.get? "hashes"), hash.toJsString host = .ok (host.sha256Hex key)

/-- The bearer token verifies, and the header for its claims, if any, can be named. -/
def BearerVerified (action : Json) (context : Context) : Prop :=
  let token := schemeCredentials host "Bearer" (context.headers.text "authorization")
  token ≠ "" ∧ ∃ payload, host.verifyJwt token action = .ok payload ∧
    (truthy (action.get? "forwardClaimsHeader") →
      ∃ name, textOr host (action.get? "forwardClaimsHeader") "" = .ok name)

/-- The requests counted so far, this one included, are within the limit. -/
def WithinLimit (action : Json) (context : Context) (policyId : Json) (left : RateBuckets) : Prop :=
  ∃ limit keyTemplate policyText bucket, numberOr host (action.get? "requests") 60 = .ok limit ∧
    textOr host (action.get? "key") "sourceIp" = .ok keyTemplate ∧
    policyId.toJsString host = .ok policyText ∧
    left.get? (policyText ++ ":" ++ rateIdentity host context keyTemplate) = some bucket ∧
    (JsNumber.max 1 limit).exceeds bucket.count = false

/-! ## What was executed -/

/-- One executed action, with what it found and what it left. -/
structure Executed where
  action : Json
  before : PolicyResult
  found : RateBuckets
  outcome : Outcome
  left : RateBuckets

/-- A matching rule and the actions of it that were executed. -/
structure Visit where
  rule : Json
  executed : List Executed

/-- The decision with the name of the rule added. -/
def PolicyResult.matching (result : PolicyResult) (rule : Json) : PolicyResult :=
  { result with matchedRules := result.matchedRules ++
      [orDefault (rule.get? "name") (orDefault (rule.get? "id") (.str "unnamed"))] }

section Runs

variable (context : Context) (policyId : Json)

/-- The actions of a rule are executed in order until one is terminal. -/
inductive ActionsRun : List Json → PolicyResult → RateBuckets → List Executed → PolicyResult →
    RateBuckets → Prop
  | done {result : PolicyResult} {buckets : RateBuckets} :
      ActionsRun [] result buckets [] result buckets
  | terminal {action : Json} {rest : List Json} {result : PolicyResult}
      {buckets left : RateBuckets} {outcome : Outcome}
      (hexec : exec (executeAction host action context result policyId) buckets =
        (.ok outcome, left))
      (hterminal : outcome.terminal = true) :
      ActionsRun (action :: rest) result buckets [⟨action, result, buckets, outcome, left⟩]
        outcome.result left
  | next {action : Json} {rest : List Json} {result last : PolicyResult}
      {buckets left final : RateBuckets} {outcome : Outcome} {executed : List Executed}
      (hexec : exec (executeAction host action context result policyId) buckets =
        (.ok outcome, left))
      (hterminal : outcome.terminal = false)
      (hrest : ActionsRun rest outcome.result left executed last final) :
      ActionsRun (action :: rest) result buckets
        (⟨action, result, buckets, outcome, left⟩ :: executed) last final

/-- The matching rules are visited in order until one does not say `stop: false`. -/
inductive RulesRun : List Json → PolicyResult → RateBuckets → List Visit → PolicyResult →
    RateBuckets → Prop
  | done {result : PolicyResult} {buckets : RateBuckets} : RulesRun [] result buckets [] result buckets
  | skip {rule : Json} {rest : List Json} {result last : PolicyResult}
      {buckets final : RateBuckets} {visits : List Visit}
      (hskip : ruleApplies host context rule = .ok false)
      (hrest : RulesRun rest result buckets visits last final) :
      RulesRun (rule :: rest) result buckets visits last final
  | stop {rule : Json} {rest : List Json} {result last : PolicyResult}
      {buckets final : RateBuckets} {executed : List Executed}
      (happlies : ruleApplies host context rule = .ok true)
      (hactions : ActionsRun host context policyId (list (rule.get? "actions"))
        (result.matching rule) buckets executed last final)
      (hstop : notFalse (rule.get? "stop") = true) :
      RulesRun (rule :: rest) result buckets [⟨rule, executed⟩] last final
  | next {rule : Json} {rest : List Json} {result middle last : PolicyResult}
      {buckets left final : RateBuckets} {executed : List Executed} {visits : List Visit}
      (happlies : ruleApplies host context rule = .ok true)
      (hactions : ActionsRun host context policyId (list (rule.get? "actions"))
        (result.matching rule) buckets executed middle left)
      (hstop : notFalse (rule.get? "stop") = false)
      (hrest : RulesRun rest middle left visits last final) :
      RulesRun (rule :: rest) result buckets (⟨rule, executed⟩ :: visits) last final

end Runs

namespace Executed

variable (context : Context) (policyId : Json)

/-- It was an `allow`. -/
def Allows (executed : Executed) : Prop := actionType host executed.action = .ok "allow"

/-- It decided nothing, and what it asked of the request was there. -/
structure Passed (executed : Executed) : Prop where
  decides : ∃ type, actionType host executed.action = .ok type ∧
    type ≠ "allow" ∧ type ≠ "deny" ∧ type ≠ "redirect"
  basic : actionType host executed.action = .ok "basic_auth" →
    BasicVerified host executed.action context
  key : actionType host executed.action = .ok "api_key" → KeyVerified host executed.action context
  bearer : actionType host executed.action = .ok "jwt" ∨
      actionType host executed.action = .ok "oidc" →
    BearerVerified host executed.action context
  limit : actionType host executed.action = .ok "rate_limit" →
    WithinLimit host executed.action context policyId executed.left

/-- It refused the request. -/
inductive Refuses (executed : Executed) : Prop
  | deny (htype : actionType host executed.action = .ok "deny")
  | redirect (htype : actionType host executed.action = .ok "redirect")
  | basic (htype : actionType host executed.action = .ok "basic_auth")
      (hfails : ¬ BasicVerified host executed.action context)
  | key (htype : actionType host executed.action = .ok "api_key")
      (hfails : ¬ KeyVerified host executed.action context)
  | bearer (htype : actionType host executed.action = .ok "jwt" ∨
        actionType host executed.action = .ok "oidc")
      (hfails : ¬ BearerVerified host executed.action context)
  | limit (htype : actionType host executed.action = .ok "rate_limit")
      (hfails : ¬ WithinLimit host executed.action context policyId executed.left)

variable {host context policyId}

theorem Passed.not_refuses {executed : Executed} (h : executed.Passed host context policyId) :
    ¬ executed.Refuses host context policyId := by
  obtain ⟨type, htype, -, hdeny, hredirect⟩ := h.decides
  have hsame : ∀ {other}, actionType host executed.action = .ok other → type = other :=
    fun hother => Except.ok.inj (htype.symm.trans hother)
  intro hrefuses
  cases hrefuses with
  | deny hother => exact hdeny (hsame hother)
  | redirect hother => exact hredirect (hsame hother)
  | basic hother hfails => exact hfails (h.basic hother)
  | key hother hfails => exact hfails (h.key hother)
  | bearer hother hfails => exact hfails (h.bearer hother)
  | limit hother hfails => exact hfails (h.limit hother)

end Executed

/-! ## One action -/

variable {host} {context : Context} {policyId : Json}

variable {α : Type} {action : Json} {actions : List Json}

theorem exec_bind_ok {β : Type} {m : PolicyM α} {f : α → PolicyM β} {b : β}
    {buckets left : RateBuckets} (h : exec (m >>= f) buckets = (.ok b, left)) :
    ∃ a middle, exec m buckets = (.ok a, middle) ∧ exec (f a) middle = (.ok b, left) := by
  rw [exec_bind] at h
  cases hfirst : exec m buckets with
  | mk result middle =>
    rw [hfirst] at h
    cases result with
    | error error => cases h
    | ok a => exact ⟨a, middle, rfl, h⟩

theorem exec_lift_bind_ok {β : Type} {x : Except JsError α} {f : α → PolicyM β} {b : β}
    {buckets left : RateBuckets} (h : exec (lift x >>= f) buckets = (.ok b, left)) :
    ∃ a, x = .ok a ∧ exec (f a) buckets = (.ok b, left) := by
  obtain ⟨a, middle, hfirst, hrest⟩ := exec_bind_ok h
  cases hfirst
  exact ⟨a, rfl, hrest⟩

theorem exec_counted {limit : JsNumber} {key retryAfter : String} {bucket : Bucket}
    {denial : Option String} {buckets read left : RateBuckets} (h : exec (do
      set (read.set key bucket)
      if (JsNumber.max 1 limit).exceeds bucket.count then return some retryAfter
      else return none : PolicyM (Option String)) buckets = (.ok denial, left)) :
    left.get? key = some bucket ∧
      (denial = none ↔ (JsNumber.max 1 limit).exceeds bucket.count = false) := by
  obtain ⟨_, middle, hset, h⟩ := exec_bind_ok h
  have hmiddle : read.set key bucket = middle := (Prod.mk.inj hset).2
  subst hmiddle
  cases hexceeds : (JsNumber.max 1 limit).exceeds bucket.count with
  | true | false =>
    rw [hexceeds] at h
    cases h
    exact ⟨OrdMap.get?_set_self _ _ _, by simp⟩

theorem exec_rateLimit {denial : Option String} {buckets left : RateBuckets}
    (h : exec (rateLimit host action context policyId) buckets = (.ok denial, left)) :
    denial = none ↔ WithinLimit host action context policyId left := by
  obtain ⟨limit, hlimit, h⟩ := exec_lift_bind_ok h
  obtain ⟨window, -, h⟩ := exec_lift_bind_ok h
  obtain ⟨keyTemplate, hkey, h⟩ := exec_lift_bind_ok h
  obtain ⟨policyText, hpolicy, h⟩ := exec_lift_bind_ok h
  obtain ⟨read, middle, -, h⟩ := exec_bind_ok h
  obtain ⟨hbucket, hdenial⟩ := exec_counted h
  rw [hdenial]
  constructor
  · intro hwithin
    exact ⟨limit, keyTemplate, policyText, _, hlimit, hkey, hpolicy, hbucket, hwithin⟩
  · rintro ⟨limit', keyTemplate', policyText', bucket', hlimit', hkey', hpolicy', hget, hwithin⟩
    rw [hlimit] at hlimit'
    rw [hkey] at hkey'
    rw [hpolicy] at hpolicy'
    cases hlimit'
    cases hkey'
    cases hpolicy'
    rw [hbucket] at hget
    cases hget
    exact hwithin

/-- The refusal of a credential, and what passes instead. -/
structure Decides (result : PolicyResult) (outcome : Outcome) (verified : Prop) : Prop where
  passes : outcome.terminal = false → verified ∧ outcome.result.allowed = result.allowed
  refuses : outcome.terminal = true → ¬ verified ∧ outcome.result.allowed = false

variable {result : PolicyResult}

theorem decides_basicAuth {outcome : Outcome}
    (h : basicAuth host action context result = .ok outcome) :
    Decides result outcome (BasicVerified host action context) := by
  obtain ⟨account, haccount, h⟩ := bind_eq_ok.1 h
  cases account with
  | none =>
    have hunknown : ¬ BasicVerified host action context := by
      rintro ⟨found, hfound, -⟩
      rw [presentedBasic, haccount] at hfound
      cases hfound
    obtain ⟨passes, hpasses, h⟩ := bind_eq_ok.1 h
    cases hpasses
    obtain ⟨realm, -, h⟩ := bind_eq_ok.1 h
    cases h
    exact ⟨nofun, fun _ => ⟨hunknown, rfl⟩⟩
  | some account =>
    obtain ⟨passes, hpasses, h⟩ := bind_eq_ok.1 h
    cases passes with
    | true =>
      cases h
      exact ⟨fun _ => ⟨⟨account, haccount, hpasses⟩, rfl⟩, nofun⟩
    | false =>
      have hwrong : ¬ BasicVerified host action context := by
        rintro ⟨found, hfound, hverified⟩
        rw [presentedBasic, haccount] at hfound
        cases hfound
        rw [presentedBasic, hpasses] at hverified
        cases hverified
      obtain ⟨realm, -, h⟩ := bind_eq_ok.1 h
      cases h
      exact ⟨nofun, fun _ => ⟨hwrong, rfl⟩⟩

theorem someM_eq_ok_true {test : α → Except JsError Bool} {items : List α} {found : Bool}
    (h : someM test items = .ok found) : found = true ↔ ∃ item ∈ items, test item = .ok true := by
  induction items with
  | nil =>
    cases h
    simp
  | cons item rest ih =>
    obtain ⟨passes, hitem, h⟩ := bind_eq_ok.1 h
    cases passes with
    | true =>
      cases h
      simp [hitem]
    | false =>
      rw [ih h]
      simp [hitem]

theorem keyVerified_iff {key : String} {valid : Bool}
    (hkey : presentedKey host action context = .ok key)
    (hvalid : someM (fun hash => (hash.toJsString host).map fun text =>
      decide (text = host.sha256Hex key)) (list (action.get? "hashes")) = .ok valid) :
    valid = true ↔ KeyVerified host action context := by
  rw [someM_eq_ok_true hvalid]
  unfold KeyVerified
  rw [hkey]
  simp only [map_eq_ok, decide_eq_true_eq, Except.ok.injEq, exists_eq_left']
  constructor
  · rintro ⟨hash, hmem, text, htext, rfl⟩
    exact ⟨hash, hmem, htext⟩
  · rintro ⟨hash, hmem, htext⟩
    exact ⟨hash, hmem, _, htext, rfl⟩

theorem decides_apiKey {outcome : Outcome} (h : apiKey host action context result = .ok outcome) :
    Decides result outcome (KeyVerified host action context) := by
  unfold apiKey at h
  split_ifs at h
  all_goals
    obtain ⟨key, hkey, h⟩ := bind_eq_ok.1 h
    have hpresented : presentedKey host action context = .ok key := by
      rw [presentedKey]
      split_ifs
      exact hkey
    obtain ⟨valid, hvalid, h⟩ := bind_eq_ok.1 h
    have hiff := keyVerified_iff hpresented hvalid
    cases valid with
    | true =>
      cases h
      exact ⟨fun _ => ⟨hiff.1 rfl, rfl⟩, nofun⟩
    | false =>
      cases h
      exact ⟨nofun, fun _ => ⟨fun hverified => Bool.false_ne_true (hiff.2 hverified), rfl⟩⟩

theorem decides_bearerToken (action : Json) (result : PolicyResult) :
    Decides result (bearerToken host action context result)
      (BearerVerified host action context) := by
  unfold bearerToken BearerVerified
  dsimp only
  by_cases htoken : schemeCredentials host "Bearer" (context.headers.text "authorization") = ""
  · rw [if_pos htoken]
    exact ⟨nofun, fun _ => ⟨fun hverified => hverified.1 htoken, rfl⟩⟩
  · rw [if_neg htoken]
    split
    · rename_i message hverify
      rw [hverify]
      refine ⟨nofun, fun _ => ⟨?_, rfl⟩⟩
      rintro ⟨-, payload, hpayload, -⟩
      cases hpayload
    · rename_i payload hverify
      rw [hverify]
      split_ifs with hforward
      · split
        · rename_i error hname
          rw [hname]
          refine ⟨nofun, fun _ => ⟨?_, rfl⟩⟩
          rintro ⟨-, _, -, hnamed⟩
          obtain ⟨name, hname⟩ := hnamed hforward
          cases hname
        · rename_i name hname
          exact ⟨fun _ => ⟨⟨htoken, payload, rfl, fun _ => ⟨name, hname⟩⟩, rfl⟩, nofun⟩
      · exact ⟨fun _ => ⟨⟨htoken, payload, rfl, fun h => absurd h hforward⟩, rfl⟩, nofun⟩

theorem allowed_rewritePath {rewritten : PolicyResult}
    (h : rewritePath host action context result = .ok rewritten) :
    rewritten.allowed = result.allowed := by
  unfold rewritePath at h
  dsimp only at h
  split at h
  all_goals
    obtain ⟨start, -, h⟩ := bind_eq_ok.1 h
    cases start with
    | some start =>
      obtain ⟨target, -, h⟩ := bind_eq_ok.1 h
      cases h
      rfl
    | none =>
      dsimp only at h
      split at h
      · split at h
        · obtain ⟨replacement, -, h⟩ := bind_eq_ok.1 h
          cases h
          rfl
        · cases h
          rfl
      · cases h
        rfl

namespace Executed

variable {executed : Executed}

theorem passed_of_type {type : String} (htype : actionType host executed.action = .ok type)
    (hdecides : type ≠ "allow" ∧ type ≠ "deny" ∧ type ≠ "redirect")
    (hbasic : type = "basic_auth" → BasicVerified host executed.action context)
    (hkey : type = "api_key" → KeyVerified host executed.action context)
    (hbearer : type = "jwt" ∨ type = "oidc" → BearerVerified host executed.action context)
    (hlimit : type = "rate_limit" →
      WithinLimit host executed.action context policyId executed.left) :
    executed.Passed host context policyId := by
  have hsame : ∀ {other}, actionType host executed.action = .ok other → type = other :=
    fun hother => Except.ok.inj (htype.symm.trans hother)
  exact ⟨⟨type, htype, hdecides⟩, fun h => hbasic (hsame h), fun h => hkey (hsame h),
    fun h => hbearer (h.imp hsame hsame), fun h => hlimit (hsame h)⟩

theorem cases_of_exec (h : exec (executeAction host executed.action context executed.before
      policyId) executed.found = (.ok executed.outcome, executed.left)) :
    (executed.Allows host ∧ executed.outcome.terminal = true ∧
      executed.outcome.result.allowed = true) ∨
    (executed.Refuses host context policyId ∧ executed.outcome.terminal = true ∧
      executed.outcome.result.allowed = false) ∨
    (executed.Passed host context policyId ∧ executed.outcome.terminal = false ∧
      executed.outcome.result.allowed = executed.before.allowed) := by
  obtain ⟨action, before, found, outcome, left⟩ := executed
  have hdecided : ∀ {verified : Prop}, Decides before outcome verified →
      (¬ verified → Refuses host context policyId ⟨action, before, found, outcome, left⟩) →
      (verified → Passed host context policyId ⟨action, before, found, outcome, left⟩) →
      (Refuses host context policyId ⟨action, before, found, outcome, left⟩ ∧
        outcome.terminal = true ∧ outcome.result.allowed = false) ∨
      (Passed host context policyId ⟨action, before, found, outcome, left⟩ ∧
        outcome.terminal = false ∧ outcome.result.allowed = before.allowed) := by
    intro verified hdecides hrefuses hpasses
    cases hterminal : outcome.terminal with
    | true =>
      obtain ⟨hfails, hallowed⟩ := hdecides.refuses hterminal
      exact .inl ⟨hrefuses hfails, rfl, hallowed⟩
    | false =>
      obtain ⟨hverified, hallowed⟩ := hdecides.passes hterminal
      exact .inr ⟨hpasses hverified, rfl, hallowed⟩
  obtain ⟨rawType, hraw, h⟩ := exec_lift_bind_ok h
  obtain ⟨text, htext, h⟩ := exec_lift_bind_ok h
  have htype : actionType host action = .ok (host.toLowerCase text) := by
    rw [actionType, hraw]
    have hread : (textOr host rawType "" >>= fun text => pure (host.toLowerCase text)) =
        Except.ok (host.toLowerCase text) := bind_eq_ok.2 ⟨text, htext, rfl⟩
    exact hread
  generalize host.toLowerCase text = type at h htype
  dsimp only at h
  by_cases hallow : type = "allow"
  · rw [if_pos hallow] at h
    subst hallow
    cases h
    exact .inl ⟨htype, rfl, rfl⟩
  rw [if_neg hallow] at h
  by_cases hdeny : type = "deny"
  · rw [if_pos hdeny] at h
    subst hdeny
    obtain ⟨status, -, h⟩ := exec_lift_bind_ok h
    cases h
    exact .inr (.inl ⟨.deny htype, rfl, rfl⟩)
  rw [if_neg hdeny] at h
  by_cases hredirect : type = "redirect"
  · rw [if_pos hredirect] at h
    subst hredirect
    obtain ⟨status, -, h⟩ := exec_lift_bind_ok h
    obtain ⟨location, -, h⟩ := exec_lift_bind_ok h
    cases h
    exact .inr (.inl ⟨.redirect htype, rfl, rfl⟩)
  rw [if_neg hredirect] at h
  right
  by_cases hrate : type = "rate_limit"
  · rw [if_pos hrate] at h
    subst hrate
    obtain ⟨denial, middle, hlimit, h⟩ := exec_bind_ok h
    have hiff := exec_rateLimit hlimit
    cases denial with
    | none =>
      cases h
      refine .inr ⟨passed_of_type htype (by decide) ?_ ?_ ?_ fun _ => hiff.1 rfl, rfl, rfl⟩
      all_goals
        intro hother
        exact absurd hother (by decide)
    | some retryAfter =>
      cases h
      refine .inl ⟨.limit htype fun hwithin => ?_, rfl, rfl⟩
      cases hiff.2 hwithin
  rw [if_neg hrate] at h
  by_cases hbasic : type = "basic_auth"
  · rw [if_pos hbasic] at h
    subst hbasic
    apply hdecided (decides_basicAuth (Prod.mk.inj h).1) (fun hfails => .basic htype hfails)
    intro hverified
    refine passed_of_type htype (by decide) (fun _ => hverified) ?_ ?_ ?_
    all_goals
      intro hother
      exact absurd hother (by decide)
  rw [if_neg hbasic] at h
  by_cases hkey : type = "api_key"
  · rw [if_pos hkey] at h
    subst hkey
    apply hdecided (decides_apiKey (Prod.mk.inj h).1) (fun hfails => .key htype hfails)
    intro hverified
    refine passed_of_type htype (by decide) ?_ (fun _ => hverified) ?_ ?_
    all_goals
      intro hother
      exact absurd hother (by decide)
  rw [if_neg hkey] at h
  by_cases hbearer : type = "jwt" ∨ type = "oidc"
  · rw [if_pos hbearer] at h
    have houtcome : bearerToken host action context before = outcome :=
      Except.ok.inj (Prod.mk.inj h).1
    have hdecides := @decides_bearerToken host context action before
    rw [houtcome] at hdecides
    have hjwt : actionType host action = .ok "jwt" ∨ actionType host action = .ok "oidc" := by
      rw [htype]
      exact hbearer.imp (congrArg Except.ok) (congrArg Except.ok)
    apply hdecided hdecides (fun hfails => .bearer hjwt hfails)
    intro hverified
    exact passed_of_type htype ⟨hallow, hdeny, hredirect⟩ (fun h => absurd h hbasic)
      (fun h => absurd h hkey) (fun _ => hverified) (fun h => absurd h hrate)
  rw [if_neg hbearer] at h
  right
  have hpassed : Passed host context policyId ⟨action, before, found, outcome, left⟩ :=
    passed_of_type htype ⟨hallow, hdeny, hredirect⟩ (fun h => absurd h hbasic)
      (fun h => absurd h hkey) (fun h => absurd h hbearer) (fun h => absurd h hrate)
  suffices hsame : outcome.terminal = false ∧ outcome.result.allowed = before.allowed from
    ⟨hpassed, hsame⟩
  -- the actions that are left change headers or the path
  split_ifs at h
  rotate_left 4
  · obtain ⟨rewritten, hrewritten, h⟩ := exec_lift_bind_ok h
    cases h
    exact ⟨rfl, allowed_rewritePath hrewritten⟩
  · cases h
    exact ⟨rfl, rfl⟩
  all_goals
    obtain ⟨read, -, h⟩ := exec_lift_bind_ok h
    cases h
    exact ⟨rfl, rfl⟩

end Executed

/-! ## One rule -/

variable {executed : List Executed} {last : PolicyResult} {buckets left : RateBuckets}

theorem actionsRun_of_exec
    (h : exec (executeActions host context policyId actions result) buckets = (.ok last, left)) :
    ∃ executed, ActionsRun host context policyId actions result buckets executed last left := by
  induction actions generalizing result buckets with
  | nil =>
    cases h
    exact ⟨[], .done⟩
  | cons action rest ih =>
    obtain ⟨outcome, middle, hexec, h⟩ := exec_bind_ok h
    cases hterminal : outcome.terminal with
    | true =>
      rw [hterminal] at h
      cases h
      exact ⟨_, .terminal hexec hterminal⟩
    | false =>
      rw [hterminal] at h
      obtain ⟨executed, hrest⟩ := ih h
      exact ⟨_, .next hexec hterminal hrest⟩

section

variable (h : ActionsRun host context policyId actions result buckets executed last left)
include h

theorem ActionsRun.isPrefix : executed.map Executed.action <+: actions := by
  induction h with
  | done => exact List.nil_prefix
  | terminal => exact List.cons_prefix_cons.2 ⟨rfl, List.nil_prefix⟩
  | next _ _ _ ih => exact List.cons_prefix_cons.2 ⟨rfl, ih⟩

theorem ActionsRun.cases :
    ((∀ item ∈ executed, item.Passed host context policyId) ∧ last.allowed = result.allowed) ∨
    ∃ passed final, executed = passed ++ [final] ∧
      (∀ item ∈ passed, item.Passed host context policyId) ∧
      (final.Allows host ∧ last.allowed = true ∨
        final.Refuses host context policyId ∧ last.allowed = false) := by
  induction h with
  | done => exact .inl ⟨by simp, rfl⟩
  | @terminal action rest result buckets left outcome hexec hterminal =>
    right
    refine ⟨[], _, rfl, by simp, ?_⟩
    rcases @Executed.cases_of_exec host context policyId
        ⟨action, result, buckets, outcome, left⟩ hexec with
      ⟨hallows, -, hallowed⟩ | ⟨hrefuses, -, hallowed⟩ | ⟨-, hnot, -⟩
    · exact .inl ⟨hallows, hallowed⟩
    · exact .inr ⟨hrefuses, hallowed⟩
    · rw [hterminal] at hnot
      cases hnot
  | @next action rest result last buckets left final outcome executed hexec hterminal hrest ih =>
    have hpassed : Executed.Passed host context policyId
          ⟨action, result, buckets, outcome, left⟩ ∧ outcome.result.allowed = result.allowed := by
      rcases @Executed.cases_of_exec host context policyId
          ⟨action, result, buckets, outcome, left⟩ hexec with
        ⟨-, hnot, -⟩ | ⟨-, hnot, -⟩ | ⟨hpassed, -, hallowed⟩
      · rw [hterminal] at hnot
        cases hnot
      · rw [hterminal] at hnot
        cases hnot
      · exact ⟨hpassed, hallowed⟩
    rcases ih with ⟨hall, hallowed⟩ | ⟨passed, final, rfl, hall, hdecided⟩
    · exact .inl ⟨List.forall_mem_cons.2 ⟨hpassed.1, hall⟩, hallowed.trans hpassed.2⟩
    · exact .inr ⟨_ :: passed, final, rfl, List.forall_mem_cons.2 ⟨hpassed.1, hall⟩, hdecided⟩

end

/-! ## All rules -/

theorem rulesRun_of_exec {rules : List Json}
    (h : exec (evaluateRules host context policyId rules result) buckets = (.ok last, left)) :
    ∃ visits, RulesRun host context policyId rules result buckets visits last left := by
  induction rules generalizing result buckets with
  | nil =>
    cases h
    exact ⟨[], .done⟩
  | cons rule rest ih =>
    obtain ⟨applies, happlies, h⟩ := exec_lift_bind_ok h
    cases applies with
    | false =>
      obtain ⟨visits, hrest⟩ := ih h
      exact ⟨visits, .skip happlies hrest⟩
    | true =>
      rw [if_pos rfl] at h
      obtain ⟨middle, between, hactions, h⟩ := exec_bind_ok h
      obtain ⟨executed, hrun⟩ := actionsRun_of_exec hactions
      cases hstop : notFalse (rule.get? "stop") with
      | true =>
        rw [hstop] at h
        cases h
        exact ⟨_, .stop happlies hrun hstop⟩
      | false =>
        rw [hstop] at h
        obtain ⟨visits, hrest⟩ := ih h
        exact ⟨_, .next happlies hrun hstop hrest⟩

variable (host context policyId) in
/-- The visit that allowed the request: an enabled rule that matches it and whose `allow`
was executed after everything before it had passed. Nothing refused the request afterwards. -/
structure AllowedBy (rules : List Json) (visits : List Visit) (visit : Visit)
    (passed : List Executed) (allow : Executed) : Prop where
  enabled : notFalse (visit.rule.get? "enabled") = true
  applies : matchRule host (orDefault (visit.rule.get? "match") (.obj [])) context = .ok true
  actions : visit.executed.map Executed.action <+: list (visit.rule.get? "actions")
  executed : visit.executed = passed ++ [allow]
  passed : ∀ item ∈ passed, item.Passed host context policyId
  allows : allow.Allows host
  earlier : ∃ front back, rules = front ++ visit.rule :: back ∧ ∀ other ∈ front,
    ruleApplies host context other = .ok true → notFalse (other.get? "stop") = false
  later : ∃ front back, visits = front ++ visit :: back ∧ ∀ other ∈ back,
    ∀ item ∈ other.executed, ¬ item.Refuses host context policyId

theorem applies_of_ruleApplies {rule : Json} (h : ruleApplies host context rule = .ok true) :
    notFalse (rule.get? "enabled") = true ∧
      matchRule host (orDefault (rule.get? "match") (.obj [])) context = .ok true := by
  obtain ⟨enabled, henabled, h⟩ := bind_eq_ok.1 h
  have hproperty : rule.get? "enabled" = enabled := by
    unfold property at henabled
    split at henabled
    · cases henabled
    · cases henabled
    · rename_i heq
      cases heq
      cases henabled
      rfl
  rw [hproperty]
  split_ifs at h with hon
  · exact ⟨hon, h⟩
  · cases h

namespace AllowedBy

variable {rule : Json} {rest : List Json} {visits : List Visit} {visit other : Visit}
  {passed : List Executed} {allow : Executed}

theorem skip (hskip : ruleApplies host context rule = .ok false)
    (h : AllowedBy host context policyId rest visits visit passed allow) :
    AllowedBy host context policyId (rule :: rest) visits visit passed allow := by
  obtain ⟨front, back, hrules, hearlier⟩ := h.earlier
  apply AllowedBy.mk h.enabled h.applies h.actions h.executed h.passed h.allows _ h.later
  refine ⟨rule :: front, back, by rw [hrules, List.cons_append], ?_⟩
  intro candidate hcandidate happlies
  rcases List.mem_cons.1 hcandidate with rfl | hmem
  · rw [hskip] at happlies
    cases happlies
  · exact hearlier candidate hmem happlies

theorem next (hstop : notFalse (rule.get? "stop") = false)
    (h : AllowedBy host context policyId rest visits visit passed allow) :
    AllowedBy host context policyId (rule :: rest) (other :: visits) visit passed allow := by
  obtain ⟨front, back, hrules, hearlier⟩ := h.earlier
  obtain ⟨before, after, hvisits, hlater⟩ := h.later
  apply AllowedBy.mk h.enabled h.applies h.actions h.executed h.passed h.allows
  · refine ⟨rule :: front, back, by rw [hrules, List.cons_append], ?_⟩
    intro candidate hcandidate happlies
    rcases List.mem_cons.1 hcandidate with rfl | hmem
    · exact hstop
    · exact hearlier candidate hmem happlies
  · exact ⟨other :: before, after, by rw [hvisits, List.cons_append], hlater⟩

theorem first {last : PolicyResult} {found final : RateBuckets}
    (happlies : ruleApplies host context rule = .ok true)
    (hactions : ActionsRun host context policyId (list (rule.get? "actions")) result found
      (passed ++ [allow]) last final)
    (hpassed : ∀ item ∈ passed, item.Passed host context policyId) (hallows : allow.Allows host)
    (hlater : ∀ other ∈ visits, ∀ item ∈ other.executed, ¬ item.Refuses host context policyId) :
    AllowedBy host context policyId (rule :: rest) (⟨rule, passed ++ [allow]⟩ :: visits)
      ⟨rule, passed ++ [allow]⟩ passed allow := by
  obtain ⟨henabled, hmatch⟩ := applies_of_ruleApplies happlies
  exact ⟨henabled, hmatch, hactions.isPrefix, rfl, hpassed, hallows,
    ⟨[], rest, rfl, nofun⟩, ⟨[], visits, rfl, hlater⟩⟩

end AllowedBy

theorem RulesRun.allowed {rules : List Json} {visits : List Visit}
    (h : RulesRun host context policyId rules result buckets visits last left)
    (hallowed : last.allowed = true) :
    (result.allowed = true ∧
      ∀ visit ∈ visits, ∀ item ∈ visit.executed, ¬ item.Refuses host context policyId) ∨
    ∃ visit passed allow, AllowedBy host context policyId rules visits visit passed allow := by
  induction h with
  | done => exact .inl ⟨hallowed, nofun⟩
  | skip hskip _ ih =>
    rcases ih hallowed with hsilent | ⟨visit, passed, allow, hby⟩
    · exact .inl hsilent
    · exact .inr ⟨visit, passed, allow, hby.skip hskip⟩
  | stop happlies hactions hstop =>
    rcases hactions.cases with ⟨hpassed, hsame⟩ | ⟨passed, final, rfl, hpassed, hdecided⟩
    · refine .inl ⟨hsame.symm.trans hallowed, ?_⟩
      intro visit hvisit item hitem
      cases List.mem_singleton.1 hvisit
      exact (hpassed item hitem).not_refuses
    · rcases hdecided with ⟨hallows, -⟩ | ⟨-, hrefused⟩
      · exact .inr ⟨_, _, _, .first happlies hactions hpassed hallows nofun⟩
      · rw [hrefused] at hallowed
        cases hallowed
  | next happlies hactions hstop _ ih =>
    rcases ih hallowed with ⟨hmiddle, hsilent⟩ | ⟨visit, passed, allow, hby⟩
    · rcases hactions.cases with ⟨hpassed, hsame⟩ | ⟨passed, final, rfl, hpassed, hdecided⟩
      · refine .inl ⟨hsame.symm.trans hmiddle, List.forall_mem_cons.2 ⟨?_, hsilent⟩⟩
        intro item hitem
        exact (hpassed item hitem).not_refuses
      · rcases hdecided with ⟨hallows, -⟩ | ⟨-, hrefused⟩
        · exact .inr ⟨_, _, _, .first happlies hactions hpassed hallows hsilent⟩
        · rw [hrefused] at hmiddle
          cases hmiddle
    · exact .inr ⟨visit, passed, allow, hby.next hstop⟩

/-! ## The policy -/

variable (host) in
/-- The run of a policy's rules for a request. -/
def Evaluates (policy : Json) (request : RequestContext) (buckets : RateBuckets)
    (context : Context) (visits : List Visit) (result : PolicyResult) (left : RateBuckets) : Prop :=
  contextOf host request = .ok context ∧
    RulesRun host context (orDefault (policy.get? "id") (.str "policy"))
      (list (policy.get? "rules")) (initialResult policy context.path) buckets visits result left

theorem evaluates_of_exec {policy : Json} {request : RequestContext}
    (h : exec (evaluatePolicy host policy request) buckets = (.ok result, left)) :
    policy.get? "enabled" = some (.bool false) ∧
        (∃ context : Context, result = initialResult policy context.path) ∨
      ∃ context visits, Evaluates host policy request buckets context visits result left := by
  obtain ⟨context, hcontext, h⟩ := exec_lift_bind_ok h
  by_cases hdisabled : policy.get? "enabled" = some (.bool false)
  · rw [if_pos hdisabled] at h
    cases h
    exact .inl ⟨hdisabled, context, rfl⟩
  · rw [if_neg hdisabled] at h
    obtain ⟨visits, hrun⟩ := rulesRun_of_exec h
    exact .inr ⟨context, visits, hcontext, hrun⟩

/-- **A request that a deny-by-default policy allows was allowed by an `allow`** that was
reached with everything before it passed, and after which nothing refused. -/
theorem allowedBy_of_defaultDeny {policy : Json} {request : RequestContext}
    (hdeny : policy.get? "defaultEffect" = some (.str "deny"))
    (hrun : exec (evaluatePolicy host policy request) buckets = (.ok result, left))
    (hallowed : result.allowed = true) :
    ∃ context visits visit passed allow,
      Evaluates host policy request buckets context visits result left ∧
      AllowedBy host context (orDefault (policy.get? "id") (.str "policy"))
        (list (policy.get? "rules")) visits visit passed allow := by
  have hinitial : ∀ path, (initialResult policy path).allowed = false := by
    intro path
    simp [initialResult, hdeny]
  rcases evaluates_of_exec hrun with ⟨-, context, rfl⟩ | ⟨context, visits, hevaluates⟩
  · rw [hinitial] at hallowed
    cases hallowed
  · rcases hevaluates.2.allowed hallowed with ⟨hflag, -⟩ | ⟨visit, passed, allow, hby⟩
    · rw [hinitial] at hflag
      cases hflag
    · exact ⟨context, visits, visit, passed, allow, hevaluates, hby⟩

/-- Two limits and an `allow`, in two rules. -/
def limitedPolicy : Json :=
  .obj [("defaultEffect", .str "deny"), ("rules", .arr [
    .obj [("actions", .arr [.obj [("type", .str "rate_limit"), ("key", .str "host")]]),
      ("stop", .bool false)],
    .obj [("actions", .arr [.obj [("type", .str "rate_limit")], .obj [("type", .str "allow")]])]])]

def limitedRequest : RequestContext :=
  ⟨"GET", "app.test", "/", [], "10.0.0.1", "t1", 0⟩

theorem allowedBy_of_defaultDeny_limited :
    limitedPolicy.get? "defaultEffect" = some (.str "deny") ∧ ∃ result left,
      exec (evaluatePolicy .plain limitedPolicy limitedRequest) .empty = (.ok result, left) ∧
      result.allowed = true ∧ ∃ context visits visit passed allow,
        Evaluates .plain limitedPolicy limitedRequest .empty context visits result left ∧
        AllowedBy .plain context (orDefault (limitedPolicy.get? "id") (.str "policy"))
          (list (limitedPolicy.get? "rules")) visits visit passed allow := by
  have hallowed : (exec (evaluatePolicy .plain limitedPolicy limitedRequest) .empty).1.map
      PolicyResult.allowed = .ok true := by decide +kernel
  refine ⟨rfl, ?_⟩
  cases hrun : exec (evaluatePolicy .plain limitedPolicy limitedRequest) .empty with
  | mk outcome left =>
    rw [hrun] at hallowed
    cases outcome with
    | error error => cases hallowed
    | ok result =>
      have hflag : result.allowed = true := Except.ok.inj hallowed
      exact ⟨result, left, rfl, hflag, allowedBy_of_defaultDeny rfl hrun hflag⟩

end Tunnara.Policy
