/-
# What becomes of a refusal

A refusing action ends its rule, not the evaluation: after `stop: false` later rules go on, and
their actions overwrite the decision or throw. `policyEvents` lists what the executed actions do
to the decision, from the same checks as the engine; the last event is the one that counts.
-/

import Tunnara.Policy.DefaultDeny

namespace Tunnara.Policy

open Attempt

/-- What an action does to the decision. -/
inductive Event
  | allows
  | refuses
  | throws
  deriving DecidableEq

/-- A conversion that may throw. -/
def thrown {α : Type} : Except JsError α → List Event
  | .ok _ => []
  | .error _ => [.throws]

def checked (failure : List Event) : Except JsError Bool → List Event
  | .ok true => []
  | .ok false => failure
  | .error _ => [.throws]

variable (host : Host)

/-- `account && verifyPassword(password, account.passwordHash)`. -/
def accountPasses (action : Json) (context : Context) : Except JsError Bool := do
  let account ← findAccount (presentedBasic host context).1 (list (action.get? "accounts"))
  match account with
  | none => return false
  | some account =>
    verifyPassword host (presentedBasic host context).2 (account.get? "passwordHash")

/-- `valid` of an API key. -/
def keyPasses (action : Json) (context : Context) : Except JsError Bool := do
  let key ← presentedKey host action context
  someM (fun hash => (hash.toJsString host).map fun text => decide (text = host.sha256Hex key))
    (list (action.get? "hashes"))

/-- The bearer token is there, it verifies, and its claims can be forwarded. -/
def tokenPasses (action : Json) (context : Context) : Bool :=
  let token := schemeCredentials host "Bearer" (context.headers.text "authorization")
  if token = "" then false
  else match host.verifyJwt token action with
    | .error _ => false
    | .ok _ =>
      if truthy (action.get? "forwardClaimsHeader") then
        (textOr host (action.get? "forwardClaimsHeader") "").isOk
      else true

/-- Headers and the path are changed by actions that decide nothing. -/
def changeEvents (type : String) (action : Json) (context : Context) : List Event :=
  if type = "add_request_headers" then
    thrown (headerEntries host (object (action.get? "headers")))
  else if type = "remove_request_headers" then
    thrown (headerNames host (list (action.get? "headers")))
  else if type = "add_response_headers" then
    thrown (headerEntries host (object (action.get? "headers")))
  else if type = "remove_response_headers" then
    thrown (headerNames host (list (action.get? "headers")))
  else if type = "rewrite_path" then
    thrown (rewritePath host action context (initialResult .null context.path))
  else []

def typeEvents (type : String) (action : Json) (context : Context) (policyId : Json)
    (buckets : RateBuckets) : List Event × RateBuckets :=
  if type = "allow" then ([.allows], buckets)
  else if type = "deny" then
    (.refuses :: thrown (numberOr host (action.get? "status") 403), buckets)
  else if type = "redirect" then
    (.refuses :: thrown (do
      let _ ← numberOr host (action.get? "status") 302
      textOr host (action.get? "location") "/"), buckets)
  else if type = "rate_limit" then
    match exec (rateLimit host action context policyId) buckets with
    | (.error _, left) => ([.throws], left)
    | (.ok (some _), left) => ([.refuses], left)
    | (.ok none, left) => ([], left)
  else if type = "basic_auth" then
    (checked (.refuses :: thrown (textOr host (action.get? "realm") "Tunnara"))
      (accountPasses host action context), buckets)
  else if type = "api_key" then (checked [.refuses] (keyPasses host action context), buckets)
  else if type = "jwt" ∨ type = "oidc" then
    (checked [.refuses] (.ok (tokenPasses host action context)), buckets)
  else (changeEvents host type action context, buckets)

def actionEvents (action : Json) (context : Context) (policyId : Json) (buckets : RateBuckets) :
    List Event × RateBuckets :=
  match actionType host action with
  | .error _ => ([.throws], buckets)
  | .ok type => typeEvents host type action context policyId buckets

/-- What the actions of a rule do, up to the first that does something. -/
def actionsEvents (context : Context) (policyId : Json) :
    List Json → RateBuckets → List Event × RateBuckets
  | [], buckets => ([], buckets)
  | action :: rest, buckets =>
    let done := actionEvents host action context policyId buckets
    if done.1 = [] then actionsEvents context policyId rest done.2 else done

/-- What the rules do that match, up to the first without `stop: false`. -/
def rulesEvents (context : Context) (policyId : Json) :
    List Json → RateBuckets → List Event × RateBuckets
  | [], buckets => ([], buckets)
  | rule :: rest, buckets =>
    match ruleApplies host context rule with
    | .error _ => ([.throws], buckets)
    | .ok false => rulesEvents context policyId rest buckets
    | .ok true =>
      let done := actionsEvents host context policyId (list (rule.get? "actions")) buckets
      if done.1.getLast? = some .throws ∨ notFalse (rule.get? "stop") then done
      else
        let later := rulesEvents context policyId rest done.2
        (done.1 ++ later.1, later.2)

def policyEvents (policy : Json) (request : RequestContext) (buckets : RateBuckets) :
    List Event × RateBuckets :=
  match contextOf host request with
  | .error _ => ([.throws], buckets)
  | .ok context =>
    if policy.get? "enabled" = some (.bool false) then ([], buckets)
    else rulesEvents host context (orDefault (policy.get? "id") (.str "policy"))
      (list (policy.get? "rules")) buckets

/-! ## The last event counts -/

/-- How an evaluation ends after these events. -/
def Ended (before : Bool) (events : List Event) (ended : Except JsError PolicyResult) : Prop :=
  match events.getLast?, ended with
  | none, .ok last => last.allowed = before
  | some .allows, .ok last => last.allowed = true
  | some .refuses, .ok last => last.allowed = false
  | some .throws, .error _ => True
  | _, _ => False

/-- What an action returns after these events; only one without events is not terminal. -/
structure Decided (before : Bool) (events : List Event) (returned : Except JsError Outcome) :
    Prop where
  ended : Ended before events (returned.map Outcome.result)
  terminal : ∀ outcome, returned = .ok outcome → (outcome.terminal = false ↔ events = [])

variable {host} {before : Bool} {events : List Event}

theorem Ended.append {later : List Event} {middle : PolicyResult}
    {ended : Except JsError PolicyResult} (h : Ended before events (.ok middle))
    (hlater : Ended middle.allowed later ended) : Ended before (events ++ later) ended := by
  unfold Ended at h hlater ⊢
  rw [List.getLast?_append]
  cases hlast : later.getLast? with
  | some event =>
    rw [hlast] at hlater
    rw [Option.some_or]
    cases event <;> cases ended <;> exact hlater
  | none =>
    rw [hlast] at hlater
    cases ended with
    | error error => exact absurd hlater id
    | ok last =>
      have hsame : last.allowed = middle.allowed := hlater
      rw [Option.none_or]
      cases hevents : events.getLast? with
      | none =>
        rw [hevents] at h
        exact hsame.trans h
      | some event =>
        rw [hevents] at h
        cases event with
        | allows | refuses => exact hsame.trans h
        | throws => exact absurd h id

theorem Ended.throws {error : JsError} (h : Ended before events (.error error)) :
    events.getLast? = some .throws := by
  unfold Ended at h
  cases hlast : events.getLast? with
  | none =>
    rw [hlast] at h
    exact absurd h id
  | some event =>
    rw [hlast] at h
    cases event with
    | throws => rfl
    | allows | refuses => exact absurd h id

theorem Ended.not_throws {last : PolicyResult} (h : Ended before events (.ok last)) :
    events.getLast? ≠ some .throws := by
  intro hlast
  unfold Ended at h
  rw [hlast] at h
  exact h

variable (action : Json) {next : PolicyResult}

theorem decided_passes (h : next.allowed = before) :
    Decided before [] (.ok ⟨next, false⟩) where
  ended := h
  terminal outcome houtcome := by
    cases houtcome
    exact iff_of_true rfl rfl

theorem decided_allows (h : next.allowed = true) :
    Decided before [.allows] (.ok ⟨next, true⟩) where
  ended := h
  terminal outcome houtcome := by
    cases houtcome
    exact iff_of_false nofun nofun

theorem decided_refuses (h : next.allowed = false) :
    Decided before [.refuses] (.ok ⟨next, true⟩) where
  ended := h
  terminal outcome houtcome := by
    cases houtcome
    exact iff_of_false nofun nofun

theorem decided_throws (events : List Event) (error : JsError) :
    Decided before (events ++ [.throws]) (.error error) where
  ended := by
    unfold Ended
    rw [List.getLast?_concat]
    trivial
  terminal _ := nofun

/-! ## One action -/

variable {context : Context} {policyId : Json} {result : PolicyResult} {buckets : RateBuckets}

theorem basicAuth_eq : basicAuth host action context result = (do
    let passes ← accountPasses host action context
    let identity : Identity := { type := "basic", subject := .str (presentedBasic host context).1 }
    let denied := unauthorized result "POLICY_BASIC_AUTH" "Autenticação obrigatória."
    if passes then return ⟨{ result with identity := some identity }, false⟩
    else do
      let realm ← textOr host (action.get? "realm") "Tunnara"
      return ⟨{ denied with
        responseHeaders := assignHeader denied.responseHeaders "www-authenticate"
          ("Basic realm=\"" ++ realm ++ "\"") }, true⟩) := by
  unfold basicAuth accountPasses presentedBasic
  dsimp only
  cases findAccount ((splitChar ':' (host.base64Text (schemeCredentials host "Basic"
      (context.headers.text "authorization")))).headD "") (list (action.get? "accounts")) with
  | error error => rfl
  | ok account =>
    cases account with
    | none | some account => rfl

theorem decided_basicAuth : Decided result.allowed
    (checked (.refuses :: thrown (textOr host (action.get? "realm") "Tunnara"))
      (accountPasses host action context)) (basicAuth host action context result) := by
  rw [basicAuth_eq]
  cases accountPasses host action context with
  | error error => exact decided_throws [] error
  | ok passes =>
    cases passes with
    | true => exact decided_passes rfl
    | false =>
      cases textOr host (action.get? "realm") "Tunnara" with
      | error error => exact decided_throws [.refuses] error
      | ok realm =>
        apply decided_refuses
        rfl

theorem apiKey_eq : apiKey host action context result = (do
    let key ← presentedKey host action context
    let valid ← someM (fun hash => (hash.toJsString host).map fun text =>
      decide (text = host.sha256Hex key)) (list (action.get? "hashes"))
    let identity : Identity :=
      { type := "api_key", subject := .str (sliceTo 12 (host.sha256Hex key)) }
    if valid then return ⟨{ result with identity := some identity }, false⟩
    else return ⟨unauthorized result "POLICY_API_KEY" "API key inválida.", true⟩) := by
  unfold apiKey presentedKey
  split_ifs <;> rfl

theorem decided_apiKey : Decided result.allowed
    (checked [.refuses] (keyPasses host action context)) (apiKey host action context result) := by
  rw [apiKey_eq, keyPasses]
  cases presentedKey host action context with
  | error error => exact decided_throws [] error
  | ok key =>
    dsimp only [bind, Except.bind]
    cases someM (fun hash => (hash.toJsString host).map fun text =>
      decide (text = host.sha256Hex key)) (list (action.get? "hashes")) with
    | error error => exact decided_throws [] error
    | ok valid =>
      cases valid with
      | true => exact decided_passes rfl
      | false =>
        apply decided_refuses
        rfl

theorem decided_bearerToken : Decided result.allowed
    (checked [.refuses] (.ok (tokenPasses host action context)))
    (.ok (bearerToken host action context result)) := by
  unfold bearerToken tokenPasses
  by_cases htoken : schemeCredentials host "Bearer" (context.headers.text "authorization") = ""
  · rw [if_pos htoken, if_pos htoken]
    apply decided_refuses
    rfl
  · rw [if_neg htoken, if_neg htoken]
    cases host.verifyJwt (schemeCredentials host "Bearer"
        (context.headers.text "authorization")) action with
    | error message =>
      apply decided_refuses
      rfl
    | ok payload =>
      dsimp only
      by_cases hforward : truthy (action.get? "forwardClaimsHeader") = true
      · rw [if_pos hforward, if_pos hforward]
        cases textOr host (action.get? "forwardClaimsHeader") "" with
        | error error =>
          apply decided_refuses
          rfl
        | ok name =>
          apply decided_passes
          rfl
      · rw [if_neg hforward, if_neg hforward]
        apply decided_passes
        rfl

theorem thrown_bind {α β : Type} {x : Except JsError α} {f g : α → Except JsError β}
    (h : ∀ a, thrown (f a) = thrown (g a)) : thrown (x >>= f) = thrown (x >>= g) := by
  cases x with
  | error error => rfl
  | ok a => exact h a

theorem decided_rewritePath (action : Json) (initial : PolicyResult) : Decided result.allowed
    (thrown (rewritePath host action context initial))
    ((rewritePath host action context result).map fun rewritten => ⟨rewritten, false⟩) := by
  have hsame : thrown (rewritePath host action context initial) =
      thrown (rewritePath host action context result) := by
    unfold rewritePath
    dsimp only
    split
    all_goals
      apply thrown_bind
      intro start
      cases start with
      | some text => exact thrown_bind fun target => rfl
      | none =>
        split_ifs
        · cases safeRegex host (action.get? "regex") with
          | none => rfl
          | some regex => exact thrown_bind fun replacement => rfl
        · rfl
  rw [hsame]
  cases hrewrite : rewritePath host action context result with
  | error error => exact decided_throws [] error
  | ok rewritten => exact decided_passes (allowed_rewritePath hrewrite)

/-- What was decided, and the buckets that are left. -/
structure Follows (before : Bool) (done : List Event × RateBuckets)
    (ran : Except JsError Outcome × RateBuckets) : Prop where
  decided : Decided before done.1 ran.1
  left : ran.2 = done.2

theorem exec_lift_bind {α β : Type} (x : Except JsError α) (f : α → PolicyM β) :
    exec (lift x >>= f) buckets = match x with
      | .ok a => exec (f a) buckets
      | .error error => (.error error, buckets) := by
  cases x <;> rfl

theorem follows_executeAction {action : Json} :
    Follows result.allowed (actionEvents host action context policyId buckets)
      (exec (executeAction host action context result policyId) buckets) := by
  unfold executeAction actionEvents actionType
  rw [exec_lift_bind]
  cases property (some action) "type" with
  | error error => exact ⟨decided_throws [] error, rfl⟩
  | ok rawType =>
    dsimp only
    rw [exec_lift_bind]
    change Follows _ (match textOr host rawType "" >>= fun text =>
        pure (host.toLowerCase text) with
      | .error _ => ([Event.throws], buckets)
      | .ok type => typeEvents host type action context policyId buckets) _
    cases textOr host rawType "" with
    | error error => exact ⟨decided_throws [] error, rfl⟩
    | ok text =>
      change Follows _ (typeEvents host (host.toLowerCase text) action context policyId buckets) _
      dsimp only
      generalize host.toLowerCase text = type
      unfold typeEvents
      by_cases hallow : type = "allow"
      · rw [if_pos hallow, if_pos hallow]
        exact ⟨decided_allows rfl, rfl⟩
      rw [if_neg hallow, if_neg hallow]
      by_cases hdeny : type = "deny"
      · rw [if_pos hdeny, if_pos hdeny]
        cases numberOr host (action.get? "status") 403 with
        | error error => exact ⟨decided_throws [.refuses] error, rfl⟩
        | ok status => exact ⟨decided_refuses rfl, rfl⟩
      rw [if_neg hdeny, if_neg hdeny]
      by_cases hredirect : type = "redirect"
      · rw [if_pos hredirect, if_pos hredirect]
        cases numberOr host (action.get? "status") 302 with
        | error error => exact ⟨decided_throws [.refuses] error, rfl⟩
        | ok status =>
          cases textOr host (action.get? "location") "/" with
          | error error => exact ⟨decided_throws [.refuses] error, rfl⟩
          | ok location => exact ⟨decided_refuses rfl, rfl⟩
      rw [if_neg hredirect, if_neg hredirect]
      by_cases hrate : type = "rate_limit"
      · rw [if_pos hrate, if_pos hrate, exec_bind]
        cases exec (rateLimit host action context policyId) buckets with
        | mk limited left =>
          cases limited with
          | error error => exact ⟨decided_throws [] error, rfl⟩
          | ok denial =>
            cases denial with
            | none => exact ⟨decided_passes rfl, rfl⟩
            | some retryAfter => exact ⟨decided_refuses rfl, rfl⟩
      rw [if_neg hrate, if_neg hrate]
      by_cases hbasic : type = "basic_auth"
      · rw [if_pos hbasic, if_pos hbasic]
        exact ⟨decided_basicAuth action, rfl⟩
      rw [if_neg hbasic, if_neg hbasic]
      by_cases hkey : type = "api_key"
      · rw [if_pos hkey, if_pos hkey]
        exact ⟨decided_apiKey action, rfl⟩
      rw [if_neg hkey, if_neg hkey]
      by_cases hbearer : type = "jwt" ∨ type = "oidc"
      · rw [if_pos hbearer, if_pos hbearer]
        exact ⟨decided_bearerToken action, rfl⟩
      rw [if_neg hbearer, if_neg hbearer]
      unfold changeEvents
      split_ifs
      · cases headerEntries host (object (action.get? "headers")) with
        | error error => exact ⟨decided_throws [] error, rfl⟩
        | ok entries => exact ⟨decided_passes rfl, rfl⟩
      · cases headerNames host (list (action.get? "headers")) with
        | error error => exact ⟨decided_throws [] error, rfl⟩
        | ok names => exact ⟨decided_passes rfl, rfl⟩
      · cases headerEntries host (object (action.get? "headers")) with
        | error error => exact ⟨decided_throws [] error, rfl⟩
        | ok entries => exact ⟨decided_passes rfl, rfl⟩
      · cases headerNames host (list (action.get? "headers")) with
        | error error => exact ⟨decided_throws [] error, rfl⟩
        | ok names => exact ⟨decided_passes rfl, rfl⟩
      · have hdecided := @decided_rewritePath host context result action
          (initialResult .null context.path)
        cases hrewrite : rewritePath host action context result with
        | error error | ok rewritten =>
          rw [hrewrite] at hdecided
          exact ⟨hdecided, rfl⟩
      · exact ⟨decided_passes rfl, rfl⟩

/-! ## Rules and policies -/

/-- How a run ends after its events, and with which buckets. -/
structure Traced (before : Bool) (done : List Event × RateBuckets)
    (ran : Except JsError PolicyResult × RateBuckets) : Prop where
  ended : Ended before done.1 ran.1
  left : ran.2 = done.2

theorem traced_executeActions (actions : List Json) :
    Traced result.allowed (actionsEvents host context policyId actions buckets)
      (exec (executeActions host context policyId actions result) buckets) := by
  induction actions generalizing result buckets with
  | nil => exact ⟨rfl, rfl⟩
  | cons action rest ih =>
    have hfollows := @follows_executeAction host context policyId result buckets action
    unfold executeActions actionsEvents
    rw [exec_bind]
    generalize exec (executeAction host action context result policyId) buckets = ran at hfollows ⊢
    generalize actionEvents host action context policyId buckets = done at hfollows ⊢
    obtain ⟨⟨hended, hterminal⟩, hleft⟩ := hfollows
    obtain ⟨events, middle⟩ := done
    obtain ⟨returned, left⟩ := ran
    subst hleft
    cases returned with
    | error error =>
      have hnonempty : events ≠ [] := by
        rintro rfl
        exact hended
      rw [if_neg hnonempty]
      exact ⟨hended, rfl⟩
    | ok outcome =>
      have hiff := hterminal outcome rfl
      dsimp only
      by_cases hevents : events = []
      · subst hevents
        have hsame : outcome.result.allowed = result.allowed := hended
        rw [if_pos rfl, hiff.2 rfl, ← hsame]
        exact ih
      · rw [if_neg hevents]
        have hends : outcome.terminal = true := by
          rw [← Bool.not_eq_false]
          exact fun h => hevents (hiff.1 h)
        rw [if_pos hends]
        exact ⟨hended, rfl⟩

theorem traced_evaluateRules (rules : List Json) :
    Traced result.allowed (rulesEvents host context policyId rules buckets)
      (exec (evaluateRules host context policyId rules result) buckets) := by
  induction rules generalizing result buckets with
  | nil => exact ⟨rfl, rfl⟩
  | cons rule rest ih =>
    unfold evaluateRules rulesEvents
    rw [exec_lift_bind]
    cases ruleApplies host context rule with
    | error error => exact ⟨trivial, rfl⟩
    | ok applies =>
      cases applies with
      | false => exact ih
      | true =>
        have htraced := @traced_executeActions host context policyId
          (result.matching rule) buckets (list (rule.get? "actions"))
        dsimp only
        rw [if_pos rfl, exec_bind]
        unfold PolicyResult.matching at htraced
        generalize exec (executeActions host context policyId (list (rule.get? "actions")) _)
          buckets = ran at htraced ⊢
        generalize actionsEvents host context policyId (list (rule.get? "actions"))
          buckets = done at htraced ⊢
        obtain ⟨hended, hleft⟩ := htraced
        obtain ⟨events, middle⟩ := done
        obtain ⟨returned, left⟩ := ran
        subst hleft
        cases returned with
        | error error =>
          rw [if_pos (Or.inl hended.throws)]
          exact ⟨hended, rfl⟩
        | ok last =>
          dsimp only
          cases hstop : notFalse (rule.get? "stop") with
          | true =>
            rw [if_pos (Or.inr rfl), if_pos rfl]
            exact ⟨hended, rfl⟩
          | false =>
            have hgoes : ¬ (events.getLast? = some .throws ∨ false = true) :=
              not_or.2 ⟨hended.not_throws, Bool.false_ne_true⟩
            rw [if_neg hgoes, if_neg Bool.false_ne_true]
            exact ⟨hended.append ih.ended, ih.left⟩

theorem traced_evaluatePolicy (policy : Json) (request : RequestContext) :
    Traced (policy.get? "defaultEffect" ≠ some (.str "deny"))
      (policyEvents host policy request buckets)
      (exec (evaluatePolicy host policy request) buckets) := by
  unfold evaluatePolicy policyEvents
  rw [exec_lift_bind]
  cases contextOf host request with
  | error error => exact ⟨trivial, rfl⟩
  | ok context =>
    split_ifs
    · exact ⟨rfl, rfl⟩
    · exact @traced_evaluateRules host context _ (initialResult policy context.path) buckets _

/-! ## Refusals that are final -/

/-- A refusal is not the last event of its evaluation. -/
def Reversed (events : List Event) : Prop :=
  ∃ front back last, events = front ++ .refuses :: (back ++ [last]) ∧ last ≠ .refuses

theorem reversed_iff : Reversed events ↔ .refuses ∈ events ∧ events.getLast? ≠ some .refuses := by
  constructor
  · rintro ⟨front, back, last, rfl, hlast⟩
    have hsplit : front ++ .refuses :: (back ++ [last]) = (front ++ .refuses :: back) ++ [last] := by
      rw [List.append_assoc, List.cons_append]
    constructor
    · exact List.mem_append_right front List.mem_cons_self
    · rw [hsplit, List.getLast?_concat]
      exact fun h => hlast (Option.some.inj h)
  · rintro ⟨hmem, hlast⟩
    obtain ⟨front, back, rfl⟩ := List.append_of_mem hmem
    rcases List.eq_nil_or_concat back with rfl | ⟨back, last, rfl⟩
    · exact absurd List.getLast?_concat hlast
    · refine ⟨front, back, last, by rw [List.concat_eq_append], ?_⟩
      rintro rfl
      apply hlast
      rw [List.concat_eq_append, List.getLast?_append, List.getLast?_cons, List.getLast?_concat]
      rfl

variable (host) in
/-- Once an executed action refuses, the evaluation returns a refusal. -/
def RefusalFinal (policy : Json) (request : RequestContext) (buckets : RateBuckets) : Prop :=
  .refuses ∈ (policyEvents host policy request buckets).1 → ∃ decision left,
    exec (evaluatePolicy host policy request) buckets = (.ok decision, left) ∧
      decision.allowed = false

/-- **When a refusal is final**: unless what comes last in the evaluation, after the refusal, is
an `allow` or a throw. -/
theorem refusalFinal_iff (host : Host) (policy : Json) (request : RequestContext)
    (buckets : RateBuckets) : RefusalFinal host policy request buckets ↔
      ¬ Reversed (policyEvents host policy request buckets).1 := by
  have htraced := @traced_evaluatePolicy host buckets policy request
  unfold RefusalFinal
  rw [reversed_iff, not_and, not_not]
  generalize exec (evaluatePolicy host policy request) buckets = ran at htraced ⊢
  obtain ⟨hended, -⟩ := htraced
  obtain ⟨returned, left⟩ := ran
  apply imp_congr_right
  intro hmem
  cases returned with
  | error error =>
    have hthrows := hended.throws
    constructor
    · rintro ⟨decision, left', heq, -⟩
      cases heq
    · intro hrefuses
      rw [hrefuses] at hthrows
      cases hthrows
  | ok last =>
    unfold Ended at hended
    constructor
    · rintro ⟨decision, left', heq, hdenied⟩
      cases heq
      cases hlast : (policyEvents host policy request buckets).1.getLast? with
      | none =>
        rw [List.getLast?_eq_none_iff.1 hlast] at hmem
        exact absurd hmem List.not_mem_nil
      | some event =>
        rw [hlast] at hended
        cases event with
        | refuses => rfl
        | throws => exact absurd hended id
        | allows =>
          have hallowed : last.allowed = true := hended
          rw [hallowed] at hdenied
          cases hdenied
    · intro hrefuses
      rw [hrefuses] at hended
      exact ⟨last, left, rfl, hended⟩

def overwrittenPolicy : Json :=
  .obj [("rules", .arr [
    .obj [("actions", .arr [.obj [("type", .str "deny")]]), ("stop", .bool false)],
    .obj [("actions", .arr [.obj [("type", .str "allow")]])]])]

theorem not_refusalFinal_overwritten :
    ¬ RefusalFinal .plain overwrittenPolicy limitedRequest .empty := by
  have hrefuses : .refuses ∈ (policyEvents .plain overwrittenPolicy limitedRequest .empty).1 := by
    decide +kernel
  have hallowed : (exec (evaluatePolicy .plain overwrittenPolicy limitedRequest) .empty).1.map
      PolicyResult.allowed = .ok true := by decide +kernel
  intro hfinal
  obtain ⟨decision, left, hrun, hdenied⟩ := hfinal hrefuses
  rw [hrun] at hallowed
  have htrue : decision.allowed = true := Except.ok.inj hallowed
  rw [htrue] at hdenied
  cases hdenied

end Tunnara.Policy
