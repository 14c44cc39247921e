/-
# The policy engine

`evaluatePolicy`: the enabled rules of a policy are tried in order, the actions of
a matching rule run until one is terminal, and the loop stops at the first
matching rule that does not say `stop: false`.

Everything an evaluation builds is local to it except the rate-limit buckets of
the process, which are the state of `PolicyM`. A throw loses the result and keeps
the buckets. The decision counter of the metrics is left out: nothing reads it.
-/

import Tunnara.Data.OrdMap
import Tunnara.Policy.Document
import Tunnara.Policy.Matching

namespace Tunnara.Policy

/-- One entry of `rateBuckets`. -/
structure Bucket where
  count : ℕ
  resetAt : JsNumber

abbrev RateBuckets := OrdMap String Bucket

/-- Code that may throw and that reads and writes the rate-limit buckets. -/
abbrev PolicyM := ExceptT JsError (StateM RateBuckets)

/-- A computation that does not touch the buckets. -/
def lift {α : Type} (x : Except JsError α) : PolicyM α := ExceptT.mk (pure x)

structure Identity where
  type : String
  subject : Json
  claims : Option Json := none
  deriving DecidableEq

/-- The decision an evaluation builds up. -/
structure PolicyResult where
  allowed : Bool
  status : JsNumber := .fin 403
  code : Json := .str "POLICY_DENIED"
  message : Json := .str "Acesso negado pela política."
  path : String
  requestHeaders : List (String × String) := []
  responseHeaders : List (String × String) := []
  removeRequestHeaders : List String := []
  removeResponseHeaders : List String := []
  identity : Option Identity := none
  matchedRules : List Json := []

/-- What an action leaves: the result, and whether it ends the rule. -/
structure Outcome where
  result : PolicyResult
  terminal : Bool := false

/-- `target[name] = value` on a header object; `__proto__` is not stored. -/
def assignHeader (headers : List (String × String)) (name value : String) :
    List (String × String) :=
  if name = "__proto__" then headers
  else if headers.any fun h => h.1 = name then
    headers.map fun h => if h.1 = name then (name, value) else h
  else headers ++ [(name, value)]

/-- `set.add(name)`. -/
def addName (names : List String) (name : String) : List String :=
  if name ∈ names then names else names ++ [name]

variable (host : Host)

/-- `String(v || d)`. -/
def textOr (v : Option Json) (d : String) : Except JsError String :=
  (orDefault v (.str d)).toJsString host

/-- `Number(v || d)`. -/
def numberOr (v : Option Json) (d : ℚ) : Except JsError JsNumber :=
  (orDefault v (.num d)).toNumber host

def verifyPassword (password : String) (encoded : Option Json) : Except JsError Bool :=
  match encoded with
  | none => .ok false
  | some encoded =>
    if !encoded.truthy then .ok false
    else do
      let text ← encoded.toJsString host
      match splitChar '$' text with
      | algorithm :: salt :: expected :: _ =>
        if algorithm ≠ "scrypt" ∨ salt = "" ∨ expected = "" then return false
        else return host.scrypt password (host.base64url salt) = host.base64url expected
      | _ => return false

/-- `/^Scheme\s+(.+)$/i.exec(value)?.[1] || ''` on a header value. -/
def schemeCredentials (scheme value : String) : String :=
  let (head, rest) := value.toList.splitAt scheme.length
  let (spaces, text) := rest.span isSpace
  if host.toLowerCase (String.ofList head) ≠ host.toLowerCase scheme then ""
  else match spaces, text with
    | [], _ => ""
    | _, _ :: _ => String.ofList text
    -- the space run gives its last character back to the group
    | [_], [] => ""
    | _, [] => String.ofList (spaces.drop (spaces.length - 1))

/-- `list(accounts).find((entry) => entry.username === username)`. -/
def findAccount (username : String) : List Json → Except JsError (Option Json)
  | [] => .ok none
  | entry :: rest => do
    if (← property (some entry) "username") = some (.str username) then return some entry
    else findAccount username rest

/-- The identity a rate limit counts by. -/
def rateIdentity (context : Context) (keyTemplate : String) : String :=
  if keyTemplate = "host" then context.host
  else if keyTemplate = "tunnel" then context.tunnelId
  else if startsWith keyTemplate "header:" then
    context.headers.text (host.toLowerCase (String.ofList (keyTemplate.toList.drop 7)))
  else context.sourceIp

/-- `null`, or the `retry-after` of the denial. -/
def rateLimit (action : Json) (context : Context) (policyId : Json) : PolicyM (Option String) := do
  let limit ← lift (numberOr host (action.get? "requests") 60)
  let windowSeconds ← lift (numberOr host (action.get? "windowSeconds") 60)
  let keyTemplate ← lift (textOr host (action.get? "key") "sourceIp")
  let policyText ← lift (policyId.toJsString host)
  let key := policyText ++ ":" ++ rateIdentity host context keyTemplate
  let buckets ← get
  let fresh : Bucket :=
    ⟨0, (JsNumber.max 1 windowSeconds).map fun seconds => context.now + seconds * 1000⟩
  let bucket := match buckets.get? key with
    | some bucket => if bucket.resetAt.atMost context.now then fresh else bucket
    | none => fresh
  let bucket := { bucket with count := bucket.count + 1 }
  set (buckets.set key bucket)
  if (JsNumber.max 1 limit).exceeds bucket.count then
    return some ((bucket.resetAt.map fun q => ((q - context.now) / 1000).ceil).toJsString host)
  else return none

/-- `Object.entries(object(headers))` in lower case with `String` values. -/
def headerEntries : List (String × Json) → Except JsError (List (String × String))
  | [] => .ok []
  | (name, value) :: rest => do
    let text ← value.toJsString host
    let entries ← headerEntries rest
    return (host.toLowerCase name, text) :: entries

/-- `String(name).toLowerCase()` of every item. -/
def headerNames : List Json → Except JsError (List String)
  | [] => .ok []
  | item :: rest => do
    let text ← item.toJsString host
    let names ← headerNames rest
    return host.toLowerCase text :: names

/-- Refuse with status 401 and the code and message of the action. -/
def unauthorized (result : PolicyResult) (code message : String) : PolicyResult :=
  { result with allowed := false, status := .fin 401, code := .str code, message := .str message }

def basicAuth (action : Json) (context : Context) (result : PolicyResult) :
    Except JsError Outcome := do
  let encoded := schemeCredentials host "Basic" (context.headers.text "authorization")
  let parts := splitChar ':' (host.base64Text encoded)
  let username := parts.headD ""
  let password := (parts.drop 1).headD "undefined"
  let account ← findAccount username (list (action.get? "accounts"))
  let passes ← match account with
    | none => pure false
    | some account => verifyPassword host password (account.get? "passwordHash")
  if passes then
    return ⟨{ result with identity := some { type := "basic", subject := .str username } }, false⟩
  else do
    let realm ← textOr host (action.get? "realm") "Tunnara"
    let denied := unauthorized result "POLICY_BASIC_AUTH" "Autenticação obrigatória."
    return ⟨{ denied with
      responseHeaders := assignHeader denied.responseHeaders "www-authenticate"
        ("Basic realm=\"" ++ realm ++ "\"") }, true⟩

def apiKey (action : Json) (context : Context) (result : PolicyResult) :
    Except JsError Outcome := do
  let raw ←
    if truthy (action.get? "header") then
      (textOr host (action.get? "header") "").map fun name =>
        context.headers.text (host.toLowerCase name)
    else if truthy (action.get? "query") then
      (textOr host (action.get? "query") "").map fun name => (context.url.searchParam name).getD ""
    else pure ""
  let digest := host.sha256Hex raw
  let valid ← someM (fun hash => (hash.toJsString host).map fun text => decide (text = digest))
    (list (action.get? "hashes"))
  if valid then
    return ⟨{ result with
      identity := some { type := "api_key", subject := .str (sliceTo 12 digest) } }, false⟩
  else return ⟨unauthorized result "POLICY_API_KEY" "API key inválida.", true⟩

/-- Every throw inside the `try` of this action becomes a denial. -/
def bearerToken (action : Json) (context : Context) (result : PolicyResult) : Outcome :=
  let token := schemeCredentials host "Bearer" (context.headers.text "authorization")
  if token = "" then
    ⟨unauthorized result "POLICY_JWT_REQUIRED" "Bearer token obrigatório.", true⟩
  else match host.verifyJwt token action with
    | .error message => ⟨unauthorized result "POLICY_JWT_INVALID" message, true⟩
    | .ok payload =>
      let identified := { result with
        identity := some ⟨"jwt", orDefault (payload.get? "sub") (.str ""), some payload⟩ }
      if truthy (action.get? "forwardClaimsHeader") then
        match textOr host (action.get? "forwardClaimsHeader") "" with
        | .error error => ⟨unauthorized identified "POLICY_JWT_INVALID" error.message, true⟩
        | .ok name =>
          ⟨{ identified with
            requestHeaders := assignHeader identified.requestHeaders (host.toLowerCase name)
              (host.claimsHeader payload) }, false⟩
      else ⟨identified, false⟩

def rewritePath (action : Json) (context : Context) (result : PolicyResult) :
    Except JsError PolicyResult := do
  let fromPrefix ← match action.get? "fromPrefix" with
    | none => pure none
    | some v => (v.toJsString host).map fun text =>
      if startsWith context.path text then some text else none
  match fromPrefix with
  | some text =>
    let toPrefix ← textOr host (action.get? "toPrefix") ""
    let path := toPrefix ++ String.ofList (context.path.toList.drop text.length)
    return { result with path := if path = "" then "/" else path }
  | none =>
    if truthy (action.get? "regex") then
      match safeRegex host (action.get? "regex") with
      | some regex =>
        let replacement ← textOr host (action.get? "replacement") ""
        let path := regex.replace context.path replacement
        return { result with path := if path = "" then "/" else path }
      | none => return result
    else return result

def executeAction (action : Json) (context : Context) (result : PolicyResult) (policyId : Json) :
    PolicyM Outcome := do
  let rawType ← lift (property (some action) "type")
  let type := host.toLowerCase (← lift (textOr host rawType ""))
  if type = "allow" then return ⟨{ result with allowed := true }, true⟩
  else if type = "deny" then
    let status ← lift (numberOr host (action.get? "status") 403)
    return ⟨{ result with
      allowed := false
      status := status
      code := orDefault (action.get? "code") (.str "POLICY_DENIED")
      message := orDefault (action.get? "message") (.str "Acesso negado pela política.") }, true⟩
  else if type = "redirect" then
    let status ← lift (numberOr host (action.get? "status") 302)
    let location ← lift (textOr host (action.get? "location") "/")
    return ⟨{ result with
      allowed := false
      status := status
      code := .str "POLICY_REDIRECT"
      message := .str "Redirecionamento definido pela política."
      responseHeaders := assignHeader result.responseHeaders "location" location }, true⟩
  else if type = "rate_limit" then
    match ← rateLimit host action context policyId with
    | some retryAfter =>
      return ⟨{ result with
        allowed := false
        status := .fin 429
        code := .str "POLICY_RATE_LIMIT"
        message := .str "Limite de requisições excedido."
        responseHeaders := assignHeader result.responseHeaders "retry-after" retryAfter }, true⟩
    | none => return ⟨result, false⟩
  else if type = "basic_auth" then lift (basicAuth host action context result)
  else if type = "api_key" then lift (apiKey host action context result)
  else if type = "jwt" ∨ type = "oidc" then return bearerToken host action context result
  else if type = "add_request_headers" then
    let entries ← lift (headerEntries host (object (action.get? "headers")))
    return ⟨{ result with
      requestHeaders := entries.foldl (fun acc h => assignHeader acc h.1 h.2)
        result.requestHeaders }, false⟩
  else if type = "remove_request_headers" then
    let names ← lift (headerNames host (list (action.get? "headers")))
    return ⟨{ result with
      removeRequestHeaders := names.foldl addName result.removeRequestHeaders }, false⟩
  else if type = "add_response_headers" then
    let entries ← lift (headerEntries host (object (action.get? "headers")))
    return ⟨{ result with
      responseHeaders := entries.foldl (fun acc h => assignHeader acc h.1 h.2)
        result.responseHeaders }, false⟩
  else if type = "remove_response_headers" then
    let names ← lift (headerNames host (list (action.get? "headers")))
    return ⟨{ result with
      removeResponseHeaders := names.foldl addName result.removeResponseHeaders }, false⟩
  else if type = "rewrite_path" then
    return ⟨← lift (rewritePath host action context result), false⟩
  else return ⟨result, false⟩

/-- Run the actions of a rule until one is terminal. -/
def executeActions (context : Context) (policyId : Json) :
    List Json → PolicyResult → PolicyM PolicyResult
  | [], result => return result
  | action :: rest, result => do
    let outcome ← executeAction host action context result policyId
    if outcome.terminal then return outcome.result
    else executeActions context policyId rest outcome.result

/-- `rule.enabled !== false && matchRule(rule.match || {}, context)`. -/
def ruleApplies (context : Context) (rule : Json) : Except JsError Bool := do
  let enabled ← property (some rule) "enabled"
  if notFalse enabled then
    matchRule host (orDefault (rule.get? "match") (.obj [])) context
  else return false

def evaluateRules (context : Context) (policyId : Json) :
    List Json → PolicyResult → PolicyM PolicyResult
  | [], result => return result
  | rule :: rest, result => do
    if ← lift (ruleApplies host context rule) then
      let name := orDefault (rule.get? "name") (orDefault (rule.get? "id") (.str "unnamed"))
      let matched := { result with matchedRules := result.matchedRules ++ [name] }
      let result ← executeActions host context policyId (list (rule.get? "actions")) matched
      if notFalse (rule.get? "stop") then return result
      else evaluateRules context policyId rest result
    else evaluateRules context policyId rest result

/-- The normalised context; `new URL` throws on a path or host it cannot parse. -/
def contextOf (request : RequestContext) : Except JsError Context :=
  let path := if request.path = "" then "/" else request.path
  let base := "http://" ++ if request.host = "" then "localhost" else request.host
  match host.url path base with
  | none => .error { message := "Invalid URL", code := some "ERR_INVALID_URL" }
  | some url => .ok {
      request with
      method := host.toUpperCase (if request.method = "" then "GET" else request.method)
      host := host.toLowerCase request.host
      path := path
      headers := request.headers.map fun h => (host.toLowerCase h.1, h.2)
      url := url }

/-- The decision before any rule is looked at. -/
def initialResult (policy : Json) (path : String) : PolicyResult where
  allowed := policy.get? "defaultEffect" ≠ some (.str "deny")
  path := path

def evaluatePolicy (policy : Json) (request : RequestContext) : PolicyM PolicyResult := do
  let context ← lift (contextOf host request)
  let initial := initialResult policy context.path
  if policy.get? "enabled" = some (.bool false) then return initial
  else
    evaluateRules host context (orDefault (policy.get? "id") (.str "policy"))
      (list (policy.get? "rules")) initial

variable {host}

variable {policy policyId : Json} {request : RequestContext} {context : Context}

theorem evaluatePolicy_congr {other : Json}
    (heffect : policy.get? "defaultEffect" = other.get? "defaultEffect")
    (henabled : policy.get? "enabled" = other.get? "enabled")
    (hid : policy.get? "id" = other.get? "id") (hrules : policy.get? "rules" = other.get? "rules") :
    evaluatePolicy host policy = evaluatePolicy host other := by
  funext request
  simp only [evaluatePolicy, initialResult, heffect, henabled, hid, hrules]

theorem contextOf_path (h : contextOf host request = .ok context) (hpath : request.path ≠ "") :
    context.path = request.path := by
  simp only [contextOf, if_neg hpath] at h
  split at h
  · cases h
  · cases h
    rfl

theorem evaluatePolicy_of_contextOf_error {error : JsError}
    (h : contextOf host request = .error error) (buckets : RateBuckets) :
    (evaluatePolicy host policy request).run buckets = (.error error, buckets) := by
  simp only [evaluatePolicy, h]
  rfl

theorem evaluatePolicy_of_disabled (hcontext : contextOf host request = .ok context)
    (hdisabled : policy.get? "enabled" = some (.bool false)) (buckets : RateBuckets) :
    (evaluatePolicy host policy request).run buckets =
      (.ok (initialResult policy context.path), buckets) := by
  simp only [evaluatePolicy, hcontext, if_pos hdisabled]
  rfl

theorem evaluatePolicy_of_enabled (hcontext : contextOf host request = .ok context)
    (henabled : policy.get? "enabled" ≠ some (.bool false)) (buckets : RateBuckets) :
    (evaluatePolicy host policy request).run buckets =
      (evaluateRules host context (orDefault (policy.get? "id") (.str "policy"))
        (list (policy.get? "rules")) (initialResult policy context.path)).run buckets := by
  simp only [evaluatePolicy, hcontext, if_neg henabled]
  rfl

theorem evaluateRules_cons_of_not_applies {rule : Json} {rest : List Json}
    (h : ruleApplies host context rule = .ok false) (result : PolicyResult) :
    evaluateRules host context policyId (rule :: rest) result =
      evaluateRules host context policyId rest result := by
  funext buckets
  simp only [evaluateRules, h]
  rfl

theorem evaluateRules_cons_of_throws {rule : Json} {rest : List Json} {error : JsError}
    (h : ruleApplies host context rule = .error error) {result : PolicyResult}
    {buckets : RateBuckets} :
    (evaluateRules host context policyId (rule :: rest) result).run buckets =
      (.error error, buckets) := by
  simp only [evaluateRules, h]
  rfl

theorem evaluateRules_of_no_match {rules : List Json}
    (h : ∀ rule ∈ rules, ruleApplies host context rule ≠ .ok true) {result : PolicyResult}
    {buckets : RateBuckets} :
    (evaluateRules host context policyId rules result).run buckets = (.ok result, buckets) ∧
        (∀ rule ∈ rules, ruleApplies host context rule = .ok false) ∨
      ∃ error, (evaluateRules host context policyId rules result).run buckets =
          (.error error, buckets) ∧
        ∃ rule ∈ rules, ruleApplies host context rule = .error error := by
  induction rules with
  | nil => exact Or.inl ⟨rfl, by simp⟩
  | cons rule rest ih =>
    have hrule := h rule List.mem_cons_self
    cases happlies : ruleApplies host context rule with
    | error error =>
      refine Or.inr ⟨error, evaluateRules_cons_of_throws happlies, ?_⟩
      exact ⟨rule, List.mem_cons_self, happlies⟩
    | ok applies =>
      have hfalse : applies = false := by
        cases applies with
        | false => rfl
        | true => exact absurd happlies hrule
      subst hfalse
      rw [evaluateRules_cons_of_not_applies happlies]
      rcases ih fun r hr => h r (List.mem_cons_of_mem _ hr) with ⟨hrun, hrest⟩ | hthrow
      · exact Or.inl ⟨hrun, by simpa using ⟨happlies, hrest⟩⟩
      · obtain ⟨error, hrun, r, hr, hthrows⟩ := hthrow
        exact Or.inr ⟨error, hrun, r, List.mem_cons_of_mem _ hr, hthrows⟩

end Tunnara.Policy
