/-
# API tokens and the tokens they mint

`#auth` compares the scope of an endpoint with the scopes of the token, and `POST
/api/v1/api-tokens` is one of the endpoints: its own scope is checked, while the scopes of the new
token are compared with the list of all scopes only.
-/

import Tunnara.Control.Tenancy

namespace Tunnara.Control

open Transition

/-- An endpoint behind `#auth`; the empty scope is no scope. -/
structure ControlEndpoint where
  (method path : String)
  api : Bool
  requiredScope : String
  deriving DecidableEq

def mintEndpoint : ControlEndpoint := ⟨"POST", "/api/v1/api-tokens", true, "tokens:write"⟩

def revokeEndpoint : ControlEndpoint := ⟨"DELETE", "/api/v1/api-tokens/:id", true, "tokens:write"⟩

/-- The endpoints of the Control that authenticate a client, in the order of the source. -/
def controlEndpoints : List ControlEndpoint := [
  ⟨"GET", "/metrics", true, "metrics:read"⟩,
  ⟨"POST", "/api/v1/agents/heartbeat", false, ""⟩,
  ⟨"GET", "/api/v1/session", true, ""⟩,
  ⟨"GET", "/api/v1/overview", true, ""⟩,
  ⟨"GET", "/api/v1/integrations", true, "integrations:read"⟩,
  ⟨"GET", "/api/v1/integrations/cloudflare", true, "integrations:read"⟩,
  ⟨"PUT", "/api/v1/integrations/cloudflare", true, "integrations:write"⟩,
  ⟨"POST", "/api/v1/integrations/cloudflare/test", true, "integrations:write"⟩,
  ⟨"POST", "/api/v1/integrations/cloudflare/bootstrap-dns", true, "dns:write"⟩,
  ⟨"GET", "/api/v1/dns/records", true, "dns:read"⟩,
  ⟨"POST", "/api/v1/dns/records", true, "dns:write"⟩,
  ⟨"DELETE", "/api/v1/dns/records/:id", true, "dns:write"⟩,
  ⟨"GET", "/api/v1/certificates", true, "certificates:read"⟩,
  ⟨"GET", "/api/v1/nodes", true, "nodes:read"⟩,
  ⟨"GET", "/api/v1/networks", true, "networks:read"⟩,
  ⟨"POST", "/api/v1/networks", true, "networks:write"⟩,
  ⟨"DELETE", "/api/v1/networks/:id", true, "networks:write"⟩,
  ⟨"GET", "/api/v1/networks/:id/peers", true, "networks:read"⟩,
  ⟨"POST", "/api/v1/networks/:id/peers", true, "networks:write"⟩,
  ⟨"GET", "/api/v1/agents", true, "agents:read"⟩,
  ⟨"POST", "/api/v1/agents/:id/revoke", true, "agents:write"⟩,
  ⟨"GET", "/api/v1/api-tokens", true, "tokens:read"⟩,
  mintEndpoint,
  revokeEndpoint,
  ⟨"GET", "/api/v1/policies", true, "policies:read"⟩,
  ⟨"POST", "/api/v1/policies", true, "policies:write"⟩,
  ⟨"GET", "/api/v1/policies/:id", true, "policies:read"⟩,
  ⟨"PATCH", "/api/v1/policies/:id", true, "policies:write"⟩,
  ⟨"DELETE", "/api/v1/policies/:id", true, "policies:write"⟩,
  ⟨"GET", "/api/v1/inspections", true, "inspector:read"⟩,
  ⟨"GET", "/api/v1/inspections/:id", true, "inspector:read"⟩,
  ⟨"DELETE", "/api/v1/inspections/:id", true, "inspector:write"⟩,
  ⟨"DELETE", "/api/v1/inspections", true, "inspector:write"⟩,
  ⟨"POST", "/api/v1/inspections/:id/replay", true, "inspector:write"⟩,
  ⟨"POST", "/api/v1/provisioning-tokens", true, "provisioning:write"⟩,
  ⟨"GET", "/api/v1/tunnels", true, "tunnels:read"⟩,
  ⟨"POST", "/api/v1/tunnels", true, "tunnels:write"⟩,
  ⟨"GET", "/api/v1/tunnels/:id", true, "tunnels:read"⟩,
  ⟨"PATCH", "/api/v1/tunnels/:id", true, "tunnels:write"⟩,
  ⟨"DELETE", "/api/v1/tunnels/:id", true, "tunnels:write"⟩,
  ⟨"GET", "/api/v1/tunnels/:id/targets", true, "tunnels:read"⟩,
  ⟨"POST", "/api/v1/tunnels/:id/targets", true, "tunnels:write"⟩,
  ⟨"PATCH", "/api/v1/tunnel-targets/:id", true, "tunnels:write"⟩,
  ⟨"DELETE", "/api/v1/tunnel-targets/:id", true, "tunnels:write"⟩,
  ⟨"GET", "/api/v1/audit", true, "audit:read"⟩]

/-- The scope that an endpoint requires is among these, or all are. -/
def permits (scopes : List String) (endpoint : ControlEndpoint) : Bool :=
  endpoint.requiredScope = "" || scopes.contains "*" || scopes.contains endpoint.requiredScope

section

variable (host : Host) (store : Store)

/-- The row of a token that is not revoked; every row has its organization. -/
def authenticateApiToken (rawToken : String) : Option ApiTokenRow :=
  if rawToken = "" then none
  else (store.apiTokens.entries.find? fun e =>
    e.2.tokenHash = host.sha256Hex rawToken ∧ e.2.revoked = false).map Prod.snd

def insufficientScope (requiredScope : String) : JsError where
  message := "Escopo obrigatório ausente: " ++ requiredScope ++ "."
  statusCode := some 403
  code := some "INSUFFICIENT_SCOPE"

def unauthenticated : JsError where
  message := "Credencial ausente, inválida ou revogada."
  statusCode := some 401
  code := some "UNAUTHENTICATED"

/-- `#auth` for a bearer of API tokens; the session tokens of agents are others. `/metrics` comes here
where it is not public and the request has no token of the cluster. -/
def authorize (rawToken : String) (endpoint : ControlEndpoint) : Except JsError ApiTokenRow :=
  match (if endpoint.api then authenticateApiToken host store rawToken else none) with
  | some row =>
    if permits row.scopes endpoint then .ok row
    else .error (insufficientScope endpoint.requiredScope)
  | none => .error unauthenticated

def allowedScopes : List String :=
  ["*", "agents:read", "agents:write", "tunnels:read", "tunnels:write", "audit:read",
    "provisioning:write", "tokens:read", "tokens:write", "integrations:read", "integrations:write",
    "dns:read", "dns:write", "nodes:read", "nodes:write", "networks:read", "networks:write",
    "certificates:read", "policies:read", "policies:write", "inspector:read", "inspector:write",
    "metrics:read"]

/-- `body.scopes.map(String)`. -/
def scopeTexts : List Json → Except JsError (List String)
  | [] => .ok []
  | v :: rest => do
    let text ← v.toJsString host
    let texts ← scopeTexts rest
    return text :: texts

/-- `[...new Set(body.scopes.map(String))]`, or all scopes where none is given. -/
def requestedScopes (scopes : Option Json) : Except JsError (List String) :=
  if list scopes = [] then .ok ["*"] else (scopeTexts host (list scopes)).map List.eraseDups

/-- A request of a client with what is drawn for it. Of an endpoint that writes no token it says
whether it completes after the check; what it writes elsewhere is left out. -/
structure TokenRequest where
  endpoint : ControlEndpoint
  served : endpoint ∈ controlEndpoints
  bearer : String
  body : Json
  /-- The id in the path of a deletion. -/
  pathId : String
  (drawnId drawnToken : String)
  completes : Bool

/-- A token as the client that has minted it gets it. -/
structure MintedToken where
  rawToken : String
  scopes : List String

def tokenValidationError : JsError where
  message := "Nome ou escopos do token são inválidos."
  statusCode := some 422
  code := some "TOKEN_VALIDATION_ERROR"

/-- `POST /api/v1/api-tokens` after the check of the token. -/
def postApiToken (minter : ApiTokenRow) (request : TokenRequest) :
    Except JsError (Store × MintedToken) := do
  let rawName ← property (some request.body) "name"
  let name := trim (← (orDefault rawName (.str "")).toJsString host)
  let scopes ← requestedScopes host (request.body.get? "scopes")
  if name = "" ∨ ∃ scope ∈ scopes, scope ∉ allowedScopes then .error tokenValidationError
  else do
    let next ← store.createApiToken minter.organizationId request.drawnId name
      (host.sha256Hex request.drawnToken) scopes
    return (next, ⟨request.drawnToken, scopes⟩)

/-- `DELETE /api/v1/api-tokens/:id` after the check of the token. -/
def deleteApiToken (caller : ApiTokenRow) (id : String) : Except JsError Store :=
  if id = caller.id then
    .error {
      message := "Não é permitido revogar o token usado na própria requisição."
      statusCode := some 409
      code := some "TOKEN_SELF_REVOKE_DENIED" }
  else match store.revokeApiToken caller.organizationId id with
    | none => .error {
        message := "Token não encontrado.", statusCode := some 404, code := some "NOT_FOUND" }
    | some next => .ok next

/-- The answer to a request that succeeds: the table, and the token that was minted. -/
def serveToken (request : TokenRequest) : Except JsError (Store × Option MintedToken) := do
  let caller ← authorize host store request.bearer request.endpoint
  if request.endpoint = mintEndpoint then
    (postApiToken host store caller request).map fun (next, minted) => (next, some minted)
  else if request.endpoint = revokeEndpoint then
    (deleteApiToken store caller request.pathId).map fun next => (next, none)
  else if request.completes then .ok (store, none)
  else .error { message := "failed" }

end

/-- The store, and the raw tokens that a client has obtained. -/
structure Wallet where
  store : Store
  held : List String

def Wallet.step (host : Host) (wallet : Wallet) (request : TokenRequest) : Wallet :=
  if request.bearer ∈ wallet.held then
    match serveToken host wallet.store request with
    | .ok (next, minted) => ⟨next, (minted.map MintedToken.rawToken).toList ++ wallet.held⟩
    | .error _ => wallet
  else wallet

def Within (host : Host) (scopes : List String) (wallet : Wallet) (request : TokenRequest) : Prop :=
  request.bearer ∈ wallet.held → ∀ next minted,
    serveToken host wallet.store request = .ok (next, minted) →
    permits scopes request.endpoint = true ∧
      ∀ token, minted = some token → ∀ endpoint ∈ controlEndpoints,
        permits token.scopes endpoint = true → permits scopes endpoint = true

/-- However a client uses a token and what it gets through it, it stays within its scopes. -/
def Attenuated (host : Host) (store : Store) (rawToken : String) (scopes : List String) :
    Prop :=
  ∀ requests, Along (Wallet.step host) (Within host scopes) ⟨store, [rawToken]⟩ requests

variable {host : Host} {store : Store}

variable {rawToken : String} {row : ApiTokenRow}

theorem authorize_eq_ok {endpoint : ControlEndpoint}
    (h : authorize host store rawToken endpoint = .ok row) :
    authenticateApiToken host store rawToken = some row ∧ permits row.scopes endpoint = true := by
  unfold authorize at h
  split at h
  · rename_i found hfound
    split_ifs at h with hpermits
    cases h
    split_ifs at hfound
    exact ⟨hfound, hpermits⟩
  · cases h

theorem authorize_of_permits {endpoint : ControlEndpoint} (hapi : endpoint.api = true)
    (hrow : authenticateApiToken host store rawToken = some row)
    (hpermits : permits row.scopes endpoint = true) :
    authorize host store rawToken endpoint = .ok row := by
  unfold authorize
  rw [if_pos hapi, hrow]
  exact if_pos hpermits

theorem serveToken_of_not_mint {request : TokenRequest} {caller : ApiTokenRow} {next : Store}
    {minted : Option MintedToken}
    (hcaller : authenticateApiToken host store request.bearer = some caller)
    (hmint : permits caller.scopes mintEndpoint = false)
    (h : serveToken host store request = .ok (next, minted)) :
    next = store ∧ minted = none ∧ permits caller.scopes request.endpoint = true := by
  obtain ⟨row, hrow, h⟩ := bind_eq_ok.1 h
  obtain ⟨hfound, hpermits⟩ := authorize_eq_ok hrow
  rw [hcaller] at hfound
  cases hfound
  split_ifs at h with hminting hrevoking hcompletes
  · rw [hminting, hmint] at hpermits
    cases hpermits
  · -- both endpoints have the same scope
    have hsame : permits caller.scopes revokeEndpoint = permits caller.scopes mintEndpoint := rfl
    rw [hrevoking, hsame, hmint] at hpermits
    cases hpermits
  · cases h
    exact ⟨rfl, rfl, hpermits⟩

def mintRequest (bearer drawnId drawnToken : String) : TokenRequest where
  endpoint := mintEndpoint
  served := by decide
  bearer := bearer
  body := .obj [("name", .str "ops")]
  pathId := ""
  drawnId := drawnId
  drawnToken := drawnToken
  completes := true

theorem serveToken_mintRequest {bearer drawnId drawnToken : String} {caller : ApiTokenRow}
    (hcaller : authenticateApiToken host store bearer = some caller)
    (hmint : permits caller.scopes mintEndpoint = true) (hid : store.apiTokens.get? drawnId = none)
    (hhash : ∀ e ∈ store.apiTokens.entries, e.2.tokenHash ≠ host.sha256Hex drawnToken) :
    ∃ next, serveToken host store (mintRequest bearer drawnId drawnToken) =
      .ok (next, some ⟨drawnToken, ["*"]⟩) := by
  have hname : trim "ops" = "ops" := by decide
  have hcreate : store.createApiToken caller.organizationId drawnId "ops"
      (host.sha256Hex drawnToken) ["*"] = .ok { store with
        apiTokens := store.apiTokens.set drawnId
          ⟨drawnId, caller.organizationId, "ops", host.sha256Hex drawnToken, ["*"], false⟩ } := by
    unfold Store.createApiToken
    rw [if_neg (by rw [hid]; exact nofun), if_neg]
    intro hany
    obtain ⟨e, he, hsame⟩ := List.any_eq_true.1 hany
    exact hhash e he (of_decide_eq_true hsame)
  have hpost : postApiToken host store caller (mintRequest bearer drawnId drawnToken) =
      .ok ({ store with
        apiTokens := store.apiTokens.set drawnId
          ⟨drawnId, caller.organizationId, "ops", host.sha256Hex drawnToken, ["*"], false⟩ },
        ⟨drawnToken, ["*"]⟩) := by
    refine bind_eq_ok.2 ⟨some (.str "ops"), rfl, bind_eq_ok.2 ⟨"ops", rfl,
      bind_eq_ok.2 ⟨["*"], rfl, ?_⟩⟩⟩
    rw [hname, if_neg (by decide)]
    exact bind_eq_ok.2 ⟨_, hcreate, rfl⟩
  have hauthorized : authorize host store bearer mintEndpoint = .ok caller :=
    authorize_of_permits rfl hcaller hmint
  refine ⟨{ store with
    apiTokens := store.apiTokens.set drawnId
      ⟨drawnId, caller.organizationId, "ops", host.sha256Hex drawnToken, ["*"], false⟩ },
    bind_eq_ok.2 ⟨caller, hauthorized, ?_⟩⟩
  exact (if_pos rfl).trans (map_eq_ok.2 ⟨_, hpost, rfl⟩)

theorem along_of_not_mint (hrow : authenticateApiToken host store rawToken = some row)
    (hmint : permits row.scopes mintEndpoint = false) {requests : List TokenRequest} :
    Along (Wallet.step host) (Within host row.scopes) ⟨store, [rawToken]⟩ requests := by
  induction requests with
  | nil => trivial
  | cons request requests ih =>
    have hserve {next : Store} {minted : Option MintedToken} (hheld : request.bearer ∈ [rawToken])
        (h : serveToken host store request = .ok (next, minted)) :
        next = store ∧ minted = none ∧ permits row.scopes request.endpoint = true := by
      apply serveToken_of_not_mint _ hmint h
      rw [List.mem_singleton.1 hheld]
      exact hrow
    constructor
    · intro hheld next minted h
      obtain ⟨-, hnone, hpermits⟩ := hserve hheld h
      refine ⟨hpermits, ?_⟩
      intro token htoken
      rw [hnone] at htoken
      cases htoken
    · have hsame : Wallet.step host ⟨store, [rawToken]⟩ request = ⟨store, [rawToken]⟩ := by
        unfold Wallet.step
        split_ifs with hheld
        · cases h : serveToken host store request with
          | error error => rfl
          | ok answer =>
            obtain ⟨next, minted⟩ := answer
            obtain ⟨hnext, hnone, -⟩ := hserve hheld h
            rw [hnext, hnone]
            rfl
        · rfl
      rw [hsame]
      exact ih

theorem along_of_all {start : Wallet} {scopes : List String}
    (hall : ∀ endpoint ∈ controlEndpoints, permits scopes endpoint = true)
    {requests : List TokenRequest} :
    Along (Wallet.step host) (Within host scopes) start requests := by
  induction requests generalizing start with
  | nil => trivial
  | cons request requests ih =>
    constructor
    · intro _ _ _ _
      exact ⟨hall _ request.served, fun _ _ endpoint hendpoint _ => hall endpoint hendpoint⟩
    · exact ih

/-- **When a token stays within its scopes**: if it may not mint tokens, or its scopes are enough
for every endpoint. -/
theorem attenuated_iff {rawToken : String} {row : ApiTokenRow}
    (hrow : authenticateApiToken host store rawToken = some row)
    (hfresh : ∃ id drawnToken, store.apiTokens.get? id = none ∧
      ∀ e ∈ store.apiTokens.entries, e.2.tokenHash ≠ host.sha256Hex drawnToken) :
    Attenuated host store rawToken row.scopes ↔
      (permits row.scopes mintEndpoint = true →
        ∀ endpoint ∈ controlEndpoints, permits row.scopes endpoint = true) := by
  constructor
  · intro h hmint endpoint hendpoint
    obtain ⟨id, drawnToken, hid, hhash⟩ := hfresh
    obtain ⟨next, hserve⟩ := serveToken_mintRequest hrow hmint hid hhash
    have hwithin := (h [mintRequest rawToken id drawnToken]).1
    obtain ⟨-, hminted⟩ := hwithin List.mem_cons_self next _ hserve
    apply hminted _ rfl endpoint hendpoint
    simp [permits]
  · intro h requests
    cases hmint : permits row.scopes mintEndpoint with
    | false => exact along_of_not_mint hrow hmint
    | true => exact along_of_all (h hmint)

/-- One token, which is its own hash. -/
def oneToken (scopes : List String) : Store :=
  { Store.bootstrapped with
    apiTokens := OrdMap.empty.set "k1" ⟨"k1", "o1", "ci", "tnr_ci", scopes, false⟩ }

theorem attenuated_reader : Attenuated .plain (oneToken ["tunnels:read"]) "tnr_ci"
    ["tunnels:read"] := by
  have hrow : authenticateApiToken .plain (oneToken ["tunnels:read"]) "tnr_ci" =
      some ⟨"k1", "o1", "ci", "tnr_ci", ["tunnels:read"], false⟩ := by decide +kernel
  refine (attenuated_iff hrow ⟨"k2", "tnr_new", by decide +kernel, by decide +kernel⟩).2 ?_
  intro hmint
  exact absurd hmint (by decide +kernel)

def deletePolicyRequest (bearer : String) : TokenRequest where
  endpoint := ⟨"DELETE", "/api/v1/policies/:id", true, "policies:write"⟩
  served := by decide
  bearer := bearer
  body := .null
  pathId := ""
  drawnId := ""
  drawnToken := ""
  completes := true

/-- A token for tokens mints one of all scopes, which deletes a policy. -/
theorem not_attenuated_minter : ¬ Attenuated .plain (oneToken ["tokens:write"]) "tnr_ci"
    ["tokens:write"] := by
  intro h
  have hstep : Wallet.step .plain ⟨oneToken ["tokens:write"], ["tnr_ci"]⟩
      (mintRequest "tnr_ci" "k2" "tnr_new") =
      ⟨{ oneToken ["tokens:write"] with
        apiTokens := (oneToken ["tokens:write"]).apiTokens.set "k2"
          ⟨"k2", "o1", "ops", "tnr_new", ["*"], false⟩ }, ["tnr_new", "tnr_ci"]⟩ := rfl
  have hsecond := (h [mintRequest "tnr_ci" "k2" "tnr_new", deletePolicyRequest "tnr_new"]).2.1
  rw [hstep] at hsecond
  have hpermits := (hsecond List.mem_cons_self _ none rfl).1
  exact absurd hpermits (by decide +kernel)

end Tunnara.Control
