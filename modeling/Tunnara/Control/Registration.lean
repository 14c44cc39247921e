/-
# Registration of an agent as one step

`registerAgent` uses the provisioning token up in a transaction of its own, and inserts the agent
after it. Where the insertion throws, the token stays used up.
-/

import Tunnara.Control.Provisioning

namespace Tunnara.Control

open Attempt TunnelTables OrdMap

structure AgentRecord where
  (id organizationId name platform architecture version publicKey sessionTokenHash : String)
  sessionExpiresAt : ℕ
  status : String
  (lastSeenAt createdAt updatedAt : ℕ)

structure AuditEntry where
  (organizationId actorType actorId event resourceType resourceId result : String)
  metadata : Json
  createdAt : ℕ

/-- The tables that a registration reads or writes; of `organizations` the primary keys. -/
structure RegistrationTables where
  organizations : List String
  provisioningTokens : OrdMap String ProvisioningTokenRow
  agents : OrdMap String AgentRecord
  auditLogs : List AuditEntry

/-- What a call draws: `uuid()`, `randomToken('tnr_agent')` and the clock. -/
structure RegistrationDraws where
  (id sessionToken : String)
  now : ℕ

structure Registered where
  (id organizationId sessionToken : String)
  sessionExpiresAt : ℕ
  heartbeatIntervalSeconds : ℕ
  deriving DecidableEq

/-- `for (const field of […])` of the route. -/
def requiredFields (host : Host) (body : Json) : List String → Except JsError Unit
  | [] => .ok ()
  | field :: rest => do
    let text ← (nullish (body.get? field) (.str "")).toJsString host
    if trim text = "" then
      .error (refused ("Campo obrigatório ausente: " ++ field ++ ".") "VALIDATION_ERROR")
    else requiredFields host body rest

/-- What the route asks of a body; `isEd25519` is what `crypto.createPublicKey` says of a PEM. -/
def validateRegistration (host : Host) (isEd25519 : String → Bool) (body : Json) :
    Except JsError Unit := do
  requiredFields host body ["name", "platform", "architecture", "version", "publicKey"]
  let invalid := refused "publicKey deve conter uma chave pública Ed25519 válida em PEM."
    "PUBLIC_KEY_INVALID"
  match ((body.get? "publicKey").getD (.str "undefined")).toJsString host with
  | .ok pem => if isEd25519 pem then .ok () else .error invalid
  | .error _ => .error invalid

namespace RegistrationTables

variable (env : IdempotencyEnv)

/-- The key and the row of a token that can be used. -/
def usableToken (tables : RegistrationTables) (tokenHash : String) (now : ℕ) :
    Option (String × ProvisioningTokenRow) :=
  tables.provisioningTokens.entries.find? fun e =>
    e.2.tokenHash = tokenHash && !e.2.used && !isoLe e.2.expiresAt now

/-- The transaction, which is committed. -/
def consumeProvisioningToken (rawToken : String) (now : ℕ) :
    Attempt RegistrationTables JsError (Option ProvisioningTokenRow) := do
  let tables ← get
  match tables.usableToken (env.host.sha256Hex rawToken) now with
  | none => return none
  | some (key, row) =>
    let rows := tables.provisioningTokens.set key { row with used := true }
    modify fun tables => { tables with provisioningTokens := rows }
    return some row

/-- A value of the body as it is bound. -/
def boundText (payload : Json) (column : String) : Except JsError (Option String) :=
  match payload.get? column with
  | none => .error bindError
  | some v => textValue env.toStoreEnv v

def notNull (column : String) : Option String → Except JsError String
  | some text => .ok text
  | none => .error (notNullFailed ("agents." ++ column))

/-- `Date.now() + 90 * 86400 * 1000`. -/
def sessionExpiry (now : ℕ) : ℕ := now + 90 * 86400 * 1000

/-- The row that is to be inserted, with the checks of its columns. -/
def agentRecord (provision : ProvisioningTokenRow) (draws : RegistrationDraws) (payload : Json) :
    Except JsError AgentRecord := do
  -- `toISOString` of a date that is out of range
  if lastInstant < sessionExpiry draws.now then .error { message := "Invalid time value" }
  else do
    let name ← boundText env payload "name"
    let platform ← boundText env payload "platform"
    let architecture ← boundText env payload "architecture"
    let version ← boundText env payload "version"
    let publicKey ← boundText env payload "publicKey"
    return {
      id := draws.id
      organizationId := provision.organizationId
      name := ← notNull "name" name
      platform := ← notNull "platform" platform
      architecture := ← notNull "architecture" architecture
      version := ← notNull "version" version
      publicKey := ← notNull "public_key" publicKey
      sessionTokenHash := env.host.sha256Hex draws.sessionToken
      sessionExpiresAt := sessionExpiry draws.now
      status := "offline"
      lastSeenAt := draws.now
      createdAt := draws.now
      updatedAt := draws.now }

/-- The constraints of `agents`. -/
def checkAgent (tables : RegistrationTables) (agent : AgentRecord) : Except JsError Unit :=
  if (tables.agents.get? agent.id).isSome then .error (uniqueFailed "agents.id")
  else if tables.agents.entries.any fun e => e.2.sessionTokenHash = agent.sessionTokenHash then
    .error (uniqueFailed "agents.session_token_hash")
  else if tables.agents.entries.any fun e =>
      e.2.organizationId = agent.organizationId && e.2.name = agent.name then
    .error (uniqueFailed "agents.organization_id, agents.name")
  else if agent.organizationId ∉ tables.organizations then .error foreignKeyFailed
  else .ok ()

def ofExcept {α : Type} : Except JsError α → Attempt RegistrationTables JsError α
  | .ok a => pure a
  | .error error => throw error

/-- The insertion for a token that was used up, and the entry of the audit. -/
def insertAgent (provision : ProvisioningTokenRow) (draws : RegistrationDraws) (payload : Json) :
    Attempt RegistrationTables JsError Registered := do
  let agent ← ofExcept (agentRecord env provision draws payload)
  let tables ← get
  ofExcept (tables.checkAgent agent)
  let entry : AuditEntry := {
    organizationId := provision.organizationId
    actorType := "provisioning_token"
    actorId := provision.id
    event := "agent.registered"
    resourceType := "agent"
    resourceId := agent.id
    result := "success"
    metadata := .obj [("name", (payload.get? "name").getD .null)]
    createdAt := draws.now }
  modify fun tables => { tables with
    agents := tables.agents.set agent.id agent
    auditLogs := tables.auditLogs ++ [entry] }
  return {
    id := agent.id
    organizationId := provision.organizationId
    sessionToken := draws.sessionToken
    sessionExpiresAt := agent.sessionExpiresAt
    heartbeatIntervalSeconds := 20 }

def tokenInvalid : JsError where
  message := "Token de provisionamento inválido, expirado ou já utilizado."
  statusCode := some 401
  code := some "PROVISIONING_TOKEN_INVALID"

def registerAgent (provisioningToken : String) (draws : RegistrationDraws) (payload : Json) :
    Attempt RegistrationTables JsError Registered := do
  match ← consumeProvisioningToken env provisioningToken draws.now with
  | none => throw tokenInvalid
  | some provision => insertAgent env provision draws payload

/-- The agent was created for the token, which is used up. -/
structure RegisteredIn (tables next : RegistrationTables) (tokenHash : String)
    (draws : RegistrationDraws) (registered : Registered) : Prop where
  token : ∃ key row, tables.usableToken tokenHash draws.now = some (key, row) ∧
    next.provisioningTokens = tables.provisioningTokens.set key { row with used := true } ∧
    registered.organizationId = row.organizationId
  agent : tables.agents.get? registered.id = none ∧ ∃ agent : AgentRecord,
    agent.id = registered.id ∧ agent.organizationId = registered.organizationId ∧
    next.agents = tables.agents.set registered.id agent

/-- **The promise**: the agent is there and the token used, or it throws and no table has
changed. -/
def Atomic (env : IdempotencyEnv) (provisioningToken : String) (draws : RegistrationDraws)
    (payload : Json) (tables : RegistrationTables) : Prop :=
  match exec (registerAgent env provisioningToken draws payload) tables with
  | (.ok registered, next) =>
    RegisteredIn tables next (env.host.sha256Hex provisioningToken) draws registered
  | (.error _, next) => next = tables

/-- **The condition** on an insertion for a token. -/
structure Insertable (env : IdempotencyEnv) (tables : RegistrationTables)
    (provision : ProvisioningTokenRow) (draws : RegistrationDraws) (payload : Json) : Prop where
  clock : sessionExpiry draws.now ≤ lastInstant
  /-- Texts or numbers. -/
  columns : ∀ column ∈ ["name", "platform", "architecture", "version", "publicKey"],
    ∃ text, boundText env payload column = .ok (some text)
  id : tables.agents.get? draws.id = none
  session : ∀ key agent, tables.agents.get? key = some agent →
    agent.sessionTokenHash ≠ env.host.sha256Hex draws.sessionToken
  name : ∀ key agent, tables.agents.get? key = some agent →
    agent.organizationId = provision.organizationId →
    boundText env payload "name" ≠ .ok (some agent.name)
  organization : provision.organizationId ∈ tables.organizations

variable {env} {tables : RegistrationTables} {provision : ProvisioningTokenRow}
  {draws : RegistrationDraws} {payload : Json}

theorem notNull_eq_ok {column text : String} {value : Option String} :
    notNull column value = .ok text ↔ value = some text := by
  cases value with
  | none => exact iff_of_false nofun nofun
  | some stored => simp [notNull]

theorem agentRecord_eq_ok {agent : AgentRecord}
    (h : agentRecord env provision draws payload = .ok agent) :
    sessionExpiry draws.now ≤ lastInstant ∧
      (∀ column ∈ ["name", "platform", "architecture", "version", "publicKey"],
        ∃ text, boundText env payload column = .ok (some text)) ∧
      agent.id = draws.id ∧ agent.organizationId = provision.organizationId ∧
      boundText env payload "name" = .ok (some agent.name) ∧
      agent.sessionTokenHash = env.host.sha256Hex draws.sessionToken := by
  unfold agentRecord at h
  split at h
  · cases h
  · rename_i hclock
    obtain ⟨name, hname, h⟩ := bind_eq_ok.1 h
    obtain ⟨platform, hplatform, h⟩ := bind_eq_ok.1 h
    obtain ⟨architecture, harchitecture, h⟩ := bind_eq_ok.1 h
    obtain ⟨version, hversion, h⟩ := bind_eq_ok.1 h
    obtain ⟨publicKey, hpublicKey, h⟩ := bind_eq_ok.1 h
    obtain ⟨nameText, hnameText, h⟩ := bind_eq_ok.1 h
    obtain ⟨platformText, hplatformText, h⟩ := bind_eq_ok.1 h
    obtain ⟨architectureText, harchitectureText, h⟩ := bind_eq_ok.1 h
    obtain ⟨versionText, hversionText, h⟩ := bind_eq_ok.1 h
    obtain ⟨publicKeyText, hpublicKeyText, h⟩ := bind_eq_ok.1 h
    rw [notNull_eq_ok] at hnameText hplatformText harchitectureText hversionText hpublicKeyText
    subst hnameText hplatformText harchitectureText hversionText hpublicKeyText
    cases h
    refine ⟨not_lt.1 hclock, ?_, rfl, rfl, hname, rfl⟩
    simp only [List.forall_mem_cons]
    exact ⟨⟨_, hname⟩, ⟨_, hplatform⟩, ⟨_, harchitecture⟩, ⟨_, hversion⟩, ⟨_, hpublicKey⟩, nofun⟩

theorem exists_agentRecord (hclock : sessionExpiry draws.now ≤ lastInstant)
    (hcolumns : ∀ column ∈ ["name", "platform", "architecture", "version", "publicKey"],
      ∃ text, boundText env payload column = .ok (some text)) :
    ∃ agent, agentRecord env provision draws payload = .ok agent := by
  simp only [List.forall_mem_cons] at hcolumns
  obtain ⟨⟨name, hname⟩, ⟨platform, hplatform⟩, ⟨architecture, harchitecture⟩,
    ⟨version, hversion⟩, ⟨publicKey, hpublicKey⟩, -⟩ := hcolumns
  unfold agentRecord
  rw [if_neg (not_lt.2 hclock), hname, hplatform, harchitecture, hversion, hpublicKey]
  exact ⟨_, rfl⟩

theorem checkAgent_eq_ok {agent : AgentRecord} : tables.checkAgent agent = .ok () ↔
    tables.agents.get? agent.id = none ∧
      (∀ key other, tables.agents.get? key = some other →
        other.sessionTokenHash ≠ agent.sessionTokenHash) ∧
      (∀ key other, tables.agents.get? key = some other →
        other.organizationId = agent.organizationId → other.name ≠ agent.name) ∧
      agent.organizationId ∈ tables.organizations := by
  have hany (test : AgentRecord → Bool) : ¬ (tables.agents.entries.any fun e => test e.2) = true ↔
      ∀ key other, tables.agents.get? key = some other → test other ≠ true := by
    rw [List.any_eq_true, not_exists]
    constructor
    · intro h key other hget htest
      exact h (key, other) ⟨get?_eq_some_iff.1 hget, htest⟩
    · rintro h ⟨key, other⟩ ⟨hmem, htest⟩
      exact h key other (get?_eq_some_iff.2 hmem) htest
  unfold checkAgent
  split_ifs with hid hsession hname horganization
  · exact iff_of_false nofun fun h => by simp [h.1] at hid
  · refine iff_of_false nofun fun h => ?_
    apply (hany fun other => other.sessionTokenHash = agent.sessionTokenHash).2 _ hsession
    intro key other hget
    simpa using h.2.1 key other hget
  · refine iff_of_false nofun fun h => ?_
    apply (hany fun other =>
      other.organizationId = agent.organizationId && other.name = agent.name).2 _ hname
    intro key other hget
    simpa using h.2.2.1 key other hget
  · refine iff_of_true rfl ⟨Option.not_isSome_iff_eq_none.1 hid, ?_, ?_, horganization⟩
    · intro key other hget
      simpa using (hany fun other => other.sessionTokenHash = agent.sessionTokenHash).1 hsession
        key other hget
    · intro key other hget
      simpa using (hany fun other =>
        other.organizationId = agent.organizationId && other.name = agent.name).1 hname
        key other hget
  · exact iff_of_false nofun fun h => horganization h.2.2.2

theorem insertable_iff {next : RegistrationTables} (hagents : next.agents = tables.agents)
    (horganizations : next.organizations = tables.organizations) :
    Insertable env tables provision draws payload ↔
      ∃ agent, agentRecord env provision draws payload = .ok agent ∧ next.checkAgent agent = .ok () := by
  constructor
  · intro h
    obtain ⟨agent, hagent⟩ := @exists_agentRecord env provision draws payload h.clock h.columns
    obtain ⟨-, -, hid, horganization, hname, hsession⟩ := agentRecord_eq_ok hagent
    refine ⟨agent, hagent, ?_⟩
    rw [checkAgent_eq_ok, hagents, horganizations, hid, hsession, horganization]
    refine ⟨h.id, h.session, fun key other hget howner hsame => ?_, h.organization⟩
    rw [← hsame] at hname
    exact h.name key other hget howner hname
  · rintro ⟨agent, hagent, hcheck⟩
    obtain ⟨hclock, hcolumns, hid, horganization, hname, hsession⟩ := agentRecord_eq_ok hagent
    rw [checkAgent_eq_ok, hagents, horganizations, hid, hsession, horganization] at hcheck
    obtain ⟨hfree, hsessions, hnames, hknown⟩ := hcheck
    refine ⟨hclock, hcolumns, hfree, hsessions, fun key other hget howner hsame => ?_, hknown⟩
    rw [hname] at hsame
    exact hnames key other hget howner (Option.some.inj (Except.ok.inj hsame)).symm

variable {provisioningToken : String}

def consumed (tables : RegistrationTables) (key : String) (row : ProvisioningTokenRow) :
    RegistrationTables :=
  { tables with provisioningTokens := tables.provisioningTokens.set key { row with used := true } }

theorem exec_consumeProvisioningToken (now : ℕ) :
    exec (consumeProvisioningToken env provisioningToken now) tables =
      match tables.usableToken (env.host.sha256Hex provisioningToken) now with
      | none => (.ok none, tables)
      | some (key, row) => (.ok (some row), tables.consumed key row) := by
  unfold consumeProvisioningToken
  rw [exec_bind, exec_get]
  dsimp only
  cases tables.usableToken (env.host.sha256Hex provisioningToken) now with
  | none | some found => rfl

theorem consumed_ne {tokenHash : String} {now : ℕ} {key : String} {row : ProvisioningTokenRow}
    (h : tables.usableToken tokenHash now = some (key, row)) : tables.consumed key row ≠ tables := by
  intro hsame
  have hget : tables.provisioningTokens.get? key = some row :=
    get?_eq_some_iff.2 (List.mem_of_find?_eq_some h)
  have hunused : row.used = false := by
    have hfound := List.find?_some h
    simp only [Bool.and_eq_true, Bool.not_eq_true'] at hfound
    exact hfound.1.2
  have hused : (tables.consumed key row).provisioningTokens.get? key =
      some { row with used := true } := get?_set_self _ _ _
  rw [hsame, hget] at hused
  have hflag : row.used = true := congrArg ProvisioningTokenRow.used (Option.some.inj hused)
  rw [hunused] at hflag
  cases hflag

theorem exec_insertAgent :
    (∃ error, exec (insertAgent env provision draws payload) tables = (.error error, tables) ∧
      ¬ Insertable env tables provision draws payload) ∨
    ∃ registered next agent, exec (insertAgent env provision draws payload) tables =
        (.ok registered, next) ∧ Insertable env tables provision draws payload ∧
      registered.organizationId = provision.organizationId ∧
      next.provisioningTokens = tables.provisioningTokens ∧
      tables.agents.get? registered.id = none ∧ agent.id = registered.id ∧
      agent.organizationId = registered.organizationId ∧
      next.agents = tables.agents.set registered.id agent := by
  have hiff := @insertable_iff env tables provision draws payload tables rfl rfl
  unfold insertAgent
  cases hrecord : agentRecord env provision draws payload with
  | error error =>
    refine .inl ⟨error, rfl, fun h => ?_⟩
    obtain ⟨agent, hagent, -⟩ := hiff.1 h
    rw [hrecord] at hagent
    cases hagent
  | ok agent =>
    obtain ⟨-, -, -, horganization, -, -⟩ := agentRecord_eq_ok hrecord
    cases hcheck : tables.checkAgent agent with
    | error error =>
      refine .inl ⟨error, ?_, fun h => ?_⟩
      · change exec (ofExcept (tables.checkAgent agent) >>= _) tables = _
        rw [hcheck]
        rfl
      · obtain ⟨other, hother, hchecked⟩ := hiff.1 h
        rw [hrecord] at hother
        cases hother
        rw [hcheck] at hchecked
        cases hchecked
    | ok checked =>
      refine .inr ⟨?registered, ?next, agent, ?exec, hiff.2 ⟨agent, hrecord, hcheck⟩, ?owner,
        ?tokens, ?free, ?id, ?organization, ?agents⟩
      case exec =>
        change exec (ofExcept (tables.checkAgent agent) >>= _) tables = _
        rw [hcheck]
        exact rfl
      case owner => exact rfl
      case tokens => exact rfl
      case free => exact (checkAgent_eq_ok.1 hcheck).1
      case id => exact rfl
      case organization => exact horganization
      case agents => exact rfl

theorem exec_registerAgent : exec (registerAgent env provisioningToken draws payload) tables =
    match tables.usableToken (env.host.sha256Hex provisioningToken) draws.now with
    | none => (.error tokenInvalid, tables)
    | some (key, row) =>
      exec (insertAgent env row draws payload) (tables.consumed key row) := by
  unfold registerAgent
  rw [exec_bind, exec_consumeProvisioningToken]
  cases tables.usableToken (env.host.sha256Hex provisioningToken) draws.now with
  | none | some found => rfl

/-- **When a registration is one step**: unless the token can be used and the row cannot be
inserted. -/
theorem atomic_iff (env : IdempotencyEnv) (provisioningToken : String) (draws : RegistrationDraws)
    (payload : Json) (tables : RegistrationTables) :
    Atomic env provisioningToken draws payload tables ↔
      ∀ key provision, tables.usableToken (env.host.sha256Hex provisioningToken) draws.now =
          some (key, provision) → Insertable env tables provision draws payload := by
  have hrun := @exec_registerAgent env tables draws payload provisioningToken
  unfold Atomic
  cases husable : tables.usableToken (env.host.sha256Hex provisioningToken) draws.now with
  | none =>
    rw [husable] at hrun
    rw [hrun]
    exact iff_of_true rfl nofun
  | some found =>
    obtain ⟨key, row⟩ := found
    rw [husable] at hrun
    have hiff : Insertable env (tables.consumed key row) row draws payload ↔
        Insertable env tables row draws payload := by
      have hbefore := @insertable_iff env tables row draws payload tables rfl rfl
      have hafter := @insertable_iff env (tables.consumed key row) row draws payload tables rfl rfl
      exact hafter.trans hbefore.symm
    rcases @exec_insertAgent env (tables.consumed key row) row draws payload with
      ⟨error, hexec, hnot⟩ | ⟨registered, next, agent, hexec, hinsertable, howner, htokens, hfree,
        hid, horganization, hagents⟩
    · rw [hrun.trans hexec]
      refine iff_of_false (consumed_ne husable) fun h => hnot (hiff.2 (h key row rfl))
    · rw [hrun.trans hexec]
      refine iff_of_true ?_ fun key' provision hsame => ?_
      · exact ⟨⟨key, row, husable, htokens, howner⟩, hfree, agent, hid, horganization, hagents⟩
      · cases hsame
        exact hiff.1 hinsertable

/-- The organization has an agent `box`, and a token for another one. -/
def takenTables : RegistrationTables where
  organizations := ["o1"]
  provisioningTokens := OrdMap.empty.set "p1" ⟨"p1", "o1", "token", "Novo agente", 900000, false⟩
  agents := OrdMap.empty.set "a1"
    ⟨"a1", "o1", "box", "linux", "x64", "1.0.0", "pem", "session", 0, "offline", 0, 0, 0⟩
  auditLogs := []

def takenPayload : Json := .obj [("name", .str "box"), ("platform", .str "linux"),
  ("architecture", .str "x64"), ("version", .str "1.0.0"), ("publicKey", .str "pem")]

def takenEnv : IdempotencyEnv := ⟨.plain, fun _ => "digest"⟩

def takenDraws : RegistrationDraws := ⟨"a2", "fresh", 1000⟩

/-- The route lets the body pass, the row is refused, and the token is gone. -/
theorem not_atomic_taken :
    validateRegistration .plain (fun pem => pem = "pem") takenPayload = .ok () ∧
      ¬ Atomic takenEnv "token" takenDraws takenPayload takenTables := by
  have hthrows : (exec (registerAgent takenEnv "token" takenDraws takenPayload) takenTables).1 =
      .error (uniqueFailed "agents.organization_id, agents.name") := by decide +kernel
  have hused : ((exec (registerAgent takenEnv "token" takenDraws takenPayload)
      takenTables).2.provisioningTokens.get? "p1").map ProvisioningTokenRow.used = some true := by
    decide +kernel
  constructor
  · decide +kernel
  · intro h
    unfold Atomic at h
    generalize exec (registerAgent takenEnv "token" takenDraws takenPayload) takenTables = ran
      at h hthrows hused
    obtain ⟨returned, next⟩ := ran
    cases hthrows
    have hsame : next = takenTables := h
    subst hsame
    exact absurd hused (by decide +kernel)

end RegistrationTables

end Tunnara.Control
