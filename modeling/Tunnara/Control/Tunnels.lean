/-
# Tunnels, targets and policies in the Node store

The writers of `TunnaraDatabase` for these tables, with every check they make. Some of their
values are JSON of a request body that nothing has converted, so what `node:sqlite` binds and
what a column keeps of it is part of the operation. An operation that throws leaves the tables as
they are. Columns that no check and no route reads are left out; where a request writes one of
them, the constraints it can violate are kept.
-/

import Tunnara.Control.Database

namespace Tunnara.Control

open Policy

/-- JavaScript, and the text that SQLite gives a number in a TEXT column. -/
structure StoreEnv where
  host : Host
  realText : ℚ → String

/-- For worked inputs: SQLite prints a number with a decimal point. -/
def StoreEnv.plain : StoreEnv := ⟨.plain, fun q => toString q.num ++ ".0"⟩

/-- A value that `node:sqlite` does not bind. An object or an array in the first place would
be taken for named parameters; then the statement fails or matches no row. -/
def bindError : JsError where
  message := "Provided value cannot be bound to SQLite parameter."
  code := some "ERR_INVALID_ARG_TYPE"

def notNullFailed (column : String) : JsError :=
  { message := "NOT NULL constraint failed: " ++ column }

def uniqueFailed (columns : String) : JsError :=
  { message := "UNIQUE constraint failed: " ++ columns }

def foreignKeyFailed : JsError := { message := "FOREIGN KEY constraint failed" }

def refused (message code : String) : JsError :=
  { message := message, statusCode := some 422, code := some code }

/-- A bound value as a TEXT column keeps it, or compares with it; `none` is NULL. -/
def textValue (env : StoreEnv) : Json → Except JsError (Option String)
  | .null => .ok none
  | .str s => .ok (some s)
  | .num q => .ok (some (env.realText q))
  | .bool _ | .arr _ | .obj _ => .error bindError

/-- A bound value in a TEXT column that is NOT NULL. -/
def requiredText (env : StoreEnv) (column : String) (v : Json) : Except JsError String := do
  match ← textValue env v with
  | some text => .ok text
  | none => .error (notNullFailed column)

/-- A number in a column that is NOT NULL. -/
structure StoredNumber where
  value : JsNumber
  not_nan : value ≠ .nan
  deriving DecidableEq

theorem one_ne_nan : JsNumber.fin 1 ≠ .nan := nofun

theorem hundred_ne_nan : JsNumber.fin 100 ≠ .nan := nofun

def storeNumber (column : String) (n : JsNumber) : Except JsError StoredNumber :=
  if h : n = .nan then .error (notNullFailed column) else .ok ⟨n, h⟩

/-- `n || d` of a number. -/
def orNumber (n : JsNumber) (d : ℚ) : JsNumber :=
  if n = .nan ∨ n = .fin 0 then .fin d else n

/-- `v ?? d`. -/
def nullish (v : Option Json) (d : Json) : Json :=
  match v with
  | none | some .null => d
  | some v => v

structure TunnelRecord extends TunnelRow where
  targetHost : String
  targetPort : StoredNumber
  publicPort : Option ℕ
  dnsRecordId : Option String

structure TargetRecord where
  (id organizationId tunnelId agentId name targetHost : String)
  (targetPort weight priority : StoredNumber)
  enabled : Bool
  healthStatus : String
  healthCheck : Json

/-- The tables the tunnel operations write, and the agents they look up. -/
structure TunnelTables where
  agents : OrdMap String AgentRow
  tunnels : OrdMap String TunnelRecord
  targets : OrdMap String TargetRecord
  policies : OrdMap String PolicyRow

namespace TunnelTables

variable (env : StoreEnv) (tables : TunnelTables)

/-- What the policy operations read and write. -/
def policyTables : Database where
  agents := .empty
  tunnels := tables.tunnels.mapVals fun _ tunnel => tunnel.toTunnelRow
  targets := .empty
  policies := tables.policies
  presence := .empty
  targetSelectionCounters := .empty
  targets_keyed := empty_keyed

/-- `getPolicy` with an id that comes from a body. -/
def getPolicy (organizationId : String) (id : Json) : Except JsError (Option PolicyRow) :=
  (textValue env id).map fun text => text.bind (tables.policyTables.getPolicy organizationId)

def createPolicy (id organizationId name description : String) (document : Json)
    (enabled : Bool) : Except JsError TunnelTables :=
  if (tables.policies.get? id).isSome then .error (uniqueFailed "policies.id")
  else (tables.policyTables.createPolicy id organizationId name description document enabled).map
    fun db => { tables with policies := db.policies }

def updatePolicy (organizationId id : String) (changes : Database.PolicyChanges) :
    Except JsError (Option TunnelTables) :=
  (tables.policyTables.updatePolicy organizationId id changes).map fun found =>
    found.map fun db => { tables with policies := db.policies }

def deletePolicy (organizationId id : String) : Except JsError (Option TunnelTables) :=
  (tables.policyTables.deletePolicy organizationId id).map fun found =>
    found.map fun db => { tables with policies := db.policies }

/-- The arguments of `createTunnelTarget`. -/
structure TargetInput where
  (agentId name targetHost : String)
  (targetPort weight priority : JsNumber)
  enabled : Bool
  healthCheck : Json

/-- `SELECT id FROM agents WHERE id=? AND organization_id=?`. -/
def agentOf (organizationId id : String) : Option AgentRow :=
  (tables.agents.get? id).filter fun row => row.organizationId = organizationId

/-- `SELECT * FROM tunnels WHERE id=? AND organization_id=?`. -/
def tunnelOf (organizationId id : String) : Option TunnelRecord :=
  (tables.tunnels.get? id).filter fun row => row.organizationId = organizationId

/-- `UNIQUE (tunnel_id, name)`, checked against the other rows. -/
def targetNameTaken (tunnelId name id : String) : Bool :=
  tables.targets.entries.any fun e => e.1 ≠ id && e.2.tunnelId = tunnelId && e.2.name = name

/-- `id` is the uuid drawn for the row. -/
def createTunnelTarget (organizationId tunnelId id : String) (input : TargetInput) :
    Except JsError TunnelTables :=
  if (tables.tunnelOf organizationId tunnelId).isNone ∨
      (tables.agentOf organizationId input.agentId).isNone then
    .error (refused "Túnel ou agente do target não pertence à organização."
      "TARGET_REFERENCE_INVALID")
  else do
    let targetPort ← storeNumber "tunnel_targets.target_port" input.targetPort
    let weight ← storeNumber "tunnel_targets.weight" ((orNumber input.weight 1).max 1)
    let priority ← storeNumber "tunnel_targets.priority" (orNumber input.priority 100)
    if (tables.targets.get? id).isSome then .error (uniqueFailed "tunnel_targets.id")
    else if tables.targetNameTaken tunnelId input.name id then
      .error (uniqueFailed "tunnel_targets.tunnel_id, tunnel_targets.name")
    else .ok { tables with
      targets := tables.targets.set id ⟨id, organizationId, tunnelId, input.agentId, input.name,
        input.targetHost, targetPort, weight, priority, input.enabled, "unknown",
        input.healthCheck⟩ }

/-- `SELECT * FROM tunnel_targets WHERE organization_id=? AND id=?`. -/
def getTunnelTarget (organizationId id : String) : Option TargetRecord :=
  (tables.targets.get? id).filter fun row => row.organizationId = organizationId

/-- `Number(v ?? current)` of a change. -/
def changedNumber (v : Option Json) (current : JsNumber) : Except JsError JsNumber :=
  match v with
  | none | some .null => .ok current
  | some v => v.toNumber env.host

/-- `v ?? current` in a TEXT column that is NOT NULL. -/
def changedText (column : String) (v : Option Json) (current : String) : Except JsError String :=
  requiredText env column (nullish v (.str current))

/-- The check of `changes.agentId`, if it is truthy. -/
def checkTargetAgent (organizationId : String) (agentId : Option Json) : Except JsError Unit :=
  if truthy agentId then do
    match (← textValue env (agentId.getD .null)).bind (tables.agentOf organizationId) with
    | some _ => .ok ()
    | none => .error (refused "Agente do target não pertence à organização." "TARGET_AGENT_INVALID")
  else .ok ()

/-- `changes` is the body of the request; `none` when there is no such target. -/
def updateTunnelTarget (organizationId id : String) (changes : Json) :
    Except JsError (Option TunnelTables) :=
  match tables.getTunnelTarget organizationId id with
  | none => .ok none
  | some current => do
    let agentId ← property (some changes) "agentId"
    tables.checkTargetAgent env organizationId agentId
    let targetPort ← changedNumber env (changes.get? "targetPort") current.targetPort.value
    let weight ← changedNumber env (changes.get? "weight") current.weight.value
    let priority ← changedNumber env (changes.get? "priority") current.priority.value
    let agentId ← changedText env "tunnel_targets.agent_id" agentId current.agentId
    let name ← changedText env "tunnel_targets.name" (changes.get? "name") current.name
    let targetHost ← changedText env "tunnel_targets.target_host" (changes.get? "targetHost")
      current.targetHost
    let targetPort ← storeNumber "tunnel_targets.target_port" targetPort
    let weight ← storeNumber "tunnel_targets.weight" (weight.max 1)
    let priority ← storeNumber "tunnel_targets.priority" priority
    if (tables.agents.get? agentId).isNone then .error foreignKeyFailed
    else if tables.targetNameTaken current.tunnelId name id then
      .error (uniqueFailed "tunnel_targets.tunnel_id, tunnel_targets.name")
    else .ok (some { tables with
      targets := tables.targets.set id { current with
        agentId, name, targetHost, targetPort, weight, priority
        enabled := match changes.get? "enabled" with
          | none => current.enabled
          | some v => v.truthy
        healthCheck := nullish (changes.get? "healthCheck") current.healthCheck } })

/-- `none` when there is no such target. -/
def deleteTunnelTarget (organizationId id : String) : Except JsError (Option TunnelTables) :=
  match tables.getTunnelTarget organizationId id with
  | none => .ok none
  | some target =>
    if (tables.targets.entries.filter fun e => e.2.tunnelId = target.tunnelId).length ≤ 1 then
      .error {
        message := "Um túnel deve manter pelo menos um target."
        statusCode := some 409
        code := some "LAST_TARGET" }
    else .ok (some { tables with targets := tables.targets.erase id })

/-- The arguments of `createTunnel`; of `policyId` it is the value that the check reads. -/
structure TunnelInput where
  (agentId name protocol hostname targetHost : String)
  targetPort : JsNumber
  publicPort : Option ℕ
  policyId : Json
  inspectorEnabled : Bool
  (edgeNodeId relayNodeId : Json)
  targets : List TargetInput

/-- The uuids drawn for the tunnel and for its targets. -/
structure Draws where
  tunnelId : String
  targetId : ℕ → String

/-- `text || d`. -/
def orText (text d : String) : String := if text = "" then d else text

def isWeb (protocol : String) : Bool := protocol = "http" || protocol = "https"

def defaultHealthCheck (protocol : String) : Json :=
  let thresholds := [("intervalSeconds", Json.num 30), ("timeoutSeconds", .num 5),
    ("healthyThreshold", .num 2), ("unhealthyThreshold", .num 3)]
  if isWeb protocol then .obj ([("type", .str "http"), ("path", .str "/healthz")] ++ thresholds)
  else .obj ([("type", .str "tcp")] ++ thresholds)

/-- The targets of the call, or the default one. -/
def TunnelInput.targetList (input : TunnelInput) : List TargetInput :=
  if input.targets = [] then
    [⟨input.agentId, "default", input.targetHost, input.targetPort, .fin 1, .fin 100, true,
      defaultHealthCheck input.protocol⟩]
  else input.targets

/-- One target of the list as `createTunnel` passes it on; `index` counts from zero. -/
def TunnelInput.targetAt (input : TunnelInput) (index : ℕ) (target : TargetInput) : TargetInput :=
  { target with
    agentId := orText target.agentId input.agentId
    name := orText target.name s!"target-{index + 1}"
    targetHost := orText target.targetHost input.targetHost
    targetPort := if target.targetPort = .nan ∨ target.targetPort = .fin 0 then input.targetPort
      else target.targetPort }

/-- The loop of the transaction. -/
def createTargets (organizationId tunnelId : String) (draw : ℕ → String) (input : TunnelInput) :
    ℕ → List TargetInput → TunnelTables → Except JsError TunnelTables
  | _, [], tables => .ok tables
  | index, target :: rest, tables => do
    let next ← tables.createTunnelTarget organizationId tunnelId (draw index)
      (input.targetAt index target)
    createTargets organizationId tunnelId draw input (index + 1) rest next

def checkTargetAgents (organizationId : String) (input : TunnelInput) :
    List TargetInput → Except JsError Unit
  | [] => .ok ()
  | target :: rest =>
    if (tables.agentOf organizationId (orText target.agentId input.agentId)).isNone then
      .error (refused ("Target " ++ orText target.name "sem nome" ++
        " usa agente de outra organização.") "TARGET_AGENT_ORGANIZATION_MISMATCH")
    else checkTargetAgents organizationId input rest

def checkPolicy (organizationId : String) (policyId : Json) (message code : String) :
    Except JsError Unit :=
  if policyId.truthy then do
    match ← tables.getPolicy env organizationId policyId with
    | some _ => .ok ()
    | none => .error (refused message code)
  else .ok ()

/-- The unique index on the public ports of active tunnels, checked against the other rows. -/
def publicPortTaken (protocol : String) (publicPort : Option ℕ) (id : String) : Bool :=
  publicPort.isSome && tables.tunnels.entries.any fun e =>
    e.1 ≠ id && e.2.protocol = protocol && e.2.publicPort = publicPort && e.2.status = "active"

/-- The inserted row. -/
def insertTunnel (organizationId id : String) (input : TunnelInput) :
    Except JsError TunnelTables := do
  let targetPort ← storeNumber "tunnels.target_port" input.targetPort
  let policyId ← textValue env input.policyId
  let _ ← textValue env input.edgeNodeId
  let _ ← textValue env input.relayNodeId
  let hostname := orText input.hostname (input.protocol ++ "-" ++ id ++ ".internal.tunnara")
  if (tables.tunnels.get? id).isSome then .error (uniqueFailed "tunnels.id")
  else if tables.tunnels.entries.any fun e => e.2.hostname = hostname then
    .error (uniqueFailed "tunnels.hostname")
  else if tables.publicPortTaken input.protocol input.publicPort id then
    .error (uniqueFailed "tunnels.protocol, tunnels.public_port")
  else .ok { tables with
    tunnels := tables.tunnels.set id
      { id, organizationId, agentId := input.agentId, policyId, name := input.name
        protocol := input.protocol, hostname, status := "active"
        inspectorEnabled := input.inspectorEnabled, targetHost := input.targetHost, targetPort
        publicPort := input.publicPort, dnsRecordId := none } }

def createTunnel (organizationId : String) (draws : Draws) (input : TunnelInput) :
    Except JsError TunnelTables :=
  if (tables.agentOf organizationId input.agentId).isNone then
    .error (refused "Agente não pertence à organização autenticada." "AGENT_ORGANIZATION_MISMATCH")
  else do
    tables.checkPolicy env organizationId input.policyId
      "Política informada não pertence à organização autenticada." "POLICY_ORGANIZATION_MISMATCH"
    tables.checkTargetAgents organizationId input input.targetList
    let inserted ← tables.insertTunnel env organizationId draws.tunnelId input
    createTargets organizationId draws.tunnelId draws.targetId input 0 input.targetList inserted

/-- `v === undefined ? current : v` in a TEXT column that is NOT NULL. -/
def definedText (column : String) (v : Option Json) (current : String) : Except JsError String :=
  match v with
  | none => .ok current
  | some v => requiredText env column v

/-- The constraints of a column that is left out. -/
def checkColumn (column : String) : Option Json → Except JsError Unit
  | none => .ok ()
  | some v => (requiredText env column v).map fun _ => ()

/-- The `policy_id` of the changed row: `undefined` keeps it. -/
def changedPolicyId (v : Option Json) (current : Option String) : Except JsError (Option String) :=
  match v with
  | none => .ok current
  | some v => textValue env v

/-- `changes` is the body of the request; `none` when there is no such tunnel. -/
def updateTunnel (organizationId id : String) (changes : Json) :
    Except JsError (Option TunnelTables) :=
  match tables.tunnelOf organizationId id with
  | none => .ok none
  | some tunnel => do
    let name ← property (some changes) "name"
    tables.checkPolicy env organizationId ((changes.get? "policyId").getD .null)
      "Política não encontrada." "POLICY_NOT_FOUND"
    let name ← definedText env "tunnels.name" name tunnel.name
    let status ← definedText env "tunnels.status" (changes.get? "status") tunnel.status
    let policyId ← changedPolicyId env (changes.get? "policyId") tunnel.policyId
    checkColumn env "tunnels.inspector_body_limit" (changes.get? "inspectorBodyLimit")
    checkColumn env "tunnels.transport" (changes.get? "transport")
    checkColumn env "tunnels.tls_mode" (changes.get? "tlsMode")
    if status = "active" ∧ tables.publicPortTaken tunnel.protocol tunnel.publicPort id then
      .error (uniqueFailed "tunnels.protocol, tunnels.public_port")
    else .ok (some { tables with
      tunnels := tables.tunnels.set id { tunnel with
        name, status, policyId
        inspectorEnabled := match changes.get? "inspectorEnabled" with
          | none => tunnel.inspectorEnabled
          | some v => v.truthy } })

/-- The deletion of a row with the cascade to its targets. -/
def eraseTunnel (id : String) : TunnelTables :=
  { tables with
    tunnels := tables.tunnels.erase id
    targets := tables.targets.filter fun _ target => target.tunnelId ≠ id }

/-- `none` where the source returns `false`. -/
def deleteTunnel (organizationId id : String) (agentId : Option String) : Option TunnelTables :=
  match tables.tunnels.get? id with
  | none => none
  | some tunnel =>
    if tunnel.organizationId ≠ organizationId ∨
        (agentId.any (· ≠ "") ∧ some tunnel.agentId ≠ agentId) then none
    else some (tables.eraseTunnel id)

/-- The backfill of `migrate`: a tunnel without a target gets the default one. A row that
violates a `UNIQUE` constraint is skipped. -/
def backfill (draw : String → String) : TunnelTables :=
  tables.tunnels.entries.foldl (fun acc e =>
    if (tables.targets.entries.any fun t => t.2.tunnelId = e.1) ∨
        (acc.targets.get? (draw e.1)).isSome then acc
    else { acc with
      targets := acc.targets.set (draw e.1) ⟨draw e.1, e.2.organizationId, e.1, e.2.agentId,
        "default", e.2.targetHost, e.2.targetPort, ⟨.fin 1, nofun⟩, ⟨.fin 100, nofun⟩, true,
        "unknown", .obj []⟩ }) tables

end TunnelTables

end Tunnara.Control
