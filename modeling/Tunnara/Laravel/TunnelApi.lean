/-
# The tunnel and target endpoints of the Laravel plane

`TunnelController` and `TunnelTargetController` behind the session-token branch of
`AuthenticateServiceToken`. A payload has its fields already typed; one whose
field has another type is refused with 422 like one that fails a rule below. New
ids are drawn by a parameter; an insert under an id that exists fails and rolls
its transaction back.
-/

import Tunnara.Laravel.Agents

namespace Tunnara.Laravel

/-- Who a request is made for; `agentId` is set for a session token only. -/
structure Principal where
  organizationId : String
  agentId : Option String

structure TargetPayload where
  id : Option String := none
  agentId : Option String := none
  name : Option String := none
  targetHost : Option String := none
  targetPort : Option ℕ := none
  weight : Option ℕ := none
  priority : Option ℕ := none
  enabled : Option Bool := none
  healthCheck : Option (Option Json) := none

structure TunnelPayload where
  agentId : Option String := none
  policyId : Option (Option String) := none
  name : Option String := none
  protocol : Option String := none
  targetHost : Option String := none
  targetPort : Option ℕ := none
  publicHostname : Option (Option String) := none
  publicPort : Option (Option ℕ) := none
  status : Option String := none
  configuration : Option (Option Json) := none
  inspectorEnabled : Option Bool := none
  inspectorBodyLimit : Option ℕ := none
  targets : Option (List TargetPayload) := none

def isHex (c : Char) : Bool := c.isDigit || ('a' ≤ c && c ≤ 'f') || ('A' ≤ c && c ≤ 'F')

def isUuid (id : String) : Bool :=
  match splitChar '-' id with
  | [a, b, c, d, e] =>
    (([a, b, c, d, e].map fun part => part.toList.length) = [8, 4, 4, 4, 12]) &&
      [a, b, c, d, e].all fun part => part.toList.all isHex
  | _ => false

/-- A field under `required` or `sometimes`, and its other rules. -/
def check {α : Type} (required : Bool) (value : Option α) (rule : α → Bool) : Bool :=
  match value with
  | none => !required
  | some v => rule v

/-- A field under `nullable`. -/
def checkNullable {α : Type} (value : Option (Option α)) (rule : α → Bool) : Bool :=
  check false value fun v => check false v rule

def text (max : ℕ) (s : String) : Bool := s ≠ "" && s.length ≤ max

def between (min max n : ℕ) : Bool := min ≤ n && n ≤ max

/-- `Rule::exists(Agent::class)` within an organization. -/
def agentExists (db : Database) (organizationId id : String) : Bool :=
  isUuid id && (match db.agents.get? id with
    | some agent => agent.organizationId = organizationId
    | none => false)

def policyExists (db : Database) (organizationId id : String) : Bool :=
  isUuid id && (match db.policies.get? id with
    | some policy => policy.organizationId = organizationId
    | none => false)

/-- The rules of a target, in either controller. -/
def validTarget (db : Database) (organizationId : String) (required : Bool) (p : TargetPayload) :
    Bool :=
  check required p.agentId (agentExists db organizationId) &&
    check required p.name (text 120) && check required p.targetHost (text 255) &&
    check required p.targetPort (between 1 65535) && check false p.weight (between 1 10000) &&
    check false p.priority (between 0 65535)

/-- `TunnelController::validated`. -/
def validTunnel (db : Database) (organizationId : String) (required : Bool) (p : TunnelPayload) :
    Bool :=
  check required p.agentId (agentExists db organizationId) &&
    checkNullable p.policyId (policyExists db organizationId) &&
    check required p.name (text 120) &&
    check required p.protocol
      (fun s => s ∈ ["http", "https", "tcp", "udp", "private_network"]) &&
    check required p.targetHost (text 255) && check required p.targetPort (between 1 65535) &&
    checkNullable p.publicHostname (fun s => s.length ≤ 255) &&
    checkNullable p.publicPort (between 1 65535) &&
    check false p.status (fun s => s ∈ ["pending", "active", "disabled", "error"]) &&
    check false p.inspectorBodyLimit (between 0 10485760) &&
    check false p.targets fun targets =>
      between 1 64 targets.length && targets.all fun t =>
        check false t.id isUuid && validTarget db organizationId true t

/-- `$target->update($data)`. -/
def TargetRow.update (row : TargetRow) (p : TargetPayload) : TargetRow :=
  { row with
    agentId := p.agentId.getD row.agentId
    name := p.name.getD row.name
    targetHost := p.targetHost.getD row.targetHost
    targetPort := p.targetPort.getD row.targetPort
    weight := p.weight.getD row.weight
    priority := p.priority.getD row.priority
    enabled := p.enabled.getD row.enabled
    healthCheck := p.healthCheck.getD row.healthCheck }

/-- `$tunnel->targets()->create($data)` with the defaults of the columns. -/
def TargetRow.create (id organizationId tunnelId : String) (p : TargetPayload) : TargetRow where
  id := id
  organizationId := organizationId
  tunnelId := tunnelId
  agentId := p.agentId.getD ""
  name := p.name.getD "default"
  targetHost := p.targetHost.getD ""
  targetPort := p.targetPort.getD 0
  weight := p.weight.getD 1
  priority := p.priority.getD 100
  enabled := p.enabled.getD true
  healthStatus := "unknown"
  healthCheck := p.healthCheck.getD none

/-- `$tunnel->update($data)`. -/
def TunnelRow.update (row : TunnelRow) (p : TunnelPayload) : TunnelRow :=
  { row with
    agentId := p.agentId.getD row.agentId
    policyId := p.policyId.getD row.policyId
    name := p.name.getD row.name
    protocol := p.protocol.getD row.protocol
    targetHost := p.targetHost.getD row.targetHost
    targetPort := p.targetPort.getD row.targetPort
    publicHostname := p.publicHostname.getD row.publicHostname
    publicPort := p.publicPort.getD row.publicPort
    status := p.status.getD row.status
    configuration := p.configuration.getD row.configuration
    inspectorEnabled := p.inspectorEnabled.getD row.inspectorEnabled
    inspectorBodyLimit := p.inspectorBodyLimit.getD row.inspectorBodyLimit }

/-- `Tunnel::query()->create($data + ['status' => 'active', …])`. -/
def TunnelRow.create (id organizationId : String) (p : TunnelPayload) : TunnelRow where
  id := id
  organizationId := organizationId
  agentId := p.agentId.getD ""
  policyId := p.policyId.getD none
  name := p.name.getD ""
  protocol := p.protocol.getD ""
  targetHost := p.targetHost.getD ""
  targetPort := p.targetPort.getD 0
  publicHostname := p.publicHostname.getD none
  publicPort := p.publicPort.getD none
  status := p.status.getD "active"
  configuration := p.configuration.getD none
  inspectorEnabled := p.inspectorEnabled.getD false
  inspectorBodyLimit := p.inspectorBodyLimit.getD 65536

/-- `public_hostname` is unique and nullable. -/
def hostnameTaken (db : Database) (id : String) (publicHostname : Option String) : Bool :=
  publicHostname ≠ none &&
    db.tunnels.entries.any fun e => e.1 ≠ id && e.2.publicHostname = publicHostname

/-- A response status other than success; nothing has been written. -/
abbrev Refused := Except ℕ

/-- `authorizeOrganization` and route-model binding of the tunnel. -/
def tunnelOf (principal : Principal) (db : Database) (tunnelId : String) : Refused TunnelRow :=
  match db.tunnels.get? tunnelId with
  | some tunnel =>
    if tunnel.organizationId = principal.organizationId then .ok tunnel else .error 404
  | none => .error 404

def authorizeTunnelAccess (principal : Principal) (tunnel : TunnelRow) : Refused Unit :=
  match principal.agentId with
  | some agentId => if tunnel.agentId = agentId then .ok () else .error 404
  | none => .ok ()

/-- Insert targets under the ids drawn from `index` on. -/
def insertTargets (draw : ℕ → String) (organizationId tunnelId : String) :
    ℕ → List TargetPayload → OrdMap String TargetRow → Refused (OrdMap String TargetRow)
  | _, [], targets => .ok targets
  | index, p :: rest, targets =>
    if (targets.get? (draw index)).isSome then .error 500
    else insertTargets draw organizationId tunnelId (index + 1) rest
      (targets.set (draw index) (.create (draw index) organizationId tunnelId p))

/-- `healthCheck` of the configuration, for the default target. -/
def defaultHealthCheck (p : TunnelPayload) : Option Json :=
  match p.configuration with
  | some (some configuration) =>
    match configuration.get? "healthCheck" with
    | none => some (.arr [])
    | some .null => some (.arr [])
    | some check => some check
  | _ => some (.arr [])

/-- The target of a tunnel that was submitted without targets. -/
def defaultTarget (p : TunnelPayload) : TargetPayload where
  agentId := p.agentId
  name := some "default"
  targetHost := p.targetHost
  targetPort := p.targetPort
  weight := some 1
  priority := some 100
  enabled := some true
  healthCheck := some (defaultHealthCheck p)

/-- What an agent's token makes of a payload: it and all its targets are the agent's. -/
def ownPayload (principal : Principal) (p : TunnelPayload) : TunnelPayload :=
  match principal.agentId with
  | some agentId =>
    { p with
      agentId := some agentId
      targets := p.targets.map fun targets =>
        targets.map fun t => { t with agentId := some agentId } }
  | none => p

def storeTunnel (principal : Principal) (draw : ℕ → String) (db : Database) (p : TunnelPayload) :
    Refused Database :=
  if validTunnel db principal.organizationId true p then
    let own := ownPayload principal p
    let row := TunnelRow.create (draw 0) principal.organizationId own
    if (db.tunnels.get? (draw 0)).isSome || hostnameTaken db (draw 0) row.publicHostname then
      .error 500
    else
      (insertTargets draw principal.organizationId (draw 0) 1
        (own.targets.getD [defaultTarget own]) db.targets).map fun targets =>
          { db with tunnels := db.tunnels.set (draw 0) row, targets := targets }
  else .error 422

def namedTarget (tunnelId : String) (targets : OrdMap String TargetRow) (p : TargetPayload) :
    Option (String × TargetRow) :=
  match p.id with
  | some id =>
    match targets.get? id with
    | some row => if row.tunnelId = tunnelId then some (id, row) else none
    | none => none
  | none => none

/-- The loop of `update`: entries that name a target of the tunnel update it, the
others create one. The result has the ids to keep. -/
def syncTargets (draw : ℕ → String) (organizationId tunnelId : String) :
    ℕ → List TargetPayload → OrdMap String TargetRow → List String →
      Refused (OrdMap String TargetRow × List String)
  | _, [], targets, ids => .ok (targets, ids)
  | index, p :: rest, targets, ids =>
    match namedTarget tunnelId targets p with
    | some (id, row) =>
      syncTargets draw organizationId tunnelId index rest (targets.set id (row.update p))
        (ids ++ [id])
    | none =>
      if (targets.get? (draw index)).isSome then .error 500
      else syncTargets draw organizationId tunnelId (index + 1) rest
        (targets.set (draw index) (.create (draw index) organizationId tunnelId p))
        (ids ++ [draw index])

def updateTunnel (principal : Principal) (draw : ℕ → String) (db : Database) (tunnelId : String)
    (p : TunnelPayload) : Refused Database := do
  let tunnel ← tunnelOf principal db tunnelId
  authorizeTunnelAccess principal tunnel
  if !validTunnel db tunnel.organizationId false p then .error 422
  else
    let row := tunnel.update p
    if hostnameTaken db tunnelId row.publicHostname then .error 500
    else match p.targets with
      | none => return { db with tunnels := db.tunnels.set tunnelId row }
      | some entries => do
        let (targets, ids) ←
          syncTargets draw tunnel.organizationId tunnelId 0 entries db.targets []
        if ids = [] then .error 422
        else return { db with
          tunnels := db.tunnels.set tunnelId row
          targets := targets.filter fun id target => target.tunnelId ≠ tunnelId || id ∈ ids }

/-- The foreign key deletes the targets with their tunnel. -/
def destroyTunnel (principal : Principal) (db : Database) (tunnelId : String) :
    Refused Database := do
  let tunnel ← tunnelOf principal db tunnelId
  authorizeTunnelAccess principal tunnel
  return { db with
    tunnels := db.tunnels.erase tunnelId
    targets := db.targets.filter fun _ target => target.tunnelId ≠ tunnelId }

def storeTarget (principal : Principal) (draw : ℕ → String) (db : Database) (tunnelId : String)
    (p : TargetPayload) : Refused Database := do
  let tunnel ← tunnelOf principal db tunnelId
  if validTarget db tunnel.organizationId true p then
    (insertTargets draw tunnel.organizationId tunnelId 0 [p] db.targets).map fun targets =>
      { db with targets := targets }
  else .error 422

def targetOf (db : Database) (tunnelId targetId : String) : Refused TargetRow :=
  match db.targets.get? targetId with
  | some target => if target.tunnelId = tunnelId then .ok target else .error 404
  | none => .error 404

def updateTarget (principal : Principal) (db : Database) (tunnelId targetId : String)
    (p : TargetPayload) : Refused Database := do
  let tunnel ← tunnelOf principal db tunnelId
  let target ← targetOf db tunnelId targetId
  if validTarget db tunnel.organizationId false p then
    return { db with targets := db.targets.set targetId (target.update p) }
  else .error 422

def destroyTarget (principal : Principal) (db : Database) (tunnelId targetId : String) :
    Refused Database := do
  let _ ← tunnelOf principal db tunnelId
  let target ← targetOf db tunnelId targetId
  let enabledCount := (db.targets.entries.filter fun e =>
    e.2.tunnelId = tunnelId && e.2.enabled).length
  if enabledCount ≤ 1 ∧ target.enabled then .error 409
  else return { db with targets := db.targets.erase targetId }

/-- A write to the tunnel or target endpoints. -/
inductive TunnelRequest
  | storeTunnel (p : TunnelPayload)
  | updateTunnel (tunnelId : String) (p : TunnelPayload)
  | destroyTunnel (tunnelId : String)
  | storeTarget (tunnelId : String) (p : TargetPayload)
  | updateTarget (tunnelId targetId : String) (p : TargetPayload)
  | destroyTarget (tunnelId targetId : String)

def serve (principal : Principal) (draw : ℕ → String) (db : Database) :
    TunnelRequest → Refused Database
  | .storeTunnel p => storeTunnel principal draw db p
  | .updateTunnel tunnelId p => updateTunnel principal draw db tunnelId p
  | .destroyTunnel tunnelId => destroyTunnel principal db tunnelId
  | .storeTarget tunnelId p => storeTarget principal draw db tunnelId p
  | .updateTarget tunnelId targetId p => updateTarget principal db tunnelId targetId p
  | .destroyTarget tunnelId targetId => destroyTarget principal db tunnelId targetId

/-- The session-token branch of `AuthenticateServiceToken`: the agent of the token. -/
def authenticate (php : Php) (db : Database) (plainToken : String) (now : ℕ) : Option AgentRow :=
  (findByToken db.agents (php.sha256 plainToken)).filter fun agent => agent.sessionLasts now

/-- The agent of an accepted token is marked online. -/
def markOnline (db : Database) (agent : AgentRow) (now : ℕ) : Database :=
  { db with
    agents := db.agents.mapVals fun key row =>
      if key = agent.id then row.save agent "online" (some now) else row }

/-- A request with an agent's session token; a refused one leaves the tables alone. -/
def handle (php : Php) (now : ℕ) (draw : ℕ → String) (db : Database) (plainToken : String)
    (request : TunnelRequest) : Database :=
  match authenticate php db plainToken now with
  | none => db
  | some agent =>
    match serve ⟨agent.organizationId, some agent.id⟩ draw (markOnline db agent now) request with
    | .ok next => next
    | .error _ => markOnline db agent now

end Tunnara.Laravel
