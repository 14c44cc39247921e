/-
# Policies and routes of the Laravel plane

What `PolicyController` accepts and stores, and the route JSON that
`RouteResolver::resolve` builds and `ClusterController` returns.
`random_int` is a parameter.

Laravel keeps only the validated keys of a nested array, so a stored definition
has at most the key `rules`.
-/

import Mathlib.Data.List.Sort
import Tunnara.Laravel.Database
import Tunnara.Policy.Document

namespace Tunnara.Laravel

open Policy

/-- A PHP array of at most 200 entries: a JSON array or object. -/
def isRuleArray : Json → Bool
  | .arr items => items.length ≤ 200
  | .obj fields => fields.length ≤ 200
  | _ => false

/-- `required` on an array: present and not empty. -/
def isNonEmpty : Json → Bool
  | .arr items => items ≠ []
  | .obj fields => fields ≠ []
  | _ => false

/-- The `definition` rules of `store`, and the definition they keep. -/
def validateDefinition (body : Json) : Option Json :=
  match body.get? "definition" with
  | some (.obj fields) =>
    match Json.lookup fields "rules" with
    | some rules =>
      if isRuleArray rules && isNonEmpty rules then some (.obj [("rules", rules)]) else none
    | none => none
  | _ => none

/-- `boolean`: what Laravel takes for a truth value. -/
def validateBoolean : Json → Option Bool
  | .bool b => some b
  | .num q => if q = 1 then some true else if q = 0 then some false else none
  | .str s => if s = "1" then some true else if s = "0" then some false else none
  | _ => none

/-- `PolicyController::store`; `none` is the 422 of a failed validation. -/
def storePolicy (db : Database) (organizationId id : String) (body : Json) : Option Database := do
  let name ← match body.get? "name" with
    | some (.str s) => if s ≠ "" ∧ s.length ≤ 120 then some s else none
    | _ => none
  if db.policies.entries.any fun e => e.2.organizationId = organizationId ∧ e.2.name = name then
    none
  else do
    let description ← match body.get? "description" with
      | none => some none
      | some .null => some none
      | some (.str s) => if s.length ≤ 2000 then some (some s) else none
      | some _ => none
    let enabled ← match body.get? "enabled" with
      | none => some true
      | some v => validateBoolean v
    let definition ← validateDefinition body
    return { db with
      policies := db.policies.set id
        ⟨id, organizationId, name, description, enabled, definition, 1⟩ }

/-- The enabled targets of a tunnel by priority; the texts `""` and `"0"` are no target id. -/
def enabledTargets (db : Database) (tunnelId : String) (requested : Option String) :
    List TargetRow :=
  (((db.targets.entries.map Prod.snd).filter fun row =>
      row.tunnelId = tunnelId && row.enabled &&
        (match requested with
          | some id => id = "" || id = "0" || row.id = id
          | none => true)).insertionSort fun a b => a.priority ≤ b.priority)

/-- Walk the candidates until the drawn number is used up; the first one is the fallback. -/
def pickTarget (pick : ℤ) : List TargetRow → TargetRow → TargetRow
  | [], fallback => fallback
  | candidate :: rest, fallback =>
    if pick - max 1 candidate.weight ≤ 0 then candidate
    else pickTarget (pick - max 1 candidate.weight) rest fallback

def selectTarget (targets : List TargetRow) (pick : ℤ) : Option TargetRow :=
  let healthy := targets.filter fun row => row.healthStatus = "healthy"
  let candidates := if healthy ≠ [] then healthy
    else targets.filter fun row => row.healthStatus = "unknown"
  let tier := candidates.filter fun row => candidates.all fun other => row.priority ≤ other.priority
  match tier with
  | [] => none
  | first :: rest => some (pickTarget pick (first :: rest) first)

def nullable : Option String → Json
  | none => .null
  | some s => .str s

def PolicyRow.toJson (row : PolicyRow) : Json :=
  .obj [("id", .str row.id), ("organization_id", .str row.organizationId),
    ("name", .str row.name), ("description", nullable row.description),
    ("enabled", .bool row.enabled), ("definition", row.definition), ("revision", .num row.revision)]

/-- The attributes of a tunnel with its loaded `policy` relation. -/
def TunnelRow.toJson (row : TunnelRow) (policy : Option PolicyRow) : Json :=
  .obj [("id", .str row.id), ("organization_id", .str row.organizationId),
    ("agent_id", .str row.agentId), ("policy_id", nullable row.policyId), ("name", .str row.name),
    ("protocol", .str row.protocol), ("target_host", .str row.targetHost),
    ("target_port", .num row.targetPort), ("public_hostname", nullable row.publicHostname),
    ("status", .str row.status), ("inspector_enabled", .bool row.inspectorEnabled),
    ("inspector_body_limit", .num row.inspectorBodyLimit),
    ("policy", (policy.map PolicyRow.toJson).getD .null)]

def TargetRow.toJson (row : TargetRow) : Json :=
  .obj [("id", .str row.id), ("organization_id", .str row.organizationId),
    ("tunnel_id", .str row.tunnelId), ("agent_id", .str row.agentId), ("name", .str row.name),
    ("target_host", .str row.targetHost), ("target_port", .num row.targetPort),
    ("weight", .num row.weight), ("priority", .num row.priority), ("enabled", .bool row.enabled),
    ("health_status", .str row.healthStatus)]

def PresenceRow.toJson (row : PresenceRow) : Json :=
  .obj [("agent_id", .str row.agentId), ("relay_node_id", nullable row.relayNodeId),
    ("relay_edge_url", nullable row.relayEdgeUrl)]

def resolve (db : Database) (tunnel : TunnelRow) (requested : Option String) (pick : ℤ) :
    Json :=
  match selectTarget (enabledTargets db tunnel.id requested) pick with
  | none => .obj [("tunnel", tunnel.toJson none), ("target", .null), ("presence", .null)]
  | some target =>
    .obj [("tunnel", tunnel.toJson (tunnel.policyId.bind db.policies.get?)),
      ("target", target.toJson),
      ("presence", ((db.presence.get? target.agentId).map PresenceRow.toJson).getD .null)]

/-- `routeByHostname`: a route, or the error status of the response. -/
def routeByHostname (db : Database) (hostname : String) (requested : Option String) (pick : ℤ) :
    Except ℕ Json :=
  match (db.tunnels.entries.map Prod.snd).find? fun row =>
      row.publicHostname = some hostname && row.status = "active" with
  | none => .error 404
  | some tunnel =>
    let route := resolve db tunnel requested pick
    if truthy (route.get? "target") then .ok route else .error 503

/-- `RouteResolver::byId`: the route of an active tunnel. -/
def byId (db : Database) (id : String) (requested : Option String) (pick : ℤ) : Option Json :=
  ((db.tunnels.get? id).filter fun row => row.status = "active").map fun tunnel =>
    resolve db tunnel requested pick

/-- `routeByTunnel`: a route, or the error status of the response. -/
def routeByTunnel (db : Database) (id : String) (requested : Option String) (pick : ℤ) :
    Except ℕ Json :=
  match byId db id requested pick with
  | none => .error 404
  | some route => if truthy (route.get? "target") then .ok route else .error 503

theorem byId_eq_none {db : Database} {id : String} {requested : Option String} {pick : ℤ}
    (h : ∀ row, db.tunnels.get? id = some row → row.status ≠ "active") :
    byId db id requested pick = none := by
  unfold byId
  cases hrow : db.tunnels.get? id with
  | none => rfl
  | some row => simp [h row hrow]

end Tunnara.Laravel
