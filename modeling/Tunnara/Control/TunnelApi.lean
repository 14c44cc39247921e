/-
# The tunnel endpoints of the Control API

`POST /api/v1/tunnels` reads a JSON body, with one target in the body itself or a list
of them, and checks every target before it calls the store. `POST …/targets` and
`PATCH …/tunnel-targets` pass their body on after conversions only.

The random parts of a generated host name are drawn with the request.
-/

import Tunnara.Control.TunnelWrites
import Tunnara.Edge.Forwarding
import Mathlib.Algebra.Order.Ring.Rat
import Mathlib.Data.Nat.Cast.Order.Ring

namespace Tunnara.Control

open Policy TunnelTables

/-- The configuration of the Control; `allowRemoteTargets` is
`TUNNARA_ALLOW_REMOTE_TARGETS === 'true'`. -/
structure ApiEnv extends StoreEnv where
  baseDomain : String
  allowRemoteTargets : Bool
  minPort : ℕ
  maxPort : ℕ

def ApiEnv.plain : ApiEnv := ⟨.plain, "tunnara.test", false, 20000, 40000⟩

/-- Whom `#auth` has found. -/
inductive Principal
  | api (organizationId : String)
  | agent (organizationId id : String)

def Principal.organizationId : Principal → String
  | .api organizationId => organizationId
  | .agent organizationId _ => organizationId

/-- What a request draws: uuids, and the random label of a host name. -/
structure TunnelDraws extends Draws where
  label : String

section

variable (env : ApiEnv)

def isLoopbackHost (value : String) : Bool :=
  let host := env.host.toLowerCase value
  host = "127.0.0.1" || host = "localhost" || host = "::1"

/-- `Number.isInteger(n) && low <= n && n <= high`. -/
def integerWithin (low high : ℕ) : JsNumber → Option ℕ
  | .fin q => if q.den = 1 ∧ (low : ℚ) ≤ q ∧ q ≤ high then some q.num.toNat else none
  | _ => none

theorem integerWithin_eq_some {low high port : ℕ} {n : JsNumber}
    (h : integerWithin low high n = some port) : n = .fin port ∧ low ≤ port ∧ port ≤ high := by
  cases n with
  | nan | posInf | negInf => cases h
  | fin q =>
    simp only [integerWithin] at h
    split_ifs at h with hrange
    obtain ⟨hden, hlow, hhigh⟩ := hrange
    cases h
    have hnum : (q.num : ℚ) = q := Rat.coe_int_num_of_den_eq_one hden
    have hpos : 0 ≤ q.num := Rat.num_nonneg.2 (le_trans (Nat.cast_nonneg low) hlow)
    have hq : ((q.num.toNat : ℕ) : ℚ) = q := by
      rw [← Int.cast_natCast, Int.toNat_of_nonneg hpos, hnum]
    rw [← hq] at hlow hhigh
    exact ⟨by rw [hq], Nat.cast_le.1 hlow, Nat.cast_le.1 hhigh⟩

def validPort (n : JsNumber) : Bool := (integerWithin 1 65535 n).isSome

/-- `v || w`. -/
def firstTruthy (v w : Option Json) : Option Json := if truthy v then v else w

/-- `Number(v)` where `v` may be `undefined`. -/
def numberOf : Option Json → Except JsError JsNumber
  | none => .ok .nan
  | some v => v.toNumber env.host

/-- `normalizeHostname` of a value of the body. -/
def hostnameOf (v : Json) : Except JsError (Option String) :=
  match v with
  | .null => .ok none
  | v => (v.toJsString env.host).map fun text => Edge.normalizeHostname env.host (some (.one text))

def protocolOf (body : Json) : Except JsError String := do
  let protocol := env.host.toLowerCase (← textOr env.host (← property (some body) "protocol") "http")
  if protocol ∈ ["http", "https", "tcp", "udp"] then .ok protocol
  else .error (refused "protocol deve ser http, https, tcp ou udp." "PROTOCOL_NOT_SUPPORTED")

/-- The first target of the list, or the body itself. -/
def primaryOf (body : Json) : Json := (list (body.get? "targets")).headD body

def primaryPort (primary : Json) : Except JsError ℕ := do
  let port ← numberOf env (firstTruthy (← property (some primary) "targetPort")
    (primary.get? "port"))
  match integerWithin 1 65535 port with
  | some port => .ok port
  | none => .error (refused "targetPort deve estar entre 1 e 65535." "TARGET_PORT_INVALID")

def primaryHost (primary : Json) : Except JsError String := do
  let host := trim (← textOr env.host
    (firstTruthy (primary.get? "targetHost") (primary.get? "host")) "127.0.0.1")
  if !isLoopbackHost env host && !env.allowRemoteTargets then
    .error (refused "Por segurança, destinos remotos exigem TUNNARA_ALLOW_REMOTE_TARGETS=true."
      "TARGET_HOST_NOT_ALLOWED")
  else .ok host

/-- The agent of the token, or the one the body names. -/
def primaryAgent (principal : Principal) (body primary : Json) : Except JsError String :=
  match principal with
  | .agent _ id => .ok id
  | .api _ => do
    let agentId ← textOr env.host (firstTruthy (primary.get? "agentId") (body.get? "agentId")) ""
    if agentId = "" then
      .error (refused "agentId é obrigatório para tokens administrativos." "AGENT_ID_REQUIRED")
    else .ok agentId

/-- The agent of a target: that of the token, the one it names, or the tunnel's. -/
def targetAgent (principal : Principal) (agentId : String) (target : Json) :
    Except JsError String :=
  match principal with
  | .agent _ id => .ok id
  | .api _ => textOr env.host (target.get? "agentId") agentId

/-- One entry of `normalizedTargets`; `index` counts from zero. -/
def readTarget (principal : Principal) (body : Json) (agentId targetHost : String)
    (targetPort index : ℕ) (target : Json) : Except JsError TargetInput := do
  let host := trim (← textOr env.host
    (firstTruthy (← property (some target) "targetHost") (target.get? "host")) targetHost)
  let port ← numberOf env (firstTruthy (firstTruthy (target.get? "targetPort")
    (target.get? "port")) (some (.num targetPort)))
  let targetAgentId ← targetAgent env principal agentId target
  if !validPort port then
    .error (refused s!"Porta inválida no target {index + 1}." "TARGET_PORT_INVALID")
  else if !isLoopbackHost env host && !env.allowRemoteTargets then
    .error (refused s!"Destino remoto bloqueado no target {index + 1}." "TARGET_HOST_NOT_ALLOWED")
  else do
    let name ← textOr env.host (target.get? "name") s!"target-{index + 1}"
    let weight ← numberOr env.host (target.get? "weight") 1
    let priority ← (nullish (target.get? "priority") (.num 100)).toNumber env.host
    return ⟨targetAgentId, name, host, port, weight.max 1, priority,
      notFalse (target.get? "enabled"),
      orDefault (firstTruthy (target.get? "healthCheck") (body.get? "healthCheck")) (.obj [])⟩

def readTargets (principal : Principal) (body : Json) (agentId targetHost : String)
    (targetPort : ℕ) : ℕ → List Json → Except JsError (List TargetInput)
  | _, [] => .ok []
  | index, target :: rest => do
    let first ← readTarget env principal body agentId targetHost targetPort index target
    let others ← readTargets principal body agentId targetHost targetPort (index + 1) rest
    return first :: others

/-- The entries of the body, or the one made of its own fields. -/
def targetEntries (body : Json) (agentId targetHost : String) (targetPort : ℕ) : List Json :=
  match list (body.get? "targets") with
  | [] => [.obj [("name", .str "default"), ("agentId", .str agentId),
      ("targetHost", .str targetHost), ("targetPort", .num targetPort), ("weight", .num 1),
      ("priority", .num 100), ("healthCheck", orDefault (body.get? "healthCheck") (.obj []))]]
  | targets => targets

/-- `body.hostname ? normalizeHostname(body.hostname) : null`. -/
def requestedHostname (body : Json) : Except JsError (Option String) :=
  if truthy (body.get? "hostname") then hostnameOf env ((body.get? "hostname").getD .null)
  else .ok none

/-- The host name the body asks for, or a generated one. -/
def hostnameFor (protocol label : String) (body : Json) : Except JsError String := do
  match ← requestedHostname env body with
  | some hostname => .ok hostname
  | none =>
    if truthy (body.get? "hostname") then .error (refused "Hostname inválido." "HOSTNAME_INVALID")
    else if isWeb protocol then .ok (label ++ "." ++ env.baseDomain)
    else .ok (protocol ++ "-" ++ label ++ ".internal.tunnara")

/-- The first port of the range that no active tunnel of the protocol has. -/
def allocatePublicPort (tables : TunnelTables) (protocol : String) : Except JsError ℕ :=
  match (List.range' env.minPort (env.maxPort + 1 - env.minPort)).find? fun port =>
      tables.tunnels.entries.all fun e =>
        e.2.protocol ≠ protocol || e.2.status ≠ "active" || e.2.publicPort ≠ some port with
  | some port => .ok port
  | none => .error {
      message := s!"Nenhuma porta pública disponível entre {env.minPort} e {env.maxPort}."
      statusCode := some 409
      code := some "PUBLIC_PORT_EXHAUSTED" }

def publicPortFor (tables : TunnelTables) (protocol : String) (body : Json) :
    Except JsError (Option ℕ) :=
  if isWeb protocol then .ok none
  else if truthy (body.get? "publicPort") then do
    let port ← numberOf env (body.get? "publicPort")
    match integerWithin env.minPort env.maxPort port with
    | some port => .ok (some port)
    | none => .error (refused s!"publicPort deve estar entre {env.minPort} e {env.maxPort}."
        "PUBLIC_PORT_INVALID")
  else (allocatePublicPort env tables protocol).map some

/-- Everything that `POST /api/v1/tunnels` computes before it calls the store. -/
def readTunnel (tables : TunnelTables) (principal : Principal) (label : String) (body : Json) :
    Except JsError TunnelInput := do
  let protocol ← protocolOf env body
  let primary := primaryOf body
  let targetPort ← primaryPort env primary
  let targetHost ← primaryHost env primary
  let agentId ← primaryAgent env principal body primary
  let targets ← readTargets env principal body agentId targetHost targetPort 0
    (targetEntries body agentId targetHost targetPort)
  let hostname ← hostnameFor env protocol label body
  let publicPort ← publicPortFor env tables protocol body
  let name ← textOr env.host (body.get? "name")
    (env.host.toUpperCase protocol ++ " " ++ env.host.numberToString targetPort)
  let _ ← textOr env.host (body.get? "transport") "auto"
  let _ ← textOr env.host (body.get? "tlsMode") "automatic"
  let _ ← numberOr env.host (body.get? "inspectorBodyLimit") 65536
  return {
    agentId, name, protocol, hostname, targetHost, targetPort := .fin targetPort, publicPort
    policyId := orDefault (body.get? "policyId") .null
    inspectorEnabled := body.get? "inspectorEnabled" = some (.bool true)
    edgeNodeId := orDefault (body.get? "edgeNodeId") .null
    relayNodeId := orDefault (body.get? "relayNodeId") .null
    targets }

theorem readTunnel_eq_ok {tables : TunnelTables} {principal : Principal} {label : String}
    {body : Json} {input : TunnelInput}
    (h : readTunnel env tables principal label body = .ok input) :
    ∃ port : ℕ, input.targetPort = .fin port ∧
      primaryPort env (primaryOf body) = .ok port ∧
      primaryHost env (primaryOf body) = .ok input.targetHost ∧
      readTargets env principal body input.agentId input.targetHost port 0
        (targetEntries body input.agentId input.targetHost port) = .ok input.targets ∧
      hostnameFor env input.protocol label body = .ok input.hostname := by
  obtain ⟨protocol, -, h⟩ := bind_eq_ok.1 h
  obtain ⟨port, hport, h⟩ := bind_eq_ok.1 h
  obtain ⟨host, hhost, h⟩ := bind_eq_ok.1 h
  obtain ⟨agentId, -, h⟩ := bind_eq_ok.1 h
  obtain ⟨targets, htargets, h⟩ := bind_eq_ok.1 h
  obtain ⟨hostname, hhostname, h⟩ := bind_eq_ok.1 h
  obtain ⟨publicPort, -, h⟩ := bind_eq_ok.1 h
  obtain ⟨name, -, h⟩ := bind_eq_ok.1 h
  obtain ⟨_, -, h⟩ := bind_eq_ok.1 h
  obtain ⟨_, -, h⟩ := bind_eq_ok.1 h
  obtain ⟨_, -, h⟩ := bind_eq_ok.1 h
  cases h
  exact ⟨port, rfl, hport, hhost, htargets, hhostname⟩

/-- `POST /api/v1/tunnels` up to the call of `createTunnel`. -/
def postTunnel (tables : TunnelTables) (principal : Principal) (draws : TunnelDraws)
    (body : Json) : Except JsError TunnelTables := do
  let input ← readTunnel env tables principal draws.label body
  tables.createTunnel env.toStoreEnv principal.organizationId draws.toDraws input

/-- The arguments of `POST /api/v1/tunnels/:id/targets`. -/
def readNewTarget (body : Json) : Except JsError TargetInput := do
  let agentId ← textOr env.host (← property (some body) "agentId") ""
  let name ← textOr env.host (body.get? "name") "target"
  let targetHost ← textOr env.host (body.get? "targetHost") "127.0.0.1"
  let targetPort ← numberOf env (body.get? "targetPort")
  let weight ← numberOr env.host (body.get? "weight") 1
  let priority ← (nullish (body.get? "priority") (.num 100)).toNumber env.host
  return ⟨agentId, name, targetHost, targetPort, weight, priority, notFalse (body.get? "enabled"),
    orDefault (body.get? "healthCheck") (.obj [])⟩

def postTarget (tables : TunnelTables) (organizationId tunnelId id : String) (body : Json) :
    Except JsError TunnelTables := do
  let input ← readNewTarget env body
  tables.createTunnelTarget organizationId tunnelId id input

end

end Tunnara.Control
