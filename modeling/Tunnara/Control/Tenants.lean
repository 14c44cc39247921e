/-
# The store of all organizations

The tables of the Node store in which a row belongs to an organization, and the operations that
the Control's endpoints invoke on them for the organization of the caller. A request that awaits
the provider is two operations, so that requests of other organizations come between. The audit
log and the columns that nothing here reads are left out.
-/

import Tunnara.Control.AgentAuth
import Tunnara.Control.Idempotency
import Tunnara.Control.Networks

namespace Tunnara.Control

open Policy TunnelTables

structure ApiTokenRow where
  (id organizationId name tokenHash : String)
  scopes : List String
  revoked : Bool
  deriving DecidableEq

structure ProvisioningTokenRow where
  (id organizationId tokenHash name : String)
  expiresAt : ℕ
  used : Bool

structure CertificateRow where
  (id organizationId primaryName : String)
  sans : List String

structure InspectionRow where
  (id organizationId tunnelId : String)
  createdAt : ℕ

structure Store extends Api where
  apiTokens : OrdMap String ApiTokenRow
  provisioningTokens : OrdMap String ProvisioningTokenRow
  presence : OrdMap String PresenceRow
  networks : OrdMap String NetworkRow
  peers : OrdMap String PeerRow
  certificates : OrdMap String CertificateRow
  inspections : OrdMap String InspectionRow

namespace Store

variable (env : IdempotencyEnv) (store : Store)

/-- `id` and the token are drawn. -/
def createApiToken (organizationId id name tokenHash : String) (scopes : List String) :
    Except JsError Store :=
  if (store.apiTokens.get? id).isSome then .error (uniqueFailed "api_tokens.id")
  else if store.apiTokens.entries.any fun e => e.2.tokenHash = tokenHash then
    .error (uniqueFailed "api_tokens.token_hash")
  else .ok { store with
    apiTokens := store.apiTokens.set id ⟨id, organizationId, name, tokenHash, scopes, false⟩ }

/-- `none` where the source returns `false`. -/
def revokeApiToken (organizationId id : String) : Option Store :=
  match (store.apiTokens.get? id).filter fun row =>
      row.organizationId = organizationId && !row.revoked with
  | none => none
  | some row => some { store with apiTokens := store.apiTokens.set id { row with revoked := true } }

def createProvisioningToken (organizationId id name tokenHash : String) (expiresAt : ℕ) :
    Except JsError Store :=
  if (store.provisioningTokens.get? id).isSome then
    .error (uniqueFailed "provisioning_tokens.id")
  else if store.provisioningTokens.entries.any fun e => e.2.tokenHash = tokenHash then
    .error (uniqueFailed "provisioning_tokens.token_hash")
  else .ok { store with
    provisioningTokens := store.provisioningTokens.set id
      ⟨id, organizationId, tokenHash, name, expiresAt, false⟩ }

/-- The key and the row of a token that can still be used. -/
def usableToken (tokenHash : String) (now : ℕ) : Option (String × ProvisioningTokenRow) :=
  store.provisioningTokens.entries.find? fun e =>
    e.2.tokenHash = tokenHash ∧ e.2.used = false ∧ isoLe e.2.expiresAt now = false

def consumeProvisioningToken (tokenHash : String) (now : ℕ) :
    Option (ProvisioningTokenRow × Store) :=
  (store.usableToken tokenHash now).map fun e =>
    (e.2, { store with
      provisioningTokens := store.provisioningTokens.set e.1 { e.2 with used := true } })

/-- The columns of the inserted row that come from the body. -/
def checkAgentColumns (payload : Json) : List String → Except JsError Unit
  | [] => .ok ()
  | column :: rest =>
    match payload.get? column with
    | none => .error bindError
    | some v => do
      let _ ← requiredText env.toStoreEnv ("agents." ++ column) v
      checkAgentColumns payload rest

/-- The token is used up also when the row is not inserted. -/
def registerAgent (tokenHash id : String) (now : ℕ) (payload : Json) : Store :=
  match store.consumeProvisioningToken tokenHash now with
  | none => store
  | some (provision, consumed) =>
    match checkAgentColumns env payload
        ["name", "platform", "architecture", "version", "publicKey"] with
    | .error _ => consumed
    | .ok () =>
      if (consumed.tables.agents.get? id).isSome then consumed
      else
        let tables := { consumed.tables with
          agents := consumed.tables.agents.set id ⟨id, provision.organizationId, "offline", none⟩ }
        { consumed with tables := tables }

/-- `touchAgent(auth.id, 'online')`. -/
def touchAgent (agentId : String) : Store :=
  let tables := { store.tables with
    agents := store.tables.agents.update agentId fun row => { row with status := "online" } }
  { store with tables := tables }

/-- `none` when the organization has no such agent. -/
def revokeAgent (organizationId id timestamp : String) : Option Store :=
  match store.tables.toTunnelTables.agentOf organizationId id with
  | none => none
  | some agent =>
    let tables := { store.tables with
      agents := store.tables.agents.set id
        { agent with revokedAt := some timestamp, status := "revoked" } }
    some { store with tables := tables, presence := store.presence.erase id }

/-- `upsertIntegration` of the Cloudflare integration; a secret that is not given is kept. -/
def upsertIntegration (organizationId id : String) (config : CloudflareConfig)
    (secretCiphertext : Option String) : Except JsError Store :=
  match store.tables.integrations.entries.find? fun e => e.2.organizationId = organizationId ∧
      e.2.provider = "cloudflare" ∧ e.2.name = "default" with
  | some existing =>
    let tables := { store.tables with
      integrations := store.tables.integrations.set existing.1 { existing.2 with
        config := config
        secretCiphertext := secretCiphertext.or existing.2.secretCiphertext } }
    .ok { store with tables := tables }
  | none =>
    if (store.tables.integrations.get? id).isSome then .error (uniqueFailed "integrations.id")
    else
      let tables := { store.tables with
        integrations := store.tables.integrations.set id
          ⟨id, organizationId, "cloudflare", "default", config, secretCiphertext⟩ }
      .ok { store with tables := tables }

/-- `saveDnsRecord` of a record without a tunnel. -/
def saveDnsRecord (organizationId rowId : String) (input : DnsInput) : Except JsError Store :=
  (store.tables.saveDnsRecord organizationId none rowId input).map fun saved =>
    { store with tables := saved.2 }

/-- `none` when the organization has no such record. -/
def deleteDnsRecord (organizationId id : String) : Option Store :=
  match store.tables.getDnsRecord organizationId id with
  | none => none
  | some _ =>
    let tables := { store.tables with dnsRecords := store.tables.dnsRecords.erase id }
    some { store with tables := tables }

def upsertCertificate (organizationId id primaryName : String) (sans : List String) :
    Except JsError Store :=
  match store.certificates.entries.find? fun e =>
      e.2.organizationId = organizationId ∧ e.2.primaryName = primaryName with
  | some existing => .ok { store with
      certificates := store.certificates.set existing.1 { existing.2 with sans := sans } }
  | none =>
    if (store.certificates.get? id).isSome then .error (uniqueFailed "certificates.id")
    else .ok { store with
      certificates := store.certificates.set id ⟨id, organizationId, primaryName, sans⟩ }

def deleteInspection (organizationId id : String) : Store :=
  { store with
    inspections := store.inspections.filter fun key row =>
      !(row.organizationId = organizationId && key = id) }

/-- Of those before a time, or of all. -/
def purgeInspections (organizationId : String) (olderThan : Option ℕ) : Store :=
  { store with
    inspections := store.inspections.filter fun _ row =>
      !(row.organizationId = organizationId && olderThan.all fun time => row.createdAt < time) }

/-- The inspections of a tunnel that is gone go with it. -/
def cascade (api : Api) : Store :=
  { store with
    toApi := api
    inspections := store.inspections.filter fun _ row =>
      (api.tables.tunnels.get? row.tunnelId).isSome }

def withTunnels (next : TunnelTables) : Store :=
  store.cascade { store.toApi with tables := { store.tables with toTunnelTables := next } }

def deleteTunnel (organizationId id : String) (agentId : Option String) : Option Store :=
  (store.tables.deleteTunnel organizationId id agentId).map fun next =>
    store.cascade { store.toApi with tables := next }

def networkTables : NetworkTables := ⟨store.tables.agents, store.networks, store.peers⟩

def withNetworks (next : NetworkTables) : Store :=
  { store with networks := next.networks, peers := next.peers }

end Store

/-- What the endpoints of the Relays and Edges write. -/
structure ClusterWrite where
  /-- A new status for some agents, and a new health for some targets. -/
  status : String → Option String
  health : String → Option String
  presence : OrdMap String PresenceRow
  inspection : Option InspectionRow

/-- An operation that an endpoint invokes, with the uuids it draws. -/
inductive Operation
  | createApiToken (organizationId id name tokenHash : String) (scopes : List String)
  | revokeApiToken (organizationId id : String)
  | createProvisioningToken (organizationId id name tokenHash : String) (expiresAt : ℕ)
  | registerAgent (tokenHash id : String) (now : ℕ) (payload : Json)
  | heartbeat (organizationId agentId : String)
  | revokeAgent (organizationId id timestamp : String)
  | upsertIntegration (organizationId id : String) (config : CloudflareConfig)
      (secretCiphertext : Option String)
  | saveDnsRecord (organizationId rowId : String) (input : DnsInput)
  | deleteDnsRecord (organizationId id : String)
  | upsertCertificate (organizationId id primaryName : String) (sans : List String)
  | deleteInspection (organizationId id : String)
  | purgeInspections (organizationId : String) (olderThan : Option ℕ)
  | createPrivateNetwork (organizationId id : String) (input : NetworkInput)
  | deletePrivateNetwork (organizationId id : String)
  | upsertNetworkPeer (organizationId networkId id : String) (input : PeerInput)
  | createPolicy (id organizationId name description : String) (document : Json) (enabled : Bool)
  | updatePolicy (organizationId id : String) (changes : Database.PolicyChanges)
  | deletePolicy (organizationId id : String)
  | postTunnel (now : ℕ) (principal : Principal) (draws : TunnelDraws) (header : String)
      (body : Json)
  /-- The rest of a `POST /api/v1/tunnels` that awaits the provider. -/
  | ensured (request now : ℕ) (rowId : String) (ensured : Except JsError DnsInput)
  | updateTunnel (organizationId id : String) (changes : Json)
  | deleteTunnel (organizationId id : String)
  | createTunnelTarget (organizationId tunnelId id : String) (input : TargetInput)
  | updateTunnelTarget (organizationId id : String) (changes : Json)
  | deleteTunnelTarget (organizationId id : String)
  /-- An internal endpoint, which no organization invokes. -/
  | cluster (write : ClusterWrite)

namespace Store

/-- The result, or the store as it was when the operation throws. -/
def orSame (store : Store) : Except JsError Store → Store
  | .ok next => next
  | .error _ => store

/-- The same for an operation on the tunnel tables. -/
def afterTunnels (store : Store) : Except JsError TunnelTables → Store
  | .ok next => store.withTunnels next
  | .error _ => store

def afterFound (store : Store) : Except JsError (Option TunnelTables) → Store
  | .ok (some next) => store.withTunnels next
  | _ => store

def cluster (store : Store) (write : ClusterWrite) : Store :=
  let tables := { store.tables with
    agents := store.tables.agents.mapVals fun id row =>
      { row with status := (write.status id).getD row.status }
    targets := store.tables.targets.mapVals fun id row =>
      { row with healthStatus := (write.health id).getD row.healthStatus } }
  { store with
    tables := tables
    presence := write.presence
    inspections :=
      match write.inspection with
      | none => store.inspections
      | some row =>
        if (store.inspections.get? row.id).isSome ∨
            (store.tables.tunnels.get? row.tunnelId).isNone then store.inspections
        else store.inspections.set row.id row }

def step (env : IdempotencyEnv) (store : Store) : Operation → Store
  | .createApiToken organizationId id name tokenHash scopes =>
    store.orSame (store.createApiToken organizationId id name tokenHash scopes)
  | .revokeApiToken organizationId id => (store.revokeApiToken organizationId id).getD store
  | .createProvisioningToken organizationId id name tokenHash expiresAt =>
    store.orSame (store.createProvisioningToken organizationId id name tokenHash expiresAt)
  | .registerAgent tokenHash id now payload => store.registerAgent env tokenHash id now payload
  | .heartbeat _ agentId => store.touchAgent agentId
  | .revokeAgent organizationId id timestamp =>
    (store.revokeAgent organizationId id timestamp).getD store
  | .upsertIntegration organizationId id config secretCiphertext =>
    store.orSame (store.upsertIntegration organizationId id config secretCiphertext)
  | .saveDnsRecord organizationId rowId input =>
    store.orSame (store.saveDnsRecord organizationId rowId input)
  | .deleteDnsRecord organizationId id => (store.deleteDnsRecord organizationId id).getD store
  | .upsertCertificate organizationId id primaryName sans =>
    store.orSame (store.upsertCertificate organizationId id primaryName sans)
  | .deleteInspection organizationId id => store.deleteInspection organizationId id
  | .purgeInspections organizationId olderThan => store.purgeInspections organizationId olderThan
  | .createPrivateNetwork organizationId id input =>
    store.orSame ((store.networkTables.createPrivateNetwork env.toStoreEnv organizationId id
      input).map store.withNetworks)
  | .deletePrivateNetwork organizationId id =>
    ((store.networkTables.deletePrivateNetwork organizationId id).map store.withNetworks).getD store
  | .upsertNetworkPeer organizationId networkId id input =>
    store.orSame ((store.networkTables.upsertNetworkPeer env.toStoreEnv organizationId networkId id
      input).map store.withNetworks)
  | .createPolicy id organizationId name description document enabled =>
    store.afterTunnels (store.tables.createPolicy id organizationId name description document
      enabled)
  | .updatePolicy organizationId id changes =>
    store.afterFound (store.tables.updatePolicy organizationId id changes)
  | .deletePolicy organizationId id => store.afterFound (store.tables.deletePolicy organizationId id)
  | .postTunnel now principal draws header body =>
    store.cascade (store.toApi.step env (.arrive now principal draws header body))
  | .ensured request now rowId ensured =>
    store.cascade (store.toApi.step env (.ensured request now rowId ensured))
  | .updateTunnel organizationId id changes =>
    store.afterFound (store.tables.updateTunnel env.toStoreEnv organizationId id changes)
  | .deleteTunnel organizationId id => (store.deleteTunnel organizationId id none).getD store
  | .createTunnelTarget organizationId tunnelId id input =>
    store.afterTunnels (store.tables.createTunnelTarget organizationId tunnelId id input)
  | .updateTunnelTarget organizationId id changes =>
    store.afterFound (store.tables.updateTunnelTarget env.toStoreEnv organizationId id changes)
  | .deleteTunnelTarget organizationId id =>
    store.afterFound (store.tables.deleteTunnelTarget organizationId id)
  | .cluster write => store.cluster write

/-- For whom an operation is invoked: the organization of the credential, of the provisioning
token, or of the request that awaits the provider. -/
def invokedFor (store : Store) : Operation → Option String
  | .createApiToken organizationId _ _ _ _ => some organizationId
  | .revokeApiToken organizationId _ => some organizationId
  | .createProvisioningToken organizationId _ _ _ _ => some organizationId
  | .registerAgent tokenHash _ now _ =>
    (store.usableToken tokenHash now).map fun e => e.2.organizationId
  | .heartbeat organizationId _ => some organizationId
  | .revokeAgent organizationId _ _ => some organizationId
  | .upsertIntegration organizationId _ _ _ => some organizationId
  | .saveDnsRecord organizationId _ _ => some organizationId
  | .deleteDnsRecord organizationId _ => some organizationId
  | .upsertCertificate organizationId _ _ _ => some organizationId
  | .deleteInspection organizationId _ => some organizationId
  | .purgeInspections organizationId _ => some organizationId
  | .createPrivateNetwork organizationId _ _ => some organizationId
  | .deletePrivateNetwork organizationId _ => some organizationId
  | .upsertNetworkPeer organizationId _ _ _ => some organizationId
  | .createPolicy _ organizationId _ _ _ _ => some organizationId
  | .updatePolicy organizationId _ _ => some organizationId
  | .deletePolicy organizationId _ => some organizationId
  | .postTunnel _ principal _ _ _ => some principal.organizationId
  | .ensured request _ _ _ => (store.pending.get? request).map fun request => request.organizationId
  | .updateTunnel organizationId _ _ => some organizationId
  | .deleteTunnel organizationId _ => some organizationId
  | .createTunnelTarget organizationId _ _ _ => some organizationId
  | .updateTunnelTarget organizationId _ _ => some organizationId
  | .deleteTunnelTarget organizationId _ => some organizationId
  | .cluster _ => none

end Store

end Tunnara.Control
