/-
# Managed DNS

`#ensureManagedDns`, `#deleteManagedDns`, the client of the provider, and the two tunnel endpoints
that call them. The provider's zones are a map from zone and record id to the record, in the order
a listing returns them; a call may be answered, or refused, or carried out with the answer lost.
-/

import Tunnara.Control.TunnelApi

namespace Tunnara.Control

open Policy TunnelTables

structure DnsEnv extends ApiEnv where
  /-- `TUNNARA_AUTO_DNS === 'true'`. -/
  autoDns : Bool
  /-- `TUNNARA_CLOUDFLARE_EDGE_HOSTNAME` and `TUNNARA_CLOUDFLARE_EDGE_ADDRESS`. -/
  edgeHostname : String
  edgeAddress : String
  decryptSecret : String → Except JsError String
  /-- The active zones that the provider knows by name. -/
  findZone : String → Option String

def DnsEnv.plain : DnsEnv := ⟨.plain, false, "", "", .ok, fun name => some ("zone-" ++ name)⟩

structure ProviderRecord where
  (type name content : String)
  proxied : Bool
  ttl : ℚ
  comment : String
  deriving DecidableEq

abbrev Zones := OrdMap (String × String) ProviderRecord

inductive Reply
  | answered
  /-- Carried out, but the answer is lost. -/
  | lost
  | refused
  deriving DecidableEq

/-- The answers of the provider to one request, and the id it gives to a new record. -/
structure Replies where
  (zone list write : Reply)
  recordId : String

def apiError : JsError :=
  { message := "Cloudflare API retornou HTTP 400.", statusCode := some 400,
    code := some "CLOUDFLARE_API_ERROR" }

/-- The first record that `listRecords` returns. -/
def firstRecord (zones : Zones) (zoneId name type : String) : Option String :=
  (zones.entries.find? fun e => e.1.1 = zoneId ∧ e.2.name = name ∧ e.2.type = type).map
    fun e => e.1.2

/-- `createRecord` and `updateRecord`. -/
def writeRecord (zones : Zones) (zoneId recordId : String) (record : ProviderRecord) :
    Reply → Zones × Except JsError (String × ProviderRecord)
  | .answered => (zones.set (zoneId, recordId) record, .ok (recordId, record))
  | .lost => (zones.set (zoneId, recordId) record, .error apiError)
  | .refused => (zones, .error apiError)

def deleteRecord (zones : Zones) (zoneId recordId : String) : Reply → Zones × Except JsError Unit
  | .refused => (zones, .error apiError)
  | .lost => (zones.erase (zoneId, recordId), .error apiError)
  | .answered =>
    if (zones.get? (zoneId, recordId)).isNone then (zones, .error apiError)
    else (zones.erase (zoneId, recordId), .ok ())

section

variable (env : DnsEnv)

/-- `normalizeHostname` of a text. -/
def hostname (text : String) : Option String :=
  Edge.normalizeHostname env.host (some (.one text))

/-- The name of `ensureRecord`. -/
def dnsName (name : String) : Option String :=
  let rawName := env.host.toLowerCase (trim name)
  if startsWith rawName "*." then
    (hostname env (String.ofList (rawName.toList.drop 2))).map ("*." ++ ·)
  else hostname env rawName

/-- The name that `listRecords` asks for. -/
def listedName (name : String) : String := (hostname env name).getD name

/-- The arguments of `ensureRecord`. -/
structure RecordRequest where
  (type name : String)
  content : Json
  proxied : Bool
  ttl : Json
  comment : String

/-- The body of the write; the provider takes no other content than a text, and no other
time than a number. -/
def recordBody (request : RecordRequest) (name : String) : Except JsError ProviderRecord := do
  let ttl ← request.ttl.toNumber env.host
  match orNumber ttl 1, request.content with
  | .fin ttl, .str content =>
    .ok ⟨env.host.toUpperCase request.type, name, content, request.proxied, ttl, request.comment⟩
  | _, _ => .error apiError

def ensureRecord (zones : Zones) (zoneId : String) (request : RecordRequest) (replies : Replies) :
    Zones × Except JsError (String × ProviderRecord) :=
  match dnsName env request.name with
  | none => (zones, .error { message := "Nome DNS inválido." })
  | some name =>
    if replies.list ≠ .answered then (zones, .error apiError)
    else
      match recordBody env request name with
      | .error error => (zones, .error error)
      | .ok record =>
        writeRecord zones zoneId
          ((firstRecord zones zoneId (listedName env name)
            (env.host.toUpperCase record.type)).getD replies.recordId)
          record replies.write

end

/-- The configuration that `PUT …/integrations/cloudflare` writes. -/
structure CloudflareConfig where
  (zoneName managedDomain : String)
  (zoneId edgeHostname edgeAddress : Option String)
  proxied : Bool
  ttl : Json

structure IntegrationRow where
  (id organizationId provider name : String)
  config : CloudflareConfig
  secretCiphertext : Option String

structure DnsRow where
  (id organizationId : String)
  (integrationId tunnelId zoneId providerRecordId : Option String)
  (type name content : String)
  proxied : Bool
  ttl : ℚ

structure DnsTables extends TunnelTables where
  integrations : OrdMap String IntegrationRow
  dnsRecords : OrdMap String DnsRow

/-- The arguments of `saveDnsRecord` for a record that the provider has returned. -/
structure DnsInput where
  (integrationId zoneId providerRecordId type name content : String)
  proxied : Bool
  ttl : ℚ

def isSet (text : Option String) : Bool := text.any (· ≠ "")

namespace DnsTables

variable (env : DnsEnv) (tables : DnsTables)

def cloudflareIntegration (organizationId : String) : Except JsError IntegrationRow :=
  match tables.integrations.entries.find? fun e => e.2.organizationId = organizationId ∧
      e.2.provider = "cloudflare" ∧ e.2.name = "default" with
  | none => .error {
      message := "Integração Cloudflare ainda não foi configurada."
      statusCode := some 409
      code := some "CLOUDFLARE_NOT_CONFIGURED" }
  | some e =>
    if isSet e.2.secretCiphertext then .ok e.2
    else .error {
      message := "Cloudflare API Token não foi armazenado."
      statusCode := some 409
      code := some "CLOUDFLARE_TOKEN_MISSING" }

/-- `#cloudflareClient`, as far as it can throw. -/
def cloudflareClient (integration : IntegrationRow) : Except JsError Unit := do
  let apiToken ← env.decryptSecret (integration.secretCiphertext.getD "")
  if apiToken = "" then .error { message := "Cloudflare API Token não informado." } else .ok ()

/-- `config.zoneId || await client.findZoneId(zoneName)`. -/
def zoneIdOf (config : CloudflareConfig) (reply : Reply) : Except JsError String :=
  if isSet config.zoneId then .ok (config.zoneId.getD "")
  else
    match (hostname env (orText config.zoneName env.baseDomain)).bind (hostname env) with
    | none => .error { message := "Zona Cloudflare inválida." }
    | some name =>
      if reply ≠ .answered then .error apiError
      else
        match env.findZone name with
        | some zoneId => .ok zoneId
        | none => .error {
            message := "Zona " ++ name ++ " não encontrada ou não acessível pelo token."
            code := some "CLOUDFLARE_ZONE_NOT_FOUND" }

/-- `cloudflareRecordTarget`: the type and the content. -/
def recordTarget (edgeHostname edgeAddress : Json) : Except JsError (String × Json) :=
  if edgeHostname.truthy then
    (hostnameOf env.toApiEnv edgeHostname).map fun name =>
      ("CNAME", (name.map Json.str).getD edgeHostname)
  else if edgeAddress.truthy then
    (edgeAddress.toJsString env.host).map fun text =>
      (if includes text ":" then "AAAA" else "A", .str text)
  else .error {
    message := "Informe edgeHostname ou edgeAddress para criar o DNS da Tunnara." }

/-- `v || stored || environment`. -/
def chosen (v : Option Json) (stored : Option String) (environment : String) : Json :=
  orDefault v (.str (orText (stored.getD "") environment))

/-- `v ?? stored`, as a condition. -/
def chosenFlag (v : Option Json) (stored : Bool) : Bool :=
  match v with
  | none | some .null => stored
  | some v => v.truthy

def targetOf (config : CloudflareConfig) (requested : Json) : Except JsError (String × Json) :=
  recordTarget env (chosen (requested.get? "edgeHostname") config.edgeHostname env.edgeHostname)
    (chosen (requested.get? "edgeAddress") config.edgeAddress env.edgeAddress)

/-- What `#ensureManagedDns` asks the provider for: the integration, the zone, the record. -/
def managedRecord (organizationId : String) (tunnel : TunnelRecord) (requested : Json)
    (reply : Reply) : Except JsError (IntegrationRow × String × RecordRequest) := do
  let integration ← tables.cloudflareIntegration organizationId
  cloudflareClient env integration
  let zoneId ← zoneIdOf env integration.config reply
  let target ← targetOf env integration.config requested
  return (integration, zoneId,
    { type := target.1
      name := tunnel.hostname
      content := target.2
      proxied := chosenFlag (requested.get? "proxied") integration.config.proxied
      ttl := orDefault (requested.get? "ttl") (orDefault (some integration.config.ttl) (.num 1))
      comment := "Tunnara tunnel " ++ tunnel.id })

/-- `#ensureManagedDns` up to `saveDnsRecord`. -/
def ensureManagedDns (zones : Zones) (organizationId : String) (tunnel : TunnelRecord)
    (requested : Json) (replies : Replies) : Zones × Except JsError DnsInput :=
  match tables.managedRecord env organizationId tunnel requested replies.zone with
  | .error error => (zones, .error error)
  | .ok (integration, zoneId, request) =>
    let ensured := ensureRecord env zones zoneId request replies
    (ensured.1, ensured.2.map fun found =>
      ⟨integration.id, zoneId, found.1, found.2.type, orText found.2.name tunnel.hostname,
        found.2.content, found.2.proxied, found.2.ttl⟩)

/-- The key of the row that `saveDnsRecord` finds. -/
def dnsRecordKey (organizationId name type : String) : Option String :=
  (tables.dnsRecords.entries.find? fun e => e.2.organizationId = organizationId ∧
    e.2.name = name ∧ e.2.type = type).map fun e => e.1

/-- `id` is the uuid drawn for a new row. The first component is the key of the row. -/
def saveDnsRecord (organizationId : String) (tunnelId : Option String) (id : String)
    (input : DnsInput) : Except JsError (String × DnsTables) :=
  if (tables.integrations.get? input.integrationId).isNone ∨
      tunnelId.any fun name => (tables.tunnels.get? name).isNone then .error foreignKeyFailed
  else
    let row (id : String) : DnsRow :=
      ⟨id, organizationId, some input.integrationId, tunnelId, some input.zoneId,
        some input.providerRecordId, input.type, input.name, input.content, input.proxied,
        input.ttl⟩
    match tables.dnsRecordKey organizationId input.name input.type with
    | some key => .ok (key, { tables with dnsRecords := tables.dnsRecords.set key (row key) })
    | none =>
      if (tables.dnsRecords.get? id).isSome then .error (uniqueFailed "dns_records.id")
      else .ok (id, { tables with dnsRecords := tables.dnsRecords.set id (row id) })

def setTunnelDnsRecord (tunnelId dnsRecordId : String) : DnsTables :=
  { tables with
    tunnels := tables.tunnels.update tunnelId fun tunnel =>
      { tunnel with dnsRecordId := some dnsRecordId } }

/-- `deleteTunnel`; the rows that refer to the tunnel lose the reference. -/
def deleteTunnel (organizationId id : String) (agentId : Option String) : Option DnsTables :=
  (tables.toTunnelTables.deleteTunnel organizationId id agentId).map fun next =>
    { tables with
      toTunnelTables := next
      dnsRecords := tables.dnsRecords.mapVals fun _ row =>
        if row.tunnelId = some id then { row with tunnelId := none } else row }

/-- `SELECT * FROM dns_records WHERE organization_id=? AND id=?`. -/
def getDnsRecord (organizationId id : String) : Option DnsRow :=
  (tables.dnsRecords.get? id).filter fun row => row.organizationId = organizationId

/-- `integration?.provider === 'cloudflare'` and the rest of that condition. -/
def managesRecord (organizationId : String) (record : DnsRow) : Option IntegrationRow :=
  if isSet record.integrationId ∧ isSet record.zoneId ∧ isSet record.providerRecordId then
    (tables.integrations.get? (record.integrationId.getD "")).filter fun integration =>
      integration.organizationId = organizationId ∧ integration.provider = "cloudflare" ∧
        isSet integration.secretCiphertext
  else none

def deleteManagedDns (zones : Zones) (organizationId dnsRecordId : String) (reply : Reply) :
    Zones × Except JsError DnsTables :=
  match tables.getDnsRecord organizationId dnsRecordId with
  | none => (zones, .ok tables)
  | some record =>
    let removed : Zones × Except JsError Unit :=
      match tables.managesRecord organizationId record with
      | none => (zones, .ok ())
      | some integration =>
        match cloudflareClient env integration with
        | .error error => (zones, .error error)
        | .ok () =>
          deleteRecord zones (record.zoneId.getD "") (record.providerRecordId.getD "") reply
    (removed.1, removed.2.map fun _ =>
      { tables with dnsRecords := tables.dnsRecords.erase dnsRecordId })

/-- `(protocol is http or https) && autoDns`. -/
def wantsDns (protocol : String) (body : Json) : Bool :=
  isWeb protocol && (body.get? "autoDns" = some (.bool true) ||
    body.get? "autoDns" ≠ some (.bool false) && env.autoDns)

/-- `POST /api/v1/tunnels` up to the call of `#ensureManagedDns`. -/
def postTunnel (principal : Principal) (draws : TunnelDraws) (body : Json) :
    Except JsError DnsTables :=
  (Control.postTunnel env.toApiEnv tables.toTunnelTables principal draws body).map fun next =>
    { tables with toTunnelTables := next }

/-- What follows the provider's answer: the row and the reference to it, or, when anything
has been thrown, the deletion of the tunnel. -/
def recordDns (organizationId tunnelId rowId : String) (ensured : Except JsError DnsInput) :
    DnsTables × Except JsError String :=
  match ensured.bind (tables.saveDnsRecord organizationId (some tunnelId) rowId) with
  | .ok (key, next) => (next.setTunnelDnsRecord tunnelId key, .ok key)
  | .error error => ((tables.deleteTunnel organizationId tunnelId none).getD tables, .error error)

/-- The tunnel that `DELETE /api/v1/tunnels/:id` is allowed to delete. -/
def deletableTunnel (principal : Principal) (id : String) : Option TunnelRecord :=
  (tables.tunnelOf principal.organizationId id).filter fun _ =>
    match principal with
    | .api _ => true
    | .agent organizationId agentId => tables.targets.entries.any fun e =>
      e.2.organizationId = organizationId && e.2.tunnelId = id && e.2.agentId = agentId

end DnsTables

end Tunnara.Control
