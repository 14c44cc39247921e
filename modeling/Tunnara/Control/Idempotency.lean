/-
# The idempotency key of `POST /api/v1/tunnels`

The key is looked up when a request arrives and written when it is answered. For a tunnel with
managed DNS the provider is awaited in between, and nothing marks the key as taken meanwhile: a
retry that arrives then creates a tunnel of its own. A request is two steps, from its arrival to
the call of the provider and from the provider's answer on. Times are in milliseconds.
-/

import Tunnara.Control.DnsWrites
import Tunnara.Control.Integrity

namespace Tunnara.Control

open Policy Transition TunnelTables

structure IdempotencyEnv extends DnsEnv where
  /-- `requestHash`: the digest of the body's JSON text. -/
  requestHash : Json → String

/-- The rows that the body of an answer renders. -/
structure TunnelReply where
  tunnel : TunnelRecord
  targets : List TargetRecord
  dnsRecord : Option DnsRow

structure IdempotencyRow where
  requestHash : String
  status : ℕ
  body : TunnelReply
  expiresAt : ℕ

inductive Answer
  | sent (status : ℕ) (body : TunnelReply)
  | failed (error : JsError)

/-- An answered request. -/
structure Served where
  body : Json
  answer : Answer

/-- A request whose tunnel is created and whose record is awaited. -/
structure Pending where
  (organizationId key : String)
  body : Json
  tunnelId : String

/-- The store, the requests that await the provider, and the answers that were given. -/
structure Api where
  tables : DnsTables
  keys : OrdMap (String × String) IdempotencyRow
  pending : OrdMap ℕ Pending
  served : List Served
  arrived : ℕ

inductive ApiEvent
  | arrive (now : ℕ) (principal : Principal) (draws : TunnelDraws) (header : String) (body : Json)
  /-- The provider's answer to a request, or what was thrown on the way to it. -/
  | ensured (request now : ℕ) (rowId : String) (ensured : Except JsError DnsInput)

def idempotencyConflict : JsError :=
  { message := "Idempotency-Key reutilizada com payload diferente.", statusCode := some 409,
    code := some "IDEMPOTENCY_CONFLICT" }

namespace Api

/-- `DELETE FROM idempotency_keys WHERE expires_at<=?`. -/
def purgeKeys (keys : OrdMap (String × String) IdempotencyRow) (now : ℕ) :
    OrdMap (String × String) IdempotencyRow :=
  keys.filter fun _ row => now < row.expiresAt

/-- `getIdempotentResponse`, after its purge. -/
def getIdempotentResponse (keys : OrdMap (String × String) IdempotencyRow)
    (organizationId key requestHash : String) : Except JsError (Option IdempotencyRow) :=
  match keys.get? (organizationId, key) with
  | none => .ok none
  | some row => if row.requestHash ≠ requestHash then .error idempotencyConflict else .ok (some row)

def saveIdempotentResponse (keys : OrdMap (String × String) IdempotencyRow)
    (organizationId key requestHash : String) (status : ℕ) (body : TunnelReply) (now : ℕ) :
    OrdMap (String × String) IdempotencyRow :=
  keys.set (organizationId, key) ⟨requestHash, status, body, now + 86400000⟩

variable (env : IdempotencyEnv) (state : Api)

def answer (body : Json) (answer : Answer) : Api :=
  { state with served := state.served ++ [⟨body, answer⟩] }

/-- The body of the answer. -/
def reply (request : Pending) (tunnel : TunnelRecord) (dnsRecord : Option DnsRow) : TunnelReply :=
  { tunnel, dnsRecord
    targets := (state.tables.targets.entries.map Prod.snd).filter fun target =>
      target.organizationId = request.organizationId ∧ target.tunnelId = request.tunnelId }

/-- From the creation, or from the row of the record, to the answer. -/
def finish (request : Pending) (now : ℕ) (dnsRecord : Option DnsRow) : Api :=
  match state.tables.tunnelOf request.organizationId request.tunnelId with
  | none => state.answer request.body (.failed (typeError "Cannot read properties of null"))
  | some tunnel =>
    { state with
      keys :=
        if request.key = "" then state.keys
        else saveIdempotentResponse state.keys request.organizationId request.key
          (env.requestHash request.body) 201 (state.reply request tunnel dnsRecord) now
      served := state.served ++ [⟨request.body, .sent 201 (state.reply request tunnel dnsRecord)⟩] }

/-- A request whose key has no answer yet. -/
def create (now : ℕ) (principal : Principal) (draws : TunnelDraws) (key : String) (body : Json) :
    Api :=
  match state.tables.postTunnel env.toDnsEnv principal draws body with
  | .error error => state.answer body (.failed error)
  | .ok tables =>
    let request : Pending := ⟨principal.organizationId, key, body, draws.tunnelId⟩
    if (tables.tunnels.get? draws.tunnelId).any fun tunnel =>
        DnsTables.wantsDns env.toDnsEnv tunnel.protocol body then
      { state with tables := tables, pending := state.pending.set state.arrived request }
    else finish env { state with tables := tables } request now none

/-- `POST /api/v1/tunnels` up to the call of the provider. -/
def arrive (now : ℕ) (principal : Principal) (draws : TunnelDraws) (header : String)
    (body : Json) : Api :=
  let key := trim header
  if key = "" then state.create env now principal draws key body
  else if 128 < jsLength key then
    state.answer body (.failed (refused "Idempotency-Key excede 128 caracteres."
      "IDEMPOTENCY_KEY_INVALID"))
  else
    let keys := purgeKeys state.keys now
    let state := { state with keys := keys }
    match getIdempotentResponse keys principal.organizationId key (env.requestHash body) with
    | .error error => state.answer body (.failed error)
    | .ok (some row) => state.answer body (.sent row.status row.body)
    | .ok none => state.create env now principal draws key body

/-- The rest of a request that awaits the provider. -/
def ensured (id now : ℕ) (rowId : String) (ensured : Except JsError DnsInput) : Api :=
  match state.pending.get? id with
  | none => state
  | some request =>
    let recorded := state.tables.recordDns request.organizationId request.tunnelId rowId ensured
    let state := { state with tables := recorded.1, pending := state.pending.erase id }
    match recorded.2 with
    | .error error => state.answer request.body (.failed error)
    | .ok key => state.finish env request now (recorded.1.dnsRecords.get? key)

def step : ApiEvent → Api
  | .arrive now principal draws header body =>
    { state.arrive env now principal draws header body with arrived := state.arrived + 1 }
  | .ensured id now rowId result => state.ensured env id now rowId result

end Api

end Tunnara.Control
