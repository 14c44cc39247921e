/-
# Agents of the Laravel plane

The operations that read or write a row of `agents`, cut where they touch the database: a request
loads a snapshot of the row and finishes later, from the snapshot. `update` and `save` write the
attributes that differ from the snapshot, not those that differ from the row; the mass update of a
heartbeat writes without looking. The functions of PHP that are not embedded are a parameter;
relay nodes named by an update are taken to exist.
-/

import Tunnara.Data.Transition
import Tunnara.Laravel.Database

namespace Tunnara.Laravel

/-- The functions of PHP and its extensions. -/
structure Php where
  sha256 : String → String
  /-- `strtotime`; `none` for `false`. -/
  strtotime : String → Option ℤ
  /-- `base64_decode(…, true)`; `none` for `false`. -/
  base64Decode : String → Option (List UInt8)
  /-- `openssl_verify(…) === 1`. -/
  opensslVerify : String → List UInt8 → String → Bool

/-- Functions for worked inputs: a digest and a signature check that tell texts apart. -/
def Php.plain : Php where
  sha256 s := s
  strtotime _ := some 0
  base64Decode s := some s.toUTF8.toList
  opensslVerify _ proof key := proof = key.toUTF8.toList

/-- The body of `/internal/v1/agents/authenticate`. -/
structure Hello where
  (agentId sessionToken timestamp nonce proof : String)

inductive PresenceStatus
  | online
  | offline

def PresenceStatus.text : PresenceStatus → String
  | .online => "online"
  | .offline => "offline"

/-- A request between its load and its end, with the row as it was loaded. -/
inductive Pending
  | destroy (agent : AgentRow)
  | presence (agent : AgentRow) (status : PresenceStatus) (relayNodeId relayEdgeUrl : Option String)
  | token (agent : AgentRow)
  | hello (agent : AgentRow) (hello : Hello)

/-- A credential that was accepted: a hello, or a session token. -/
inductive Accepted
  | hello (agentId : String)
  | token (tokenHash : Option String) (agentId : String)
  deriving DecidableEq

structure Nonce where
  (agentId nonce : String)
  expiresAt : ℕ

structure State where
  agents : OrdMap String AgentRow
  presence : OrdMap String PresenceRow
  nonces : List Nonce
  /-- The requests in progress, by number. -/
  pending : OrdMap ℕ Pending
  accepted : List Accepted

/-- What a dirty-attribute save leaves in a column. -/
def written {α : Type} [DecidableEq α] (loaded assigned current : α) : α :=
  if assigned = loaded then current else assigned

/-- `update(['status' => …, 'last_seen_at' => …])` of a loaded row. -/
def AgentRow.save (row loaded : AgentRow) (status : String) (lastSeenAt : Option ℕ) : AgentRow :=
  { row with
    status := written loaded.status status row.status
    lastSeenAt := written loaded.lastSeenAt lastSeenAt row.lastSeenAt }

/-- `session_expires_at?->isFuture()`. -/
def AgentRow.sessionLasts (row : AgentRow) (now : ℕ) : Bool :=
  match row.sessionExpiresAt with
  | some expires => now < expires
  | none => false

def State.updateAgent (state : State) (id : String) (f : AgentRow → AgentRow) : State :=
  { state with agents := state.agents.mapVals fun key row => if key = id then f row else row }

/-- `preg_match('/^[A-Za-z0-9_-]{24,160}$/', $nonce)`; `$` also matches before a final newline. -/
def nonceFormat (nonce : String) : Bool :=
  let chars := if nonce.toList.getLast? = some '\n' then nonce.toList.dropLast else nonce.toList
  24 ≤ chars.length && chars.length ≤ 160 &&
    chars.all fun c => c.isAlphanum || c = '_' || c = '-'

def authMessage (agent : AgentRow) (hello : Hello) : String :=
  "TUNNARA_AGENT_AUTH_V1\n" ++ agent.id ++ "\n" ++ hello.timestamp ++ "\n" ++ hello.nonce ++ "\n"
    ++ hello.sessionToken

/-- The checks of the hello against the loaded row, other than its status. -/
def proofHolds (php : Php) (agent : AgentRow) (hello : Hello) (now : ℕ) : Bool :=
  match php.strtotime hello.timestamp, php.base64Decode hello.proof with
  | some timestamp, some proof =>
    hello.sessionToken ≠ "" && ((now : ℤ) - timestamp).natAbs ≤ 60 && nonceFormat hello.nonce &&
      agent.sessionTokenHash.getD "" = php.sha256 hello.sessionToken &&
      (match agent.sessionExpiresAt with
        | some expires => now ≤ expires
        | none => false) &&
      php.opensslVerify (authMessage agent hello) proof agent.publicKey
  | _, _ => false

/-- The nonces that have not expired. -/
def liveNonces (nonces : List Nonce) (now : ℕ) : List Nonce :=
  nonces.filter fun n => now < n.expiresAt

def nonceUsed (nonces : List Nonce) (agentId nonce : String) : Bool :=
  nonces.any fun n => n.agentId = agentId && n.nonce = nonce

/-- The verdict, and the nonces after the transaction that records this one. -/
def verify (php : Php) (agent : AgentRow) (hello : Hello) (now : ℕ) (nonces : List Nonce) :
    Bool × List Nonce :=
  if proofHolds php agent hello now = false ∨ agent.status = "revoked" then (false, nonces)
  else
    let live := liveNonces nonces now
    if nonceUsed live agent.id hello.nonce then (false, live)
    else (true, live ++ [⟨agent.id, hello.nonce, now + 120⟩])

inductive Event
  /-- `AgentController::destroy` resolves the agent; `organizationId` is the caller's. -/
  | destroyLoad (request : ℕ) (organizationId agentId : String)
  | destroySave (request : ℕ)
  | presenceLoad (request : ℕ) (agentId : String) (status : PresenceStatus)
      (relayNodeId relayEdgeUrl : Option String)
  | presenceSave (request now : ℕ)
  | agentHeartbeat (agentId : String) (relayNodeId relayEdgeUrl : Option String) (now : ℕ)
  /-- `AuthenticateServiceToken` looks the bearer token up. -/
  | tokenLoad (request : ℕ) (plainToken : String)
  | tokenSave (request now : ℕ)
  | helloLoad (request : ℕ) (hello : Hello)
  | helloVerify (request now : ℕ)
  /-- A registration or `AgentController::store` inserts a row. -/
  | register (row : AgentRow)

/-- The presence row of an agent after an `offline` update. -/
def dropPresence (presence : OrdMap String PresenceRow) (agentId : String)
    (relayNodeId : Option String) : OrdMap String PresenceRow :=
  presence.filter fun key row =>
    !(key = agentId && (relayNodeId = none || row.relayNodeId = relayNodeId))

/-- The row a token is looked up in: not revoked, and the hash is a unique column. -/
def findByToken (agents : OrdMap String AgentRow) (tokenHash : String) : Option AgentRow :=
  (agents.entries.map Prod.snd).find? fun row =>
    row.sessionTokenHash = some tokenHash && row.status ≠ "revoked"

/-- The `UNIQUE` constraints of an insert. -/
def insertable (agents : OrdMap String AgentRow) (row : AgentRow) : Bool :=
  (agents.get? row.id).isNone &&
    agents.entries.all fun e => row.sessionTokenHash = none || e.2.sessionTokenHash ≠ row.sessionTokenHash

variable (php : Php)

def step (state : State) : Event → State
  | .destroyLoad request organizationId agentId =>
    match state.agents.get? agentId with
    | some agent =>
      if agent.organizationId = organizationId then
        { state with pending := state.pending.set request (.destroy agent) }
      else state
    | none => state
  | .destroySave request =>
    match state.pending.get? request with
    | some (.destroy agent) =>
      { state.updateAgent agent.id fun row =>
          row.save agent "revoked" agent.lastSeenAt with
        pending := state.pending.erase request }
    | _ => state
  | .presenceLoad request agentId status relayNodeId relayEdgeUrl =>
    match state.agents.get? agentId with
    | some agent =>
      { state with
        pending := state.pending.set request (.presence agent status relayNodeId relayEdgeUrl) }
    | none => state
  | .presenceSave request now =>
    match state.pending.get? request with
    | some (.presence agent status relayNodeId relayEdgeUrl) =>
      { state.updateAgent agent.id fun row => row.save agent status.text (some now) with
        presence := match status with
          | .offline => dropPresence state.presence agent.id relayNodeId
          | .online => state.presence.set agent.id ⟨agent.id, relayNodeId, relayEdgeUrl⟩
        pending := state.pending.erase request }
    | _ => state
  | .agentHeartbeat agentId relayNodeId relayEdgeUrl now =>
    match state.agents.get? agentId with
    | some _ =>
      { state.updateAgent agentId fun row =>
          { row with status := "online", lastSeenAt := some now } with
        presence :=
          if relayNodeId.getD "" ≠ "" ∨ relayEdgeUrl.getD "" ≠ "" then
            state.presence.set agentId ⟨agentId, relayNodeId, relayEdgeUrl⟩
          else state.presence }
    | none => state
  | .tokenLoad request plainToken =>
    match findByToken state.agents (php.sha256 plainToken) with
    | some agent => { state with pending := state.pending.set request (.token agent) }
    | none => state
  | .tokenSave request now =>
    match state.pending.get? request with
    | some (.token agent) =>
      if agent.sessionLasts now then
        { state.updateAgent agent.id fun row => row.save agent "online" (some now) with
          pending := state.pending.erase request
          accepted := state.accepted ++ [.token agent.sessionTokenHash agent.id] }
      else { state with pending := state.pending.erase request }
    | _ => state
  | .helloLoad request hello =>
    match state.agents.get? hello.agentId with
    | some agent => { state with pending := state.pending.set request (.hello agent hello) }
    | none => state
  | .helloVerify request now =>
    match state.pending.get? request with
    | some (.hello agent hello) =>
      let verdict := verify php agent hello now state.nonces
      { state with
        pending := state.pending.erase request
        nonces := verdict.2
        accepted := if verdict.1 then state.accepted ++ [.hello agent.id] else state.accepted }
    | _ => state
  | .register row =>
    if insertable state.agents row then
      { state with agents := state.agents.set row.id row }
    else state

end Tunnara.Laravel
