/-
# Agents and their presence in the Node store

The writers of `agents.status`, `agents.revoked_at` and `agent_presence`, and the handlers that
call them: the endpoints of the Control, and a Relay that shares the store. A handler makes its
writes without a transaction, so those before an error stay. Columns that only displays read are
left out.
-/

import Tunnara.Control.Routing

namespace Tunnara.Control

/-- The credential columns of an agent. -/
structure SessionRow where
  tokenHash : String
  expiresAt : Option ℕ

/-- The tables with the credentials of the agents and the ids of the registered nodes. -/
structure AgentStore extends Database where
  sessions : OrdMap String SessionRow
  nodes : List String
  /-- `id` is the primary key of `agents`. -/
  agents_keyed : ∀ id row, agents.get? id = some row → row.id = id

theorem keyed_update {agents : OrdMap String AgentRow} {f : AgentRow → AgentRow} (id : String)
    (hkeyed : ∀ key row, agents.get? key = some row → row.id = key) (hf : ∀ row, (f row).id = row.id)
    (key : String) (row : AgentRow) (h : (agents.update id f).get? key = some row) :
    row.id = key := by
  by_cases hkey : key = id
  · subst hkey
    rw [OrdMap.get?_update_self, Option.map_eq_some_iff] at h
    obtain ⟨before, hbefore, rfl⟩ := h
    rw [hf]
    exact hkeyed key before hbefore
  · rw [OrdMap.get?_update_of_ne _ hkey] at h
    exact hkeyed key row h

theorem keyed_set {agents : OrdMap String AgentRow} {added : AgentRow}
    (hkeyed : ∀ key row, agents.get? key = some row → row.id = key) (key : String) (row : AgentRow)
    (h : (agents.set added.id added).get? key = some row) : row.id = key := by
  rw [OrdMap.get?_set] at h
  split at h
  · rename_i hkey
    cases h
    exact hkey.symm
  · exact hkeyed key row h

/-- `value || null` of a text. -/
def orNull (text : Option String) : Option String := text.filter (· ≠ "")

namespace AgentStore

variable (store : AgentStore)

def touchAgent (agentId status : String) : AgentStore :=
  { store with
    agents := store.agents.update agentId fun row => { row with status := status }
    agents_keyed := keyed_update agentId store.agents_keyed fun _ => rfl }

def markAgentOffline (agentId : String) : AgentStore :=
  { store with
    agents := store.agents.update agentId fun row => { row with status := "offline" }
    presence := store.presence.erase agentId
    agents_keyed := keyed_update agentId store.agents_keyed fun _ => rfl }

/-- `none` when the organization has no such agent. -/
def revokeAgent (organizationId id : String) (timestamp : String) : Option AgentStore :=
  match store.agents.get? id with
  | some agent =>
    if agent.organizationId = organizationId then
      some { store with
        agents := store.agents.update id fun row =>
          { row with revokedAt := some timestamp, status := "revoked" }
        presence := store.presence.erase id
        agents_keyed := keyed_update id store.agents_keyed fun _ => rfl }
    else none
  | none => none

/-- The row passes the foreign keys of `agent_presence`. -/
def presenceInsertable (agentId : String) (relayNodeId : Option String) : Bool :=
  (store.agents.get? agentId).isSome && relayNodeId.all fun id => store.nodes.contains id

/-- The upsert of a presence row; `none` when it throws. -/
def setAgentPresence (agentId : String) (relayNodeId relayEdgeUrl : Option String) :
    Option AgentStore :=
  if store.presenceInsertable agentId relayNodeId then
    some { store with presence := store.presence.set agentId ⟨agentId, relayNodeId, relayEdgeUrl⟩ }
  else none

def clearAgentPresence (agentId : String) (relayNodeId : Option String) : AgentStore :=
  match store.presence.get? agentId with
  | none => store
  | some current =>
    if (orNull relayNodeId).isSome ∧ current.relayNodeId ≠ relayNodeId then store
    else store.markAgentOffline agentId

/-- The agent of a session token that is neither revoked nor expired. -/
def authenticateAgentToken (host : Host) (rawToken : String) (now : ℕ) : Option AgentRow :=
  if rawToken = "" then none
  else (store.agents.entries.map Prod.snd).find? fun row =>
    (store.sessions.get? row.id).any fun session =>
      session.tokenHash = host.sha256Hex rawToken && row.revokedAt.isNone &&
        session.expiresAt.all fun expires => now < expires

/-- `agentsOnline` of `overview`: the agents of the organization that are counted. -/
def agentsOnline (organizationId : String) : List AgentRow :=
  (store.agents.entries.map Prod.snd).filter fun row =>
    row.organizationId = organizationId && row.status = "online"

/-- `POST /api/v1/agents/heartbeat`. -/
def apiHeartbeat (host : Host) (rawToken : String) (now : ℕ) : AgentStore :=
  match store.authenticateAgentToken host rawToken now with
  | some agent => store.touchAgent agent.id "online"
  | none => store

/-- `POST /internal/v1/agents/presence`. -/
def internalPresence (agentId : String) (offline : Bool) (relayNodeId relayEdgeUrl : Option String) :
    AgentStore :=
  if offline then store.clearAgentPresence agentId (orNull relayNodeId)
  else match store.setAgentPresence agentId (orNull relayNodeId) (orNull relayEdgeUrl) with
    | some next => next.touchAgent agentId "online"
    | none => store

/-- `POST /internal/v1/agents/heartbeat`. -/
def internalHeartbeat (agentId : String) (relayNodeId relayEdgeUrl : Option String) : AgentStore :=
  let touched := store.touchAgent agentId "online"
  if (orNull relayNodeId).isSome ∨ (orNull relayEdgeUrl).isSome then
    (touched.setAgentPresence agentId (orNull relayNodeId) (orNull relayEdgeUrl)).getD touched
  else touched

/-- `RelayServer.#presence` of a Relay without a `controlClient`. -/
def relayPresence (agentId : String) (offline : Bool) (relayNodeId relayEdgeUrl : Option String) :
    AgentStore :=
  let placed := (orNull relayNodeId).isSome ∨ (orNull relayEdgeUrl).isSome
  if offline then
    if placed then store.clearAgentPresence agentId relayNodeId else store.markAgentOffline agentId
  else
    let touched := store.touchAgent agentId "online"
    if placed then (touched.setAgentPresence agentId relayNodeId relayEdgeUrl).getD touched
    else touched

end AgentStore

/-- What happens to the store. -/
inductive AgentEvent
  | apiHeartbeat (rawToken : String) (now : ℕ)
  | internalPresence (agentId : String) (offline : Bool) (relayNodeId relayEdgeUrl : Option String)
  | internalHeartbeat (agentId : String) (relayNodeId relayEdgeUrl : Option String)
  | relayPresence (agentId : String) (offline : Bool) (relayNodeId relayEdgeUrl : Option String)
  /-- A heartbeat frame at a Relay that shares the store. -/
  | relayHeartbeat (agentId : String)
  | revoke (organizationId agentId timestamp : String)
  /-- A registration inserts a row. -/
  | register (row : AgentRow) (session : SessionRow)
  | registerNode (id : String)
  /-- Any other operation, an authentication or a lookup included: it leaves the agents and
  their presence alone. -/
  | others (tables : Database)

namespace AgentStore

/-- Serve one request, or one change of a connection. -/
def step (host : Host) (store : AgentStore) : AgentEvent → AgentStore
  | .apiHeartbeat rawToken now => store.apiHeartbeat host rawToken now
  | .internalPresence agentId offline relayNodeId relayEdgeUrl =>
    store.internalPresence agentId offline relayNodeId relayEdgeUrl
  | .internalHeartbeat agentId relayNodeId relayEdgeUrl =>
    store.internalHeartbeat agentId relayNodeId relayEdgeUrl
  | .relayPresence agentId offline relayNodeId relayEdgeUrl =>
    store.relayPresence agentId offline relayNodeId relayEdgeUrl
  | .relayHeartbeat agentId => store.touchAgent agentId "online"
  | .revoke organizationId agentId timestamp =>
    (store.revokeAgent organizationId agentId timestamp).getD store
  | .register row session =>
    if (store.agents.get? row.id).isSome then store
    else { store with
      agents := store.agents.set row.id row
      sessions := store.sessions.set row.id session
      agents_keyed := keyed_set store.agents_keyed }
  | .registerNode id => { store with nodes := id :: store.nodes }
  | .others tables =>
    { store with toDatabase := { tables with
        agents := store.agents
        presence := store.presence } }

end AgentStore

end Tunnara.Control
