/-
# Private networks and their peers

`createPrivateNetwork`, `deletePrivateNetwork` and `upsertNetworkPeer`, with the
address arithmetic they use, and what each of them writes.
-/

import Tunnara.Control.TunnelApi

namespace Tunnara.Control

open TunnelTables

structure CidrRange where
  (network broadcast bits : ℕ)
  deriving DecidableEq

section

variable (host : Host)

/-- `String(ip).split('.').map(Number)`, four integers up to 255. -/
def ipToInt (ip : String) : Option ℕ :=
  match (splitChar '.' ip).map fun part => integerWithin 0 255 (host.stringToNumber part) with
  | [some a, some b, some c, some d] => some (a * 16777216 + b * 65536 + c * 256 + d)
  | _ => none

/-- The texts before the first `/` and between it and the second. -/
def cidrRange (cidr : String) : Option CidrRange :=
  match splitChar '/' cidr with
  | rawIp :: rawBits :: _ => do
    let ip ← ipToInt host rawIp
    let bits ← integerWithin 8 30 (host.stringToNumber rawBits)
    let size := 2 ^ (32 - bits)
    return ⟨ip / size * size, ip / size * size + size - 1, bits⟩
  | _ => none

def intToIp (value : ℕ) : String :=
  toString (value / 16777216 % 256) ++ "." ++ toString (value / 65536 % 256) ++ "." ++
    toString (value / 256 % 256) ++ "." ++ toString (value % 256)

end

structure NetworkRow where
  (id organizationId name cidr : String)
  dnsDomain : Option String
  mode : String
  hubAgentId : Option String

structure PeerRow where
  (id organizationId networkId agentId virtualIp : String)
  (publicKey endpoint : Option String)
  allowedIps : List Json
  persistentKeepalive : StoredNumber
  status : String
  deriving DecidableEq

theorem keepalive_ne_nan : JsNumber.fin 25 ≠ .nan := nofun

/-- The tables of the networks, and the agents they refer to. -/
structure NetworkTables where
  agents : OrdMap String AgentRow
  networks : OrdMap String NetworkRow
  peers : OrdMap String PeerRow

/-- The arguments of `createPrivateNetwork`. -/
structure NetworkInput where
  (name cidr : String)
  dnsDomain : Option String
  mode : String
  hubAgentId : Json

/-- The arguments of `upsertNetworkPeer`. -/
structure PeerInput where
  agentId : String
  (publicKey endpoint : Json)
  allowedIps : List Json
  persistentKeepalive : JsNumber

namespace NetworkTables

variable (env : StoreEnv) (tables : NetworkTables)

/-- `SELECT * FROM agents WHERE id=?`, with the check of the organization. -/
def agentOf (organizationId id : String) : Option AgentRow :=
  (tables.agents.get? id).filter fun row => row.organizationId = organizationId

def checkHub (organizationId : String) (hubAgentId : Json) : Except JsError Unit :=
  if hubAgentId.truthy then do
    match (← textValue env hubAgentId).bind (tables.agentOf organizationId) with
    | some _ => .ok ()
    | none => .error (refused "Agent hub não pertence à organização." "HUB_AGENT_INVALID")
  else .ok ()

/-- `id` is the uuid drawn for the row. -/
def createPrivateNetwork (organizationId id : String) (input : NetworkInput) :
    Except JsError NetworkTables :=
  if (cidrRange env.host input.cidr).isNone then
    .error (refused "CIDR IPv4 inválido. Utilize prefixos entre /8 e /30." "CIDR_INVALID")
  else do
    tables.checkHub env organizationId input.hubAgentId
    let hubAgentId ← textValue env input.hubAgentId
    if (tables.networks.get? id).isSome then .error (uniqueFailed "private_networks.id")
    else if tables.networks.entries.any fun e =>
        e.2.organizationId = organizationId && e.2.name = input.name then
      .error (uniqueFailed "private_networks.organization_id, private_networks.name")
    else if tables.networks.entries.any fun e =>
        e.2.organizationId = organizationId && e.2.cidr = input.cidr then
      .error (uniqueFailed "private_networks.organization_id, private_networks.cidr")
    else if hubAgentId.any fun hub => (tables.agents.get? hub).isNone then .error foreignKeyFailed
    else .ok { tables with
      networks := tables.networks.set id
        ⟨id, organizationId, input.name, input.cidr, input.dnsDomain, input.mode, hubAgentId⟩ }

/-- `SELECT * FROM private_networks WHERE organization_id=? AND id=?`. -/
def getPrivateNetwork (organizationId id : String) : Option NetworkRow :=
  (tables.networks.get? id).filter fun row => row.organizationId = organizationId

/-- The deletion of a network with the cascade to its peers. -/
def deletePrivateNetwork (organizationId id : String) : Option NetworkTables :=
  match tables.getPrivateNetwork organizationId id with
  | none => none
  | some _ => some { tables with
      networks := tables.networks.erase id
      peers := tables.peers.filter fun _ peer => peer.networkId ≠ id }

/-- The first address of the range that no peer of the network has, with the prefix length
that no stored address is compared with. -/
def allocateNetworkIp (networkId : String) (range : CidrRange) : Option String :=
  ((List.range' (range.network + 2) (range.broadcast - (range.network + 2))).find? fun value =>
    tables.peers.entries.all fun e =>
      e.2.networkId ≠ networkId || e.2.virtualIp ≠ intToIp value).map fun value =>
    intToIp value ++ "/" ++ toString range.bits

/-- `COALESCE(?, column)`. -/
def coalesce (v : Json) (current : Option String) : Except JsError (Option String) :=
  (textValue env v).map fun text => text.or current

/-- `id` is the uuid drawn for a new row. -/
def upsertNetworkPeer (organizationId networkId id : String) (input : PeerInput) :
    Except JsError NetworkTables :=
  match tables.getPrivateNetwork organizationId networkId,
      tables.agentOf organizationId input.agentId with
  | some network, some _ =>
    match tables.peers.entries.find? fun e =>
        e.2.networkId = networkId ∧ e.2.agentId = input.agentId with
    | some existing => do
      let publicKey ← coalesce env input.publicKey existing.2.publicKey
      let endpoint ← coalesce env input.endpoint existing.2.endpoint
      let persistentKeepalive ← storeNumber "network_peers.persistent_keepalive"
        input.persistentKeepalive
      return { tables with
        peers := tables.peers.set existing.1 { existing.2 with
          publicKey, endpoint, persistentKeepalive, allowedIps := input.allowedIps } }
    | none =>
      match (cidrRange env.host network.cidr).map (tables.allocateNetworkIp networkId) with
      | none => .error (typeError "Cannot read properties of null")
      | some none => .error {
          message := "Faixa de IP da rede esgotada."
          statusCode := some 409
          code := some "NETWORK_IP_EXHAUSTED" }
      | some (some virtualIp) => do
        let publicKey ← textValue env input.publicKey
        let endpoint ← textValue env input.endpoint
        let persistentKeepalive ← storeNumber "network_peers.persistent_keepalive"
          input.persistentKeepalive
        if (tables.peers.get? id).isSome then .error (uniqueFailed "network_peers.id")
        else if tables.peers.entries.any fun e =>
            e.2.networkId = networkId && e.2.virtualIp = virtualIp then
          .error (uniqueFailed "network_peers.network_id, network_peers.virtual_ip")
        else .ok { tables with
          peers := tables.peers.set id ⟨id, organizationId, networkId, input.agentId,
            virtualIp, publicKey, endpoint, input.allowedIps, persistentKeepalive,
            "pending"⟩ }
  | _, _ => .error (refused "Rede ou agente inválido para esta organização."
      "NETWORK_PEER_INVALID")

variable {env : StoreEnv} {tables next : NetworkTables} {organizationId id networkId : String}

theorem agentOf_eq_some {agentId : String} {agent : AgentRow}
    (h : tables.agentOf organizationId agentId = some agent) :
    tables.agents.get? agentId = some agent ∧ agent.organizationId = organizationId := by
  obtain ⟨hget, howner⟩ := Option.filter_eq_some_iff.1 h
  exact ⟨hget, of_decide_eq_true howner⟩

theorem getPrivateNetwork_eq_some {network : NetworkRow}
    (h : tables.getPrivateNetwork organizationId id = some network) :
    tables.networks.get? id = some network ∧ network.organizationId = organizationId := by
  obtain ⟨hget, howner⟩ := Option.filter_eq_some_iff.1 h
  exact ⟨hget, of_decide_eq_true howner⟩

theorem hub_of_checkHub {hubAgentId : Json} {stored : String}
    (hcheck : tables.checkHub env organizationId hubAgentId = .ok ())
    (hstored : textValue env hubAgentId = .ok (some stored)) :
    (∃ agent, tables.agents.get? stored = some agent ∧ agent.organizationId = organizationId) ∨
      stored = "" ∨ stored = env.realText 0 := by
  unfold checkHub at hcheck
  split_ifs at hcheck with htruthy
  · left
    obtain ⟨text, htext, hcheck⟩ := bind_eq_ok.1 hcheck
    rw [hstored] at htext
    cases htext
    rw [Option.bind_some] at hcheck
    cases hagent : tables.agentOf organizationId stored with
    | none =>
      rw [hagent] at hcheck
      cases hcheck
    | some agent => exact ⟨agent, agentOf_eq_some hagent⟩
  · right
    cases hubAgentId with
    | str text =>
      cases hstored
      left
      simpa [Json.truthy] using htruthy
    | num q =>
      cases hstored
      have hq : q = 0 := by simpa [Json.truthy] using htruthy
      exact .inr (by rw [hq])
    | null | bool b | arr items | obj fields => cases hstored

theorem createPrivateNetwork_eq_ok {input : NetworkInput}
    (h : tables.createPrivateNetwork env organizationId id input = .ok next) :
    tables.networks.get? id = none ∧ ∃ network : NetworkRow,
      network.organizationId = organizationId ∧
      (∀ hub, network.hubAgentId = some hub → (tables.agents.get? hub).isSome ∧
        ((∃ agent, tables.agents.get? hub = some agent ∧
          agent.organizationId = organizationId) ∨ hub = "" ∨ hub = env.realText 0)) ∧
      next = { tables with networks := tables.networks.set id network } := by
  unfold createPrivateNetwork at h
  by_cases hcidr : (cidrRange env.host input.cidr).isNone
  · rw [if_pos hcidr] at h
    cases h
  rw [if_neg hcidr] at h
  obtain ⟨_, hcheck, h⟩ := bind_eq_ok.1 h
  obtain ⟨hubAgentId, hhub, h⟩ := bind_eq_ok.1 h
  split_ifs at h with hused hname hrange hforeign
  cases h
  refine ⟨Option.not_isSome_iff_eq_none.1 hused, ?network, ?owner, ?hub, ?next⟩
  case next => exact rfl
  case owner => exact rfl
  case hub =>
    intro hub hsome
    have hstored : hubAgentId = some hub := hsome
    subst hstored
    refine ⟨?_, hub_of_checkHub hcheck hhub⟩
    rw [Option.isSome_iff_ne_none]
    intro hnone
    apply hforeign
    simp [hnone]

theorem deletePrivateNetwork_eq_some (h : tables.deletePrivateNetwork organizationId id = some next) :
    (∃ network, tables.networks.get? id = some network ∧
      network.organizationId = organizationId) ∧
      next = { tables with
        networks := tables.networks.erase id
        peers := tables.peers.filter fun _ peer => peer.networkId ≠ id } := by
  unfold deletePrivateNetwork at h
  split at h
  · cases h
  · rename_i network hnetwork
    cases h
    exact ⟨⟨network, getPrivateNetwork_eq_some hnetwork⟩, rfl⟩

theorem upsertNetworkPeer_eq_ok {input : PeerInput}
    (h : tables.upsertNetworkPeer env organizationId networkId id input = .ok next) :
    (∃ network, tables.networks.get? networkId = some network ∧
        network.organizationId = organizationId) ∧
      (∃ agent, tables.agents.get? input.agentId = some agent ∧
        agent.organizationId = organizationId) ∧
      ∃ key peer, peer.networkId = networkId ∧ peer.agentId = input.agentId ∧
        ((tables.peers.get? key = none ∧ peer.organizationId = organizationId) ∨
          ∃ existing, tables.peers.get? key = some existing ∧ existing.networkId = networkId ∧
            peer.organizationId = existing.organizationId) ∧
        next = { tables with peers := tables.peers.set key peer } := by
  unfold upsertNetworkPeer at h
  cases hnetwork : tables.getPrivateNetwork organizationId networkId with
  | none =>
    rw [hnetwork] at h
    cases h
  | some network =>
    cases hagent : tables.agentOf organizationId input.agentId with
    | none =>
      rw [hnetwork, hagent] at h
      cases h
    | some agent =>
      rw [hnetwork, hagent] at h
      refine ⟨⟨network, getPrivateNetwork_eq_some hnetwork⟩, ⟨agent, agentOf_eq_some hagent⟩, ?_⟩
      cases hexisting : tables.peers.entries.find? fun e =>
          e.2.networkId = networkId ∧ e.2.agentId = input.agentId with
      | some existing =>
        rw [hexisting] at h
        obtain ⟨publicKey, -, h⟩ := bind_eq_ok.1 h
        obtain ⟨endpoint, -, h⟩ := bind_eq_ok.1 h
        obtain ⟨persistentKeepalive, -, h⟩ := bind_eq_ok.1 h
        cases h
        have hfound := List.find?_some hexisting
        obtain ⟨hof, hfor⟩ := of_decide_eq_true hfound
        refine ⟨existing.1, ?peer, ?network, ?agent, ?place, ?next⟩
        case next => exact rfl
        case network => exact hof
        case agent => exact hfor
        case place =>
          right
          exact ⟨existing.2, OrdMap.get?_eq_some_iff.2 (List.mem_of_find?_eq_some hexisting),
            hof, rfl⟩
      | none =>
        rw [hexisting] at h
        dsimp only at h
        split at h
        · cases h
        · cases h
        · obtain ⟨publicKey, -, h⟩ := bind_eq_ok.1 h
          obtain ⟨endpoint, -, h⟩ := bind_eq_ok.1 h
          obtain ⟨persistentKeepalive, -, h⟩ := bind_eq_ok.1 h
          split_ifs at h with hused
          cases h
          refine ⟨id, ?newPeer, ?newNetwork, ?newAgent, ?newPlace, ?newNext⟩
          case newNext => exact rfl
          case newNetwork => exact rfl
          case newAgent => exact rfl
          case newPlace => exact .inl ⟨Option.not_isSome_iff_eq_none.1 hused, rfl⟩

end NetworkTables

end Tunnara.Control
