/-
# No organization touches another

The references of tunnels, targets, peers and hubs stay within one organization, and each
operation writes rows of the organization only for which it is invoked. The invariant says
besides that records, inspections and requests that await the provider are of the organization
of their tunnel, since these rows go, or change, with it.

An operation is taken with uuids that have not been drawn before.
-/

import Tunnara.Control.Tenants
import Tunnara.Control.Ownership

namespace Tunnara.Control

open OrdMap HasOwner Transition TunnelTables

instance : HasOwner ApiTokenRow String := ⟨fun row => row.organizationId⟩
instance : HasOwner ProvisioningTokenRow String := ⟨fun row => row.organizationId⟩
instance : HasOwner CertificateRow String := ⟨fun row => row.organizationId⟩
instance : HasOwner InspectionRow String := ⟨fun row => row.organizationId⟩
instance : HasOwner Pending String := ⟨fun request => request.organizationId⟩

/-- The time at which an operation deletes the keys that have expired. -/
def Operation.purges : Operation → Option ℕ
  | .postTunnel now _ _ _ _ => some now
  | _ => none

namespace Store

/-- Tunnels, targets, peers and hubs refer to rows of their own organization. -/
structure Isolated (store : Store) : Prop where
  tunnels : store.tables.toTunnelTables.Isolated
  networks : store.networkTables.Isolated

/-- The keys of other organizations are kept, those apart that have expired. -/
def KeepsKeys (own : String) (purged : Option ℕ)
    (before after : OrdMap (String × String) IdempotencyRow) : Prop :=
  ∀ key, key.1 ≠ own → after.get? key = before.get? key ∨
    ∃ now, purged = some now ∧
      after.get? key = (before.get? key).filter fun row => now < row.expiresAt

/-- The presence of other organizations' agents is kept. -/
def KeepsPresence (own : String) (before after : Store) : Prop :=
  ∀ id agent, before.tables.agents.get? id = some agent → agent.organizationId ≠ own →
    after.presence.get? id = before.presence.get? id

/-- Only rows of the organization differ. -/
structure Untouched (own : String) (purged : Option ℕ) (before after : Store) : Prop where
  agents : ChangesOwned own before.tables.agents after.tables.agents
  tunnels : ChangesOwned own before.tables.tunnels after.tables.tunnels
  targets : ChangesOwned own before.tables.targets after.tables.targets
  policies : ChangesOwned own before.tables.policies after.tables.policies
  integrations : ChangesOwned own before.tables.integrations after.tables.integrations
  dnsRecords : ChangesOwned own before.tables.dnsRecords after.tables.dnsRecords
  networks : ChangesOwned own before.networks after.networks
  peers : ChangesOwned own before.peers after.peers
  apiTokens : ChangesOwned own before.apiTokens after.apiTokens
  provisioningTokens : ChangesOwned own before.provisioningTokens after.provisioningTokens
  certificates : ChangesOwned own before.certificates after.certificates
  inspections : ChangesOwned own before.inspections after.inspections
  keys : KeepsKeys own purged before.keys after.keys
  presence : KeepsPresence own before after

/-- What the operation is taken with. -/
def Genuine (env : IdempotencyEnv) (store : Store) : Operation → Prop
  | .registerAgent _ id _ _ => ¬ Falsy env.toStoreEnv id
  | .heartbeat organizationId agentId => ∃ agent, store.tables.agents.get? agentId = some agent ∧
      agent.organizationId = organizationId
  | .createPolicy id _ _ _ _ _ => ¬ Falsy env.toStoreEnv id ∧
      ∀ key tunnel, store.tables.tunnels.get? key = some tunnel → tunnel.policyId ≠ some id
  | .postTunnel _ _ draws _ _ =>
    ∀ key request, store.pending.get? key = some request → request.tunnelId ≠ draws.tunnelId
  | .cluster write => ∀ row, write.inspection = some row →
      ∀ tunnel, store.tables.tunnels.get? row.tunnelId = some tunnel →
        row.organizationId = tunnel.organizationId
  | _ => True

/-- Within the organization for which it is invoked. -/
def WithinTenant (env : IdempotencyEnv) (store : Store) (op : Operation) : Prop :=
  ∀ own, store.invokedFor op = some own → Untouched own op.purges store (store.step env op)

/-- The invariant. -/
structure Coherent (env : StoreEnv) (store : Store) : Prop extends Isolated store where
  named : Named env store.tables.toTunnelTables
  records : RefersWithin store.tables.dnsRecords (fun row => row.tunnelId) store.tables.tunnels
  inspected : RefersWithin store.inspections (fun row => some row.tunnelId) store.tables.tunnels
  awaited : RefersAtMost store.pending (fun request => some request.tunnelId)
    store.tables.tunnels

/-- Organizations, tokens, integrations and certificates there may be. -/
structure Unused (store : Store) : Prop where
  agents : store.tables.agents = .empty
  tunnels : store.tables.tunnels = .empty
  targets : store.tables.targets = .empty
  policies : store.tables.policies = .empty
  dnsRecords : store.tables.dnsRecords = .empty
  networks : store.networks = .empty
  peers : store.peers = .empty
  inspections : store.inspections = .empty
  pending : store.pending = .empty

theorem Unused.coherent {env : StoreEnv} {store : Store} (h : Unused store) :
    Coherent env store := by
  constructor
  · constructor
    · constructor
      · rw [h.tunnels]
        exact .empty
      · rw [h.tunnels]
        exact .empty
      · rw [h.targets]
        exact .empty
      · rw [h.targets]
        exact .empty
    · constructor
      · change RefersWithin store.peers _ _
        rw [h.peers]
        exact .empty
      · change RefersWithin store.peers _ _
        rw [h.peers]
        exact .empty
      · change RefersWithin store.networks _ _
        rw [h.networks]
        exact .empty
  · constructor
    · intro name _
      rw [h.agents, get?_empty]
    · intro name _
      rw [h.policies, get?_empty]
  · rw [h.dnsRecords]
    exact .empty
  · rw [h.inspections]
    exact .empty
  · rw [h.pending]
    exact .empty

/-- What an operation has to keep. -/
def Keeps (env : StoreEnv) (own : String) (purged : Option ℕ) (before after : Store) : Prop :=
  Coherent env after ∧ Untouched own purged before after

variable {env : IdempotencyEnv} {store next : Store} {own : String} {purged : Option ℕ}

theorem keepsKeys_refl {own : String} {purged : Option ℕ}
    {keys : OrdMap (String × String) IdempotencyRow} : KeepsKeys own purged keys keys :=
  fun _ _ => .inl rfl

theorem Untouched.refl (own : String) (purged : Option ℕ) (store : Store) :
    Untouched own purged store store :=
  ⟨.refl _ _, .refl _ _, .refl _ _, .refl _ _, .refl _ _, .refl _ _, .refl _ _, .refl _ _,
    .refl _ _, .refl _ _, .refl _ _, .refl _ _, keepsKeys_refl, fun _ _ _ _ => rfl⟩

theorem Keeps.refl (h : Coherent env.toStoreEnv store) (own : String) (purged : Option ℕ) :
    Keeps env.toStoreEnv own purged store store := ⟨h, .refl own purged store⟩

/-! ## Tokens, certificates and integrations -/

theorem Keeps.of_tokens {apiTokens : OrdMap String ApiTokenRow}
    {provisioningTokens : OrdMap String ProvisioningTokenRow}
    {certificates : OrdMap String CertificateRow} (h : Coherent env.toStoreEnv store)
    (happ : ChangesOwned own store.apiTokens apiTokens)
    (hprovision : ChangesOwned own store.provisioningTokens provisioningTokens)
    (hcertificates : ChangesOwned own store.certificates certificates) :
    Keeps env.toStoreEnv own purged store
      { store with apiTokens, provisioningTokens, certificates } :=
  ⟨⟨⟨h.tunnels, h.networks⟩, h.named, h.records, h.inspected, h.awaited⟩,
    { Untouched.refl own purged store with
      apiTokens := happ
      provisioningTokens := hprovision
      certificates := hcertificates }⟩

variable {id tokenHash rowId : String} {now : ℕ} {principal : Principal} {draws : TunnelDraws}
  {body : Json}

section

variable (h : Coherent env.toStoreEnv store)
include h

theorem keeps_createApiToken {name : String} {scopes : List String}
    (hcreate : store.createApiToken own id name tokenHash scopes = .ok next) :
    Keeps env.toStoreEnv own purged store next := by
  unfold createApiToken at hcreate
  split_ifs at hcreate with hused
  cases hcreate
  apply Keeps.of_tokens h
  · exact .set_new (Option.not_isSome_iff_eq_none.1 hused) rfl
  · exact .refl _ _
  · exact .refl _ _

theorem keeps_revokeApiToken (hrevoke : store.revokeApiToken own id = some next) :
    Keeps env.toStoreEnv own purged store next := by
  unfold revokeApiToken at hrevoke
  split at hrevoke
  · cases hrevoke
  · rename_i row hrow
    cases hrevoke
    obtain ⟨hget, hmine⟩ := Option.filter_eq_some_iff.1 hrow
    have howner : row.organizationId = own := of_decide_eq_true (Bool.and_eq_true_iff.1 hmine).1
    apply Keeps.of_tokens h
    · exact .set_old hget howner howner
    · exact .refl _ _
    · exact .refl _ _

theorem keeps_createProvisioningToken {name : String} {expiresAt : ℕ}
    (hcreate : store.createProvisioningToken own id name tokenHash expiresAt = .ok next) :
    Keeps env.toStoreEnv own purged store next := by
  unfold createProvisioningToken at hcreate
  split_ifs at hcreate with hused
  cases hcreate
  apply Keeps.of_tokens h
  · exact .refl _ _
  · exact .set_new (Option.not_isSome_iff_eq_none.1 hused) rfl
  · exact .refl _ _

theorem keeps_upsertCertificate {primaryName : String} {sans : List String}
    (hupsert : store.upsertCertificate own id primaryName sans = .ok next) :
    Keeps env.toStoreEnv own purged store next := by
  unfold upsertCertificate at hupsert
  split at hupsert
  · rename_i existing hexisting
    cases hupsert
    have hfound := List.find?_some hexisting
    have hget := get?_eq_some_iff.2 (List.mem_of_find?_eq_some hexisting)
    have howner : existing.2.organizationId = own := (of_decide_eq_true hfound).1
    apply Keeps.of_tokens h
    · exact .refl _ _
    · exact .refl _ _
    · exact .set_old hget howner howner
  · split_ifs at hupsert with hused
    cases hupsert
    apply Keeps.of_tokens h
    · exact .refl _ _
    · exact .refl _ _
    · exact .set_new (Option.not_isSome_iff_eq_none.1 hused) rfl

theorem keeps_integrations {integrations : OrdMap String IntegrationRow}
    (hchanges : ChangesOwned own store.tables.integrations integrations) :
    Keeps env.toStoreEnv own purged store
      { store with tables := { store.tables with integrations := integrations } } :=
  ⟨⟨⟨h.tunnels, h.networks⟩, h.named, h.records, h.inspected, h.awaited⟩,
    { Untouched.refl own purged store with integrations := hchanges }⟩

theorem keeps_upsertIntegration {config : CloudflareConfig} {secretCiphertext : Option String}
    (hupsert : store.upsertIntegration own id config secretCiphertext = .ok next) :
    Keeps env.toStoreEnv own purged store next := by
  unfold upsertIntegration at hupsert
  split at hupsert
  · rename_i existing hexisting
    cases hupsert
    have hfound := List.find?_some hexisting
    have hget := get?_eq_some_iff.2 (List.mem_of_find?_eq_some hexisting)
    have howner : existing.2.organizationId = own := (of_decide_eq_true hfound).1
    exact keeps_integrations h (.set_old hget howner howner)
  · split_ifs at hupsert with hused
    cases hupsert
    exact keeps_integrations h (.set_new (Option.not_isSome_iff_eq_none.1 hused) rfl)

end

/-! ## Agents -/

theorem Keeps.of_agents {agents : OrdMap String AgentRow} {presence : OrdMap String PresenceRow}
    (h : Coherent env.toStoreEnv store) (hkept : KeepsOwners store.tables.agents agents)
    (hnone : ∀ name, Falsy env.toStoreEnv name → agents.get? name = none)
    (hchanges : ChangesOwned own store.tables.agents agents)
    (hpresence : ∀ id agent, store.tables.agents.get? id = some agent →
      agent.organizationId ≠ own → presence.get? id = store.presence.get? id) :
    Keeps env.toStoreEnv own purged store
      { store with
        tables := { store.tables with agents := agents }
        presence := presence } := by
  refine ⟨⟨⟨⟨h.tunnels.tunnelAgent.keeps hkept, h.tunnels.tunnelPolicy, h.tunnels.targetTunnel,
    h.tunnels.targetAgent.keeps hkept⟩, ⟨h.networks.peerNetwork, ?_, ?_⟩⟩,
    ⟨hnone, h.named.policies⟩, h.records, h.inspected, h.awaited⟩, ?_⟩
  · exact h.networks.peerAgent.keeps hkept
  · exact h.networks.hub.keeps hkept
  · exact { Untouched.refl own purged store with agents := hchanges, presence := hpresence }

theorem Keeps.of_agents_only {agents : OrdMap String AgentRow} (h : Coherent env.toStoreEnv store)
    (hkept : KeepsOwners store.tables.agents agents)
    (hnone : ∀ name, Falsy env.toStoreEnv name → agents.get? name = none)
    (hchanges : ChangesOwned own store.tables.agents agents) :
    Keeps env.toStoreEnv own purged store
      { store with tables := { store.tables with agents := agents } } :=
  Keeps.of_agents h hkept hnone hchanges fun _ _ _ _ => rfl

theorem usableToken_eq_some {e : String × ProvisioningTokenRow}
    (h : store.usableToken tokenHash now = some e) : store.provisioningTokens.get? e.1 = some e.2 :=
  get?_eq_some_iff.2 (List.mem_of_find?_eq_some h)

theorem registerAgent_of_none {payload : Json} (h : store.usableToken tokenHash now = none) :
    store.registerAgent env tokenHash id now payload = store := by
  unfold registerAgent consumeProvisioningToken
  rw [h]
  rfl

section

variable (h : Coherent env.toStoreEnv store)
include h

theorem keeps_registerAgent {payload : Json} {e : String × ProvisioningTokenRow}
    (hid : ¬ Falsy env.toStoreEnv id) (htoken : store.usableToken tokenHash now = some e)
    (howner : e.2.organizationId = own) :
    Keeps env.toStoreEnv own purged store (store.registerAgent env tokenHash id now payload) := by
  have hconsumed : Keeps env.toStoreEnv own purged store { store with
      provisioningTokens := store.provisioningTokens.set e.1 { e.2 with used := true } } := by
    apply Keeps.of_tokens h
    · exact .refl _ _
    · exact .set_old (usableToken_eq_some htoken) howner howner
    · exact .refl _ _
  unfold registerAgent consumeProvisioningToken
  rw [htoken, Option.map_some]
  dsimp only
  split
  · exact hconsumed
  · split_ifs with hused
    · exact hconsumed
    · have hnew : store.tables.agents.get? id = none := Option.not_isSome_iff_eq_none.1 hused
      have hagents := @Keeps.of_agents_only env _ own purged
        (store.tables.agents.set id ⟨id, e.2.organizationId, "offline", none⟩) hconsumed.1
        (keepsOwners_set_new hnew) ?_ (.set_new hnew howner)
      · exact ⟨hagents.1,
          { hagents.2 with provisioningTokens := hconsumed.2.provisioningTokens }⟩
      · intro name hname
        rw [get?_set_of_ne]
        · exact h.named.agents name hname
        · rintro rfl
          exact hid hname

theorem keeps_touchAgent {agentId : String} {agent : AgentRow}
    (hagent : store.tables.agents.get? agentId = some agent) (howner : agent.organizationId = own) :
    Keeps env.toStoreEnv own purged store (store.touchAgent agentId) := by
  apply Keeps.of_agents_only h
  · exact keepsOwners_update fun _ => rfl
  · intro name hname
    rw [OrdMap.update, get?_mapVals, h.named.agents name hname]
    rfl
  · apply ChangesOwned.update
    · exact fun _ => rfl
    · intro row hrow
      rw [hagent] at hrow
      cases hrow
      exact howner

theorem keeps_revokeAgent {timestamp : String}
    (hrevoke : store.revokeAgent own id timestamp = some next) :
    Keeps env.toStoreEnv own purged store next := by
  unfold revokeAgent at hrevoke
  split at hrevoke
  · cases hrevoke
  · rename_i agent hagent
    cases hrevoke
    obtain ⟨hget, hmine⟩ := Option.filter_eq_some_iff.1 hagent
    have howner : agent.organizationId = own := of_decide_eq_true hmine
    apply Keeps.of_agents h
    · exact keepsOwners_set_old hget rfl
    · intro name hname
      rw [get?_set_of_ne]
      · exact h.named.agents name hname
      · rintro rfl
        rw [h.named.agents name hname] at hget
        cases hget
    · exact .set_old hget howner howner
    · intro other found hfound hforeign
      apply get?_erase_of_ne
      rintro rfl
      rw [hget] at hfound
      cases hfound
      exact hforeign howner

end

/-! ## Inspections -/

section

variable (h : Coherent env.toStoreEnv store)
include h

theorem keeps_inspections {keep : String → InspectionRow → Bool}
    (hkeep : ∀ id row, keep id row = false → row.organizationId = own) :
    Keeps env.toStoreEnv own purged store
      { store with inspections := store.inspections.filter keep } := by
  refine ⟨⟨⟨h.tunnels, h.networks⟩, h.named, h.records, ?_, h.awaited⟩, ?_⟩
  · exact h.inspected.inherits (inherits_filter _ _)
  · refine { Untouched.refl own purged store with inspections := .filter ?_ }
    intro id row _ hdrop
    exact hkeep id row hdrop

theorem keeps_deleteInspection {id : String} :
    Keeps env.toStoreEnv own purged store (store.deleteInspection own id) := by
  apply keeps_inspections h
  intro key row hdrop
  simp only [Bool.not_eq_false', Bool.and_eq_true, decide_eq_true_eq] at hdrop
  exact hdrop.1

theorem keeps_purgeInspections {olderThan : Option ℕ} :
    Keeps env.toStoreEnv own purged store (store.purgeInspections own olderThan) := by
  apply keeps_inspections h
  intro key row hdrop
  simp only [Bool.not_eq_false', Bool.and_eq_true, decide_eq_true_eq] at hdrop
  exact hdrop.1

end

/-! ## Networks -/

theorem keeps_networks {networks : NetworkTables} (h : Coherent env.toStoreEnv store)
    (hnext : networks.Isolated ∧ NetworkTables.Confined own store.networkTables networks) :
    Keeps env.toStoreEnv own purged store (store.withNetworks networks) := by
  obtain ⟨hisolated, hconfined⟩ := hnext
  have hsame : (store.withNetworks networks).networkTables = networks := by
    obtain ⟨agents, rows, peers⟩ := networks
    have hagents : agents = store.tables.agents := hconfined.agents
    rw [hagents]
    rfl
  refine ⟨⟨⟨h.tunnels, ?_⟩, h.named, h.records, h.inspected, h.awaited⟩, ?_⟩
  · rw [hsame]
    exact hisolated
  · exact { Untouched.refl own purged store with
      networks := hconfined.networks
      peers := hconfined.peers }

/-! ## Tunnels -/

theorem keeps_cascade {api : Api} (h : Coherent env.toStoreEnv store)
    (hlawful : DnsTables.Lawful env.toStoreEnv own store.tables api.tables)
    (hawaited : RefersAtMost api.pending (fun request => some request.tunnelId)
      api.tables.tunnels) (hkeys : KeepsKeys own purged store.keys api.keys) :
    Keeps env.toStoreEnv own purged store (store.cascade api) := by
  have hagents : api.tables.agents = store.tables.agents := hlawful.confined.agents
  have hnetworks : (store.cascade api).networkTables = store.networkTables := by
    unfold networkTables cascade
    rw [← hagents]
  refine ⟨⟨⟨hlawful.isolated, ?_⟩, hlawful.named, hlawful.tunnel, ?_, hawaited⟩, ?_⟩
  · rw [hnetworks]
    exact h.networks
  · apply h.inspected.filter_named hlawful.same
    rintro id row i hthere ⟨⟩
    exact hthere
  · refine { Untouched.refl own purged store with
      agents := ?_
      tunnels := hlawful.confined.tunnels
      targets := hlawful.confined.targets
      policies := hlawful.confined.policies
      integrations := ?_
      dnsRecords := hlawful.records
      inspections := ?_
      keys := hkeys }
    · change ChangesOwned own store.tables.agents api.tables.agents
      rw [hagents]
      exact .refl _ _
    · change ChangesOwned own store.tables.integrations api.tables.integrations
      rw [hlawful.integrations]
      exact .refl _ _
    · apply ChangesOwned.filter_named h.inspected hlawful.confined.tunnels
      intro id row hgone
      exact ⟨row.tunnelId, rfl, Option.not_isSome_iff_eq_none.1 (Bool.eq_false_iff.1 hgone)⟩

theorem keeps_withTunnels {tunnels : TunnelTables} (h : Coherent env.toStoreEnv store)
    (hlawful : TunnelTables.Lawful env.toStoreEnv own store.tables.toTunnelTables tunnels) :
    Keeps env.toStoreEnv own purged store (store.withTunnels tunnels) := by
  apply keeps_cascade h
  · exact DnsTables.lawful_of_tunnels h.records hlawful
  · exact h.awaited.named_inherits hlawful.inherited
  · exact keepsKeys_refl

theorem keeps_afterTunnels {result : Except JsError TunnelTables}
    (h : Coherent env.toStoreEnv store) (hresult : ∀ tunnels, result = .ok tunnels →
      TunnelTables.Lawful env.toStoreEnv own store.tables.toTunnelTables tunnels) :
    Keeps env.toStoreEnv own purged store (store.afterTunnels result) := by
  cases result with
  | error error => exact .refl h own purged
  | ok tunnels => exact keeps_withTunnels h (hresult tunnels rfl)

theorem keeps_afterFound {result : Except JsError (Option TunnelTables)}
    (h : Coherent env.toStoreEnv store) (hresult : ∀ tunnels, result = .ok (some tunnels) →
      TunnelTables.Lawful env.toStoreEnv own store.tables.toTunnelTables tunnels) :
    Keeps env.toStoreEnv own purged store (store.afterFound result) := by
  cases result with
  | error error => exact .refl h own purged
  | ok found =>
    cases found with
    | none => exact .refl h own purged
    | some tunnels => exact keeps_withTunnels h (hresult tunnels rfl)

section

variable (h : Coherent env.toStoreEnv store)
include h

theorem keeps_orSame {result : Except JsError Store}
    (hresult : ∀ next, result = .ok next → Keeps env.toStoreEnv own purged store next) :
    Keeps env.toStoreEnv own purged store (store.orSame result) := by
  cases result with
  | error error => exact .refl h own purged
  | ok next => exact hresult next rfl

theorem keeps_getD {result : Option Store}
    (hresult : ∀ next, result = some next → Keeps env.toStoreEnv own purged store next) :
    Keeps env.toStoreEnv own purged store (result.getD store) := by
  cases result with
  | none => exact .refl h own purged
  | some next => exact hresult next rfl

theorem keeps_deleteTunnel {agentId : Option String}
    (hdelete : store.deleteTunnel own id agentId = some next) :
    Keeps env.toStoreEnv own purged store next := by
  obtain ⟨tables, htables, rfl⟩ := Option.map_eq_some_iff.1 hdelete
  obtain ⟨hlawful, hgone⟩ :=
    @DnsTables.lawful_deleteTunnel env.toDnsEnv _ _ _ _ _ h.tunnels h.named h.records htables
  apply keeps_cascade h hlawful
  · exact h.awaited.named_inherits hgone
  · exact keepsKeys_refl

end

/-! ## Records without a tunnel -/

theorem keeps_saveDnsRecord {input : DnsInput} (h : Coherent env.toStoreEnv store)
    (hsave : store.saveDnsRecord own rowId input = .ok next) :
    Keeps env.toStoreEnv own purged store next := by
  obtain ⟨⟨key, tables⟩, htables, rfl⟩ := map_eq_ok.1 hsave
  have hlawful : DnsTables.Lawful env.toStoreEnv own store.tables tables := by
    apply @DnsTables.lawful_saveDnsRecord env.toDnsEnv _ _ _ _ _ _ _ h.tunnels h.named h.records
      _ htables
    intro name hname
    cases hname
  obtain ⟨-, row, -, -, -, -, -, rfl⟩ := DnsTables.saveDnsRecord_eq_ok htables
  exact ⟨⟨⟨h.tunnels, h.networks⟩, h.named, hlawful.tunnel, h.inspected, h.awaited⟩,
    { Untouched.refl own purged store with dnsRecords := hlawful.records }⟩

theorem keeps_deleteDnsRecord (h : Coherent env.toStoreEnv store)
    (hdelete : store.deleteDnsRecord own id = some next) :
    Keeps env.toStoreEnv own purged store next := by
  unfold deleteDnsRecord at hdelete
  split at hdelete
  · cases hdelete
  · rename_i row hrow
    cases hdelete
    obtain ⟨hget, howner⟩ := DnsTables.getDnsRecord_eq_some hrow
    refine ⟨⟨⟨h.tunnels, h.networks⟩, h.named, ?_, h.inspected, h.awaited⟩, ?_⟩
    · exact h.records.inherits (inherits_filter _ _)
    · exact { Untouched.refl own purged store with dnsRecords := .erase hget howner }

/-! ## Requests -/

section

variable {state : Api}

theorem keepsKeys_purgeKeys (own : String) (keys : OrdMap (String × String) IdempotencyRow)
    (now : ℕ) : KeepsKeys own (some now) keys (Api.purgeKeys keys now) :=
  fun _ _ => .inr ⟨now, rfl, get?_filter _ _ _⟩

theorem KeepsKeys.set {before after : OrdMap (String × String) IdempotencyRow}
    (h : KeepsKeys own purged before after) (key : String) (row : IdempotencyRow) :
    KeepsKeys own purged before (after.set (own, key) row) := by
  intro other hforeign
  rw [get?_set_of_ne]
  · exact h other hforeign
  · rintro rfl
    exact hforeign rfl

theorem finish_writes (state : Api) (request : Pending) (now : ℕ) (dnsRecord : Option DnsRow)
    {before : OrdMap (String × String) IdempotencyRow}
    (hkeys : KeepsKeys request.organizationId purged before state.keys) :
    (state.finish env request now dnsRecord).tables = state.tables ∧
      (state.finish env request now dnsRecord).pending = state.pending ∧
      KeepsKeys request.organizationId purged before
        (state.finish env request now dnsRecord).keys := by
  unfold Api.finish
  split
  · exact ⟨rfl, rfl, hkeys⟩
  · refine ⟨rfl, rfl, ?_⟩
    split
    · exact hkeys
    · exact hkeys.set _ _

/-- What a request of the organization leaves. -/
structure Served (env : StoreEnv) (own : String) (purged : Option ℕ) (before after : Api) :
    Prop where
  tables : DnsTables.Lawful env own before.tables after.tables
  awaited : RefersAtMost after.pending (fun request => some request.tunnelId)
    after.tables.tunnels
  keys : KeepsKeys own purged before.keys after.keys

theorem served_create {keys : OrdMap (String × String) IdempotencyRow} {key : String} {body : Json}
    (h : Coherent env.toStoreEnv store) (hnew : ∀ id request, store.pending.get? id = some request →
      request.tunnelId ≠ draws.tunnelId)
    (hkeys : KeepsKeys principal.organizationId (some now) store.keys keys) :
    Served env.toStoreEnv principal.organizationId (some now) store.toApi
      (Api.create env { store.toApi with keys := keys } now principal draws key body) := by
  unfold Api.create
  cases hpost : store.tables.postTunnel env.toDnsEnv principal draws body with
  | error error =>
    exact ⟨DnsTables.Lawful.refl h.tunnels h.named h.records, h.awaited, hkeys⟩
  | ok tables =>
    obtain ⟨hlawful, tunnel, howner, hset⟩ :=
      @DnsTables.lawful_postTunnel env.toDnsEnv _ _ _ _ _ h.tunnels h.named h.records hpost
    have hget : tables.tunnels.get? draws.tunnelId = some tunnel := by
      rw [hset, get?_set_self]
    have hawaited : RefersAtMost store.pending (fun request => some request.tunnelId)
        tables.tunnels := by
      rw [hset]
      apply h.awaited.set_named
      intro id request hrequest hname
      exact hnew id request hrequest (Option.some.inj hname)
    dsimp only
    split_ifs
    · refine ⟨hlawful, ?_, hkeys⟩
      apply hawaited.set
      rintro i found ⟨⟩ hfound
      rw [hget] at hfound
      cases hfound
      exact howner
    · obtain ⟨htables, hpending, hset⟩ := @finish_writes env _
        { store.toApi with keys := keys, tables := tables }
        ⟨principal.organizationId, key, body, draws.tunnelId⟩ now none _ hkeys
      refine ⟨?_, ?_, hset⟩
      · rw [htables]
        exact hlawful
      · rw [htables, hpending]
        exact hawaited

theorem served_arrive {header : String} (h : Coherent env.toStoreEnv store)
    (hnew : ∀ id request, store.pending.get? id = some request →
      request.tunnelId ≠ draws.tunnelId) :
    Served env.toStoreEnv principal.organizationId (some now) store.toApi
      (store.toApi.arrive env now principal draws header body) := by
  have hlawful := @DnsTables.Lawful.refl env.toDnsEnv _ principal.organizationId h.tunnels h.named
    h.records
  have hpurged := keepsKeys_purgeKeys principal.organizationId store.keys now
  unfold Api.arrive
  dsimp only
  split_ifs
  · exact served_create h hnew keepsKeys_refl
  · exact ⟨hlawful, h.awaited, keepsKeys_refl⟩
  · split
    · exact ⟨hlawful, h.awaited, hpurged⟩
    · exact ⟨hlawful, h.awaited, hpurged⟩
    · exact served_create h hnew hpurged

theorem served_ensured {id : ℕ} {ensured : Except JsError DnsInput} {request : Pending}
    (h : Coherent env.toStoreEnv store) (hrequest : store.pending.get? id = some request) :
    Served env.toStoreEnv request.organizationId purged store.toApi
      (store.toApi.ensured env id now rowId ensured) := by
  have hmine : ∀ tunnel, store.tables.tunnels.get? request.tunnelId = some tunnel →
      tunnel.organizationId = request.organizationId := fun tunnel htunnel =>
    h.awaited id request _ tunnel hrequest rfl htunnel
  obtain ⟨hlawful, hgone⟩ := @DnsTables.lawful_recordDns env.toDnsEnv _ _ _ rowId ensured
    h.tunnels h.named h.records hmine
  have hawaited := (h.awaited.named_inherits hgone).inherits
    (inherits_filter store.pending fun key _ => decide (key ≠ id))
  unfold Api.ensured
  rw [hrequest]
  dsimp only
  split
  · exact ⟨hlawful, hawaited, keepsKeys_refl⟩
  · rename_i key hkey
    obtain ⟨htables, hpending, hset⟩ := @finish_writes env purged
      { store.toApi with
        tables := (store.tables.recordDns request.organizationId request.tunnelId rowId ensured).1
        pending := store.pending.erase id }
      request now ((store.tables.recordDns request.organizationId request.tunnelId rowId
        ensured).1.dnsRecords.get? key) store.keys keepsKeys_refl
    refine ⟨?_, ?_, hset⟩
    · rw [htables]
      exact hlawful
    · rw [htables, hpending]
      exact hawaited

theorem Served.keeps {api : Api} (h : Coherent env.toStoreEnv store)
    (hserved : Served env.toStoreEnv own purged store.toApi api) :
    Keeps env.toStoreEnv own purged store (store.cascade api) :=
  keeps_cascade h hserved.tables hserved.awaited hserved.keys

theorem Served.count {before after : Api} {count : ℕ}
    (h : Served env.toStoreEnv own purged before after) :
    Served env.toStoreEnv own purged before { after with arrived := count } :=
  ⟨h.tables, h.awaited, h.keys⟩

theorem keeps_postTunnel {header : String} (h : Coherent env.toStoreEnv store)
    (hnew : ∀ id request, store.pending.get? id = some request →
      request.tunnelId ≠ draws.tunnelId) :
    Keeps env.toStoreEnv principal.organizationId (some now) store
      (store.step env (.postTunnel now principal draws header body)) :=
  Served.keeps h (served_arrive h hnew).count

theorem keeps_ensured {id : ℕ} {ensured : Except JsError DnsInput} {request : Pending}
    (h : Coherent env.toStoreEnv store) (hrequest : store.pending.get? id = some request) :
    Keeps env.toStoreEnv request.organizationId purged store
      (store.step env (.ensured id now rowId ensured)) :=
  Served.keeps h (served_ensured h hrequest)

end

/-! ## The internal endpoints -/

theorem coherent_cluster {write : ClusterWrite} (h : Coherent env.toStoreEnv store)
    (hinspection : ∀ row, write.inspection = some row →
      ∀ tunnel, store.tables.tunnels.get? row.tunnelId = some tunnel →
        row.organizationId = tunnel.organizationId) :
    Coherent env.toStoreEnv (store.cluster write) := by
  have hagents : KeepsOwners store.tables.agents (store.cluster write).tables.agents :=
    keepsOwners_mapVals fun _ _ => rfl
  have htargets : ∀ {ref : TargetRecord → Option String},
      (∀ row health i, ref { row with healthStatus := health } = some i → ref row = some i) →
      Inherits ref store.tables.targets (store.cluster write).tables.targets := fun href =>
    inherits_mapVals (fun _ _ => rfl) fun _ row i => href row _ i
  constructor
  · constructor
    · constructor
      · exact h.tunnels.tunnelAgent.keeps hagents
      · exact h.tunnels.tunnelPolicy
      · exact h.tunnels.targetTunnel.inherits (htargets fun _ _ _ href => href)
      · exact (h.tunnels.targetAgent.inherits (htargets fun _ _ _ href => href)).keeps hagents
    · constructor
      · exact h.networks.peerNetwork
      · exact h.networks.peerAgent.keeps hagents
      · exact h.networks.hub.keeps hagents
  · constructor
    · intro name hname
      change (store.tables.agents.mapVals _).get? name = none
      rw [get?_mapVals, h.named.agents name hname]
      rfl
    · exact h.named.policies
  · exact h.records
  · unfold cluster
    split
    · exact h.inspected
    · rename_i row hrow
      split_ifs with hrefused
      · exact h.inspected
      · apply h.inspected.set
        rintro i ⟨⟩
        cases htunnel : store.tables.tunnels.get? row.tunnelId with
        | none => exact absurd (.inr (Option.isNone_iff_eq_none.2 htunnel)) hrefused
        | some tunnel => exact ⟨tunnel, rfl, (hinspection row hrow tunnel htunnel).symm⟩
  · exact h.awaited

/-! ## Runs -/

theorem tenant_of_keeps {op : Operation} (hfor : store.invokedFor op = some own)
    (hkeeps : Keeps env.toStoreEnv own op.purges store (store.step env op)) :
    WithinTenant env store op ∧ Coherent env.toStoreEnv (store.step env op) := by
  refine ⟨?_, hkeeps.1⟩
  intro other hother
  rw [hfor] at hother
  cases hother
  exact hkeeps.2

theorem tenant_step {op : Operation} (h : Coherent env.toStoreEnv store)
    (hop : Genuine env store op) :
    WithinTenant env store op ∧ Coherent env.toStoreEnv (store.step env op) := by
  cases op with
  | createApiToken organizationId id name tokenHash scopes =>
    exact tenant_of_keeps rfl (keeps_orSame h fun _ => keeps_createApiToken h)
  | revokeApiToken organizationId id =>
    exact tenant_of_keeps rfl (keeps_getD h fun _ => keeps_revokeApiToken h)
  | createProvisioningToken organizationId id name tokenHash expiresAt =>
    exact tenant_of_keeps rfl (keeps_orSame h fun _ => keeps_createProvisioningToken h)
  | registerAgent tokenHash id now payload =>
    cases htoken : store.usableToken tokenHash now with
    | none =>
      have hsame : store.step env (.registerAgent tokenHash id now payload) = store :=
        registerAgent_of_none htoken
      rw [hsame]
      refine ⟨?_, h⟩
      intro own hown
      have hnone : (store.usableToken tokenHash now).map (fun e => e.2.organizationId) =
        some own := hown
      rw [htoken] at hnone
      cases hnone
    | some e =>
      refine tenant_of_keeps ?_ (keeps_registerAgent h hop htoken rfl)
      change (store.usableToken tokenHash now).map (fun e => e.2.organizationId) = _
      rw [htoken]
      rfl
  | heartbeat organizationId agentId =>
    obtain ⟨agent, hagent, howner⟩ := hop
    exact tenant_of_keeps rfl (keeps_touchAgent h hagent howner)
  | revokeAgent organizationId id timestamp =>
    exact tenant_of_keeps rfl (keeps_getD h fun _ => keeps_revokeAgent h)
  | upsertIntegration organizationId id config secretCiphertext =>
    exact tenant_of_keeps rfl (keeps_orSame h fun _ => keeps_upsertIntegration h)
  | saveDnsRecord organizationId rowId input =>
    exact tenant_of_keeps rfl (keeps_orSame h fun _ => keeps_saveDnsRecord h)
  | deleteDnsRecord organizationId id =>
    exact tenant_of_keeps rfl (keeps_getD h fun _ => keeps_deleteDnsRecord h)
  | upsertCertificate organizationId id primaryName sans =>
    exact tenant_of_keeps rfl (keeps_orSame h fun _ => keeps_upsertCertificate h)
  | deleteInspection organizationId id =>
    exact tenant_of_keeps rfl (keeps_deleteInspection h)
  | purgeInspections organizationId olderThan =>
    exact tenant_of_keeps rfl (keeps_purgeInspections h)
  | createPrivateNetwork organizationId id input =>
    refine tenant_of_keeps rfl (keeps_orSame h ?_)
    intro next hnext
    obtain ⟨networks, hcreate, rfl⟩ := map_eq_ok.1 hnext
    exact keeps_networks h
      (NetworkTables.isolated_createPrivateNetwork h.networks h.named.agents hcreate)
  | deletePrivateNetwork organizationId id =>
    refine tenant_of_keeps rfl (keeps_getD h ?_)
    intro next hnext
    obtain ⟨networks, hdelete, rfl⟩ := Option.map_eq_some_iff.1 hnext
    exact keeps_networks h (NetworkTables.isolated_deletePrivateNetwork h.networks hdelete)
  | upsertNetworkPeer organizationId networkId id input =>
    refine tenant_of_keeps rfl (keeps_orSame h ?_)
    intro next hnext
    obtain ⟨networks, hupsert, rfl⟩ := map_eq_ok.1 hnext
    exact keeps_networks h (NetworkTables.isolated_upsertNetworkPeer h.networks hupsert)
  | createPolicy id organizationId name description document enabled =>
    obtain ⟨hid, hunused⟩ := hop
    exact tenant_of_keeps rfl (keeps_afterTunnels h fun _ =>
      lawful_createPolicy h.tunnels h.named hid hunused)
  | updatePolicy organizationId id changes =>
    exact tenant_of_keeps rfl (keeps_afterFound h fun _ => lawful_updatePolicy h.tunnels h.named)
  | deletePolicy organizationId id =>
    exact tenant_of_keeps rfl (keeps_afterFound h fun _ => lawful_deletePolicy h.tunnels h.named)
  | postTunnel now principal draws header body =>
    exact tenant_of_keeps rfl (keeps_postTunnel h hop)
  | ensured request now rowId result =>
    cases hrequest : store.pending.get? request with
    | none =>
      have hsame : store.toApi.ensured env request now rowId result = store.toApi := by
        unfold Api.ensured
        rw [hrequest]
      have hlawful := @DnsTables.Lawful.refl env.toDnsEnv _ "" h.tunnels h.named h.records
      refine ⟨?_, ?_⟩
      · intro own hown
        have hnone : (store.pending.get? request).map (fun waiting => waiting.organizationId) =
          some own := hown
        rw [hrequest] at hnone
        cases hnone
      · change Coherent _ (store.cascade (store.toApi.ensured env request now rowId result))
        rw [hsame]
        exact (@keeps_cascade env store "" none _ h hlawful h.awaited
          keepsKeys_refl).1
    | some waiting =>
      refine tenant_of_keeps ?_ (keeps_ensured h hrequest)
      change (store.pending.get? request).map (fun waiting => waiting.organizationId) = _
      rw [hrequest]
      rfl
  | updateTunnel organizationId id changes =>
    exact tenant_of_keeps rfl (keeps_afterFound h fun _ => lawful_updateTunnel h.tunnels h.named)
  | deleteTunnel organizationId id =>
    exact tenant_of_keeps rfl (keeps_getD h fun _ => keeps_deleteTunnel h)
  | createTunnelTarget organizationId tunnelId id input =>
    exact tenant_of_keeps rfl (keeps_afterTunnels h fun _ =>
      lawful_createTunnelTarget h.tunnels h.named)
  | updateTunnelTarget organizationId id changes =>
    exact tenant_of_keeps rfl (keeps_afterFound h fun _ =>
      lawful_updateTunnelTarget h.tunnels h.named)
  | deleteTunnelTarget organizationId id =>
    exact tenant_of_keeps rfl (keeps_afterFound h fun _ =>
      lawful_deleteTunnelTarget h.tunnels h.named)
  | cluster write =>
    refine ⟨?_, coherent_cluster h hop⟩
    intro own hown
    cases hown

theorem tenant_run {start : Store} (hstart : Unused start) {operations : List Operation}
    (hguard : Along (step env) (Genuine env) start operations) :
    Throughout (step env) Isolated start operations ∧
      Along (step env) (WithinTenant env) start operations := by
  have hcoherent : Coherent env.toStoreEnv start := hstart.coherent
  constructor
  · have hall := hguard.throughout (fun _ _ h hop => (tenant_step h hop).2) hcoherent
    exact hall.mono fun _ h => h.toIsolated
  · exact hguard.of_invariant (fun _ _ h hop => tenant_step h hop) hcoherent

/-- The store with a provisioning token of `o1`. -/
def bootstrapped : Store where
  tables := ⟨⟨.empty, .empty, .empty, .empty⟩, .empty, .empty⟩
  keys := .empty
  pending := .empty
  served := []
  arrived := 0
  apiTokens := .empty
  provisioningTokens := OrdMap.empty.set "v1" ⟨"v1", "o1", "hash", "Novo agente", 10, false⟩
  presence := .empty
  networks := .empty
  peers := .empty
  certificates := .empty
  inspections := .empty

def firstTunnel : List Operation :=
  [.registerAgent "hash" "a1" 1 (.obj [("name", .str "box"), ("platform", .str "linux"),
      ("architecture", .str "x64"), ("version", .str "1.0"), ("publicKey", .str "key")]),
    .createPolicy "p1" "o1" "closed" "" (.obj []) true,
    .postTunnel 2 (.api "o1") ⟨plainDraws, "abc"⟩ "k1"
      (.obj [("agentId", .str "a1"), ("targetPort", .num 3000), ("policyId", .str "p1")])]

def tenantEnv : IdempotencyEnv := ⟨.plain, fun _ => "digest"⟩

theorem genuine_firstTunnel : Along (step tenantEnv) (Genuine tenantEnv) bootstrapped firstTunnel := by
  refine ⟨?_, ⟨?_, ?_⟩, ?_, trivial⟩
  · change ¬ (_ ∨ _)
    decide
  · change ¬ (_ ∨ _)
    decide
  · intro key tunnel htunnel
    rw [get?_of_size_eq_zero (by decide +kernel) key] at htunnel
    cases htunnel
  · intro key request hrequest
    rw [get?_of_size_eq_zero (by decide +kernel) key] at hrequest
    cases hrequest

theorem tenant_run_firstTunnel :
    Unused bootstrapped ∧ Along (step tenantEnv) (Genuine tenantEnv) bootstrapped firstTunnel ∧
      Throughout (step tenantEnv) Isolated bootstrapped firstTunnel ∧
      Along (step tenantEnv) (WithinTenant tenantEnv) bootstrapped firstTunnel := by
  have hunused : Unused bootstrapped := ⟨rfl, rfl, rfl, rfl, rfl, rfl, rfl, rfl, rfl⟩
  exact ⟨hunused, genuine_firstTunnel, tenant_run hunused genuine_firstTunnel⟩

/-- The tunnel is there, with its policy. -/
example : ((run (step tenantEnv) bootstrapped firstTunnel).tables.tunnels.get? "t1").map
    (fun tunnel => (tunnel.agentId, tunnel.policyId)) = some ("a1", some "p1") := by
  decide +kernel

end Store

end Tunnara.Control
