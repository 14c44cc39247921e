/-
# Rows and references of one organization

For the operations on tunnels, targets, policies and networks: each leaves the
references of the rows within their organizations, and writes rows of the caller's
organization only. The uuids of agents and policies are neither empty nor the text of
the number zero, so an id that a check skips because it is falsy names no row.
-/

import Tunnara.Data.Ownership
import Tunnara.Control.Networks
import Tunnara.Control.DnsWrites

namespace Tunnara.Control

open OrdMap HasOwner

instance : HasOwner AgentRow String := ⟨fun row => row.organizationId⟩
instance : HasOwner TunnelRecord String := ⟨fun row => row.organizationId⟩
instance : HasOwner TargetRecord String := ⟨fun row => row.organizationId⟩
instance : HasOwner PolicyRow String := ⟨fun row => row.organizationId⟩
instance : HasOwner NetworkRow String := ⟨fun row => row.organizationId⟩
instance : HasOwner PeerRow String := ⟨fun row => row.organizationId⟩
instance : HasOwner IntegrationRow String := ⟨fun row => row.organizationId⟩
instance : HasOwner DnsRow String := ⟨fun row => row.organizationId⟩

namespace TunnelTables

/-- Tunnels and targets refer to rows of their own organization. -/
structure Isolated (tables : TunnelTables) : Prop where
  tunnelAgent : RefersWithin tables.tunnels (fun row => some row.agentId) tables.agents
  tunnelPolicy : RefersAtMost tables.tunnels (fun row => row.policyId) tables.policies
  targetTunnel : RefersWithin tables.targets (fun row => some row.tunnelId) tables.tunnels
  targetAgent : RefersWithin tables.targets (fun row => some row.agentId) tables.agents

def Falsy (env : StoreEnv) (name : String) : Prop := name = "" ∨ name = env.realText 0

/-- No agent and no policy has such an id. -/
structure Named (env : StoreEnv) (tables : TunnelTables) : Prop where
  agents : ∀ name, Falsy env name → tables.agents.get? name = none
  policies : ∀ name, Falsy env name → tables.policies.get? name = none

/-- Only rows of the organization differ. -/
structure Confined (own : String) (before after : TunnelTables) : Prop where
  agents : after.agents = before.agents
  tunnels : ChangesOwned own before.tunnels after.tunnels
  targets : ChangesOwned own before.targets after.targets
  policies : ChangesOwned own before.policies after.policies

/-- What an operation of the organization makes of the tables, besides creating and deleting
tunnels. -/
structure Lawful (env : StoreEnv) (own : String) (before after : TunnelTables) : Prop where
  isolated : Isolated after
  named : Named env after
  confined : Confined own before after
  kept : KeepsOwners before.tunnels after.tunnels
  inherited : Inherits (fun _ => (none : Option String)) before.tunnels after.tunnels

variable {env : StoreEnv} {tables next : TunnelTables} {organizationId id : String}

theorem Confined.refl (own : String) (tables : TunnelTables) : Confined own tables tables :=
  ⟨rfl, .refl _ _, .refl _ _, .refl _ _⟩

/-! ## Policies -/

theorem inherits_refl {κ ν ι ω : Type} [DecidableEq κ] [HasOwner ν ω] {ref : ν → Option ι}
    {m : OrdMap κ ν} : Inherits ref m m := fun _ row h => ⟨row, h, rfl, fun _ h => h⟩

section

variable (h : Isolated tables)
include h

section

variable (hnamed : Named env tables)
include hnamed

theorem Lawful.of_policies {policies : OrdMap String PolicyRow}
    (hrefers : RefersAtMost tables.tunnels (fun row => row.policyId) policies)
    (hnone : ∀ name, Falsy env name → policies.get? name = none)
    (hchanges : ChangesOwned organizationId tables.policies policies) :
    Lawful env organizationId tables { tables with policies := policies } where
  isolated := { h with tunnelPolicy := hrefers }
  named := { hnamed with policies := hnone }
  confined := { Confined.refl organizationId tables with policies := hchanges }
  kept := .refl _
  inherited := inherits_refl

theorem lawful_createPolicy {name description : String} {document : Json} {enabled : Bool}
    (hid : ¬ Falsy env id)
    (hunused : ∀ key tunnel, tables.tunnels.get? key = some tunnel → tunnel.policyId ≠ some id)
    (hcreate : tables.createPolicy id organizationId name description document enabled = .ok next) :
    Lawful env organizationId tables next := by
  obtain ⟨hnew, policy, howner, rfl⟩ := createPolicy_eq_ok hcreate
  apply Lawful.of_policies h hnamed (h.tunnelPolicy.set_named hunused)
  · intro other hother
    rw [get?_set_of_ne, hnamed.policies other hother]
    rintro rfl
    exact hid hother
  · exact .set_new hnew howner

theorem lawful_updatePolicy {changes : Database.PolicyChanges}
    (hupdate : tables.updatePolicy organizationId id changes = .ok (some next)) :
    Lawful env organizationId tables next := by
  obtain ⟨current, policy, hcurrent, hbefore, hafter, rfl⟩ := updatePolicy_eq_ok hupdate
  have hinherits : Inherits (fun _ => (none : Option String)) tables.policies
      (tables.policies.set id policy) :=
    inherits_set hcurrent (hafter.trans hbefore.symm) fun _ h => h
  apply Lawful.of_policies h hnamed (h.tunnelPolicy.named_inherits hinherits)
  · intro other hother
    rw [get?_set_of_ne, hnamed.policies other hother]
    rintro rfl
    rw [hnamed.policies other hother] at hcurrent
    cases hcurrent
  · exact .set_old hcurrent hbefore hafter

theorem lawful_deletePolicy (hdelete : tables.deletePolicy organizationId id = .ok (some next)) :
    Lawful env organizationId tables next := by
  obtain ⟨⟨policy, hpolicy, howner⟩, -, rfl⟩ := deletePolicy_eq_ok hdelete
  have hinherits : Inherits (fun _ => (none : Option String)) tables.policies
      (tables.policies.erase id) := inherits_filter _ _
  apply Lawful.of_policies h hnamed (h.tunnelPolicy.named_inherits hinherits)
  · intro other hother
    rw [get?_erase]
    split
    · rfl
    · exact hnamed.policies other hother
  · exact .erase hpolicy howner

end

end

/-! ## Targets -/

section

variable (h : Isolated tables)
include h

section

variable (hnamed : Named env tables)
include hnamed

theorem Lawful.of_targets {targets : OrdMap String TargetRecord}
    (htunnel : RefersWithin targets (fun row => some row.tunnelId) tables.tunnels)
    (hagent : RefersWithin targets (fun row => some row.agentId) tables.agents)
    (hchanges : ChangesOwned organizationId tables.targets targets) :
    Lawful env organizationId tables { tables with targets := targets } where
  isolated := { h with targetTunnel := htunnel, targetAgent := hagent }
  named := ⟨hnamed.agents, hnamed.policies⟩
  confined := { Confined.refl organizationId tables with targets := hchanges }
  kept := .refl _
  inherited := inherits_refl

theorem lawful_createTunnelTarget {tunnelId : String} {input : TargetInput}
    (hcreate : tables.createTunnelTarget organizationId tunnelId id input = .ok next) :
    Lawful env organizationId tables next := by
  obtain ⟨⟨tunnel, htunnel, htunnelOwner⟩, ⟨agent, hagent, hagentOwner⟩, hnew, target, howner, hof,
    hfor, -, -, rfl⟩ := createTunnelTarget_eq_ok hcreate
  apply Lawful.of_targets h hnamed
  · apply h.targetTunnel.set
    rintro i ⟨⟩
    rw [hof]
    exact ⟨tunnel, htunnel, htunnelOwner.trans howner.symm⟩
  · apply h.targetAgent.set
    rintro i ⟨⟩
    rw [hfor]
    exact ⟨agent, hagent, hagentOwner.trans howner.symm⟩
  · exact .set_new hnew howner

theorem lawful_updateTunnelTarget {changes : Json}
    (hupdate : tables.updateTunnelTarget env organizationId id changes = .ok (some next)) :
    Lawful env organizationId tables next := by
  obtain ⟨current, target, hcurrent, hbefore, hafter, hof, hagent, hthere, -, -, rfl⟩ :=
    updateTunnelTarget_eq_ok hupdate
  apply Lawful.of_targets h hnamed
  · apply h.targetTunnel.inherits
    apply inherits_set hcurrent (hafter.trans hbefore.symm)
    rintro i ⟨⟩
    rw [hof]
  · apply h.targetAgent.set
    rintro i ⟨⟩
    rcases hagent with ⟨agent, hget, howner⟩ | hsame | hfalsy
    · exact ⟨agent, hget, howner.trans hafter.symm⟩
    · obtain ⟨agent, hget, howner⟩ := h.targetAgent id current _ hcurrent rfl
      rw [hsame]
      exact ⟨agent, hget, howner.trans (hbefore.trans hafter.symm)⟩
    · rw [hnamed.agents _ hfalsy] at hthere
      cases hthere
  · exact .set_old hcurrent hbefore hafter

theorem lawful_deleteTunnelTarget
    (hdelete : tables.deleteTunnelTarget organizationId id = .ok (some next)) :
    Lawful env organizationId tables next := by
  obtain ⟨target, htarget, howner, -, rfl⟩ := deleteTunnelTarget_eq_ok hdelete
  apply Lawful.of_targets h hnamed
  · exact h.targetTunnel.inherits (inherits_filter _ _)
  · exact h.targetAgent.inherits (inherits_filter _ _)
  · exact .erase htarget howner

end

end

/-! ## Tunnels -/

theorem policy_of_checkPolicy {policyId : Json} {message code name : String}
    {stored : Option String} {policy : PolicyRow} (hnamed : Named env tables)
    (hcheck : tables.checkPolicy env organizationId policyId message code = .ok ())
    (hstored : textValue env policyId = .ok stored) (hname : stored = some name)
    (hpolicy : tables.policies.get? name = some policy) :
    policy.organizationId = organizationId := by
  by_cases hfalsy : Falsy env name
  · rw [hnamed.policies name hfalsy] at hpolicy
    cases hpolicy
  · have hzero : policyId ≠ .num 0 := by
      rintro rfl
      cases hstored
      cases hname
      exact hfalsy (.inr rfl)
    have hne : name ≠ "" := fun hempty => hfalsy (.inl hempty)
    obtain ⟨found, hfound, howner⟩ := policyRef_of_checkPolicy hcheck hstored hzero name hname hne
    rw [hpolicy] at hfound
    cases hfound
    exact howner

theorem lawful_updateTunnel {changes : Json} (h : Isolated tables) (hnamed : Named env tables)
    (hupdate : tables.updateTunnel env organizationId id changes = .ok (some next)) :
    Lawful env organizationId tables next := by
  obtain ⟨current, tunnel, hcurrent, hbefore, hafter, hagent, -, -, hpolicy, rfl⟩ :=
    updateTunnel_eq_ok hupdate
  have hsame : owner tunnel = owner current := hafter.trans hbefore.symm
  have hkept : KeepsOwners tables.tunnels (tables.tunnels.set id tunnel) :=
    keepsOwners_set_old hcurrent hsame
  constructor
  · constructor
    · apply h.tunnelAgent.inherits
      apply inherits_set hcurrent hsame
      rintro i ⟨⟩
      rw [hagent]
    · apply h.tunnelPolicy.set
      intro name policy hname hfound
      rcases hpolicy with hold | ⟨value, -, hstored, message, code, hcheck⟩
      · rw [hold] at hname
        rw [hsame]
        exact h.tunnelPolicy id current name policy hcurrent hname hfound
      · exact (policy_of_checkPolicy hnamed hcheck hstored hname hfound).trans hafter.symm
    · exact h.targetTunnel.keeps hkept
    · exact h.targetAgent
  · exact ⟨hnamed.agents, hnamed.policies⟩
  · refine { Confined.refl organizationId tables with tunnels := ?_ }
    exact .set_old hcurrent hbefore hafter
  · exact hkept
  · exact inherits_set hcurrent hsame fun _ h => h

theorem isolated_eraseTunnel {tunnel : TunnelRecord} (h : Isolated tables)
    (htunnel : tables.tunnels.get? id = some tunnel)
    (howner : tunnel.organizationId = organizationId) :
    Isolated (tables.eraseTunnel id) ∧ Confined organizationId tables (tables.eraseTunnel id) := by
  constructor
  · constructor
    · exact h.tunnelAgent.inherits (inherits_filter _ _)
    · exact h.tunnelPolicy.inherits (inherits_filter _ _)
    · apply (h.targetTunnel.inherits (inherits_filter _ _)).erase_named
      intro key target htarget hof
      rw [get?_filter] at htarget
      obtain ⟨-, hkeep⟩ := Option.filter_eq_some_iff.1 htarget
      exact of_decide_eq_true hkeep (Option.some.inj hof)
    · exact h.targetAgent.inherits (inherits_filter _ _)
  · refine { Confined.refl organizationId tables with tunnels := .erase htunnel howner, targets := ?_ }
    apply ChangesOwned.filter
    intro key target htarget hdrop
    have hof : target.tunnelId = id := by simpa using hdrop
    obtain ⟨found, hfound, hsame⟩ := h.targetTunnel key target _ htarget rfl
    rw [hof, htunnel] at hfound
    cases hfound
    exact hsame.symm.trans howner

theorem isolated_createTunnel {draws : Draws} {input : TunnelInput} (h : Isolated tables)
    (hnamed : Named env tables)
    (hcreate : tables.createTunnel env organizationId draws input = .ok next) :
    Isolated next ∧ Confined organizationId tables next := by
  obtain ⟨⟨agent, hagent, hagentOwner⟩, ⟨message, code, hcheck⟩, inserted, hinsert, hadded⟩ :=
    createTunnel_eq_ok hcreate
  obtain ⟨hnew, tunnel, howner, hfor, -, hstored, -, -, -, rfl⟩ := insertTunnel_eq_ok hinsert
  obtain ⟨hagents, htunnels, hpolicies, hkept, hfound, -⟩ := hadded
  have hkeeps : KeepsOwners tables.tunnels (tables.tunnels.set draws.tunnelId tunnel) :=
    keepsOwners_set_new hnew
  constructor
  · constructor
    · rw [htunnels, hagents]
      apply h.tunnelAgent.set
      rintro i ⟨⟩
      rw [hfor]
      exact ⟨agent, hagent, hagentOwner.trans howner.symm⟩
    · rw [htunnels, hpolicies]
      apply h.tunnelPolicy.set
      intro name policy hname hpolicy
      exact (policy_of_checkPolicy hnamed hcheck hstored hname hpolicy).trans howner.symm
    · rw [htunnels]
      intro key target i htarget hof
      cases hof
      rcases hfound key target htarget with hold | hmade
      · exact h.targetTunnel.keeps hkeeps key target _ hold rfl
      · rw [hmade.tunnel]
        exact ⟨tunnel, get?_set_self _ _ _, howner.trans hmade.owner.symm⟩
    · rw [hagents]
      intro key target i htarget hof
      cases hof
      rcases hfound key target htarget with hold | hmade
      · exact h.targetAgent key target _ hold rfl
      · obtain ⟨found, hget, hsame⟩ := hmade.agent
        exact ⟨found, hget, hsame.trans hmade.owner.symm⟩
  · constructor
    · exact hagents
    · rw [htunnels]
      exact .set_new hnew howner
    · apply ChangesOwned.of_added hkept
      intro key target htarget
      rcases hfound key target htarget with hold | hmade
      · exact .inl hold
      · exact .inr hmade.owner
    · rw [hpolicies]
      exact .refl _ _

end TunnelTables

/-! ## Networks -/

namespace NetworkTables

/-- Peers and hubs refer to rows of their own organization. -/
structure Isolated (tables : NetworkTables) : Prop where
  peerNetwork : RefersWithin tables.peers (fun row => some row.networkId) tables.networks
  peerAgent : RefersWithin tables.peers (fun row => some row.agentId) tables.agents
  hub : RefersWithin tables.networks (fun row => row.hubAgentId) tables.agents

/-- Only networks and peers of the organization differ. -/
structure Confined (own : String) (before after : NetworkTables) : Prop where
  agents : after.agents = before.agents
  networks : ChangesOwned own before.networks after.networks
  peers : ChangesOwned own before.peers after.peers

variable {env : StoreEnv} {tables next : NetworkTables} {organizationId id : String}

theorem isolated_createPrivateNetwork {input : NetworkInput} (h : Isolated tables)
    (hnamed : ∀ name, TunnelTables.Falsy env name → tables.agents.get? name = none)
    (hcreate : tables.createPrivateNetwork env organizationId id input = .ok next) :
    Isolated next ∧ Confined organizationId tables next := by
  obtain ⟨hnew, network, howner, hhub, rfl⟩ := createPrivateNetwork_eq_ok hcreate
  constructor
  · refine { h with
      peerNetwork := h.peerNetwork.keeps (keepsOwners_set_new hnew)
      hub := h.hub.set ?_ }
    · intro hub hsome
      obtain ⟨hthere, ⟨agent, hagent, hagentOwner⟩ | hfalsy⟩ := hhub hub hsome
      · exact ⟨agent, hagent, hagentOwner.trans howner.symm⟩
      · rw [hnamed hub hfalsy] at hthere
        cases hthere
  · exact ⟨rfl, .set_new hnew howner, .refl _ _⟩

theorem isolated_deletePrivateNetwork (h : Isolated tables)
    (hdelete : tables.deletePrivateNetwork organizationId id = some next) :
    Isolated next ∧ Confined organizationId tables next := by
  obtain ⟨⟨network, hnetwork, howner⟩, rfl⟩ := deletePrivateNetwork_eq_some hdelete
  constructor
  · constructor
    · apply (h.peerNetwork.inherits (inherits_filter _ _)).erase_named
      intro key peer hpeer hof
      rw [get?_filter] at hpeer
      obtain ⟨-, hkeep⟩ := Option.filter_eq_some_iff.1 hpeer
      exact of_decide_eq_true hkeep (Option.some.inj hof)
    · exact h.peerAgent.inherits (inherits_filter _ _)
    · exact h.hub.inherits (inherits_filter _ _)
  · refine ⟨rfl, .erase hnetwork howner, ?_⟩
    apply ChangesOwned.filter
    intro key peer hpeer hdrop
    have hof : peer.networkId = id := by simpa using hdrop
    obtain ⟨found, hfound, hsame⟩ := h.peerNetwork key peer _ hpeer rfl
    rw [hof, hnetwork] at hfound
    cases hfound
    exact hsame.symm.trans howner

theorem isolated_upsertNetworkPeer {networkId : String} {input : PeerInput} (h : Isolated tables)
    (hupsert : tables.upsertNetworkPeer env organizationId networkId id input = .ok next) :
    Isolated next ∧ Confined organizationId tables next := by
  obtain ⟨⟨network, hnetwork, hnetworkOwner⟩, ⟨agent, hagent, hagentOwner⟩, key, peer, hof, hfor,
    hplace, rfl⟩ := upsertNetworkPeer_eq_ok hupsert
  have hpeer : peer.organizationId = organizationId ∧
      ChangesOwned organizationId tables.peers (tables.peers.set key peer) := by
    rcases hplace with ⟨hnew, howner⟩ | ⟨existing, hexisting, hsameNetwork, howner⟩
    · exact ⟨howner, .set_new hnew howner⟩
    · obtain ⟨found, hfound, hsame⟩ := h.peerNetwork key existing _ hexisting rfl
      rw [hsameNetwork, hnetwork] at hfound
      cases hfound
      have hmine : existing.organizationId = organizationId := hsame.symm.trans hnetworkOwner
      exact ⟨howner.trans hmine, .set_old hexisting hmine (howner.trans hmine)⟩
  obtain ⟨howner, hchanges⟩ := hpeer
  constructor
  · refine { h with peerNetwork := h.peerNetwork.set ?_, peerAgent := h.peerAgent.set ?_ }
    · rintro i ⟨⟩
      rw [hof]
      exact ⟨network, hnetwork, hnetworkOwner.trans howner.symm⟩
    · rintro i ⟨⟩
      rw [hfor]
      exact ⟨agent, hagent, hagentOwner.trans howner.symm⟩
  · exact ⟨rfl, .refl _ _, hchanges⟩

end NetworkTables

/-! ## Tunnels with managed DNS -/

namespace DnsTables

open TunnelTables

/-- What an operation of the organization makes of the tables. -/
structure Lawful (env : StoreEnv) (own : String) (before after : DnsTables) : Prop where
  isolated : after.toTunnelTables.Isolated
  named : Named env after.toTunnelTables
  confined : Confined own before.toTunnelTables after.toTunnelTables
  same : SameOwners before.tunnels after.tunnels
  integrations : after.integrations = before.integrations
  tunnel : RefersWithin after.dnsRecords (fun row => row.tunnelId) after.tunnels
  records : ChangesOwned own before.dnsRecords after.dnsRecords

variable {env : DnsEnv} {tables next : DnsTables} {organizationId id : String}

theorem Lawful.refl {own : String} (h : tables.toTunnelTables.Isolated)
    (hnamed : Named env.toStoreEnv tables.toTunnelTables)
    (hrecords : RefersWithin tables.dnsRecords (fun row => row.tunnelId) tables.tunnels) :
    Lawful env.toStoreEnv own tables tables :=
  ⟨h, hnamed, Confined.refl _ _, (KeepsOwners.refl _).same, rfl, hrecords, .refl _ _⟩

theorem lawful_of_tunnels {own : String} {tunnels : TunnelTables}
    (hrecords : RefersWithin tables.dnsRecords (fun row => row.tunnelId) tables.tunnels)
    (h : TunnelTables.Lawful env.toStoreEnv own tables.toTunnelTables tunnels) :
    Lawful env.toStoreEnv own tables { tables with toTunnelTables := tunnels } where
  isolated := h.isolated
  named := h.named
  confined := h.confined
  same := h.kept.same
  integrations := rfl
  tunnel := hrecords.keeps h.kept
  records := .refl _ _

theorem lawful_deleteTunnel {agentId : Option String} (h : tables.toTunnelTables.Isolated)
    (hnamed : Named env.toStoreEnv tables.toTunnelTables)
    (hrecords : RefersWithin tables.dnsRecords (fun row => row.tunnelId) tables.tunnels)
    (hdelete : tables.deleteTunnel organizationId id agentId = some next) :
    Lawful env.toStoreEnv organizationId tables next ∧
      Inherits (fun _ => (none : Option String)) tables.tunnels next.tunnels := by
  obtain ⟨⟨tunnel, htunnel, howner⟩, rfl⟩ := deleteTunnel_eq_some hdelete
  obtain ⟨hisolated, hconfined⟩ := isolated_eraseTunnel h htunnel howner
  have hgone : Inherits (fun _ => (none : Option String)) tables.tunnels
      (tables.toTunnelTables.eraseTunnel id).tunnels := inherits_filter _ _
  have hforget : ∀ row : DnsRow,
      owner (if row.tunnelId = some id then { row with tunnelId := none } else row) =
        owner row := by
    intro row
    split
    · rfl
    · rfl
  refine ⟨⟨hisolated, ⟨hnamed.agents, hnamed.policies⟩, hconfined, hgone.same, rfl, ?_, ?_⟩, hgone⟩
  · apply RefersWithin.erase_named
    · apply hrecords.inherits
      apply inherits_mapVals fun _ => hforget
      intro key row name hname
      split at hname
      · cases hname
      · exact hname
    · intro key row hrow hname
      rw [get?_mapVals] at hrow
      obtain ⟨old, -, rfl⟩ := Option.map_eq_some_iff.1 hrow
      split at hname
      · cases hname
      · rename_i hne
        exact hne hname
  · apply ChangesOwned.mapVals fun _ => hforget
    intro key row hrow hchanged
    split at hchanged
    · rename_i hname
      obtain ⟨found, hfound, hsame⟩ := hrecords key row id hrow hname
      rw [htunnel] at hfound
      cases hfound
      exact hsame.symm.trans howner
    · exact absurd rfl hchanged

theorem lawful_saveDnsRecord {tunnelId : Option String} {key : String} {input : DnsInput}
    (h : tables.toTunnelTables.Isolated) (hnamed : Named env.toStoreEnv tables.toTunnelTables)
    (hrecords : RefersWithin tables.dnsRecords (fun row => row.tunnelId) tables.tunnels)
    (htunnel : ∀ name, tunnelId = some name → ∃ tunnel, tables.tunnels.get? name = some tunnel ∧
      tunnel.organizationId = organizationId)
    (hsave : tables.saveDnsRecord organizationId tunnelId id input = .ok (key, next)) :
    Lawful env.toStoreEnv organizationId tables next := by
  obtain ⟨hplace, row, howner, hof, -, -, -, rfl⟩ := saveDnsRecord_eq_ok hsave
  refine ⟨h, hnamed, Confined.refl _ _, (KeepsOwners.refl _).same, rfl, ?_, ?_⟩
  · apply hrecords.set
    intro name hname
    rw [hof] at hname
    obtain ⟨tunnel, hget, hmine⟩ := htunnel name hname
    exact ⟨tunnel, hget, hmine.trans howner.symm⟩
  · rcases hplace with ⟨rfl, hnew⟩ | ⟨-, found, hfound, hmine⟩
    · exact .set_new hnew howner
    · exact .set_old hfound hmine howner

theorem tunnel_of_saveDnsRecord {tunnelId : String} {input : DnsInput}
    {saved : String × DnsTables}
    (h : tables.saveDnsRecord organizationId (some tunnelId) id input = .ok saved) :
    (tables.tunnels.get? tunnelId).isSome := by
  unfold saveDnsRecord at h
  by_cases hforeign : (tables.integrations.get? input.integrationId).isNone ∨
      (some tunnelId).any fun name => (tables.tunnels.get? name).isNone
  · rw [if_pos hforeign] at h
    cases h
  · rw [Option.isSome_iff_ne_none]
    intro hnone
    apply hforeign
    simp [hnone]

theorem lawful_setTunnelDnsRecord {saved : DnsTables} {tunnelId key : String}
    (h : Lawful env.toStoreEnv organizationId tables saved) (hsame : saved.tunnels = tables.tunnels)
    (hmine : ∀ tunnel, tables.tunnels.get? tunnelId = some tunnel →
      tunnel.organizationId = organizationId) :
    Lawful env.toStoreEnv organizationId tables (saved.setTunnelDnsRecord tunnelId key) ∧
      Inherits (fun _ => (none : Option String)) tables.tunnels
        (saved.setTunnelDnsRecord tunnelId key).tunnels := by
  have hkept : KeepsOwners saved.tunnels (saved.setTunnelDnsRecord tunnelId key).tunnels :=
    keepsOwners_update fun _ => rfl
  have hinherits : ∀ {ref : TunnelRecord → Option String},
      (∀ row i, ref { row with dnsRecordId := some key } = some i → ref row = some i) →
      Inherits ref saved.tunnels (saved.setTunnelDnsRecord tunnelId key).tunnels := fun href =>
    inherits_update (fun _ => rfl) href
  constructor
  · constructor
    · constructor
      · exact h.isolated.tunnelAgent.inherits (hinherits fun _ _ href => href)
      · exact h.isolated.tunnelPolicy.inherits (hinherits fun _ _ href => href)
      · exact h.isolated.targetTunnel.keeps hkept
      · exact h.isolated.targetAgent
    · exact ⟨h.named.agents, h.named.policies⟩
    · refine { h.confined with tunnels := h.confined.tunnels.trans ?_ }
      apply ChangesOwned.update
      · exact fun _ => rfl
      · intro row hrow
        rw [hsame] at hrow
        exact hmine row hrow
    · rw [← hsame]
      exact hkept.same
    · exact h.integrations
    · exact h.tunnel.keeps hkept
    · exact h.records
  · rw [← hsame]
    exact hinherits fun _ _ href => href

theorem lawful_recordDns {tunnelId rowId : String} {ensured : Except JsError DnsInput}
    (h : tables.toTunnelTables.Isolated) (hnamed : Named env.toStoreEnv tables.toTunnelTables)
    (hrecords : RefersWithin tables.dnsRecords (fun row => row.tunnelId) tables.tunnels)
    (hmine : ∀ tunnel, tables.tunnels.get? tunnelId = some tunnel →
      tunnel.organizationId = organizationId) :
    Lawful env.toStoreEnv organizationId tables
        (tables.recordDns organizationId tunnelId rowId ensured).1 ∧
      Inherits (fun _ => (none : Option String)) tables.tunnels
        (tables.recordDns organizationId tunnelId rowId ensured).1.tunnels := by
  rcases recordDns_cases with
    ⟨error, hrecorded⟩ | ⟨key, input, row, hsave, hrecorded⟩
  · rw [hrecorded]
    cases hdelete : tables.deleteTunnel organizationId tunnelId none with
    | none => exact ⟨.refl h hnamed hrecords, inherits_refl⟩
    | some next => exact lawful_deleteTunnel h hnamed hrecords hdelete
  · rw [hrecorded]
    refine lawful_setTunnelDnsRecord (lawful_saveDnsRecord h hnamed hrecords ?_ hsave) rfl hmine
    rintro name ⟨⟩
    obtain ⟨tunnel, hget⟩ := Option.isSome_iff_exists.1 (tunnel_of_saveDnsRecord hsave)
    exact ⟨tunnel, hget, hmine tunnel hget⟩

theorem lawful_postTunnel {principal : Principal} {draws : TunnelDraws} {body : Json}
    (h : tables.toTunnelTables.Isolated) (hnamed : Named env.toStoreEnv tables.toTunnelTables)
    (hrecords : RefersWithin tables.dnsRecords (fun row => row.tunnelId) tables.tunnels)
    (hpost : tables.postTunnel env principal draws body = .ok next) :
    Lawful env.toStoreEnv principal.organizationId tables next ∧
      ∃ tunnel, tunnel.organizationId = principal.organizationId ∧
        next.tunnels = tables.tunnels.set draws.tunnelId tunnel := by
  obtain ⟨created, hcreated, rfl⟩ := map_eq_ok.1 hpost
  obtain ⟨-, -, -, -, hnew, tunnel, howner, -, -, -, hset, hagents, hpolicies⟩ :=
    postTunnel_eq_ok hcreated
  obtain ⟨input, -, hcreate⟩ := bind_eq_ok.1 hcreated
  obtain ⟨hisolated, hconfined⟩ := isolated_createTunnel h hnamed hcreate
  have hkept : KeepsOwners tables.tunnels created.tunnels := by
    rw [hset]
    exact keepsOwners_set_new hnew
  refine ⟨⟨hisolated, ⟨?_, ?_⟩, hconfined, hkept.same, rfl, hrecords.keeps hkept, .refl _ _⟩,
    tunnel, howner, hset⟩
  · rw [hagents]
    exact hnamed.agents
  · rw [hpolicies]
    exact hnamed.policies

end DnsTables

end Tunnara.Control
