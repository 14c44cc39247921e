/-
# What the tunnel operations write

One lemma for each operation of `TunnelTables`: what it had found when it succeeds,
and the tables it leaves. Every property of the store is proved from these.
-/

import Tunnara.Control.Tunnels

namespace Tunnara.Control.TunnelTables

open OrdMap

variable {env : StoreEnv} {tables next : TunnelTables} {organizationId id tunnelId : String}

/-- A non-empty policy id names a policy of the organization. -/
def PolicyRef (tables : TunnelTables) (organizationId : String) (policyId : Option String) : Prop :=
  ∀ name, policyId = some name → name ≠ "" →
    ∃ policy, tables.policies.get? name = some policy ∧ policy.organizationId = organizationId

def AgentRef (tables : TunnelTables) (organizationId agentId : String) : Prop :=
  ∃ agent, tables.agents.get? agentId = some agent ∧ agent.organizationId = organizationId

theorem agentRef_of_isSome {agentId : String}
    (h : ¬ (tables.agentOf organizationId agentId).isNone) :
    tables.AgentRef organizationId agentId := by
  cases hagent : tables.agentOf organizationId agentId with
  | none =>
    rw [hagent] at h
    exact absurd rfl h
  | some agent =>
    obtain ⟨hget, howner⟩ := Option.filter_eq_some_iff.1 hagent
    exact ⟨agent, hget, of_decide_eq_true howner⟩

theorem tunnelOf_eq_some {tunnel : TunnelRecord}
    (h : tables.tunnelOf organizationId id = some tunnel) :
    tables.tunnels.get? id = some tunnel ∧ tunnel.organizationId = organizationId := by
  obtain ⟨hget, howner⟩ := Option.filter_eq_some_iff.1 h
  exact ⟨hget, of_decide_eq_true howner⟩

theorem getTunnelTarget_eq_some {target : TargetRecord}
    (h : tables.getTunnelTarget organizationId id = some target) :
    tables.targets.get? id = some target ∧ target.organizationId = organizationId := by
  obtain ⟨hget, howner⟩ := Option.filter_eq_some_iff.1 h
  exact ⟨hget, of_decide_eq_true howner⟩

theorem getPolicy_eq_some {policy : PolicyRow}
    (h : tables.policyTables.getPolicy organizationId id = some policy) :
    tables.policies.get? id = some policy ∧ policy.organizationId = organizationId := by
  obtain ⟨hget, howner⟩ := Option.filter_eq_some_iff.1 h
  exact ⟨hget, of_decide_eq_true howner⟩

theorem createPolicy_eq_ok {name description : String} {document : Json} {enabled : Bool}
    (h : tables.createPolicy id organizationId name description document enabled = .ok next) :
    tables.policies.get? id = none ∧ ∃ policy, policy.organizationId = organizationId ∧
      next = { tables with policies := tables.policies.set id policy } := by
  unfold createPolicy at h
  split_ifs at h with hused
  obtain ⟨db, hdb, rfl⟩ := map_eq_ok.1 h
  unfold Database.createPolicy at hdb
  split_ifs at hdb
  cases hdb
  exact ⟨Option.not_isSome_iff_eq_none.1 hused, _, rfl, rfl⟩

theorem updatePolicy_eq_ok {changes : Database.PolicyChanges}
    (h : tables.updatePolicy organizationId id changes = .ok (some next)) :
    ∃ current policy, tables.policies.get? id = some current ∧
      current.organizationId = organizationId ∧ policy.organizationId = organizationId ∧
      next = { tables with policies := tables.policies.set id policy } := by
  obtain ⟨found, hfound, h⟩ := map_eq_ok.1 h
  unfold Database.updatePolicy at hfound
  split at hfound
  · cases hfound
    cases h
  · rename_i current hcurrent
    obtain ⟨hget, howner⟩ := getPolicy_eq_some hcurrent
    dsimp only at hfound
    split_ifs at hfound
    cases hfound
    cases h
    refine ⟨current, ?policy, hget, howner, ?owner, ?next⟩
    case next => exact rfl
    case owner => exact howner

theorem deletePolicy_eq_ok (h : tables.deletePolicy organizationId id = .ok (some next)) :
    (∃ policy, tables.policies.get? id = some policy ∧ policy.organizationId = organizationId) ∧
      (∀ key tunnel, tables.tunnels.get? key = some tunnel →
        tunnel.organizationId = organizationId → tunnel.policyId ≠ some id) ∧
      next = { tables with policies := tables.policies.erase id } := by
  obtain ⟨found, hfound, h⟩ := map_eq_ok.1 h
  unfold Database.deletePolicy at hfound
  split_ifs at hfound with hused
  split at hfound
  · cases hfound
    cases h
  · rename_i policy hpolicy
    cases hfound
    cases h
    refine ⟨⟨policy, getPolicy_eq_some hpolicy⟩, ?_, rfl⟩
    intro key tunnel htunnel howner hname
    apply hused
    rw [List.any_eq_true]
    refine ⟨(key, tunnel.toTunnelRow), ?_, by simp [howner, hname]⟩
    have hview : tables.policyTables.tunnels.get? key = some tunnel.toTunnelRow := by
      show (tables.tunnels.mapVals _).get? key = _
      rw [get?_mapVals, htunnel]
      rfl
    exact get?_eq_some_iff.1 hview

theorem policyRef_of_checkPolicy {policyId : Json} {message code : String}
    {stored : Option String}
    (hcheck : tables.checkPolicy env organizationId policyId message code = .ok ())
    (hstored : textValue env policyId = .ok stored) (hzero : policyId ≠ .num 0) :
    tables.PolicyRef organizationId stored := by
  intro name hname hne
  subst hname
  unfold checkPolicy at hcheck
  split_ifs at hcheck with htruthy
  · obtain ⟨found, hfound, hcheck⟩ := bind_eq_ok.1 hcheck
    unfold getPolicy at hfound
    rw [hstored] at hfound
    cases hfound
    dsimp only at hcheck
    cases hpolicy : tables.policyTables.getPolicy organizationId name with
    | none =>
      rw [Option.bind_some, hpolicy] at hcheck
      cases hcheck
    | some policy => exact ⟨policy, getPolicy_eq_some hpolicy⟩
  · cases policyId with
    | str text =>
      cases hstored
      simp [Json.truthy, hne] at htruthy
    | num q =>
      have hq : q = 0 := by simpa [Json.truthy] using htruthy
      exact absurd (by rw [hq]) hzero
    | null | bool b | arr items | obj fields => cases hstored

theorem exists_other_of_length {α : Type} {items : List α} {item : α} (hnodup : items.Nodup)
    (hlength : 1 < items.length) : ∃ other ∈ items, other ≠ item := by
  by_contra hnone
  push Not at hnone
  have hall : ∀ other ∈ items, other = item := hnone
  rw [List.eq_replicate_iff.2 ⟨rfl, hall⟩, List.nodup_replicate] at hnodup
  omega

theorem storeNumber_value {column : String} {n : JsNumber} {stored : StoredNumber}
    (h : storeNumber column n = .ok stored) : stored.value = n := by
  unfold storeNumber at h
  split_ifs at h
  cases h
  rfl

theorem createTunnelTarget_eq_ok {input : TargetInput}
    (h : tables.createTunnelTarget organizationId tunnelId id input = .ok next) :
    (∃ tunnel, tables.tunnels.get? tunnelId = some tunnel ∧
        tunnel.organizationId = organizationId) ∧
      tables.AgentRef organizationId input.agentId ∧ tables.targets.get? id = none ∧
      ∃ target : TargetRecord, target.organizationId = organizationId ∧
        target.tunnelId = tunnelId ∧ target.agentId = input.agentId ∧
        target.targetHost = input.targetHost ∧ target.targetPort.value = input.targetPort ∧
        next = { tables with targets := tables.targets.set id target } := by
  unfold createTunnelTarget at h
  by_cases hmissing : (tables.tunnelOf organizationId tunnelId).isNone ∨
      (tables.agentOf organizationId input.agentId).isNone
  · rw [if_pos hmissing] at h
    cases h
  rw [if_neg hmissing] at h
  have hrefs := not_or.1 hmissing
  obtain ⟨targetPort, hport, h⟩ := bind_eq_ok.1 h
  obtain ⟨weight, -, h⟩ := bind_eq_ok.1 h
  obtain ⟨priority, -, h⟩ := bind_eq_ok.1 h
  split_ifs at h with hused
  cases h
  refine ⟨?_, agentRef_of_isSome hrefs.2, Option.not_isSome_iff_eq_none.1 hused, _, rfl, rfl, rfl,
    rfl, storeNumber_value hport, rfl⟩
  cases htunnel : tables.tunnelOf organizationId tunnelId with
  | none =>
    rw [htunnel] at hrefs
    exact absurd rfl hrefs.1
  | some tunnel => exact ⟨tunnel, tunnelOf_eq_some htunnel⟩

variable {current : String} {v : Option Json} {input : TunnelInput}

theorem changedText_eq_ok {column text : String} (h : changedText env column v current = .ok text) :
    textValue env (nullish v (.str current)) = .ok (some text) := by
  obtain ⟨value, hvalue, h⟩ := bind_eq_ok.1 h
  cases value with
  | none => cases h
  | some stored =>
    cases h
    exact hvalue

theorem textValue_nullish {text : String}
    (h : textValue env (nullish v (.str current)) = .ok (some text)) :
    text = current ∨ ∃ value, v = some value ∧ textValue env value = .ok (some text) := by
  cases v with
  | none =>
    cases h
    exact .inl rfl
  | some value =>
    cases value with
    | null =>
      cases h
      exact .inl rfl
    | _ => exact .inr ⟨_, rfl, h⟩

theorem changedNumber_eq_ok {current n : JsNumber} (h : changedNumber env v current = .ok n) :
    n = current ∨ ∃ value, v = some value ∧ value ≠ .null ∧ value.toNumber env.host = .ok n := by
  cases v with
  | none =>
    cases h
    exact .inl rfl
  | some value =>
    cases value with
    | null =>
      cases h
      exact .inl rfl
    | _ => exact .inr ⟨_, rfl, nofun, h⟩

theorem agentRef_of_checkTargetAgent {agentId : Option Json} {stored : String}
    (hcheck : tables.checkTargetAgent env organizationId agentId = .ok ())
    (hstored : changedText env "tunnel_targets.agent_id" agentId current = .ok stored) :
    tables.AgentRef organizationId stored ∨ stored = current ∨ stored = "" ∨
      stored = env.realText 0 := by
  have htext := changedText_eq_ok hstored
  unfold checkTargetAgent at hcheck
  split_ifs at hcheck with htruthy
  · left
    cases agentId with
    | none => cases htruthy
    | some v =>
      obtain ⟨text, hvalue, hcheck⟩ := bind_eq_ok.1 hcheck
      have hsame : nullish (some v) (.str current) = v := by
        cases v with
        | null => cases htruthy
        | _ => rfl
      rw [hsame] at htext
      rw [Option.getD_some, htext] at hvalue
      cases hvalue
      apply agentRef_of_isSome
      intro hnone
      rw [Option.isNone_iff_eq_none] at hnone
      rw [Option.bind_some, hnone] at hcheck
      cases hcheck
  · right
    cases agentId with
    | none =>
      cases htext
      exact .inl rfl
    | some v =>
      cases v with
      | null =>
        cases htext
        exact .inl rfl
      | str text =>
        cases htext
        have hempty : stored = "" := by simpa [truthy, Json.truthy] using htruthy
        exact .inr (.inl hempty)
      | num q =>
        cases htext
        have hq : q = 0 := by simpa [truthy, Json.truthy] using htruthy
        exact .inr (.inr (by rw [hq]))
      | bool b | arr items | obj fields => cases htext

theorem updateTunnelTarget_eq_ok {changes : Json}
    (h : tables.updateTunnelTarget env organizationId id changes = .ok (some next)) :
    ∃ current target : TargetRecord, tables.targets.get? id = some current ∧
      current.organizationId = organizationId ∧ target.organizationId = organizationId ∧
      target.tunnelId = current.tunnelId ∧
      (tables.AgentRef organizationId target.agentId ∨ target.agentId = current.agentId ∨
        target.agentId = "" ∨ target.agentId = env.realText 0) ∧
      (tables.agents.get? target.agentId).isSome ∧
      textValue env (nullish (changes.get? "targetHost") (.str current.targetHost)) =
        .ok (some target.targetHost) ∧
      changedNumber env (changes.get? "targetPort") current.targetPort.value =
        .ok target.targetPort.value ∧
      next = { tables with targets := tables.targets.set id target } := by
  unfold updateTunnelTarget at h
  split at h
  · cases h
  · rename_i current hcurrent
    obtain ⟨hget, howner⟩ := getTunnelTarget_eq_some hcurrent
    obtain ⟨agentId, hagentId, h⟩ := bind_eq_ok.1 h
    obtain ⟨_, hcheck, h⟩ := bind_eq_ok.1 h
    obtain ⟨port, hport, h⟩ := bind_eq_ok.1 h
    obtain ⟨weight, -, h⟩ := bind_eq_ok.1 h
    obtain ⟨priority, -, h⟩ := bind_eq_ok.1 h
    obtain ⟨storedAgent, hagent, h⟩ := bind_eq_ok.1 h
    obtain ⟨name, -, h⟩ := bind_eq_ok.1 h
    obtain ⟨host, hhost, h⟩ := bind_eq_ok.1 h
    obtain ⟨storedPort, hstoredPort, h⟩ := bind_eq_ok.1 h
    obtain ⟨storedWeight, -, h⟩ := bind_eq_ok.1 h
    obtain ⟨storedPriority, -, h⟩ := bind_eq_ok.1 h
    split_ifs at h with hforeign
    cases h
    refine ⟨current, ?target, hget, howner, ?owner, ?tunnel, ?agent, ?foreign, ?host, ?port, ?next⟩
    case next => exact rfl
    case owner => exact howner
    case tunnel => exact rfl
    case agent => exact agentRef_of_checkTargetAgent hcheck hagent
    case foreign =>
      rw [Option.isNone_iff_eq_none] at hforeign
      exact Option.isSome_iff_ne_none.2 hforeign
    case host => exact changedText_eq_ok hhost
    case port => rw [hport, storeNumber_value hstoredPort]

theorem deleteTunnelTarget_eq_ok
    (h : tables.deleteTunnelTarget organizationId id = .ok (some next)) :
    ∃ target : TargetRecord, tables.targets.get? id = some target ∧
      target.organizationId = organizationId ∧
      (∃ key other, key ≠ id ∧ tables.targets.get? key = some other ∧
        other.tunnelId = target.tunnelId) ∧
      next = { tables with targets := tables.targets.erase id } := by
  unfold deleteTunnelTarget at h
  split at h
  · cases h
  · rename_i target htarget
    obtain ⟨hget, howner⟩ := getTunnelTarget_eq_some htarget
    split_ifs at h with hlast
    cases h
    refine ⟨target, hget, howner, ?_, rfl⟩
    obtain ⟨⟨key, other⟩, hother, hne⟩ := exists_other_of_length
      (tables.targets.nodup.of_map _ |>.filter _) (not_le.1 hlast)
    obtain ⟨hentry, htunnel⟩ := List.mem_filter.1 hother
    have hget' : tables.targets.get? key = some other := get?_eq_some_iff.2 hentry
    refine ⟨key, other, ?_, hget', of_decide_eq_true htunnel⟩
    rintro rfl
    rw [hget] at hget'
    cases hget'
    exact hne rfl

/-- A target that `createTunnel` made of an item of its list. -/
structure Created (tables : TunnelTables) (organizationId tunnelId : String) (input : TunnelInput)
    (items : List TargetInput) (target : TargetRecord) : Prop where
  owner : target.organizationId = organizationId
  tunnel : target.tunnelId = tunnelId
  agent : tables.AgentRef organizationId target.agentId
  item : ∃ index, ∃ item ∈ items, target.targetHost = (input.targetAt index item).targetHost ∧
    target.targetPort.value = (input.targetAt index item).targetPort

/-- The targets that the loop of `createTunnel` adds. -/
structure TargetsAdded (tables next : TunnelTables) (organizationId tunnelId : String)
    (input : TunnelInput) (items : List TargetInput) : Prop where
  agents : next.agents = tables.agents
  tunnels : next.tunnels = tables.tunnels
  policies : next.policies = tables.policies
  kept : ∀ key target, tables.targets.get? key = some target → next.targets.get? key = some target
  found : ∀ key target, next.targets.get? key = some target →
    tables.targets.get? key = some target ∨
      Created tables organizationId tunnelId input items target
  added : items ≠ [] → ∃ key target, next.targets.get? key = some target ∧
    target.tunnelId = tunnelId

theorem targetsAdded_of_createTargets {draw : ℕ → String} {index : ℕ} {items : List TargetInput}
    (h : createTargets organizationId tunnelId draw input index items tables = .ok next) :
    TargetsAdded tables next organizationId tunnelId input items := by
  induction items generalizing index tables with
  | nil =>
    cases h
    exact ⟨rfl, rfl, rfl, fun _ _ h => h, fun _ _ h => .inl h, absurd rfl⟩
  | cons item rest ih =>
    obtain ⟨middle, hcreate, h⟩ := bind_eq_ok.1 h
    obtain ⟨-, hagent, hnew, target, howner, htunnel, htarget, hhost, hport, rfl⟩ :=
      createTunnelTarget_eq_ok hcreate
    obtain ⟨hagents, htunnels, hpolicies, hkept, hfound, -⟩ := ih h
    have hmade : Created tables organizationId tunnelId input (item :: rest) target := by
      refine ⟨howner, htunnel, ?_, index, item, List.mem_cons_self, hhost, hport⟩
      rw [htarget]
      exact hagent
    refine ⟨hagents, htunnels, hpolicies, ?_, ?_, fun _ => ?_⟩
    · intro key other hother
      apply hkept
      rw [get?_set_of_ne, hother]
      rintro rfl
      rw [hnew] at hother
      cases hother
    · intro key other hother
      rcases hfound key other hother with hold | hcreated
      · rw [get?_set] at hold
        split at hold
        · cases hold
          exact .inr hmade
        · exact .inl hold
      · right
        obtain ⟨position, source, hsource, hsame⟩ := hcreated.item
        exact ⟨hcreated.owner, hcreated.tunnel, hcreated.agent, position, source,
          List.mem_cons_of_mem _ hsource, hsame⟩
    · exact ⟨_, target, hkept _ target (get?_set_self _ _ _), htunnel⟩

theorem targetList_ne_nil {input : TunnelInput} : input.targetList ≠ [] := by
  unfold TunnelInput.targetList
  split_ifs with h
  · exact List.cons_ne_nil _ _
  · exact h

theorem insertTunnel_eq_ok (h : tables.insertTunnel env organizationId id input = .ok next) :
    tables.tunnels.get? id = none ∧ ∃ tunnel : TunnelRecord,
      tunnel.organizationId = organizationId ∧ tunnel.agentId = input.agentId ∧
      tunnel.dnsRecordId = none ∧ textValue env input.policyId = .ok tunnel.policyId ∧
      tunnel.protocol = input.protocol ∧
      tunnel.hostname = orText input.hostname
        (input.protocol ++ "-" ++ id ++ ".internal.tunnara") ∧
      (∀ key other, tables.tunnels.get? key = some other → other.hostname ≠ tunnel.hostname) ∧
      next = { tables with tunnels := tables.tunnels.set id tunnel } := by
  obtain ⟨targetPort, -, h⟩ := bind_eq_ok.1 h
  obtain ⟨policyId, hpolicy, h⟩ := bind_eq_ok.1 h
  obtain ⟨_, -, h⟩ := bind_eq_ok.1 h
  obtain ⟨_, -, h⟩ := bind_eq_ok.1 h
  dsimp only at h
  split_ifs at h with hused hhostname hport
  cases h
  refine ⟨Option.not_isSome_iff_eq_none.1 hused, ?tunnel, ?owner, ?agent, ?dns, ?policy,
    ?protocol, ?hostname, ?free, ?next⟩
  case next => exact rfl
  case owner => exact rfl
  case agent => exact rfl
  case dns => exact rfl
  case policy => exact hpolicy
  case protocol => exact rfl
  case hostname => exact rfl
  case free =>
    intro key other hother hsame
    apply hhostname
    rw [List.any_eq_true]
    exact ⟨(key, other), get?_eq_some_iff.1 hother, by simpa using hsame⟩

theorem createTunnel_eq_ok {draws : Draws}
    (h : tables.createTunnel env organizationId draws input = .ok next) :
    tables.AgentRef organizationId input.agentId ∧
      (∃ message code, tables.checkPolicy env organizationId input.policyId message code = .ok ()) ∧
      ∃ inserted, tables.insertTunnel env organizationId draws.tunnelId input = .ok inserted ∧
        TargetsAdded inserted next organizationId draws.tunnelId input input.targetList := by
  unfold createTunnel at h
  by_cases hmissing : (tables.agentOf organizationId input.agentId).isNone
  · rw [if_pos hmissing] at h
    cases h
  rw [if_neg hmissing] at h
  obtain ⟨_, hpolicy, h⟩ := bind_eq_ok.1 h
  obtain ⟨_, -, h⟩ := bind_eq_ok.1 h
  obtain ⟨inserted, hinserted, h⟩ := bind_eq_ok.1 h
  exact ⟨agentRef_of_isSome hmissing, ⟨_, _, hpolicy⟩, inserted, hinserted,
    targetsAdded_of_createTargets h⟩

theorem changedPolicyId_eq_ok {current stored : Option String}
    (h : changedPolicyId env v current = .ok stored) :
    stored = current ∨ ∃ value, v = some value ∧ textValue env value = .ok stored := by
  cases v with
  | none =>
    cases h
    exact .inl rfl
  | some value => exact .inr ⟨value, rfl, h⟩

theorem updateTunnel_eq_ok {changes : Json}
    (h : tables.updateTunnel env organizationId id changes = .ok (some next)) :
    ∃ current tunnel : TunnelRecord, tables.tunnels.get? id = some current ∧
      current.organizationId = organizationId ∧ tunnel.organizationId = organizationId ∧
      tunnel.agentId = current.agentId ∧ tunnel.dnsRecordId = current.dnsRecordId ∧
      tunnel.hostname = current.hostname ∧
      (tunnel.policyId = current.policyId ∨ ∃ value, changes.get? "policyId" = some value ∧
        textValue env value = .ok tunnel.policyId ∧
        ∃ message code, tables.checkPolicy env organizationId value message code = .ok ()) ∧
      next = { tables with tunnels := tables.tunnels.set id tunnel } := by
  unfold updateTunnel at h
  split at h
  · cases h
  · rename_i current hcurrent
    obtain ⟨hget, howner⟩ := tunnelOf_eq_some hcurrent
    obtain ⟨rawName, -, h⟩ := bind_eq_ok.1 h
    obtain ⟨_, hcheck, h⟩ := bind_eq_ok.1 h
    obtain ⟨name, -, h⟩ := bind_eq_ok.1 h
    obtain ⟨status, -, h⟩ := bind_eq_ok.1 h
    obtain ⟨policyId, hpolicy, h⟩ := bind_eq_ok.1 h
    obtain ⟨_, -, h⟩ := bind_eq_ok.1 h
    obtain ⟨_, -, h⟩ := bind_eq_ok.1 h
    obtain ⟨_, -, h⟩ := bind_eq_ok.1 h
    split_ifs at h
    cases h
    refine ⟨current, ?tunnel, hget, howner, ?owner, ?agent, ?dns, ?hostname, ?policy, ?next⟩
    case next => exact rfl
    case owner => exact howner
    case agent => exact rfl
    case dns => exact rfl
    case hostname => exact rfl
    case policy =>
      rcases changedPolicyId_eq_ok hpolicy with hsame | ⟨value, hvalue, hstored⟩
      · exact .inl hsame
      · right
        rw [hvalue] at hcheck
        exact ⟨value, hvalue, hstored, _, _, hcheck⟩

theorem deleteTunnel_eq_some {agentId : Option String}
    (h : tables.deleteTunnel organizationId id agentId = some next) :
    (∃ tunnel, tables.tunnels.get? id = some tunnel ∧ tunnel.organizationId = organizationId) ∧
      next = tables.eraseTunnel id := by
  unfold deleteTunnel at h
  split at h
  · cases h
  · rename_i tunnel htunnel
    split_ifs at h with hother
    cases h
    exact ⟨⟨tunnel, htunnel, not_not.1 (not_or.1 hother).1⟩, rfl⟩

theorem backfill_eq_self {draw : String → String}
    (h : ∀ key tunnel, tables.tunnels.get? key = some tunnel →
      ∃ id target, tables.targets.get? id = some target ∧ target.tunnelId = key) :
    tables.backfill draw = tables := by
  unfold backfill
  have hall : ∀ e ∈ tables.tunnels.entries, tables.targets.entries.any
      (fun t => t.2.tunnelId = e.1) = true := by
    intro e he
    obtain ⟨id, target, htarget, htunnel⟩ := h e.1 e.2 (get?_eq_some_iff.2 he)
    exact List.any_eq_true.2 ⟨(id, target), get?_eq_some_iff.1 htarget, by simp [htunnel]⟩
  generalize tables.tunnels.entries = entries at hall ⊢
  induction entries with
  | nil => rfl
  | cons e rest ih =>
    rw [List.foldl_cons, if_pos (.inl (hall e List.mem_cons_self))]
    exact ih fun other hother => hall other (List.mem_cons_of_mem _ hother)

end Tunnara.Control.TunnelTables
