/-
# No dangling policy, no empty tunnel

`tunnels.policy_id` has no foreign key: a tunnel is created or changed only with a policy that is
there, and a policy that a tunnel names is not deleted. The checks ask whether the id is truthy,
the column asks whether it is NULL; between the two lies the number zero. That a tunnel has a
target is kept by its creation and by the guard of the deletion of a target.
-/

import Tunnara.Control.TunnelWrites

namespace Tunnara.Control

open Transition OrdMap

/-- An operation on the tables, with the uuids it draws. -/
inductive TablesEvent
  | createPolicy (id organizationId name description : String) (document : Json) (enabled : Bool)
  | updatePolicy (organizationId id : String) (changes : Database.PolicyChanges)
  | deletePolicy (organizationId id : String)
  | createTunnel (organizationId : String) (draws : TunnelTables.Draws)
      (input : TunnelTables.TunnelInput)
  | updateTunnel (organizationId id : String) (changes : Json)
  | deleteTunnel (organizationId id : String) (agentId : Option String)
  | createTunnelTarget (organizationId tunnelId id : String) (input : TunnelTables.TargetInput)
  | updateTunnelTarget (organizationId id : String) (changes : Json)
  | deleteTunnelTarget (organizationId id : String)
  /-- The backfill at a restart. -/
  | migrate (draw : String → String)
  /-- The writers of `agents`. -/
  | agents (rows : OrdMap String AgentRow)

/-- The result, or the tables as they were when the operation throws. -/
def orSame (tables : TunnelTables) : Except JsError TunnelTables → TunnelTables
  | .ok next => next
  | .error _ => tables

/-- So too when it finds nothing. -/
def orFound (tables : TunnelTables) : Except JsError (Option TunnelTables) → TunnelTables
  | .ok (some next) => next
  | _ => tables

namespace TunnelTables

def step (env : StoreEnv) (tables : TunnelTables) : TablesEvent → TunnelTables
  | .createPolicy id organizationId name description document enabled =>
    orSame tables (tables.createPolicy id organizationId name description document enabled)
  | .updatePolicy organizationId id changes =>
    orFound tables (tables.updatePolicy organizationId id changes)
  | .deletePolicy organizationId id => orFound tables (tables.deletePolicy organizationId id)
  | .createTunnel organizationId draws input =>
    orSame tables (tables.createTunnel env organizationId draws input)
  | .updateTunnel organizationId id changes =>
    orFound tables (tables.updateTunnel env organizationId id changes)
  | .deleteTunnel organizationId id agentId =>
    (tables.deleteTunnel organizationId id agentId).getD tables
  | .createTunnelTarget organizationId tunnelId id input =>
    orSame tables (tables.createTunnelTarget organizationId tunnelId id input)
  | .updateTunnelTarget organizationId id changes =>
    orFound tables (tables.updateTunnelTarget env organizationId id changes)
  | .deleteTunnelTarget organizationId id =>
    orFound tables (tables.deleteTunnelTarget organizationId id)
  | .migrate draw => tables.backfill draw
  | .agents rows => { tables with agents := rows }

theorem orSame_of {p : TunnelTables → Prop} {tables : TunnelTables} (hsame : p tables)
    {result : Except JsError TunnelTables} (h : ∀ next, result = .ok next → p next) :
    p (orSame tables result) := by
  cases result with
  | error error => exact hsame
  | ok next => exact h next rfl

theorem orFound_of {p : TunnelTables → Prop} {tables : TunnelTables} (hsame : p tables)
    {result : Except JsError (Option TunnelTables)}
    (h : ∀ next, result = .ok (some next) → p next) : p (orFound tables result) := by
  cases result with
  | error error => exact hsame
  | ok found =>
    cases found with
    | none => exact hsame
    | some next => exact h next rfl

/-- Every tunnel with a policy id refers to a policy of its own organization, and every
tunnel has a target. -/
structure Intact (tables : TunnelTables) : Prop where
  policy : ∀ id tunnel, tables.tunnels.get? id = some tunnel →
    tables.PolicyRef tunnel.organizationId tunnel.policyId
  target : ∀ id tunnel, tables.tunnels.get? id = some tunnel →
    ∃ key target, tables.targets.get? key = some target ∧ target.tunnelId = id

/-- No tunnel is given the number zero as its policy id. -/
def NonzeroPolicy : TunnelTables → TablesEvent → Prop
  | _, .createTunnel _ _ input => input.policyId ≠ .num 0
  | _, .updateTunnel _ _ changes => changes.get? "policyId" ≠ some (.num 0)
  | _, _ => True

variable {env : StoreEnv} {tables next : TunnelTables} {organizationId id : String}

theorem PolicyRef.congr {policyId : Option String} (h : tables.PolicyRef organizationId policyId)
    (hpolicies : next.policies = tables.policies) : next.PolicyRef organizationId policyId := by
  intro name hname hne
  rw [hpolicies]
  exact h name hname hne

namespace Intact

theorem of_policies {policies : OrdMap String PolicyRow} (h : Intact tables)
    (hkept : ∀ key tunnel name policy, tables.tunnels.get? key = some tunnel →
      tunnel.policyId = some name → tables.policies.get? name = some policy →
      policy.organizationId = tunnel.organizationId →
      ∃ kept, policies.get? name = some kept ∧ kept.organizationId = tunnel.organizationId) :
    Intact { tables with policies := policies } := by
  constructor
  · intro key tunnel htunnel name hname hne
    obtain ⟨policy, hpolicy, howner⟩ := h.policy key tunnel htunnel name hname hne
    exact hkept key tunnel name policy htunnel hname hpolicy howner
  · intro key tunnel htunnel
    exact h.target key tunnel htunnel

section

variable (h : Intact tables)
include h

theorem createPolicy {name description : String} {document : Json} {enabled : Bool}
    (hcreate : tables.createPolicy id organizationId name description document enabled = .ok next) :
    Intact next := by
  obtain ⟨hnew, policy, -, rfl⟩ := createPolicy_eq_ok hcreate
  apply h.of_policies
  intro key tunnel named found _ _ hfound howner
  refine ⟨found, ?_, howner⟩
  rw [get?_set_of_ne, hfound]
  rintro rfl
  rw [hnew] at hfound
  cases hfound

theorem updatePolicy {changes : Database.PolicyChanges}
    (hupdate : tables.updatePolicy organizationId id changes = .ok (some next)) : Intact next := by
  obtain ⟨current, policy, hcurrent, hbefore, hafter, rfl⟩ := updatePolicy_eq_ok hupdate
  apply h.of_policies
  intro key tunnel named found _ _ hfound howner
  by_cases hsame : named = id
  · subst hsame
    rw [hcurrent] at hfound
    cases hfound
    exact ⟨policy, get?_set_self _ _ _, hafter.trans (hbefore.symm.trans howner)⟩
  · exact ⟨found, by rw [get?_set_of_ne _ hsame, hfound], howner⟩

theorem deletePolicy (hdelete : tables.deletePolicy organizationId id = .ok (some next)) :
    Intact next := by
  obtain ⟨⟨policy, hpolicy, hpolicyOwner⟩, hunused, rfl⟩ := deletePolicy_eq_ok hdelete
  apply h.of_policies
  intro key tunnel named found htunnel hnamed hfound howner
  refine ⟨found, ?_, howner⟩
  rw [get?_erase_of_ne, hfound]
  rintro rfl
  rw [hpolicy] at hfound
  cases hfound
  exact hunused key tunnel htunnel (howner.symm.trans hpolicyOwner) hnamed

theorem setTunnel {current tunnel : TunnelRecord}
    (hcurrent : tables.tunnels.get? id = some current)
    (hpolicy : tables.PolicyRef tunnel.organizationId tunnel.policyId) :
    Intact { tables with tunnels := tables.tunnels.set id tunnel } := by
  constructor
  · intro key other hother
    rw [get?_set] at hother
    split at hother
    · cases hother
      exact hpolicy.congr rfl
    · exact (h.policy key other hother).congr rfl
  · intro key other hother
    dsimp only at hother
    rw [get?_set] at hother
    split at hother
    · rename_i hkey
      subst hkey
      exact h.target _ current hcurrent
    · exact h.target key other hother

theorem updateTunnel {changes : Json} (hzero : changes.get? "policyId" ≠ some (.num 0))
    (hupdate : tables.updateTunnel env organizationId id changes = .ok (some next)) :
    Intact next := by
  obtain ⟨current, tunnel, hcurrent, hbefore, hafter, -, -, -, hpolicy, rfl⟩ :=
    updateTunnel_eq_ok hupdate
  apply h.setTunnel hcurrent
  rw [hafter]
  rcases hpolicy with hsame | ⟨value, hvalue, hstored, message, code, hcheck⟩
  · rw [hsame, ← hbefore]
    exact h.policy id current hcurrent
  · apply policyRef_of_checkPolicy hcheck hstored
    rintro rfl
    exact hzero hvalue

theorem createTunnel {draws : Draws} {input : TunnelInput} (hzero : input.policyId ≠ .num 0)
    (hcreate : tables.createTunnel env organizationId draws input = .ok next) : Intact next := by
  obtain ⟨-, ⟨message, code, hcheck⟩, inserted, hinsert, hadded⟩ := createTunnel_eq_ok hcreate
  obtain ⟨hnew, tunnel, howner, -, -, hstored, -, -, -, rfl⟩ := insertTunnel_eq_ok hinsert
  constructor
  · intro key other hother
    rw [hadded.tunnels, get?_set] at hother
    split at hother
    · cases hother
      rw [howner]
      exact (policyRef_of_checkPolicy hcheck hstored hzero).congr hadded.policies
    · exact (h.policy key other hother).congr hadded.policies
  · intro key other hother
    rw [hadded.tunnels, get?_set] at hother
    split at hother
    · rename_i hkey
      subst hkey
      exact hadded.added targetList_ne_nil
    · obtain ⟨targetId, target, htarget, htunnel⟩ := h.target key other hother
      exact ⟨targetId, target, hadded.kept targetId target htarget, htunnel⟩

theorem deleteTunnel {agentId : Option String}
    (hdelete : tables.deleteTunnel organizationId id agentId = some next) : Intact next := by
  obtain ⟨-, rfl⟩ := deleteTunnel_eq_some hdelete
  constructor
  · intro key tunnel htunnel
    exact (h.policy key tunnel (get?_of_get?_erase htunnel).2).congr rfl
  · intro key tunnel htunnel
    obtain ⟨hne, hget⟩ := get?_of_get?_erase htunnel
    obtain ⟨targetId, target, htarget, hof⟩ := h.target key tunnel hget
    refine ⟨targetId, target, ?_, hof⟩
    show (tables.targets.filter _).get? targetId = some target
    rw [get?_filter, htarget]
    simp [Option.filter, hof, hne]

omit h in
theorem of_targets {targets : OrdMap String TargetRecord} (h : Intact tables)
    (hkept : ∀ key target, tables.targets.get? key = some target →
      ∃ other kept, targets.get? other = some kept ∧ kept.tunnelId = target.tunnelId) :
    Intact { tables with targets := targets } := by
  constructor
  · intro key tunnel htunnel
    exact (h.policy key tunnel htunnel).congr rfl
  · intro key tunnel htunnel
    obtain ⟨targetId, target, htarget, hof⟩ := h.target key tunnel htunnel
    obtain ⟨other, kept, hother, hsame⟩ := hkept targetId target htarget
    exact ⟨other, kept, hother, hsame.trans hof⟩

theorem createTunnelTarget {tunnelId : String} {input : TargetInput}
    (hcreate : tables.createTunnelTarget organizationId tunnelId id input = .ok next) :
    Intact next := by
  obtain ⟨-, -, hnew, target, -, -, -, -, -, rfl⟩ := createTunnelTarget_eq_ok hcreate
  apply h.of_targets
  intro key other hother
  refine ⟨key, other, ?_, rfl⟩
  rw [get?_set_of_ne, hother]
  rintro rfl
  rw [hnew] at hother
  cases hother

theorem updateTunnelTarget {changes : Json}
    (hupdate : tables.updateTunnelTarget env organizationId id changes = .ok (some next)) :
    Intact next := by
  obtain ⟨current, target, hcurrent, -, -, htunnel, -, -, -, -, rfl⟩ :=
    updateTunnelTarget_eq_ok hupdate
  apply h.of_targets
  intro key other hother
  by_cases hsame : key = id
  · subst hsame
    rw [hcurrent] at hother
    cases hother
    exact ⟨key, target, get?_set_self _ _ _, htunnel⟩
  · exact ⟨key, other, by rw [get?_set_of_ne _ hsame, hother], rfl⟩

theorem deleteTunnelTarget
    (hdelete : tables.deleteTunnelTarget organizationId id = .ok (some next)) : Intact next := by
  obtain ⟨target, htarget, -, ⟨key, other, hne, hother, hof⟩, rfl⟩ :=
    deleteTunnelTarget_eq_ok hdelete
  apply h.of_targets
  intro found row hrow
  by_cases hsame : found = id
  · subst hsame
    rw [htarget] at hrow
    cases hrow
    exact ⟨key, other, by rw [get?_erase_of_ne _ hne, hother], hof⟩
  · exact ⟨found, row, by rw [get?_erase_of_ne _ hsame, hrow], rfl⟩

end

end Intact

theorem intact_step (h : Intact tables) {event : TablesEvent}
    (hguard : NonzeroPolicy tables event) : Intact (tables.step env event) := by
  cases event with
  | createPolicy id organizationId name description document enabled =>
    exact orSame_of h fun _ hnext => h.createPolicy hnext
  | updatePolicy organizationId id changes => exact orFound_of h fun _ hnext => h.updatePolicy hnext
  | deletePolicy organizationId id => exact orFound_of h fun _ hnext => h.deletePolicy hnext
  | createTunnel organizationId draws input =>
    exact orSame_of h fun _ hnext => h.createTunnel hguard hnext
  | updateTunnel organizationId id changes =>
    exact orFound_of h fun _ hnext => h.updateTunnel hguard hnext
  | deleteTunnel organizationId id agentId =>
    show Intact ((tables.deleteTunnel organizationId id agentId).getD tables)
    cases hdelete : tables.deleteTunnel organizationId id agentId with
    | none => exact h
    | some next => exact h.deleteTunnel hdelete
  | createTunnelTarget organizationId tunnelId id input =>
    exact orSame_of h fun _ hnext => h.createTunnelTarget hnext
  | updateTunnelTarget organizationId id changes =>
    exact orFound_of h fun _ hnext => h.updateTunnelTarget hnext
  | deleteTunnelTarget organizationId id =>
    exact orFound_of h fun _ hnext => h.deleteTunnelTarget hnext
  | migrate draw =>
    show Intact (tables.backfill draw)
    rw [backfill_eq_self h.target]
    exact h
  | agents rows =>
    exact ⟨fun key tunnel htunnel => (h.policy key tunnel htunnel).congr rfl, h.target⟩

/-- **In every state** that operations without a zero policy id produce from tables without
tunnels, no policy reference dangles and no tunnel is empty. -/
theorem intact_run {start : TunnelTables} (hstart : start.tunnels = .empty)
    {events : List TablesEvent} (hguard : Along (step env) NonzeroPolicy start events) :
    Intact (run (step env) start events) := by
  have hintact : Intact start := by
    constructor
    · intro id tunnel htunnel
      rw [hstart] at htunnel
      cases htunnel
    · intro id tunnel htunnel
      rw [hstart] at htunnel
      cases htunnel
  exact hguard.invariant (fun _ _ h hevent => intact_step h hevent) hintact

def onlineAgents : OrdMap String AgentRow := OrdMap.empty.set "a1" ⟨"a1", "o1", "online", none⟩

def emptyTables : TunnelTables := ⟨onlineAgents, .empty, .empty, .empty⟩

def plainDraws : Draws := ⟨"t1", fun index => s!"g{index}"⟩

def plainInput : TunnelInput :=
  ⟨"a1", "app", "http", "app.test", "127.0.0.1", .fin 3000, none, .null, false, .null, .null, []⟩

/-- `PATCH /api/v1/tunnels/t1` with `{"policyId": 0}`. -/
def zeroPolicy : List TablesEvent :=
  [.createTunnel "o1" plainDraws plainInput, .updateTunnel "o1" "t1" (.obj [("policyId", .num 0)])]

theorem not_intact_zeroPolicy :
    ¬ ∀ events, Intact (run (step .plain) emptyTables events) := by
  intro h
  have hstored : ((run (step .plain) emptyTables zeroPolicy).tunnels.get? "t1").map
      (fun tunnel => tunnel.policyId) = some (some "0.0") := by decide +kernel
  have hpolicies : (run (step .plain) emptyTables zeroPolicy).policies.get? "0.0" = none := by
    decide +kernel
  obtain ⟨tunnel, htunnel, hpolicy⟩ := Option.map_eq_some_iff.1 hstored
  obtain ⟨policy, hfound, -⟩ := (h zeroPolicy).policy "t1" tunnel htunnel "0.0" hpolicy (by decide)
  rw [hpolicies] at hfound
  cases hfound

def soundEvents : List TablesEvent :=
  [.createPolicy "p1" "o1" "default" "" (.obj []) true,
    .createTunnel "o1" plainDraws { plainInput with policyId := .str "p1" },
    .deletePolicy "o1" "p1", .updateTunnel "o1" "t1" (.obj [("policyId", .null)]),
    .deletePolicy "o1" "p1"]

theorem intact_run_sound :
    emptyTables.tunnels = .empty ∧ Along (step .plain) NonzeroPolicy emptyTables soundEvents ∧
      Intact (run (step .plain) emptyTables soundEvents) := by
  have hguard : Along (step .plain) NonzeroPolicy emptyTables soundEvents :=
    ⟨trivial, nofun, trivial, nofun, trivial, trivial⟩
  exact ⟨rfl, hguard, intact_run rfl hguard⟩

end TunnelTables

end Tunnara.Control
