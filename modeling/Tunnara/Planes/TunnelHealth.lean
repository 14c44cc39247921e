/-
# The health of a tunnel as an aggregate

The column `health_status` of a tunnel is written when the tunnel is created and by
`updateTargetHealth`, which aggregates the enabled targets. The operations that create, change and
delete targets leave it alone.
-/

import Tunnara.Control.Integrity
import Tunnara.Planes.Health

namespace Tunnara.Planes

open Control Transition OrdMap

/-- The tables, the column `health_status` of the tunnels, and the two counters of the targets. -/
structure Monitored where
  tables : TunnelTables
  health : OrdMap String String
  counts : String → ℕ × ℕ

/-- What the aggregate reads of a target. -/
def healthRow (target : TargetRecord) : HealthRow :=
  ⟨target.tunnelId, target.enabled, target.healthCheck, ⟨target.healthStatus, 0, 0, none⟩⟩

/-- The `CASE` over the stored targets. -/
def aggregate (targets : OrdMap String TargetRecord) (tunnelId : String) : String :=
  nodeAggregate (targets.mapVals fun _ target => healthRow target) tunnelId

/-! ## The operations -/

inductive MonitorEvent
  | createTunnel (organizationId : String) (draws : TunnelTables.Draws)
      (input : TunnelTables.TunnelInput)
  | createTunnelTarget (organizationId tunnelId id : String) (input : TunnelTables.TargetInput)
  | updateTunnelTarget (organizationId id : String) (changes : Json)
  | deleteTunnelTarget (organizationId id : String)
  | updateTargetHealth (id : String) (healthy : Bool)

/-- The counters of the rows that an operation has added start at zero. -/
def Monitored.countNew (state : Monitored) (next : TunnelTables) : Monitored :=
  { state with
    tables := next
    counts := fun id => if (state.tables.targets.get? id).isSome then state.counts id else (0, 0) }

/-- `updateTargetHealth` with the column it sets; `none` when there is no such target. -/
def Monitored.updateTargetHealth (host : Host) (state : Monitored) (id : String)
    (healthy : Bool) : Except JsError (Option Monitored) :=
  match state.tables.targets.get? id with
  | none => .ok none
  | some current => do
    let healthyThreshold ← nodeThreshold host current.healthCheck "healthyThreshold" 2
    let unhealthyThreshold ← nodeThreshold host current.healthCheck "unhealthyThreshold" 3
    let before : Health :=
      ⟨current.healthStatus, (state.counts id).1, (state.counts id).2, none⟩
    let health := before.update (fun n => healthyThreshold.atMost n)
      (fun n => unhealthyThreshold.atMost n) healthy none
    let targets := state.tables.targets.set id { current with healthStatus := health.status }
    return some {
      tables := { state.tables with targets }
      health := state.health.update current.tunnelId fun _ => aggregate targets current.tunnelId
      counts := Function.update state.counts id (health.successes, health.failures) }

/-- An operation that throws leaves everything as it is. -/
def Monitored.step (env : StoreEnv) (state : Monitored) : MonitorEvent → Monitored
  | .createTunnel organizationId draws input =>
    match state.tables.createTunnel env organizationId draws input with
    | .ok next =>
      { state.countNew next with health := state.health.set draws.tunnelId "unknown" }
    | .error _ => state
  | .createTunnelTarget organizationId tunnelId id input =>
    match state.tables.createTunnelTarget organizationId tunnelId id input with
    | .ok next => state.countNew next
    | .error _ => state
  | .updateTunnelTarget organizationId id changes =>
    match state.tables.updateTunnelTarget env organizationId id changes with
    | .ok (some next) => { state with tables := next }
    | _ => state
  | .deleteTunnelTarget organizationId id =>
    match state.tables.deleteTunnelTarget organizationId id with
    | .ok (some next) => { state with tables := next }
    | _ => state
  | .updateTargetHealth id healthy =>
    match state.updateTargetHealth env.host id healthy with
    | .ok (some next) => next
    | _ => state

def Aggregated (state : Monitored) : Prop :=
  ∀ id tunnel, state.tables.tunnels.get? id = some tunnel →
    state.health.get? id = some (aggregate state.tables.targets id)

/-- Every target belongs to a tunnel. -/
def Rooted (state : Monitored) : Prop :=
  ∀ id target, state.tables.targets.get? id = some target →
    (state.tables.tunnels.get? target.tunnelId).isSome

/-! ## One target in the aggregate -/

/-- The aggregate with one more enabled target. -/
def joinHealth (status others : String) : String :=
  if status = "healthy" then "healthy"
  else if status = "unknown" ∧ others ≠ "healthy" then "unknown"
  else others

def HasTarget (targets : OrdMap String TargetRecord) (tunnelId status : String) : Prop :=
  ∃ key target, targets.get? key = some target ∧ target.tunnelId = tunnelId ∧
    target.enabled = true ∧ target.healthStatus = status

variable {env : StoreEnv} {targets : OrdMap String TargetRecord} {id tunnelId : String}
  {target : TargetRecord}

theorem has_healthRow_iff {status : String} :
    Has (targets.mapVals fun _ target => healthRow target) tunnelId status ↔
      HasTarget targets tunnelId status := by
  constructor
  · rintro ⟨key, row, hrow, htunnel, henabled, hstatus⟩
    rw [get?_mapVals] at hrow
    obtain ⟨target, htarget, rfl⟩ := Option.map_eq_some_iff.1 hrow
    exact ⟨key, target, htarget, htunnel, henabled, hstatus⟩
  · rintro ⟨key, target, htarget, htunnel, henabled, hstatus⟩
    refine ⟨key, healthRow target, ?_, htunnel, henabled, hstatus⟩
    rw [get?_mapVals, htarget]
    rfl

theorem aggregate_eq [∀ status, Decidable (HasTarget targets tunnelId status)] :
    aggregate targets tunnelId = if HasTarget targets tunnelId "healthy" then "healthy"
      else if HasTarget targets tunnelId "unknown" then "unknown" else "unhealthy" := by
  classical
  unfold aggregate
  rw [nodeAggregate_eq]
  simp only [has_healthRow_iff]

theorem aggregate_of_hasTarget {other : OrdMap String TargetRecord}
    (h : ∀ status, HasTarget targets tunnelId status ↔ HasTarget other tunnelId status) :
    aggregate targets tunnelId = aggregate other tunnelId := by
  classical
  rw [aggregate_eq, aggregate_eq]
  simp only [h]

theorem hasTarget_set_iff {status : String} : HasTarget (targets.set id target) tunnelId status ↔
    (target.tunnelId = tunnelId ∧ target.enabled = true ∧ target.healthStatus = status) ∨
      HasTarget (targets.erase id) tunnelId status := by
  constructor
  · rintro ⟨key, row, hrow, hsame⟩
    by_cases hkey : key = id
    · subst hkey
      rw [get?_set_self] at hrow
      cases hrow
      exact .inl hsame
    · right
      rw [get?_set_of_ne _ hkey] at hrow
      exact ⟨key, row, by rw [get?_erase_of_ne _ hkey, hrow], hsame⟩
  · rintro (hsame | ⟨key, row, hrow, hsame⟩)
    · exact ⟨id, target, get?_set_self _ _ _, hsame⟩
    · obtain ⟨hkey, hrow⟩ := get?_of_get?_erase hrow
      exact ⟨key, row, by rw [get?_set_of_ne _ hkey, hrow], hsame⟩

theorem aggregate_set : aggregate (targets.set id target) tunnelId =
    if target.tunnelId = tunnelId ∧ target.enabled = true then
      joinHealth target.healthStatus (aggregate (targets.erase id) tunnelId)
    else aggregate (targets.erase id) tunnelId := by
  classical
  split_ifs with hcounts
  · rw [aggregate_eq, aggregate_eq]
    simp only [hasTarget_set_iff, hcounts, true_and, joinHealth]
    grind
  · apply aggregate_of_hasTarget
    intro status
    rw [hasTarget_set_iff]
    exact or_iff_right fun h => hcounts ⟨h.1, h.2.1⟩

theorem aggregate_of_get? (h : targets.get? id = some target) : aggregate targets tunnelId =
    if target.tunnelId = tunnelId ∧ target.enabled = true then
      joinHealth target.healthStatus (aggregate (targets.erase id) tunnelId)
    else aggregate (targets.erase id) tunnelId := by
  rw [← aggregate_set, set_of_get?_some h]

theorem aggregate_cases {targets : OrdMap String TargetRecord} {tunnelId : String} :
    aggregate targets tunnelId = "healthy" ∨ aggregate targets tunnelId = "unknown" ∨
      aggregate targets tunnelId = "unhealthy" := by
  classical
  rw [aggregate_eq]
  split_ifs
  · exact .inl rfl
  · exact .inr (.inl rfl)
  · exact .inr (.inr rfl)

theorem joinHealth_unknown (others : String) :
    joinHealth "unknown" (joinHealth "unknown" others) = joinHealth "unknown" others := by
  unfold joinHealth
  grind

theorem joinHealth_unknown_eq_self_iff : joinHealth "unknown" (aggregate targets tunnelId) =
    aggregate targets tunnelId ↔ aggregate targets tunnelId ≠ "unhealthy" := by
  rcases aggregate_cases with h | h | h <;> rw [h] <;> decide

theorem aggregate_of_no_targets (h : ∀ key target, targets.get? key = some target →
    target.tunnelId ≠ tunnelId) : aggregate targets tunnelId = "unhealthy" := by
  classical
  have hnone : ∀ status, ¬ HasTarget targets tunnelId status := by
    rintro status ⟨key, target, htarget, htunnel, -⟩
    exact h key target htarget htunnel
  rw [aggregate_eq, if_neg (hnone _), if_neg (hnone _)]

/-! ## What the operations do to the targets -/

section

variable {tables next : TunnelTables} {organizationId : String}

theorem row_createTunnelTarget {input : TunnelTables.TargetInput}
    (h : tables.createTunnelTarget organizationId tunnelId id input = .ok next) :
    tables.targets.get? id = none ∧ (tables.tunnels.get? tunnelId).isSome ∧
      ∃ target : TargetRecord, target.tunnelId = tunnelId ∧ target.enabled = input.enabled ∧
        target.healthStatus = "unknown" ∧
        next = { tables with targets := tables.targets.set id target } := by
  obtain ⟨⟨tunnel, htunnel, -⟩, -⟩ := TunnelTables.createTunnelTarget_eq_ok h
  unfold TunnelTables.createTunnelTarget at h
  split at h
  · cases h
  obtain ⟨targetPort, -, h⟩ := bind_eq_ok.1 h
  obtain ⟨weight, -, h⟩ := bind_eq_ok.1 h
  obtain ⟨priority, -, h⟩ := bind_eq_ok.1 h
  split_ifs at h with hused
  cases h
  exact ⟨Option.not_isSome_iff_eq_none.1 hused, by rw [htunnel]; rfl, _, rfl, rfl, rfl, rfl⟩

theorem aggregate_createTargets {draw : ℕ → String} {input : TunnelTables.TunnelInput}
    {index : ℕ} {items : List TunnelTables.TargetInput}
    (h : TunnelTables.createTargets organizationId tunnelId draw input index items tables =
      .ok next) (other : String) : aggregate next.targets other =
      if tunnelId = other ∧ ∃ item ∈ items, item.enabled = true then
        joinHealth "unknown" (aggregate tables.targets other)
      else aggregate tables.targets other := by
  induction items generalizing index tables with
  | nil =>
    cases h
    rw [if_neg]
    rintro ⟨-, item, hitem, -⟩
    cases hitem
  | cons item rest ih =>
    obtain ⟨middle, hcreate, h⟩ := bind_eq_ok.1 h
    obtain ⟨hnew, -, target, htunnel, henabled, hstatus, rfl⟩ := row_createTunnelTarget hcreate
    have hsame : target.enabled = item.enabled := henabled
    rw [ih h]
    rw [aggregate_set, erase_of_get?_none hnew, htunnel, hsame, hstatus]
    simp only [List.mem_cons, exists_eq_or_imp]
    by_cases hother : tunnelId = other
    · by_cases hitem : item.enabled = true
      · simp only [hother, hitem, true_and, true_or, if_true, joinHealth_unknown, ite_self]
      · simp only [hother, hitem, true_and, false_or, Bool.false_eq_true, if_false]
    · simp only [hother, false_and, if_false]

theorem row_updateTunnelTarget {changes : Json}
    (h : tables.updateTunnelTarget env organizationId id changes = .ok (some next)) :
    ∃ current target : TargetRecord, tables.targets.get? id = some current ∧
      target.tunnelId = current.tunnelId ∧ target.healthStatus = current.healthStatus ∧
      target.enabled = (match changes.get? "enabled" with
        | none => current.enabled
        | some v => v.truthy) ∧
      next = { tables with targets := tables.targets.set id target } := by
  unfold TunnelTables.updateTunnelTarget at h
  split at h
  · cases h
  · rename_i current hcurrent
    obtain ⟨agentId, -, h⟩ := bind_eq_ok.1 h
    obtain ⟨_, -, h⟩ := bind_eq_ok.1 h
    obtain ⟨port, -, h⟩ := bind_eq_ok.1 h
    obtain ⟨weight, -, h⟩ := bind_eq_ok.1 h
    obtain ⟨priority, -, h⟩ := bind_eq_ok.1 h
    obtain ⟨storedAgent, -, h⟩ := bind_eq_ok.1 h
    obtain ⟨name, -, h⟩ := bind_eq_ok.1 h
    obtain ⟨host, -, h⟩ := bind_eq_ok.1 h
    obtain ⟨storedPort, -, h⟩ := bind_eq_ok.1 h
    obtain ⟨storedWeight, -, h⟩ := bind_eq_ok.1 h
    obtain ⟨storedPriority, -, h⟩ := bind_eq_ok.1 h
    split_ifs at h
    cases h
    refine ⟨current, ?target, (TunnelTables.getTunnelTarget_eq_some hcurrent).1, ?tunnel, ?status,
      ?enabled, ?next⟩
    case next => exact rfl
    case tunnel => exact rfl
    case status => exact rfl
    case enabled => rfl

end

/-! ## One operation -/

def Covered (targets : OrdMap String TargetRecord) (tunnelId id status : String) : Prop :=
  joinHealth status (aggregate (targets.erase id) tunnelId) = aggregate (targets.erase id) tunnelId

/-- What the operation does to a target does not show in the aggregate of its tunnel. -/
def Unseen (env : StoreEnv) (state : Monitored) : MonitorEvent → Prop
  | .createTunnel organizationId draws input =>
    (∃ next, state.tables.createTunnel env organizationId draws input = .ok next) →
      ∃ item ∈ input.targetList, item.enabled = true
  | .createTunnelTarget organizationId tunnelId id input =>
    (∃ next, state.tables.createTunnelTarget organizationId tunnelId id input = .ok next) →
      input.enabled = true → aggregate state.tables.targets tunnelId ≠ "unhealthy"
  | .updateTunnelTarget organizationId id changes =>
    (∃ next, state.tables.updateTunnelTarget env organizationId id changes = .ok (some next)) →
      ∀ current v, state.tables.targets.get? id = some current →
        changes.get? "enabled" = some v → v.truthy ≠ current.enabled →
          Covered state.tables.targets current.tunnelId id current.healthStatus
  | .deleteTunnelTarget organizationId id =>
    (∃ next, state.tables.deleteTunnelTarget organizationId id = .ok (some next)) →
      ∀ current, state.tables.targets.get? id = some current → current.enabled = true →
        Covered state.tables.targets current.tunnelId id current.healthStatus
  | .updateTargetHealth _ _ => True

variable {state next : Monitored}

theorem aggregated_iff_of_same (next : Monitored) (h : Aggregated state)
    (htunnels : next.tables.tunnels = state.tables.tunnels) (hhealth : next.health = state.health)
    (htunnel : (state.tables.tunnels.get? tunnelId).isSome) (hother : ∀ other, tunnelId ≠ other →
      aggregate next.tables.targets other = aggregate state.tables.targets other) :
    Aggregated next ↔
      aggregate next.tables.targets tunnelId = aggregate state.tables.targets tunnelId := by
  obtain ⟨tunnel, htunnel⟩ := Option.isSome_iff_exists.1 htunnel
  constructor
  · intro hnext
    have hbefore := h tunnelId tunnel htunnel
    have hafter := hnext tunnelId tunnel (by rw [htunnels, htunnel])
    rw [hhealth, hbefore] at hafter
    exact (Option.some.inj hafter).symm
  · intro hsame other row hrow
    rw [htunnels] at hrow
    rw [hhealth, h other row hrow]
    by_cases heq : tunnelId = other
    · rw [← heq, hsame]
    · rw [hother other heq]

theorem rooted_set (h : Rooted state) {row : TargetRecord}
    (htunnels : next.tables.tunnels = state.tables.tunnels)
    (htargets : next.tables.targets = state.tables.targets.set id row)
    (htunnel : (state.tables.tunnels.get? row.tunnelId).isSome) : Rooted next := by
  intro key other hother
  rw [htunnels]
  rw [htargets, get?_set] at hother
  split_ifs at hother
  · cases hother
    exact htunnel
  · exact h key other hother

variable {organizationId : String}

theorem aggregated_createTunnel_iff {draws : TunnelTables.Draws}
    {input : TunnelTables.TunnelInput} (hrooted : Rooted state) (h : Aggregated state) :
    Aggregated (state.step env (.createTunnel organizationId draws input)) ↔
      Unseen env state (.createTunnel organizationId draws input) := by
  unfold Monitored.step Unseen
  dsimp only
  cases hcreate : state.tables.createTunnel env organizationId draws input with
  | error error => exact iff_of_true h (by rintro ⟨_, hok⟩; cases hok)
  | ok next =>
    have hcreated := hcreate
    unfold TunnelTables.createTunnel at hcreated
    split at hcreated
    · cases hcreated
    obtain ⟨_, -, hcreated⟩ := bind_eq_ok.1 hcreated
    obtain ⟨_, -, hcreated⟩ := bind_eq_ok.1 hcreated
    obtain ⟨inserted, hinserted, hloop⟩ := bind_eq_ok.1 hcreated
    obtain ⟨hnew, tunnel, -, -, -, -, -, -, -, rfl⟩ :=
      TunnelTables.insertTunnel_eq_ok hinserted
    have htunnels := (TunnelTables.targetsAdded_of_createTargets hloop).tunnels
    have haggregate := aggregate_createTargets hloop
    have hempty : aggregate state.tables.targets draws.tunnelId = "unhealthy" := by
      apply aggregate_of_no_targets
      intro key target htarget hsame
      have hroot := hrooted key target htarget
      rw [hsame, hnew] at hroot
      cases hroot
    have hthis : aggregate next.targets draws.tunnelId = "unknown" ↔
        ∃ item ∈ input.targetList, item.enabled = true := by
      rw [haggregate draws.tunnelId, hempty]
      split_ifs with hsome
      · exact iff_of_true rfl hsome.2
      · exact iff_of_false (by decide) fun hitem => hsome ⟨rfl, hitem⟩
    rw [show (∃ found, Except.ok next = (Except.ok found : Except JsError TunnelTables)) ↔ True
      from ⟨fun _ => trivial, fun _ => ⟨next, rfl⟩⟩, true_implies, ← hthis]
    constructor
    · intro hafter
      have hcolumn := hafter draws.tunnelId tunnel
        ((congrArg (fun rows => rows.get? draws.tunnelId) htunnels).trans
          (get?_set_self _ _ _))
      have hset := get?_set_self state.health draws.tunnelId "unknown"
      exact Option.some.inj (hcolumn.symm.trans hset)
    · intro hunknown other row hrow
      change next.tunnels.get? other = some row at hrow
      change (state.health.set draws.tunnelId "unknown").get? other =
        some (aggregate next.targets other)
      rw [htunnels, get?_set] at hrow
      rw [get?_set]
      split_ifs at hrow ⊢ with heq
      · rw [heq, hunknown]
      · rw [haggregate other, if_neg fun hsome => heq hsome.1.symm]
        exact h other row hrow

theorem aggregated_createTunnelTarget_iff {input : TunnelTables.TargetInput}
    (h : Aggregated state) :
    Aggregated (state.step env (.createTunnelTarget organizationId tunnelId id input)) ↔
      Unseen env state (.createTunnelTarget organizationId tunnelId id input) := by
  unfold Monitored.step Unseen
  dsimp only
  cases hcreate : state.tables.createTunnelTarget organizationId tunnelId id input with
  | error error => exact iff_of_true h (by rintro ⟨_, hok⟩; cases hok)
  | ok next =>
    obtain ⟨hnew, hroot, target, htunnel, henabled, hstatus, rfl⟩ :=
      row_createTunnelTarget hcreate
    have haggregate : ∀ other, aggregate (state.tables.targets.set id target) other =
        if target.tunnelId = other ∧ target.enabled = true then
          joinHealth target.healthStatus (aggregate state.tables.targets other)
        else aggregate state.tables.targets other := by
      intro other
      rw [aggregate_set, erase_of_get?_none hnew]
    have hsame := aggregated_iff_of_same (state.countNew { state.tables with
      targets := state.tables.targets.set id target }) h rfl rfl hroot fun other hother => by
        change aggregate (state.tables.targets.set id target) other = _
        rw [haggregate, if_neg fun hcounts => hother (htunnel ▸ hcounts.1)]
    refine hsame.trans ?_
    change aggregate (state.tables.targets.set id target) tunnelId = _ ↔ _
    rw [haggregate, htunnel, henabled, hstatus]
    by_cases hinput : input.enabled = true
    · rw [if_pos ⟨rfl, hinput⟩, joinHealth_unknown_eq_self_iff]
      exact ⟨fun hup _ _ => hup, fun hup => hup ⟨_, rfl⟩ hinput⟩
    · rw [if_neg fun hcounts => hinput hcounts.2]
      exact iff_of_true rfl fun _ hcounts => absurd hcounts hinput

theorem aggregated_updateTunnelTarget_iff {changes : Json} (hrooted : Rooted state)
    (h : Aggregated state) :
    Aggregated (state.step env (.updateTunnelTarget organizationId id changes)) ↔
      Unseen env state (.updateTunnelTarget organizationId id changes) := by
  unfold Monitored.step Unseen
  dsimp only
  cases hupdate : state.tables.updateTunnelTarget env organizationId id changes with
  | error error => exact iff_of_true h (by rintro ⟨_, hok⟩; cases hok)
  | ok found =>
    cases found with
    | none => exact iff_of_true h (by rintro ⟨_, hok⟩; cases hok)
    | some next =>
      obtain ⟨current, target, hcurrent, htunnel, hstatus, henabled, rfl⟩ :=
        row_updateTunnelTarget hupdate
      have hsame := aggregated_iff_of_same { state with tables := { state.tables with
        targets := state.tables.targets.set id target } } h rfl rfl
        (hrooted id current hcurrent) fun other hother => by
          rw [aggregate_set, aggregate_of_get? hcurrent, htunnel,
            if_neg fun hcounts => hother hcounts.1, if_neg fun hcounts => hother hcounts.1]
      refine hsame.trans ?_
      rw [aggregate_set, aggregate_of_get? hcurrent, htunnel, hstatus]
      have hchange : target.enabled ≠ current.enabled ↔
          ∃ v, changes.get? "enabled" = some v ∧ v.truthy ≠ current.enabled := by
        rw [henabled]
        cases changes.get? "enabled" with
        | none | some v => simp
      by_cases hkept : target.enabled = current.enabled
      · rw [hkept]
        refine iff_of_true rfl fun _ row v hrow hv hne => ?_
        rw [hcurrent] at hrow
        cases hrow
        exact absurd hkept (hchange.2 ⟨v, hv, hne⟩)
      · obtain ⟨v, hv, hne⟩ := hchange.1 hkept
        have hcovered : (∀ row v, state.tables.targets.get? id = some row →
            changes.get? "enabled" = some v → v.truthy ≠ row.enabled →
              Covered state.tables.targets row.tunnelId id row.healthStatus) ↔
            Covered state.tables.targets current.tunnelId id current.healthStatus := by
          constructor
          · exact fun hall => hall current v hcurrent hv hne
          · intro hone row other hrow _ _
            rw [hcurrent] at hrow
            cases hrow
            exact hone
        rw [show (∃ found, Except.ok (some { state.tables with
            targets := state.tables.targets.set id target }) =
            (Except.ok (some found) : Except JsError (Option TunnelTables))) ↔ True
          from ⟨fun _ => trivial, fun _ => ⟨_, rfl⟩⟩, true_implies, hcovered]
        unfold Covered
        cases hnow : target.enabled <;> cases hbefore : current.enabled
        · exact absurd (hnow.trans hbefore.symm) hkept
        · simp [eq_comm]
        · simp
        · exact absurd (hnow.trans hbefore.symm) hkept

theorem aggregated_deleteTunnelTarget_iff (hrooted : Rooted state) (h : Aggregated state) :
    Aggregated (state.step env (.deleteTunnelTarget organizationId id)) ↔
      Unseen env state (.deleteTunnelTarget organizationId id) := by
  unfold Monitored.step Unseen
  dsimp only
  cases hdelete : state.tables.deleteTunnelTarget organizationId id with
  | error error => exact iff_of_true h (by rintro ⟨_, hok⟩; cases hok)
  | ok found =>
    cases found with
    | none => exact iff_of_true h (by rintro ⟨_, hok⟩; cases hok)
    | some next =>
      obtain ⟨current, hcurrent, -, -, rfl⟩ := TunnelTables.deleteTunnelTarget_eq_ok hdelete
      have hsame := aggregated_iff_of_same { state with tables := { state.tables with
        targets := state.tables.targets.erase id } } h rfl rfl
        (hrooted id current hcurrent) fun other hother => by
          rw [aggregate_of_get? hcurrent, if_neg fun hcounts => hother hcounts.1]
      refine hsame.trans ?_
      rw [aggregate_of_get? hcurrent]
      by_cases henabled : current.enabled = true
      · rw [if_pos ⟨rfl, henabled⟩, eq_comm]
        constructor
        · intro hcovered _ row hrow _
          rw [hcurrent] at hrow
          cases hrow
          exact hcovered
        · exact fun hall => hall ⟨_, rfl⟩ current hcurrent henabled
      · rw [if_neg fun hcounts => henabled hcounts.2]
        refine iff_of_true rfl fun _ row hrow hcounts => ?_
        rw [hcurrent] at hrow
        cases hrow
        exact absurd hcounts henabled

theorem aggregated_updateTargetHealth {healthy : Bool} (h : Aggregated state) :
    Aggregated (state.step env (.updateTargetHealth id healthy)) := by
  unfold Monitored.step Monitored.updateTargetHealth
  dsimp only
  cases hcurrent : state.tables.targets.get? id with
  | none => exact h
  | some current =>
    dsimp only
    cases nodeThreshold env.host current.healthCheck "healthyThreshold" 2 with
    | error error => exact h
    | ok rise =>
      cases nodeThreshold env.host current.healthCheck "unhealthyThreshold" 3 with
      | error error => exact h
      | ok fall =>
        intro other row hrow
        have hother := h other row hrow
        by_cases heq : other = current.tunnelId
        · subst heq
          change OrdMap.get? (state.health.update _ _) _ = _
          rw [get?_update_self, hother]
          rfl
        · change OrdMap.get? (state.health.update _ _) _ = _
          rw [get?_update_of_ne _ heq, hother]
          apply congrArg some
          change _ = aggregate (state.tables.targets.set id _) other
          rw [aggregate_set, aggregate_of_get? hcurrent,
            if_neg fun hcounts => heq hcounts.1.symm,
            if_neg fun hcounts => heq hcounts.1.symm]

theorem aggregated_step_iff (hrooted : Rooted state) (h : Aggregated state)
    (event : MonitorEvent) : Aggregated (state.step env event) ↔ Unseen env state event := by
  cases event with
  | createTunnel organizationId draws input => exact aggregated_createTunnel_iff hrooted h
  | createTunnelTarget organizationId tunnelId id input =>
    exact aggregated_createTunnelTarget_iff h
  | updateTunnelTarget organizationId id changes =>
    exact aggregated_updateTunnelTarget_iff hrooted h
  | deleteTunnelTarget organizationId id => exact aggregated_deleteTunnelTarget_iff hrooted h
  | updateTargetHealth id healthy => exact iff_of_true (aggregated_updateTargetHealth h) trivial

theorem rooted_step (h : Rooted state) {event : MonitorEvent} : Rooted (state.step env event) := by
  unfold Monitored.step
  cases event with
  | createTunnel organizationId draws input =>
    dsimp only
    cases hcreate : state.tables.createTunnel env organizationId draws input with
    | error error => exact h
    | ok next =>
      obtain ⟨-, -, inserted, hinserted, hadded⟩ := TunnelTables.createTunnel_eq_ok hcreate
      obtain ⟨-, tunnel, -, -, -, -, -, -, -, rfl⟩ :=
        TunnelTables.insertTunnel_eq_ok hinserted
      intro key target htarget
      change (next.tunnels.get? target.tunnelId).isSome
      rw [hadded.tunnels, get?_set]
      split_ifs with hnew
      · rfl
      · rcases hadded.found key target htarget with hold | hcreated
        · exact h key target hold
        · exact absurd hcreated.tunnel hnew
  | createTunnelTarget organizationId tunnelId id input =>
    dsimp only
    cases hcreate : state.tables.createTunnelTarget organizationId tunnelId id input with
    | error error => exact h
    | ok next =>
      obtain ⟨-, hroot, target, htunnel, -, -, rfl⟩ := row_createTunnelTarget hcreate
      exact rooted_set h rfl rfl (htunnel ▸ hroot)
  | updateTunnelTarget organizationId id changes =>
    dsimp only
    split
    · rename_i next hupdate
      obtain ⟨current, target, hcurrent, htunnel, -, -, rfl⟩ := row_updateTunnelTarget hupdate
      exact rooted_set h rfl rfl (htunnel ▸ h id current hcurrent)
    · exact h
  | deleteTunnelTarget organizationId id =>
    dsimp only
    split
    · rename_i next hdelete
      obtain ⟨current, -, -, -, rfl⟩ := TunnelTables.deleteTunnelTarget_eq_ok hdelete
      intro key target htarget
      exact h key target (get?_of_get?_erase htarget).2
    · exact h
  | updateTargetHealth id healthy =>
    dsimp only
    split
    · rename_i next hprobe
      unfold Monitored.updateTargetHealth at hprobe
      split at hprobe
      · cases hprobe
      · rename_i current hcurrent
        obtain ⟨rise, -, hprobe⟩ := bind_eq_ok.1 hprobe
        obtain ⟨fall, -, hprobe⟩ := bind_eq_ok.1 hprobe
        cases hprobe
        exact rooted_set h rfl rfl (h id current hcurrent)
    · exact h

/-! ## Runs -/

/-- From a store without tunnels, the health of the tunnels is the aggregate of their targets in
every state of a run exactly when no operation of the run shows in an aggregate. -/
theorem aggregated_throughout_iff {start : Monitored} (htunnels : start.tables.tunnels = .empty)
    (htargets : start.tables.targets = .empty) (events : List MonitorEvent) :
    Throughout (Monitored.step env) Aggregated start events ↔
      Along (Monitored.step env) (Unseen env) start events := by
  have hrooted : Rooted start := by
    intro key target htarget
    rw [htargets] at htarget
    cases htarget
  have hstart : Aggregated start := by
    intro key tunnel htunnel
    rw [htunnels] at htunnel
    cases htunnel
  have hexact := @throughout_and_along_iff _ _ (Monitored.step env) Rooted Aggregated Always
    (Unseen env) (fun state event hroot hsound => by
      rw [← aggregated_step_iff hroot hsound]
      exact and_iff_left trivial)
    (fun state event hroot _ => rooted_step hroot) start events hrooted hstart
  exact (and_iff_left (along_always _ _ _)).symm.trans hexact

def emptyMonitored : Monitored := ⟨TunnelTables.emptyTables, .empty, fun _ => (0, 0)⟩

def switchedOff : List MonitorEvent :=
  [.createTunnel "o1" TunnelTables.plainDraws TunnelTables.plainInput,
    .updateTunnelTarget "o1" "g0" (.obj [("enabled", .bool false)])]

/-- The tunnel keeps `unknown`, although it has no enabled target. -/
theorem not_aggregated_switchedOff : ¬ ∀ start : Monitored, start.tables.tunnels = .empty →
    start.tables.targets = .empty → ∀ events,
      Throughout (Monitored.step .plain) Aggregated start events := by
  intro h
  have hlast := (h emptyMonitored rfl rfl switchedOff).last
  have htunnel : ((run (Monitored.step .plain) emptyMonitored switchedOff).tables.tunnels.get?
      "t1").isSome := by decide +kernel
  obtain ⟨tunnel, htunnel⟩ := Option.isSome_iff_exists.1 htunnel
  have hcolumn : (run (Monitored.step .plain) emptyMonitored switchedOff).health.get? "t1" =
      some "unknown" := by decide +kernel
  have haggregate : aggregate
      (run (Monitored.step .plain) emptyMonitored switchedOff).tables.targets "t1" =
      "unhealthy" := by decide +kernel
  have hsound := hlast "t1" tunnel htunnel
  rw [hcolumn, haggregate] at hsound
  exact absurd hsound (by decide)

theorem aggregated_throughout_iff_switchedOff :
    Throughout (Monitored.step .plain) Aggregated emptyMonitored switchedOff ↔
      Along (Monitored.step .plain) (Unseen .plain) emptyMonitored switchedOff :=
  aggregated_throughout_iff rfl rfl switchedOff

end Tunnara.Planes
