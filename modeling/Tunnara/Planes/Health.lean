/-
# How the two planes judge health

`updateTargetHealth` of the Node plane and `ClusterController::targetHealth` of Laravel
count probes in a row and change the status when a threshold is reached; then they
set the health of the tunnel. They differ in how they read the thresholds.

A probe is one that Laravel's validation accepts. Its latency is stored by Laravel only
and read by neither, and is left out.
-/

import Tunnara.Control.Tunnels
import Tunnara.Policy.Engine
import Mathlib.Algebra.Order.Floor.Ring
import Mathlib.Data.Rat.Floor

namespace Tunnara.Planes

open Policy Transition OrdMap

/-! ## The columns -/

/-- The health columns of `tunnel_targets`. -/
structure Health where
  status : String
  successes : ℕ
  failures : ℕ
  lastError : Option String

def Health.fresh : Health := ⟨"unknown", 0, 0, none⟩

structure HealthRow where
  tunnelId : String
  enabled : Bool
  healthCheck : Json
  health : Health

/-- The targets, and the column `health_status` of the tunnels. -/
structure HealthTables where
  targets : OrdMap String HealthRow
  tunnels : OrdMap String String

structure Probe where
  healthy : Bool
  error : Option String
  error_length : ∀ text ∈ error, text.length ≤ 4000

/-- Count a probe; `rise` and `fall` say whether a count reaches the threshold. -/
def Health.update (rise fall : ℕ → Bool) (healthy : Bool) (lastError : Option String)
    (health : Health) : Health :=
  let successes := if healthy then health.successes + 1 else 0
  let failures := if healthy then 0 else health.failures + 1
  { status :=
      if healthy && rise successes then "healthy"
      else if !healthy && fall failures then "unhealthy"
      else health.status
    successes, failures, lastError }

/-- Store the new columns, and then the health of the tunnel. -/
def HealthTables.record (aggregate : OrdMap String HealthRow → String → String)
    (tables : HealthTables) (id : String) (row : HealthRow) (health : Health) : HealthTables :=
  let targets := tables.targets.set id { row with health }
  { targets, tunnels := tables.tunnels.update row.tunnelId fun _ => aggregate targets row.tunnelId }

/-! ## The Node plane -/

section Node

variable (host : Host)

/-- `Math.max(1, Number(health[key] || d))`. -/
def nodeThreshold (check : Json) (key : String) (d : ℚ) : Except JsError JsNumber := do
  let value ← property (some check) key
  return (← numberOr host value d).max 1

/-- The `CASE` of the second statement. -/
def nodeAggregate (targets : OrdMap String HealthRow) (tunnelId : String) : String :=
  let exists_ (status : String) := targets.entries.any fun e =>
    e.2.tunnelId = tunnelId && e.2.enabled && e.2.health.status = status
  if exists_ "healthy" then "healthy" else if exists_ "unknown" then "unknown" else "unhealthy"

/-- `none` when there is no such target. -/
def updateTargetHealth (tables : HealthTables) (id : String) (probe : Probe) :
    Except JsError (Option HealthTables) :=
  match tables.targets.get? id with
  | none => .ok none
  | some current => do
    let healthyThreshold ← nodeThreshold host current.healthCheck "healthyThreshold" 2
    let unhealthyThreshold ← nodeThreshold host current.healthCheck "unhealthyThreshold" 3
    let health := current.health.update (fun n => healthyThreshold.atMost n)
      (fun n => unhealthyThreshold.atMost n) probe.healthy probe.error
    return some (tables.record nodeAggregate id current health)

/-- An operation that throws leaves the tables as they are. -/
def nodeStep (id : String) (tables : HealthTables) (probe : Probe) : HealthTables :=
  match updateTargetHealth host tables id probe with
  | .ok (some next) => next
  | _ => tables

end Node

/-! ## The Laravel plane -/

section Laravel

-- `(int) $value` of PHP
variable (intval : Json → ℤ)

/-- `max(1, (int)($check[$camel] ?? $check[$snake] ?? $d))`; a scalar is no array. -/
def laravelThreshold (check : Json) (camel snake : String) (d : ℚ) : ℤ :=
  max 1 (intval (Control.nullish (check.get? camel) (Control.nullish (check.get? snake) (.num d))))

def laravelAggregate (targets : OrdMap String HealthRow) (tunnelId : String) : String :=
  let statuses := ((targets.entries.map Prod.snd).filter fun row =>
    row.tunnelId = tunnelId && row.enabled).map fun row => row.health.status
  if "healthy" ∈ statuses then "healthy" else if "unknown" ∈ statuses then "unknown"
  else "unhealthy"

/-- `none` is the 404 of a target that does not exist. -/
def targetHealth (tables : HealthTables) (id : String) (probe : Probe) : Option HealthTables :=
  (tables.targets.get? id).map fun target =>
    let check := target.healthCheck
    let healthyThreshold := laravelThreshold intval check "healthyThreshold" "healthy_threshold" 1
    let unhealthyThreshold :=
      laravelThreshold intval check "unhealthyThreshold" "unhealthy_threshold" 2
    let lastError := if probe.healthy then none else some (probe.error.getD "health_check_failed")
    tables.record laravelAggregate id target
      (target.health.update (fun n => healthyThreshold ≤ n) (fun n => unhealthyThreshold ≤ n)
        probe.healthy lastError)

def laravelStep (id : String) (tables : HealthTables) (probe : Probe) : HealthTables :=
  (targetHealth intval tables id probe).getD tables

end Laravel

/-! ## The promise -/

/-- The columns without the text of the last error. -/
def Health.judged (health : Health) : Health := { health with lastError := none }

def HealthRow.judged (row : HealthRow) : HealthRow := { row with health := row.health.judged }

/-- The same status and counters of every target, and the same health of every tunnel. -/
structure SameHealth (node laravel : HealthTables) : Prop where
  target : ∀ id, (node.targets.get? id).map HealthRow.judged =
    (laravel.targets.get? id).map HealthRow.judged
  tunnel : ∀ id, node.tunnels.get? id = laravel.tunnels.get? id

/-- A configuration whose thresholds, as far as it has them, are positive numbers. -/
structure IsHealthCheck (check : Json) : Prop where
  object : ∃ fields, check = .obj fields
  positive : ∀ key ∈ ["healthyThreshold", "healthy_threshold", "unhealthyThreshold",
    "unhealthy_threshold"], ∀ v, check.get? key = some v → ∃ q : ℚ, 0 < q ∧ v = .num q

/-- The number that the Node plane counts to. -/
def nodeCount (check : Json) (key : String) (d : ℚ) : ℤ :=
  match check.get? key with
  | some (.num q) => ⌈max 1 q⌉
  | _ => ⌈max 1 d⌉

/-- **The condition**: both planes count to the same numbers. -/
def SameThresholds (intval : Json → ℤ) (check : Json) : Prop :=
  nodeCount check "healthyThreshold" 2 =
      laravelThreshold intval check "healthyThreshold" "healthy_threshold" 1 ∧
    nodeCount check "unhealthyThreshold" 3 =
      laravelThreshold intval check "unhealthyThreshold" "unhealthy_threshold" 2

/-! ## One probe -/

/-- Count with whole thresholds. -/
def Health.count (rise fall : ℤ) (healthy : Bool) (lastError : Option String) (health : Health) :
    Health :=
  health.update (fun n => rise ≤ n) (fun n => fall ≤ n) healthy lastError

variable {host : Host} {intval : Json → ℤ} {tables : HealthTables} {id : String}
  {row : HealthRow} {targets : OrdMap String HealthRow} {tunnelId : String}

theorem nodeThreshold_eq {check : Json} (hcheck : IsHealthCheck check) {key : String}
    (hkey : key ∈ ["healthyThreshold", "healthy_threshold", "unhealthyThreshold",
      "unhealthy_threshold"]) (d : ℚ) :
    ∃ q : ℚ, nodeThreshold host check key d = .ok (.fin (max 1 q)) ∧
      nodeCount check key d = ⌈max 1 q⌉ := by
  obtain ⟨fields, rfl⟩ := hcheck.object
  unfold nodeThreshold nodeCount
  cases hvalue : (Json.obj fields).get? key with
  | none =>
    refine ⟨d, ?_, rfl⟩
    simp only [property, hvalue]
    rfl
  | some v =>
    obtain ⟨q, hq, rfl⟩ := hcheck.positive key hkey v hvalue
    refine ⟨q, ?_, rfl⟩
    have htruthy : (Json.num q).truthy = true := decide_eq_true hq.ne'
    simp only [property, hvalue]
    change ((if (Json.num q).truthy then Json.num q else Json.num d).toNumber host >>=
      fun n => pure (n.max 1)) = _
    rw [if_pos htruthy]
    rfl

theorem atMost_eq (q : ℚ) (n : ℕ) : (JsNumber.fin q).atMost n = decide (⌈q⌉ ≤ (n : ℤ)) := by
  apply decide_eq_decide.2
  rw [Int.ceil_le, Int.cast_natCast]

theorem nodeStep_eq (hrow : tables.targets.get? id = some row)
    (hcheck : IsHealthCheck row.healthCheck) (probe : Probe) :
    nodeStep host id tables probe = tables.record nodeAggregate id row
      (row.health.count (nodeCount row.healthCheck "healthyThreshold" 2)
        (nodeCount row.healthCheck "unhealthyThreshold" 3) probe.healthy probe.error) := by
  obtain ⟨rise, hrise, hriseCount⟩ :=
    @nodeThreshold_eq host _ hcheck "healthyThreshold" (by simp) 2
  obtain ⟨fall, hfall, hfallCount⟩ :=
    @nodeThreshold_eq host _ hcheck "unhealthyThreshold" (by simp) 3
  have hupdate : updateTargetHealth host tables id probe = .ok (some (tables.record nodeAggregate
      id row (row.health.count (nodeCount row.healthCheck "healthyThreshold" 2)
        (nodeCount row.healthCheck "unhealthyThreshold" 3) probe.healthy probe.error))) := by
    unfold updateTargetHealth
    rw [hrow]
    dsimp only
    rw [hrise, hfall]
    change Except.ok _ = _
    simp only [atMost_eq, hriseCount, hfallCount, Health.count]
  unfold nodeStep
  rw [hupdate]

theorem laravelStep_eq (hrow : tables.targets.get? id = some row) (probe : Probe) :
    laravelStep intval id tables probe = tables.record laravelAggregate id row
      (row.health.count
        (laravelThreshold intval row.healthCheck "healthyThreshold" "healthy_threshold" 1)
        (laravelThreshold intval row.healthCheck "unhealthyThreshold" "unhealthy_threshold" 2)
        probe.healthy
        (if probe.healthy then none else some (probe.error.getD "health_check_failed"))) := by
  unfold laravelStep targetHealth
  rw [hrow]
  rfl

/-! ## The health of a tunnel -/

def Has (targets : OrdMap String HealthRow) (tunnelId status : String) : Prop :=
  ∃ key row, targets.get? key = some row ∧ row.tunnelId = tunnelId ∧ row.enabled = true ∧
    row.health.status = status

theorem nodeAggregate_eq [∀ status, Decidable (Has targets tunnelId status)] :
    nodeAggregate targets tunnelId = if Has targets tunnelId "healthy" then "healthy"
      else if Has targets tunnelId "unknown" then "unknown" else "unhealthy" := by
  have hany : ∀ status, (targets.entries.any fun e => e.2.tunnelId = tunnelId && e.2.enabled &&
      e.2.health.status = status) = true ↔ Has targets tunnelId status := by
    intro status
    rw [List.any_eq_true]
    constructor
    · rintro ⟨e, he, hstatus⟩
      simp only [Bool.and_eq_true, decide_eq_true_eq] at hstatus
      exact ⟨e.1, e.2, get?_eq_some_iff.2 he, hstatus.1.1, hstatus.1.2, hstatus.2⟩
    · rintro ⟨key, row, hrow, htunnel, henabled, hstatus⟩
      refine ⟨(key, row), get?_eq_some_iff.1 hrow, ?_⟩
      simp only [Bool.and_eq_true, decide_eq_true_eq]
      exact ⟨⟨htunnel, henabled⟩, hstatus⟩
  unfold nodeAggregate
  simp only [hany]

theorem laravelAggregate_eq [∀ status, Decidable (Has targets tunnelId status)] :
    laravelAggregate targets tunnelId = if Has targets tunnelId "healthy" then "healthy"
      else if Has targets tunnelId "unknown" then "unknown" else "unhealthy" := by
  have hmem : ∀ status, status ∈ ((targets.entries.map Prod.snd).filter fun row =>
      row.tunnelId = tunnelId && row.enabled).map (fun row => row.health.status) ↔
      Has targets tunnelId status := by
    intro status
    simp only [List.mem_map, List.mem_filter, Bool.and_eq_true, decide_eq_true_eq]
    constructor
    · rintro ⟨row, ⟨⟨e, he, rfl⟩, htunnel, henabled⟩, hstatus⟩
      exact ⟨e.1, e.2, get?_eq_some_iff.2 he, htunnel, henabled, hstatus⟩
    · rintro ⟨key, row, hrow, htunnel, henabled, hstatus⟩
      exact ⟨row, ⟨⟨(key, row), get?_eq_some_iff.1 hrow, rfl⟩, htunnel, henabled⟩, hstatus⟩
  unfold laravelAggregate
  simp only [hmem]

/-! ## A run of probes -/

theorem judged_eq_iff {other : HealthRow} : row.judged = other.judged ↔
    row.tunnelId = other.tunnelId ∧ row.enabled = other.enabled ∧
      row.healthCheck = other.healthCheck ∧ row.health.judged = other.health.judged := by
  simp only [HealthRow.judged, HealthRow.mk.injEq]

theorem Health.status_of_judged {first second : Health} (h : first.judged = second.judged) :
    first.status = second.status := by
  simp only [Health.judged, Health.mk.injEq] at h
  exact h.1

theorem judged_count (rise fall : ℤ) (healthy : Bool) (error : Option String) (health : Health) :
    (health.count rise fall healthy error).judged = health.judged.count rise fall healthy none :=
  rfl

section

variable {other : OrdMap String HealthRow}
  (h : ∀ key, (targets.get? key).map HealthRow.judged = (other.get? key).map HealthRow.judged)
include h

theorem has_congr {status : String} (hhas : Has targets tunnelId status) :
    Has other tunnelId status := by
  obtain ⟨key, row, hrow, htunnel, henabled, hstatus⟩ := hhas
  have hkey := h key
  rw [hrow, Option.map_some] at hkey
  obtain ⟨found, hfound, hsame⟩ := Option.map_eq_some_iff.1 hkey.symm
  obtain ⟨hsameTunnel, hsameEnabled, -, hhealth⟩ := judged_eq_iff.1 hsame
  exact ⟨key, found, hfound, hsameTunnel.trans htunnel, hsameEnabled.trans henabled,
    (Health.status_of_judged hhealth).trans hstatus⟩

theorem aggregate_congr : nodeAggregate targets tunnelId = laravelAggregate other tunnelId := by
  classical
  have hhas : ∀ status, Has targets tunnelId status ↔ Has other tunnelId status := fun status =>
    ⟨has_congr h, has_congr fun key => (h key).symm⟩
  rw [nodeAggregate_eq, laravelAggregate_eq]
  simp only [hhas]

end

variable {laravel : HealthTables}

theorem sameHealth_record {other : HealthRow} {first second : Health}
    (h : SameHealth tables laravel) (hrow : row.judged = other.judged)
    (hhealth : first.judged = second.judged) :
    SameHealth (tables.record nodeAggregate id row first)
      (laravel.record laravelAggregate id other second) := by
  obtain ⟨htunnel, henabled, hcheck, -⟩ := judged_eq_iff.1 hrow
  have hstored : ({ row with health := first } : HealthRow).judged =
      ({ other with health := second } : HealthRow).judged :=
    judged_eq_iff.2 ⟨htunnel, henabled, hcheck, hhealth⟩
  have htargets : ∀ key,
      ((tables.targets.set id { row with health := first }).get? key).map HealthRow.judged =
        ((laravel.targets.set id { other with health := second }).get? key).map
          HealthRow.judged := by
    intro key
    rw [get?_set, get?_set]
    split_ifs
    · exact congrArg some hstored
    · exact h.target key
  constructor
  case target => exact htargets
  case tunnel =>
    intro key
    have haggregate := @aggregate_congr _ row.tunnelId _ htargets
    unfold HealthTables.record
    dsimp only
    rw [haggregate, ← htunnel]
    generalize laravelAggregate _ row.tunnelId = status
    by_cases hkey : key = row.tunnelId
    · subst hkey
      rw [get?_update_self, get?_update_self, h.tunnel]
    · rw [get?_update_of_ne _ hkey, get?_update_of_ne _ hkey, h.tunnel]

theorem sameHealth_step (h : SameHealth tables laravel)
    (hrow : tables.targets.get? id = some row) (hcheck : IsHealthCheck row.healthCheck)
    (hsame : SameThresholds intval row.healthCheck) {probe : Probe} :
    SameHealth (nodeStep host id tables probe) (laravelStep intval id laravel probe) := by
  have hkey := h.target id
  rw [hrow, Option.map_some] at hkey
  obtain ⟨other, hother, hjudged⟩ := Option.map_eq_some_iff.1 hkey.symm
  obtain ⟨-, -, hothercheck, hhealth⟩ := judged_eq_iff.1 hjudged
  rw [nodeStep_eq hrow hcheck, laravelStep_eq hother, hothercheck, ← hsame.1, ← hsame.2]
  apply sameHealth_record h hjudged.symm
  rw [judged_count, judged_count, hhealth]

theorem get?_nodeStep (hrow : tables.targets.get? id = some row)
    (hcheck : IsHealthCheck row.healthCheck) (probe : Probe) :
    (nodeStep host id tables probe).targets.get? id = some { row with
      health := row.health.count (nodeCount row.healthCheck "healthyThreshold" 2)
        (nodeCount row.healthCheck "unhealthyThreshold" 3) probe.healthy probe.error } := by
  rw [nodeStep_eq hrow hcheck]
  exact get?_set_self _ _ _

theorem get?_laravelStep (hrow : tables.targets.get? id = some row) (probe : Probe) :
    (laravelStep intval id tables probe).targets.get? id = some { row with
      health := row.health.count
        (laravelThreshold intval row.healthCheck "healthyThreshold" "healthy_threshold" 1)
        (laravelThreshold intval row.healthCheck "unhealthyThreshold" "unhealthy_threshold" 2)
        probe.healthy
        (if probe.healthy then none else some (probe.error.getD "health_check_failed")) } := by
  rw [laravelStep_eq hrow]
  exact get?_set_self _ _ _

theorem sameHealth_run (h : SameHealth tables laravel) (hrow : tables.targets.get? id = some row)
    (hcheck : IsHealthCheck row.healthCheck) (hsame : SameThresholds intval row.healthCheck)
    {probes : List Probe} :
    SameHealth (run (nodeStep host id) tables probes)
      (run (laravelStep intval id) laravel probes) := by
  induction probes generalizing tables laravel row with
  | nil => exact h
  | cons probe probes ih =>
    exact ih (sameHealth_step h hrow hcheck hsame) (get?_nodeStep hrow hcheck probe) hcheck
      hsame

/-! ## Telling the thresholds apart -/

/-- The counter that probes of one outcome raise. -/
def Health.counter (healthy : Bool) (health : Health) : ℕ :=
  if healthy then health.successes else health.failures

/-- The status that they lead to. -/
def verdict (healthy : Bool) : String := if healthy then "healthy" else "unhealthy"

/-- The threshold that they count to. -/
def bound (rise fall : ℤ) (healthy : Bool) : ℤ := if healthy then rise else fall

theorem status_count {rise fall : ℤ} {healthy : Bool} {error : Option String} {health : Health}
    {n : ℕ} (hcounter : health.counter healthy = n)
    (hstatus : health.status = if bound rise fall healthy ≤ n then verdict healthy else "unknown") :
    (health.count rise fall healthy error).counter healthy = n + 1 ∧
      (health.count rise fall healthy error).status =
        if bound rise fall healthy ≤ (n + 1 : ℕ) then verdict healthy else "unknown" := by
  cases healthy with
  | true =>
    have hn : health.successes = n := hcounter
    refine ⟨congrArg (· + 1) hn, ?_⟩
    change (if decide (rise ≤ ((health.successes + 1 : ℕ) : ℤ)) then "healthy"
      else health.status) = if rise ≤ ((n + 1 : ℕ) : ℤ) then "healthy" else "unknown"
    rw [hn]
    by_cases hreached : rise ≤ ((n + 1 : ℕ) : ℤ)
    · rw [if_pos (decide_eq_true hreached), if_pos hreached]
    · have hbefore : ¬rise ≤ (n : ℤ) := fun hle => hreached (by push_cast; omega)
      rw [if_neg (mt of_decide_eq_true hreached), if_neg hreached, hstatus]
      exact if_neg hbefore
  | false =>
    have hn : health.failures = n := hcounter
    refine ⟨congrArg (· + 1) hn, ?_⟩
    change (if decide (fall ≤ ((health.failures + 1 : ℕ) : ℤ)) then "unhealthy"
      else health.status) = if fall ≤ ((n + 1 : ℕ) : ℤ) then "unhealthy" else "unknown"
    rw [hn]
    by_cases hreached : fall ≤ ((n + 1 : ℕ) : ℤ)
    · rw [if_pos (decide_eq_true hreached), if_pos hreached]
    · have hbefore : ¬fall ≤ (n : ℤ) := fun hle => hreached (by push_cast; omega)
      rw [if_neg (mt of_decide_eq_true hreached), if_neg hreached, hstatus]
      exact if_neg hbefore

theorem status_replicate {step : HealthTables → Probe → HealthTables} {rise fall : ℤ}
    {check : Json} {probe : Probe}
    (hstep : ∀ tables row, tables.targets.get? id = some row → row.healthCheck = check →
      ∃ error, (step tables probe).targets.get? id = some { row with
        health := row.health.count rise fall probe.healthy error })
    (hone : 1 ≤ bound rise fall probe.healthy) (hrow : tables.targets.get? id = some row)
    (hcheck : row.healthCheck = check) (hfresh : row.health = .fresh) (n : ℕ) :
    ∃ found, (run step tables (List.replicate n probe)).targets.get? id = some found ∧
      found.healthCheck = check ∧ found.health.counter probe.healthy = n ∧
      found.health.status =
        if bound rise fall probe.healthy ≤ n then verdict probe.healthy else "unknown" := by
  induction n with
  | zero =>
    refine ⟨row, hrow, hcheck, ?_, ?_⟩
    · rw [hfresh]
      exact ite_self _
    · rw [hfresh, if_neg (by push_cast; omega)]
      rfl
  | succ n ih =>
    obtain ⟨found, hfound, hfoundCheck, hcounter, hstatus⟩ := ih
    obtain ⟨error, hnext⟩ := hstep _ found hfound hfoundCheck
    rw [List.replicate_succ', run_append, run_cons, run_nil]
    exact ⟨_, hnext, hfoundCheck, status_count hcounter hstatus⟩

theorem one_le_nodeCount {check : Json} {key : String} {d : ℚ} : 1 ≤ nodeCount check key d := by
  have hone : ∀ q : ℚ, 1 ≤ ⌈max 1 q⌉ := fun q =>
    Int.one_le_ceil_iff.2 (lt_of_lt_of_le zero_lt_one (le_max_left 1 q))
  unfold nodeCount
  split
  · exact hone _
  · exact hone _

theorem eq_of_status {node laravel : ℤ} {word : String} (hword : word ≠ "unknown")
    (hnode : 1 ≤ node) (hlaravel : 1 ≤ laravel)
    (h : ∀ n : ℕ, (if node ≤ n then word else "unknown") =
      if laravel ≤ n then word else "unknown") : node = laravel := by
  have hiff : ∀ n : ℕ, node ≤ n ↔ laravel ≤ n := by
    intro n
    have hn := h n
    split_ifs at hn with hfirst hsecond hsecond
    · exact iff_of_true hfirst hsecond
    · exact absurd hn hword
    · exact absurd hn.symm hword
    · exact iff_of_false hfirst hsecond
  have hfirst := (hiff node.toNat).1 (by omega)
  have hsecond := (hiff laravel.toNat).2 (by omega)
  omega

theorem sameThreshold_of_run {probe : Probe} (hrow : tables.targets.get? id = some row)
    (hcheck : IsHealthCheck row.healthCheck) (hfresh : row.health = .fresh)
    (hsame : ∀ probes, SameHealth (run (nodeStep host id) tables probes)
      (run (laravelStep intval id) tables probes)) :
    bound (nodeCount row.healthCheck "healthyThreshold" 2)
        (nodeCount row.healthCheck "unhealthyThreshold" 3) probe.healthy =
      bound (laravelThreshold intval row.healthCheck "healthyThreshold" "healthy_threshold" 1)
        (laravelThreshold intval row.healthCheck "unhealthyThreshold" "unhealthy_threshold" 2)
        probe.healthy := by
  have hnodeOne : 1 ≤ bound (nodeCount row.healthCheck "healthyThreshold" 2)
      (nodeCount row.healthCheck "unhealthyThreshold" 3) probe.healthy := by
    unfold bound
    split_ifs
    · exact one_le_nodeCount
    · exact one_le_nodeCount
  have hlaravelOne : 1 ≤ bound
      (laravelThreshold intval row.healthCheck "healthyThreshold" "healthy_threshold" 1)
      (laravelThreshold intval row.healthCheck "unhealthyThreshold" "unhealthy_threshold" 2)
      probe.healthy := by
    unfold bound
    split_ifs
    · exact le_max_left _ _
    · exact le_max_left _ _
  have hword : verdict probe.healthy ≠ "unknown" := by
    unfold verdict
    split_ifs
    · decide
    · decide
  refine eq_of_status hword hnodeOne hlaravelOne fun n => ?_
  have hnodeStep : ∀ (tables : HealthTables) (found : HealthRow),
      tables.targets.get? id = some found → found.healthCheck = row.healthCheck →
      ∃ error, (nodeStep host id tables probe).targets.get? id = some { found with
        health := found.health.count (nodeCount row.healthCheck "healthyThreshold" 2)
          (nodeCount row.healthCheck "unhealthyThreshold" 3) probe.healthy error } := by
    intro tables found hfound hsameCheck
    have hfoundCheck : IsHealthCheck found.healthCheck := hsameCheck.symm ▸ hcheck
    refine ⟨probe.error, ?_⟩
    rw [get?_nodeStep hfound hfoundCheck, hsameCheck]
  have hlaravelStep : ∀ (tables : HealthTables) (found : HealthRow),
      tables.targets.get? id = some found → found.healthCheck = row.healthCheck →
      ∃ error, (laravelStep intval id tables probe).targets.get? id = some { found with
        health := found.health.count
          (laravelThreshold intval row.healthCheck "healthyThreshold" "healthy_threshold" 1)
          (laravelThreshold intval row.healthCheck "unhealthyThreshold" "unhealthy_threshold" 2)
          probe.healthy error } := by
    intro tables found hfound hsameCheck
    refine ⟨if probe.healthy then none else some (probe.error.getD "health_check_failed"), ?_⟩
    rw [get?_laravelStep hfound, hsameCheck]
  obtain ⟨first, hfirst, -, -, hfirstStatus⟩ :=
    status_replicate hnodeStep hnodeOne hrow rfl hfresh n
  obtain ⟨second, hsecond, -, -, hsecondStatus⟩ :=
    status_replicate hlaravelStep hlaravelOne hrow rfl hfresh n
  have hkey := (hsame (List.replicate n probe)).target id
  rw [hfirst, hsecond] at hkey
  have hjudged : first.judged = second.judged := Option.some.inj hkey
  rw [← hfirstStatus, ← hsecondStatus]
  exact Health.status_of_judged (judged_eq_iff.1 hjudged).2.2.2

/-- **The planes judge alike** for every sequence of probes exactly if they count to the same
numbers. -/
theorem sameHealth_iff (hrow : tables.targets.get? id = some row)
    (hcheck : IsHealthCheck row.healthCheck) (hfresh : row.health = .fresh) :
    (∀ probes, SameHealth (run (nodeStep host id) tables probes)
      (run (laravelStep intval id) tables probes)) ↔ SameThresholds intval row.healthCheck := by
  constructor
  · intro h
    exact ⟨@sameThreshold_of_run _ _ _ _ _ ⟨true, none, nofun⟩ hrow hcheck hfresh h,
      @sameThreshold_of_run _ _ _ _ _ ⟨false, none, nofun⟩ hrow hcheck hfresh h⟩
  · intro h probes
    exact sameHealth_run ⟨fun _ => rfl, fun _ => rfl⟩ hrow hcheck h

/-- `(int)` of a number that fits. -/
def intOfNumber : Json → ℤ
  | .num q => Int.tdiv q.num q.den
  | _ => 0

/-- One fresh target of a tunnel. -/
def freshTables (check : Json) : HealthTables where
  targets := OrdMap.empty.set "g1" ⟨"t1", true, check, .fresh⟩
  tunnels := OrdMap.empty.set "t1" "unknown"

theorem not_sameHealth_default : ¬ ∀ check, IsHealthCheck check → ∀ probes,
    SameHealth (run (nodeStep .plain "g1") (freshTables check) probes)
      (run (laravelStep intOfNumber "g1") (freshTables check) probes) := by
  intro h
  have htunnel := (h (.obj []) ⟨⟨_, rfl⟩, fun _ _ _ hv => nomatch hv⟩ [⟨true, none, nofun⟩]).tunnel "t1"
  exact absurd htunnel (by decide +kernel)

/-- The configuration that the Node plane writes by default. -/
def defaultCheck : Json := .obj [("healthyThreshold", .num 2), ("unhealthyThreshold", .num 3)]

theorem isHealthCheck_default : IsHealthCheck defaultCheck := by
  constructor
  case object => exact ⟨_, rfl⟩
  case positive =>
    intro key hkey v hv
    simp only [List.mem_cons, List.not_mem_nil, or_false] at hkey
    rcases hkey with rfl | rfl | rfl | rfl
    · cases hv
      exact ⟨2, by decide, rfl⟩
    · cases hv
    · cases hv
      exact ⟨3, by decide, rfl⟩
    · cases hv

theorem sameHealth_default :
    (freshTables defaultCheck).targets.get? "g1" = some ⟨"t1", true, defaultCheck, .fresh⟩ ∧
      IsHealthCheck defaultCheck ∧
      ∀ probes, SameHealth (run (nodeStep .plain "g1") (freshTables defaultCheck) probes)
        (run (laravelStep intOfNumber "g1") (freshTables defaultCheck) probes) := by
  have hrow : (freshTables defaultCheck).targets.get? "g1" =
      some ⟨"t1", true, defaultCheck, .fresh⟩ := rfl
  refine ⟨hrow, isHealthCheck_default, (sameHealth_iff hrow isHealthCheck_default rfl).2 ?_⟩
  exact ⟨by decide +kernel, by decide +kernel⟩

end Tunnara.Planes
