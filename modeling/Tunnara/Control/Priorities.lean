/-
# The priorities that clients give to targets

`createTunnelTarget` stores a priority of zero as 100, `updateTunnelTarget` stores it as it is,
and `selectTunnelTarget` reads a stored zero as 100. A ledger keeps what was given beside what is
stored; along every run the two are read alike.
-/

import Mathlib.Algebra.Order.Ring.Unbundled.Rat
import Mathlib.Logic.Function.Basic
import Tunnara.Control.Integrity

namespace Tunnara.Control

open Transition OrdMap

namespace TunnelTables

/-- The tables, and the priority that was given last for each target. -/
structure Ledger where
  tables : TunnelTables
  supplied : String → StoredNumber

/-- What writes the tables, with what health probes find. -/
inductive LedgerEvent
  | tables (event : TablesEvent)
  | health (found : String → Option String)

/-- The priority where none is given. -/
def defaultPriority : StoredNumber := ⟨.fin 100, hundred_ne_nan⟩

/-- A given priority; what is no number counts as none. -/
def given (n : JsNumber) : StoredNumber := if h : n = .nan then defaultPriority else ⟨n, h⟩

def givenTargets (draw : ℕ → String) :
    ℕ → List TargetInput → (String → StoredNumber) → String → StoredNumber
  | _, [], supplied => supplied
  | index, target :: rest, supplied =>
    givenTargets draw (index + 1) rest
      (Function.update supplied (draw index) (given target.priority))

/-- What a request gives, if it succeeds. -/
def supplies (env : StoreEnv) (ledger : Ledger) : TablesEvent → String → StoredNumber
  | .createTunnel organizationId draws input =>
    match ledger.tables.createTunnel env organizationId draws input with
    | .ok _ => givenTargets draws.targetId 0 input.targetList ledger.supplied
    | .error _ => ledger.supplied
  | .createTunnelTarget organizationId tunnelId id input =>
    match ledger.tables.createTunnelTarget organizationId tunnelId id input with
    | .ok _ => Function.update ledger.supplied id (given input.priority)
    | .error _ => ledger.supplied
  | .updateTunnelTarget organizationId id changes =>
    match ledger.tables.updateTunnelTarget env organizationId id changes with
    | .ok (some _) =>
      match changes.get? "priority" with
      | none | some .null => ledger.supplied
      | some v =>
        match v.toNumber env.host with
        | .ok n => Function.update ledger.supplied id (given n)
        | .error _ => ledger.supplied
    | _ => ledger.supplied
  | .migrate _ => fun id =>
    if (ledger.tables.targets.get? id).isNone then defaultPriority else ledger.supplied id
  | _ => ledger.supplied

def Ledger.step (env : StoreEnv) (ledger : Ledger) : LedgerEvent → Ledger
  | .tables event => ⟨ledger.tables.step env event, supplies env ledger event⟩
  | .health found =>
    { ledger with
      tables := { ledger.tables with
        targets := ledger.tables.targets.mapVals fun id target =>
          { target with healthStatus := (found id).getD target.healthStatus } } }

/-- A stored priority is read like the one that was given, and a weight below one is not stored. -/
structure Recorded (supplied : StoredNumber) (id : String) (target : TargetRecord) : Prop where
  id : target.id = id
  priority : orNumber target.priority.value 100 = orNumber supplied.value 100
  weight : target.weight.value.max 1 = target.weight.value

/-- The invariant of the ledger. -/
def Accurate (tables : TunnelTables) (supplied : String → StoredNumber) : Prop :=
  ∀ id target, tables.targets.get? id = some target → Recorded (supplied id) id target

variable {env : StoreEnv} {tables next : TunnelTables} {organizationId tunnelId id : String}
  {supplied : String → StoredNumber}

theorem orNumber_orNumber (n : JsNumber) : orNumber (orNumber n 100) 100 = orNumber n 100 := by
  unfold orNumber
  by_cases h : n = .nan ∨ n = .fin 0
  · rw [if_pos h]
    rfl
  · rw [if_neg h, if_neg h]

theorem orNumber_given (n : JsNumber) : orNumber (given n).value 100 = orNumber n 100 := by
  unfold given
  split_ifs with h
  · rw [h]
    rfl
  · rfl

theorem max_max (bound : ℚ) (n : JsNumber) : (n.max bound).max bound = n.max bound := by
  cases n with
  | nan | posInf => rfl
  | negInf => exact congrArg JsNumber.fin (max_self bound)
  | fin q => exact congrArg JsNumber.fin (max_eq_right (le_max_left bound q))

theorem given_of_stored {stored : StoredNumber} : given stored.value = stored := by
  unfold given
  rw [dif_neg stored.not_nan]

theorem Accurate.keyed (h : Accurate tables supplied) (id : String) (target : TargetRecord)
    (htarget : tables.targets.get? id = some target) : target.id = id := (h id target htarget).id

theorem Accurate.of_targets (h : Accurate tables supplied)
    (hsame : ∀ id target, next.targets.get? id = some target →
      tables.targets.get? id = some target) : Accurate next supplied :=
  fun id target htarget => h id target (hsame id target htarget)

theorem Accurate.set (h : Accurate tables supplied) {target : TargetRecord} {value : StoredNumber}
    (hrecorded : Recorded value id target) :
    Accurate { tables with targets := tables.targets.set id target }
      (Function.update supplied id value) := by
  intro key other hother
  rw [get?_set] at hother
  by_cases hkey : key = id
  · rw [if_pos hkey] at hother
    cases hother
    rw [hkey, Function.update_self]
    exact hrecorded
  · rw [if_neg hkey] at hother
    rw [Function.update_of_ne hkey]
    exact h key other hother

theorem accurate_createTunnelTarget (h : Accurate tables supplied) {input : TargetInput}
    (hcreate : tables.createTunnelTarget organizationId tunnelId id input = .ok next) :
    Accurate next (Function.update supplied id (given input.priority)) := by
  unfold createTunnelTarget at hcreate
  split at hcreate
  · cases hcreate
  obtain ⟨targetPort, -, hcreate⟩ := bind_eq_ok.1 hcreate
  obtain ⟨weight, hweight, hcreate⟩ := bind_eq_ok.1 hcreate
  obtain ⟨priority, hpriority, hcreate⟩ := bind_eq_ok.1 hcreate
  split_ifs at hcreate
  cases hcreate
  apply h.set
  constructor
  · rfl
  · rw [storeNumber_value hpriority, orNumber_orNumber, orNumber_given]
  · rw [storeNumber_value hweight, max_max]

theorem accurate_createTargets {draw : ℕ → String} {input : TunnelInput} {index : ℕ}
    {items : List TargetInput} (h : Accurate tables supplied)
    (hcreate : createTargets organizationId tunnelId draw input index items tables = .ok next) :
    Accurate next (givenTargets draw index items supplied) := by
  induction items generalizing index tables supplied with
  | nil =>
    cases hcreate
    exact h
  | cons item rest ih =>
    obtain ⟨middle, hfirst, hcreate⟩ := bind_eq_ok.1 hcreate
    have haccurate := accurate_createTunnelTarget h hfirst
    exact ih haccurate hcreate

theorem accurate_createTunnel (h : Accurate tables supplied) {draws : Draws} {input : TunnelInput}
    (hcreate : tables.createTunnel env organizationId draws input = .ok next) :
    Accurate next (givenTargets draws.targetId 0 input.targetList supplied) := by
  unfold createTunnel at hcreate
  split at hcreate
  · cases hcreate
  obtain ⟨_, -, hcreate⟩ := bind_eq_ok.1 hcreate
  obtain ⟨_, -, hcreate⟩ := bind_eq_ok.1 hcreate
  obtain ⟨inserted, hinsert, hcreate⟩ := bind_eq_ok.1 hcreate
  obtain ⟨-, tunnel, -, -, -, -, -, -, -, rfl⟩ := insertTunnel_eq_ok hinsert
  apply accurate_createTargets _ hcreate
  exact h.of_targets fun _ _ htarget => htarget

theorem priority_updateTunnelTarget {changes : Json}
    (hupdate : tables.updateTunnelTarget env organizationId id changes = .ok (some next)) :
    ∃ current target : TargetRecord, tables.targets.get? id = some current ∧
      target.id = current.id ∧
      changedNumber env (changes.get? "priority") current.priority.value =
        .ok target.priority.value ∧
      target.weight.value.max 1 = target.weight.value ∧
      next = { tables with targets := tables.targets.set id target } := by
  unfold updateTunnelTarget at hupdate
  split at hupdate
  · cases hupdate
  · rename_i current hcurrent
    obtain ⟨agentId, -, hupdate⟩ := bind_eq_ok.1 hupdate
    obtain ⟨_, -, hupdate⟩ := bind_eq_ok.1 hupdate
    obtain ⟨port, -, hupdate⟩ := bind_eq_ok.1 hupdate
    obtain ⟨weight, -, hupdate⟩ := bind_eq_ok.1 hupdate
    obtain ⟨priority, hpriority, hupdate⟩ := bind_eq_ok.1 hupdate
    obtain ⟨storedAgent, -, hupdate⟩ := bind_eq_ok.1 hupdate
    obtain ⟨name, -, hupdate⟩ := bind_eq_ok.1 hupdate
    obtain ⟨host, -, hupdate⟩ := bind_eq_ok.1 hupdate
    obtain ⟨storedPort, -, hupdate⟩ := bind_eq_ok.1 hupdate
    obtain ⟨storedWeight, hweight, hupdate⟩ := bind_eq_ok.1 hupdate
    obtain ⟨storedPriority, hstored, hupdate⟩ := bind_eq_ok.1 hupdate
    split_ifs at hupdate
    cases hupdate
    refine ⟨current, ?target, (getTunnelTarget_eq_some hcurrent).1, ?id, ?priority, ?weight, ?next⟩
    case next => exact rfl
    case id => exact rfl
    case priority => rw [hpriority, storeNumber_value hstored]
    case weight => rw [storeNumber_value hweight, max_max]

theorem accurate_updateTunnelTarget (h : Accurate tables supplied) {changes : Json}
    (hupdate : tables.updateTunnelTarget env organizationId id changes = .ok (some next)) :
    Accurate next (supplies env ⟨tables, supplied⟩ (.updateTunnelTarget organizationId id changes)) := by
  obtain ⟨current, target, hcurrent, hid, hpriority, hweight, rfl⟩ :=
    priority_updateTunnelTarget hupdate
  have hrecorded := h id current hcurrent
  have hkept (hsame : target.priority.value = current.priority.value) :
      Accurate { tables with targets := tables.targets.set id target } supplied := by
    rw [← Function.update_eq_self id supplied]
    exact h.set ⟨hid.trans hrecorded.id, by rw [hsame, hrecorded.priority], hweight⟩
  unfold supplies
  dsimp only
  rw [hupdate]
  cases hgiven : changes.get? "priority" with
  | none =>
    rw [hgiven] at hpriority
    exact hkept (Except.ok.inj hpriority).symm
  | some v =>
    rw [hgiven] at hpriority
    by_cases hnull : v = .null
    · subst hnull
      exact hkept (Except.ok.inj hpriority).symm
    · have hnumber : v.toNumber env.host = .ok target.priority.value := by
        cases v with
        | null => exact absurd rfl hnull
        | bool b | num q | str s | arr items | obj fields => exact hpriority
      have hupdated : Accurate { tables with targets := tables.targets.set id target }
          (Function.update supplied id (given target.priority.value)) :=
        h.set ⟨hid.trans hrecorded.id, by rw [given_of_stored], hweight⟩
      cases v with
      | null => exact absurd rfl hnull
      | bool b | num q | str s | arr items | obj fields => simpa only [hnumber] using hupdated

structure Filled (tables : TunnelTables) (targets : OrdMap String TargetRecord) : Prop where
  kept : ∀ id, tables.targets.get? id ≠ none → targets.get? id ≠ none
  found : ∀ id target, targets.get? id = some target → tables.targets.get? id = some target ∨
    tables.targets.get? id = none ∧ Recorded defaultPriority id target

theorem filled_backfill {draw : String → String} : Filled tables (tables.backfill draw).targets := by
  have hstart : Filled tables tables.targets := ⟨fun _ h => h, fun _ _ h => .inl h⟩
  have hfold : ∀ (entries : List (String × TunnelRecord)) (acc : TunnelTables),
      Filled tables acc.targets → Filled tables (entries.foldl (fun acc e =>
        if (tables.targets.entries.any fun t => t.2.tunnelId = e.1) ∨
            (acc.targets.get? (draw e.1)).isSome then acc
        else { acc with
          targets := acc.targets.set (draw e.1) ⟨draw e.1, e.2.organizationId, e.1, e.2.agentId,
            "default", e.2.targetHost, e.2.targetPort, ⟨.fin 1, one_ne_nan⟩,
            ⟨.fin 100, hundred_ne_nan⟩, true, "unknown", .obj []⟩ }) acc).targets := by
    intro entries
    induction entries with
    | nil => exact fun _ h => h
    | cons e rest ih =>
      intro acc h
      rw [List.foldl_cons]
      apply ih
      split_ifs with hskip
      · exact h
      · have hfree : acc.targets.get? (draw e.1) = none :=
          Option.not_isSome_iff_eq_none.1 (not_or.1 hskip).2
        constructor
        · intro id hid
          rw [get?_set]
          split_ifs
          · exact Option.some_ne_none _
          · exact h.kept id hid
        · intro id target htarget
          rw [get?_set] at htarget
          split_ifs at htarget with hkey
          · cases htarget
            right
            refine ⟨?_, hkey.symm, rfl, rfl⟩
            by_contra hused
            exact h.kept id hused (hkey ▸ hfree)
          · exact h.found id target htarget
  exact hfold tables.tunnels.entries tables hstart

theorem accurate_tables (h : Accurate tables supplied) {event : TablesEvent} :
    Accurate (tables.step env event) (supplies env ⟨tables, supplied⟩ event) := by
  cases event with
  | createPolicy id organizationId name description document enabled =>
    apply @orSame_of (fun next => Accurate next supplied) _ h
    intro next hnext
    obtain ⟨-, policy, -, rfl⟩ := createPolicy_eq_ok hnext
    exact h
  | updatePolicy organizationId id changes =>
    apply @orFound_of (fun next => Accurate next supplied) _ h
    intro next hnext
    obtain ⟨current, policy, -, -, -, rfl⟩ := updatePolicy_eq_ok hnext
    exact h
  | deletePolicy organizationId id =>
    apply @orFound_of (fun next => Accurate next supplied) _ h
    intro next hnext
    obtain ⟨-, -, rfl⟩ := deletePolicy_eq_ok hnext
    exact h
  | createTunnel organizationId draws input =>
    unfold step supplies
    dsimp only
    cases hcreate : tables.createTunnel env organizationId draws input with
    | error error => exact h
    | ok next => exact accurate_createTunnel h hcreate
  | updateTunnel organizationId id changes =>
    apply @orFound_of (fun next => Accurate next supplied) _ h
    intro next hnext
    obtain ⟨current, tunnel, -, -, -, -, -, -, -, rfl⟩ := updateTunnel_eq_ok hnext
    exact h
  | deleteTunnel organizationId id agentId =>
    change Accurate ((tables.deleteTunnel organizationId id agentId).getD tables) supplied
    cases hdelete : tables.deleteTunnel organizationId id agentId with
    | none => exact h
    | some next =>
      obtain ⟨-, rfl⟩ := deleteTunnel_eq_some hdelete
      apply h.of_targets
      intro key target htarget
      change (tables.targets.filter _).get? key = some target at htarget
      rw [get?_filter] at htarget
      exact (Option.filter_eq_some_iff.1 htarget).1
  | createTunnelTarget organizationId tunnelId id input =>
    unfold step supplies
    dsimp only
    cases hcreate : tables.createTunnelTarget organizationId tunnelId id input with
    | error error => exact h
    | ok next => exact accurate_createTunnelTarget h hcreate
  | updateTunnelTarget organizationId id changes =>
    cases hupdate : tables.updateTunnelTarget env organizationId id changes with
    | error error =>
      unfold step supplies
      dsimp only
      rw [hupdate]
      exact h
    | ok found =>
      cases found with
      | none =>
        unfold step supplies
        dsimp only
        rw [hupdate]
        exact h
      | some next =>
        have haccurate := accurate_updateTunnelTarget h hupdate
        unfold step
        dsimp only
        rw [hupdate]
        exact haccurate
  | deleteTunnelTarget organizationId id =>
    apply @orFound_of (fun next => Accurate next supplied) _ h
    intro next hnext
    obtain ⟨target, -, -, -, rfl⟩ := deleteTunnelTarget_eq_ok hnext
    exact h.of_targets fun _ _ htarget => (get?_of_get?_erase htarget).2
  | migrate draw =>
    intro id target htarget
    rcases filled_backfill.found id target htarget with hold | ⟨hnew, hrecorded⟩
    · have hrecorded := h id target hold
      unfold supplies
      dsimp only
      rw [if_neg (by rw [hold]; exact nofun)]
      exact hrecorded
    · unfold supplies
      dsimp only
      rw [if_pos (by rw [hnew]; rfl)]
      exact hrecorded
  | agents rows => exact h

theorem accurate_step {ledger : Ledger} (h : Accurate ledger.tables ledger.supplied)
    {event : LedgerEvent} :
    Accurate (ledger.step env event).tables (ledger.step env event).supplied := by
  cases event with
  | tables event => exact accurate_tables h
  | health found =>
    intro id target htarget
    change (ledger.tables.targets.mapVals _).get? id = some target at htarget
    rw [get?_mapVals] at htarget
    obtain ⟨current, hcurrent, rfl⟩ := Option.map_eq_some_iff.1 htarget
    have hrecorded := h id current hcurrent
    exact ⟨hrecorded.id, hrecorded.priority, hrecorded.weight⟩

theorem accurate_run {ledger : Ledger} (h : Accurate ledger.tables ledger.supplied)
    (events : List LedgerEvent) : Accurate (run (Ledger.step env) ledger events).tables
      (run (Ledger.step env) ledger events).supplied := by
  induction events generalizing ledger with
  | nil => exact h
  | cons event events ih => exact ih (accurate_step h)

end TunnelTables

end Tunnara.Control
