/-
# The status of a target as its probes tell it

`updateTargetHealth` keeps two counters and a status for each target, and sees one probe at a
time. What it should say is told by the whole history of the probes that it has applied to the
target: which run of equal results was the last to be long enough.
-/

import Tunnara.Data.History
import Tunnara.Planes.TunnelHealth

namespace Tunnara.Planes

open Control Transition History OrdMap

/-- A probe that was applied, and the configuration that the target had then. -/
structure Applied where
  healthy : Bool
  healthCheck : Json

/-- How many of the last probes in a row had the result. -/
def streak (healthy : Bool) (history : List Applied) : ℕ :=
  (history.reverse.takeWhile fun probe => probe.healthy = healthy).length

/-- The threshold for runs of a result. -/
def thresholdFor (host : Host) (check : Json) : Bool → Except JsError JsNumber
  | true => nodeThreshold host check "healthyThreshold" 2
  | false => nodeThreshold host check "unhealthyThreshold" 3

/-- **A threshold event**: the last probe had the result, and ends a run of such probes that is
at least as long as the threshold. -/
def Reached (host : Host) (history : List Applied) (healthy : Bool) : Prop :=
  ∃ probe threshold, history.getLast? = some probe ∧ probe.healthy = healthy ∧
    thresholdFor host probe.healthCheck healthy = .ok threshold ∧
    threshold.atMost (streak healthy history) = true

/-- **The specification** of the status and the counters of a target. -/
structure Told (host : Host) (history : List Applied) (status : String) (counts : ℕ × ℕ) :
    Prop where
  healthy : status = "healthy" ↔ Latest (Reached host) history true
  unhealthy : status = "unhealthy" ↔ Latest (Reached host) history false
  unknown : status = "unknown" ↔ Never (Reached host) history
  successes : counts.1 = streak true history
  failures : counts.2 = streak false history
  one : counts.1 = 0 ∨ counts.2 = 0

/-- The state, and the history of every target since its creation. -/
structure Watched where
  state : Monitored
  history : String → List Applied

/-- What an operation adds to the history of a target. A call that throws applies nothing. -/
def Monitored.applies (host : Host) (state : Monitored) (event : MonitorEvent) (id : String) :
    List Applied :=
  match event with
  | .updateTargetHealth probed healthy =>
    match state.tables.targets.get? id, state.updateTargetHealth host probed healthy with
    | some current, .ok (some _) => if probed = id then [⟨healthy, current.healthCheck⟩] else []
    | _, _ => []
  | _ => []

/-- The history of a target that is not stored is empty. -/
def Watched.step (env : StoreEnv) (watched : Watched) (event : MonitorEvent) : Watched :=
  { state := watched.state.step env event
    history := fun id =>
      if (watched.state.tables.targets.get? id).isSome then
        watched.history id ++ watched.state.applies env.host event id
      else [] }

/-- The target, while it is stored, is as its history says. -/
def Faithful (host : Host) (id : String) (watched : Watched) : Prop :=
  ∀ target, watched.state.tables.targets.get? id = some target →
    Told host (watched.history id) target.healthStatus (watched.state.counts id)

variable {env : StoreEnv} {host : Host} {history : List Applied} {probe : Applied}
  {healthy : Bool} {status : String} {counts : ℕ × ℕ}

@[simp]
theorem streak_nil (healthy : Bool) : streak healthy [] = 0 := rfl

theorem streak_snoc : streak healthy (history ++ [probe]) =
    if probe.healthy = healthy then streak healthy history + 1 else 0 := by
  unfold streak
  rw [List.reverse_append, List.reverse_singleton, List.singleton_append, List.takeWhile_cons]
  by_cases hsame : probe.healthy = healthy
  · rw [if_pos (decide_eq_true hsame), if_pos hsame, List.length_cons]
  · rw [if_neg (by simpa using hsame), if_neg hsame, List.length_nil]

theorem not_reached_nil (healthy : Bool) : ¬ Reached host [] healthy := by
  rintro ⟨probe, threshold, hlast, -⟩
  cases hlast

theorem reached_snoc_iff {threshold : JsNumber}
    (h : thresholdFor host probe.healthCheck probe.healthy = .ok threshold) :
    Reached host (history ++ [probe]) healthy ↔ healthy = probe.healthy ∧
      threshold.atMost ((streak probe.healthy history + 1 : ℕ) : ℚ) = true := by
  have hstreak : streak probe.healthy (history ++ [probe]) = streak probe.healthy history + 1 := by
    rw [streak_snoc, if_pos rfl]
  constructor
  · rintro ⟨last, found, hlast, rfl, hfound, hreached⟩
    rw [List.getLast?_concat] at hlast
    cases hlast
    rw [h] at hfound
    cases hfound
    rw [hstreak] at hreached
    exact ⟨rfl, hreached⟩
  · rintro ⟨rfl, hreached⟩
    refine ⟨probe, threshold, List.getLast?_concat, rfl, h, ?_⟩
    rw [hstreak]
    exact hreached

theorem told_nil : Told host [] "unknown" (0, 0) where
  healthy := iff_of_false (by decide) (not_latest_nil not_reached_nil)
  unhealthy := iff_of_false (by decide) (not_latest_nil not_reached_nil)
  unknown := iff_of_true rfl (never_nil_iff.2 not_reached_nil)
  successes := rfl
  failures := rfl
  one := .inl rfl

theorem told_snoc_of_reached (h : Reached host (history ++ [probe]) probe.healthy)
    (hone : ∀ other, Reached host (history ++ [probe]) other → other = probe.healthy)
    (hcounts : counts = (streak true (history ++ [probe]), streak false (history ++ [probe])))
    (hzero : counts.1 = 0 ∨ counts.2 = 0) :
    Told host (history ++ [probe]) (verdict probe.healthy) counts where
  healthy := by
    rw [latest_snoc_iff_of_occurs h hone]
    cases probe.healthy <;> decide
  unhealthy := by
    rw [latest_snoc_iff_of_occurs h hone]
    cases probe.healthy <;> decide
  unknown := by
    refine iff_of_false (by cases probe.healthy <;> decide) fun hnever => ?_
    exact (never_snoc_iff.1 hnever).2 _ h
  successes := congrArg Prod.fst hcounts
  failures := congrArg Prod.snd hcounts
  one := hzero

theorem told_snoc_of_not_reached (h : Told host history status counts) {next : ℕ × ℕ}
    (hquiet : ∀ other, ¬ Reached host (history ++ [probe]) other)
    (hcounts : next = (streak true (history ++ [probe]), streak false (history ++ [probe])))
    (hzero : next.1 = 0 ∨ next.2 = 0) : Told host (history ++ [probe]) status next where
  healthy := by rw [latest_snoc_iff hquiet, h.healthy]
  unhealthy := by rw [latest_snoc_iff hquiet, h.unhealthy]
  unknown := by rw [never_snoc_iff, h.unknown, and_iff_left hquiet]
  successes := congrArg Prod.fst hcounts
  failures := congrArg Prod.snd hcounts
  one := hzero

theorem told_update (h : Told host history status counts) {rise fall : JsNumber}
    (hrise : nodeThreshold host probe.healthCheck "healthyThreshold" 2 = .ok rise)
    (hfall : nodeThreshold host probe.healthCheck "unhealthyThreshold" 3 = .ok fall) :
    let before : Health := ⟨status, counts.1, counts.2, none⟩
    let after := before.update (fun n => rise.atMost n) (fun n => fall.atMost n) probe.healthy none
    Told host (history ++ [probe]) after.status (after.successes, after.failures) := by
  intro before after
  obtain ⟨result, check⟩ := probe
  have hcounts : (after.successes, after.failures) = (streak true (history ++ [⟨result, check⟩]),
      streak false (history ++ [⟨result, check⟩])) := by
    rw [streak_snoc, streak_snoc, ← h.successes, ← h.failures]
    cases result <;> rfl
  have hzero : after.successes = 0 ∨ after.failures = 0 := by
    cases result with
    | true => exact .inr rfl
    | false => exact .inl rfl
  have hthreshold : thresholdFor host check result = .ok (if result then rise else fall) := by
    cases result with
    | true => exact hrise
    | false => exact hfall
  have hstreak : (if result then counts.1 else counts.2) = streak result history := by
    cases result with
    | true => exact h.successes
    | false => exact h.failures
  have hstatus : after.status = if (if result then rise else fall).atMost
      ((streak result history + 1 : ℕ) : ℚ) = true then verdict result else status := by
    rw [← hstreak]
    cases result <;> rfl
  have hreached := fun other => @reached_snoc_iff host history ⟨result, check⟩ other _ hthreshold
  rw [hstatus]
  by_cases hlong : (if result then rise else fall).atMost
      ((streak result history + 1 : ℕ) : ℚ) = true
  · rw [if_pos hlong]
    exact told_snoc_of_reached ((hreached result).2 ⟨rfl, hlong⟩)
      (fun other hother => ((hreached other).1 hother).1) hcounts hzero
  · rw [if_neg hlong]
    exact told_snoc_of_not_reached h (fun other hother => hlong ((hreached other).1 hother).2)
      hcounts hzero

variable {watched : Watched} {state next : Monitored} {id probed : String}
  {event : MonitorEvent}

/-- The targets that an operation finds or creates, with the status that they had. -/
structure Keeps (state next : Monitored) : Prop where
  found : ∀ id target, next.tables.targets.get? id = some target →
    (state.tables.targets.get? id = none ∧ target.healthStatus = "unknown" ∧
        next.counts id = (0, 0)) ∨
      ∃ before, state.tables.targets.get? id = some before ∧
        target.healthStatus = before.healthStatus ∧ next.counts id = state.counts id

theorem Keeps.refl (state : Monitored) : Keeps state state :=
  ⟨fun _ target htarget => .inr ⟨target, htarget, rfl, rfl⟩⟩

theorem Keeps.faithful (h : Keeps watched.state (watched.state.step env event))
    (hquiet : watched.state.applies env.host event id = [])
    (hfaithful : Faithful env.host id watched) : Faithful env.host id (watched.step env event) := by
  intro target htarget
  change Told env.host (if (watched.state.tables.targets.get? id).isSome then
    watched.history id ++ watched.state.applies env.host event id else []) _
      ((watched.state.step env event).counts id)
  rw [hquiet, List.append_nil]
  rcases h.found id target htarget with
    ⟨hnone, hstatus, hcounts⟩ | ⟨before, hbefore, hstatus, hcounts⟩
  · rw [if_neg (by rw [hnone]; exact Bool.false_ne_true), hstatus, hcounts]
    exact told_nil
  · rw [if_pos (by rw [hbefore]; rfl), hstatus, hcounts]
    exact hfaithful before hbefore

theorem unknown_of_createTargets {tables created : TunnelTables} {organizationId tunnelId : String}
    {draw : ℕ → String} {input : TunnelTables.TunnelInput} {index : ℕ}
    {items : List TunnelTables.TargetInput}
    (h : TunnelTables.createTargets organizationId tunnelId draw input index items tables =
      .ok created) {key : String} {target : TargetRecord}
    (htarget : created.targets.get? key = some target) :
    tables.targets.get? key = some target ∨
      tables.targets.get? key = none ∧ target.healthStatus = "unknown" := by
  induction items generalizing index tables with
  | nil =>
    cases h
    exact .inl htarget
  | cons item rest ih =>
    obtain ⟨middle, hcreate, h⟩ := bind_eq_ok.1 h
    obtain ⟨hnew, -, row, -, -, hstatus, rfl⟩ := row_createTunnelTarget hcreate
    have hfound := ih h
    simp only [get?_set] at hfound
    split_ifs at hfound with hkey
    · subst hkey
      rcases hfound with hsame | ⟨hnone, -⟩
      · cases hsame
        exact .inr ⟨hnew, hstatus⟩
      · cases hnone
    · exact hfound

theorem keeps_countNew {tables : TunnelTables} (h : ∀ key target,
    tables.targets.get? key = some target → state.tables.targets.get? key = some target ∨
      state.tables.targets.get? key = none ∧ target.healthStatus = "unknown") :
    Keeps state (state.countNew tables) := by
  constructor
  intro key target htarget
  rcases h key target htarget with hold | ⟨hnew, hstatus⟩
  · refine .inr ⟨target, hold, rfl, ?_⟩
    exact if_pos (by rw [hold]; rfl)
  · refine .inl ⟨hnew, hstatus, ?_⟩
    exact if_neg (by rw [hnew]; exact Bool.false_ne_true)

theorem keeps_step (hevent : ∀ id healthy, event ≠ .updateTargetHealth id healthy) :
    Keeps state (state.step env event) := by
  unfold Monitored.step
  cases event with
  | createTunnel organizationId draws input =>
    dsimp only
    split
    · rename_i created hcreate
      unfold TunnelTables.createTunnel at hcreate
      split at hcreate
      · cases hcreate
      obtain ⟨_, -, hcreate⟩ := bind_eq_ok.1 hcreate
      obtain ⟨_, -, hcreate⟩ := bind_eq_ok.1 hcreate
      obtain ⟨inserted, hinserted, hloop⟩ := bind_eq_ok.1 hcreate
      obtain ⟨-, tunnel, -, -, -, -, -, -, -, rfl⟩ :=
        TunnelTables.insertTunnel_eq_ok hinserted
      obtain ⟨hfound⟩ := @keeps_countNew state created fun key target htarget =>
        unknown_of_createTargets hloop htarget
      exact ⟨hfound⟩
    · exact .refl state
  | createTunnelTarget organizationId tunnelId id input =>
    dsimp only
    split
    · rename_i created hcreate
      obtain ⟨hnew, -, target, -, -, hstatus, rfl⟩ := row_createTunnelTarget hcreate
      apply keeps_countNew
      intro key row hrow
      rw [get?_set] at hrow
      split_ifs at hrow with hkey
      · cases hrow
        exact .inr ⟨hkey ▸ hnew, hstatus⟩
      · exact .inl hrow
    · exact .refl state
  | updateTunnelTarget organizationId id changes =>
    dsimp only
    split
    · rename_i changed hupdate
      obtain ⟨current, target, hcurrent, -, hstatus, -, rfl⟩ := row_updateTunnelTarget hupdate
      constructor
      intro key row hrow
      rw [get?_set] at hrow
      split_ifs at hrow with hkey
      · cases hrow
        exact .inr ⟨current, hkey ▸ hcurrent, hstatus, rfl⟩
      · exact .inr ⟨row, hrow, rfl, rfl⟩
    · exact .refl state
  | deleteTunnelTarget organizationId id =>
    dsimp only
    split
    · rename_i left hdelete
      obtain ⟨current, -, -, -, rfl⟩ := TunnelTables.deleteTunnelTarget_eq_ok hdelete
      constructor
      intro key row hrow
      exact .inr ⟨row, (get?_of_get?_erase hrow).2, rfl, rfl⟩
    · exact .refl state
  | updateTargetHealth id healthy => exact absurd rfl (hevent id healthy)

variable {healthy : Bool}

theorem updateTargetHealth_eq_ok (h : state.updateTargetHealth host id healthy = .ok (some next)) :
    ∃ current rise fall, state.tables.targets.get? id = some current ∧
      nodeThreshold host current.healthCheck "healthyThreshold" 2 = .ok rise ∧
      nodeThreshold host current.healthCheck "unhealthyThreshold" 3 = .ok fall ∧
      let before : Health := ⟨current.healthStatus, (state.counts id).1, (state.counts id).2, none⟩
      let after := before.update (fun n => rise.atMost n) (fun n => fall.atMost n) healthy none
      next.tables.targets = state.tables.targets.set id
          { current with healthStatus := after.status } ∧
        next.counts = Function.update state.counts id (after.successes, after.failures) := by
  unfold Monitored.updateTargetHealth at h
  split at h
  · cases h
  · rename_i current hcurrent
    obtain ⟨rise, hrise, h⟩ := bind_eq_ok.1 h
    obtain ⟨fall, hfall, h⟩ := bind_eq_ok.1 h
    cases h
    exact ⟨current, rise, fall, hcurrent, hrise, hfall, rfl, rfl⟩

section

variable (h : Faithful env.host id watched)
include h

theorem faithful_of_not_applied
    (hnone : ∀ next, watched.state.updateTargetHealth env.host probed healthy ≠ .ok (some next)) :
    Faithful env.host id (watched.step env (.updateTargetHealth probed healthy)) := by
  have hstep : watched.state.step env (.updateTargetHealth probed healthy) = watched.state := by
    unfold Monitored.step
    dsimp only
    split
    · rename_i next hnext
      exact absurd hnext (hnone next)
    · rfl
  refine Keeps.faithful (by rw [hstep]; exact .refl _) ?_ h
  unfold Monitored.applies
  dsimp only
  split
  · rename_i next _ hnext
    exact absurd hnext (hnone next)
  · rfl

theorem faithful_of_applied
    (happlied : watched.state.updateTargetHealth env.host probed healthy = .ok (some next)) :
    Faithful env.host id (watched.step env (.updateTargetHealth probed healthy)) := by
  obtain ⟨current, rise, fall, hcurrent, hrise, hfall, htargets, hcounts⟩ :=
    updateTargetHealth_eq_ok happlied
  have hstep : watched.state.step env (.updateTargetHealth probed healthy) = next := by
    unfold Monitored.step
    dsimp only
    rw [happlied]
  intro target htarget
  change (watched.state.step env (.updateTargetHealth probed healthy)).tables.targets.get? id =
    some target at htarget
  rw [hstep, htargets, get?_set] at htarget
  change Told env.host (if (watched.state.tables.targets.get? id).isSome then
    watched.history id ++ watched.state.applies env.host (.updateTargetHealth probed healthy) id
      else []) _ ((watched.state.step env (.updateTargetHealth probed healthy)).counts id)
  rw [hstep, hcounts]
  by_cases hkey : id = probed
  · subst hkey
    rw [if_pos rfl] at htarget
    cases htarget
    have happlies : watched.state.applies env.host (.updateTargetHealth id healthy) id =
        [⟨healthy, current.healthCheck⟩] := by
      unfold Monitored.applies
      dsimp only
      rw [hcurrent, happlied]
      exact if_pos rfl
    rw [if_pos (by rw [hcurrent]; rfl), happlies, Function.update_self]
    exact @told_update _ _ ⟨healthy, current.healthCheck⟩ _ _ (h current hcurrent) rise fall
      hrise hfall
  · rw [if_neg hkey] at htarget
    have happlies : watched.state.applies env.host (.updateTargetHealth probed healthy) id =
        [] := by
      unfold Monitored.applies
      dsimp only
      rw [htarget, happlied]
      exact if_neg (Ne.symm hkey)
    rw [if_pos (by rw [htarget]; rfl), happlies, List.append_nil, Function.update_of_ne hkey]
    exact h target htarget

theorem faithful_step (event : MonitorEvent) : Faithful env.host id (watched.step env event) := by
  cases event with
  | updateTargetHealth probed healthy =>
    by_cases happlied :
        ∃ next, watched.state.updateTargetHealth env.host probed healthy = .ok (some next)
    · obtain ⟨next, happlied⟩ := happlied
      exact faithful_of_applied h happlied
    · exact faithful_of_not_applied h (not_exists.1 happlied)
  | _ => exact (keeps_step (by intros; simp)).faithful rfl h

end

theorem state_run (env : StoreEnv) (watched : Watched) (events : List MonitorEvent) :
    (run (Watched.step env) watched events).state =
      run (Monitored.step env) watched.state events := by
  induction events generalizing watched with
  | nil => rfl
  | cons event events ih => exact ih (watched.step env event)

def probedOnce : List MonitorEvent :=
  [.createTunnel "o1" TunnelTables.plainDraws TunnelTables.plainInput,
    .updateTargetHealth "g0" true]

end Tunnara.Planes
