/-
# Whom the two planes choose

`selectTunnelTarget` of the Node plane and `RouteResolver::resolve` of Laravel, on the same
targets. Both take the best class of health and of that the smallest priority. The Node plane
leaves out targets whose agent is offline or revoked, falls back to any health, and reads the
priority zero as 100; Laravel never looks at the agent.
-/

import Tunnara.Control.Routing
import Tunnara.Laravel.RouteResolver
import Mathlib.Order.Minimal

namespace Tunnara.Planes

open OrdMap

/-- A row of `tunnel_targets` in the two stores. -/
structure SameTarget (node : Control.TargetRow) (row : Laravel.TargetRow) : Prop where
  id : row.id = node.id
  tunnelId : row.tunnelId = node.tunnelId
  agentId : row.agentId = node.agentId
  weight : (row.weight : ℤ) = node.weight
  priority : (row.priority : ℤ) = node.priority
  enabled : row.enabled = node.enabled
  healthStatus : row.healthStatus = node.healthStatus

/-- The two stores have the same targets. -/
structure SameTargets (node : Control.Database) (laravel : Laravel.Database) : Prop where
  target : ∀ key, Option.Rel SameTarget (node.targets.get? key) (laravel.targets.get? key)
  /-- `id` is the primary key there, too. -/
  keyed : ∀ e ∈ laravel.targets.entries, e.2.id = e.1

/-! ## What can be chosen -/

variable (node : Control.Database) (laravel : Laravel.Database) (tunnelId : String)
  (requested : Option String)

/-- What `selectTunnelTarget` returns at a value of the cursor. -/
def nodeChoice (cursor : ℕ) : Option Control.TargetRow :=
  (({ node with
      targetSelectionCounters := node.targetSelectionCounters.set tunnelId cursor } :
    Control.Database).selectTunnelTarget tunnelId requested).1

/-- The targets of the best health, or none. -/
def healthyOrUnknown (targets : List Laravel.TargetRow) : List Laravel.TargetRow :=
  let healthy := targets.filter fun row => row.healthStatus = "healthy"
  if healthy ≠ [] then healthy else targets.filter fun row => row.healthStatus = "unknown"

/-- Of these, the ones of smallest priority. -/
def laravelTier (targets : List Laravel.TargetRow) : List Laravel.TargetRow :=
  (healthyOrUnknown targets).filter fun row =>
    (healthyOrUnknown targets).all fun other => row.priority ≤ other.priority

/-- `max(1, (int) $candidates->sum(…))`. -/
def totalWeight (targets : List Laravel.TargetRow) : ℕ :=
  max 1 ((laravelTier targets).map fun row => max 1 row.weight).sum

/-- What `random_int(1, $totalWeight)` may draw. -/
def Draw (pick : ℕ) : Prop :=
  1 ≤ pick ∧ pick ≤ totalWeight (Laravel.enabledTargets laravel tunnelId requested)

/-- What `resolve` returns as the target for a drawn number. -/
def laravelChoice (pick : ℕ) : Option Laravel.TargetRow :=
  Laravel.selectTarget (Laravel.enabledTargets laravel tunnelId requested) pick

/-- **The promise**: the same targets can be chosen, and one of the two yields none exactly
when the other does. -/
structure ChooseAlike : Prop where
  same : ∀ id, (∃ cursor target, nodeChoice node tunnelId requested cursor = some target ∧
      target.id = id) ↔
    ∃ pick, Draw laravel tunnelId requested pick ∧
      ∃ target, laravelChoice laravel tunnelId requested pick = some target ∧ target.id = id
  none : ∀ cursor pick, Draw laravel tunnelId requested pick →
    (nodeChoice node tunnelId requested cursor = none ↔
      laravelChoice laravel tunnelId requested pick = none)

/-- The targets that the Node plane may send traffic to. -/
def live : List Control.Candidate :=
  Control.online (Control.pinned requested (node.candidates tunnelId))

/-- **The condition**: where Laravel has a candidate, the agent of each one of smallest priority
is online and not revoked; and if that priority is zero, no live candidate has a priority from 1
to 100. Where it has none, no target is live. -/
def Alike : Prop :=
  let targets := Laravel.enabledTargets laravel tunnelId requested
  let liveIds := (live node tunnelId requested).map fun candidate => candidate.target.id
  if healthyOrUnknown targets = [] then liveIds = []
  else (∀ row ∈ laravelTier targets, row.id ∈ liveIds) ∧
    ((∀ row ∈ laravelTier targets, row.priority ≠ 0) ∨
      ∀ row ∈ healthyOrUnknown targets, row.id ∈ liveIds → row.priority = 0 ∨ 100 < row.priority)

/-! ## Every target of the tier -/

variable {node laravel tunnelId requested}

theorem nodeChoice_eq (cursor : ℕ) : nodeChoice node tunnelId requested cursor =
    if Control.weighted (Control.pinned requested (node.candidates tunnelId)) = [] then none
    else (Control.weighted (Control.pinned requested (node.candidates tunnelId)))[cursor %
      (Control.weighted (Control.pinned requested (node.candidates tunnelId))).length]? := by
  unfold nodeChoice Control.Database.selectTunnelTarget Control.Database.cursor
  dsimp only
  rw [get?_set_self, Option.getD_some]
  have hcandidates : ({ node with
      targetSelectionCounters := node.targetSelectionCounters.set tunnelId cursor } :
    Control.Database).candidates tunnelId = node.candidates tunnelId := rfl
  rw [hcandidates]
  split_ifs
  · rfl
  · rfl

variable {target : Control.TargetRow} {targets : List Laravel.TargetRow} {row : Laravel.TargetRow}
  {candidates : List Control.Candidate} {candidate : Control.Candidate}

theorem mem_weighted {targets : List Control.Candidate} :
    target ∈ Control.weighted targets ↔ target ∈ Control.tier targets := by
  unfold Control.weighted
  rw [List.mem_flatMap]
  constructor
  · rintro ⟨listed, hlisted, hmem⟩
    rwa [(List.mem_replicate.1 hmem).2]
  · intro h
    exact ⟨target, h, List.mem_replicate.2 ⟨Control.copies_pos.ne', rfl⟩⟩

theorem exists_nodeChoice_iff :
    (∃ cursor, nodeChoice node tunnelId requested cursor = some target) ↔
      target ∈ Control.tier (Control.pinned requested (node.candidates tunnelId)) := by
  rw [← mem_weighted]
  constructor
  · rintro ⟨cursor, hcursor⟩
    rw [nodeChoice_eq] at hcursor
    split_ifs at hcursor
    exact List.mem_of_getElem? hcursor
  · intro h
    obtain ⟨index, hindex, hget⟩ := List.mem_iff_getElem.1 h
    refine ⟨index, ?_⟩
    rw [nodeChoice_eq, if_neg (List.ne_nil_of_mem h), Nat.mod_eq_of_lt hindex,
      List.getElem?_eq_getElem hindex, hget]

theorem nodeChoice_eq_none_iff (cursor : ℕ) : nodeChoice node tunnelId requested cursor = none ↔
    Control.tier (Control.pinned requested (node.candidates tunnelId)) = [] := by
  rw [nodeChoice_eq, ← Control.weighted_eq_nil_iff]
  split_ifs with hnil
  · simp [hnil]
  · rw [List.getElem?_eq_none_iff]
    have hlt := Nat.mod_lt cursor (List.length_pos_iff.2 hnil)
    exact iff_of_false (Nat.not_le.2 hlt) hnil

theorem selectTarget_eq (targets : List Laravel.TargetRow) (pick : ℤ) :
    Laravel.selectTarget targets pick = match laravelTier targets with
      | [] => none
      | first :: rest => some (Laravel.pickTarget pick (first :: rest) first) := rfl

theorem pickTarget_mem {targets : List Laravel.TargetRow} {fallback : Laravel.TargetRow}
    (pick : ℤ) : Laravel.pickTarget pick targets fallback ∈ fallback :: targets := by
  induction targets generalizing pick with
  | nil => exact List.mem_cons_self
  | cons row rest ih =>
    unfold Laravel.pickTarget
    split_ifs
    · exact List.mem_cons_of_mem _ List.mem_cons_self
    · rcases List.mem_cons.1 (ih (pick - max 1 row.weight)) with hfallback | hrest
      · rw [hfallback]
        exact List.mem_cons_self
      · exact List.mem_cons_of_mem _ (List.mem_cons_of_mem _ hrest)

theorem exists_pick {targets : List Laravel.TargetRow} {fallback target : Laravel.TargetRow}
    (h : target ∈ targets) : ∃ pick : ℕ, 1 ≤ pick ∧
      pick ≤ (targets.map fun row => max 1 row.weight).sum ∧
      Laravel.pickTarget pick targets fallback = target := by
  induction targets with
  | nil => cases h
  | cons row rest ih =>
    rcases List.mem_cons.1 h with rfl | hrest
    · refine ⟨1, le_rfl, ?_, ?_⟩
      · rw [List.map_cons, List.sum_cons]
        omega
      · unfold Laravel.pickTarget
        rw [if_pos (by omega)]
    · obtain ⟨pick, hpos, hle, hpick⟩ := ih hrest
      refine ⟨max 1 row.weight + pick, by omega, ?_, ?_⟩
      · rw [List.map_cons, List.sum_cons]
        omega
      · unfold Laravel.pickTarget
        rw [if_neg (by push_cast; omega)]
        have hleft : ((max 1 row.weight + pick : ℕ) : ℤ) - (max 1 row.weight : ℕ) = pick := by
          omega
        rw [hleft, hpick]

theorem exists_laravelChoice_iff {target : Laravel.TargetRow} :
    (∃ pick, Draw laravel tunnelId requested pick ∧
        laravelChoice laravel tunnelId requested pick = some target) ↔
      target ∈ laravelTier (Laravel.enabledTargets laravel tunnelId requested) := by
  unfold laravelChoice Draw totalWeight
  generalize Laravel.enabledTargets laravel tunnelId requested = targets
  simp only [selectTarget_eq]
  cases laravelTier targets with
  | nil => simp
  | cons first rest =>
    constructor
    · rintro ⟨pick, -, hpick⟩
      cases hpick
      rcases List.mem_cons.1 (@pickTarget_mem (first :: rest) first pick) with hfirst | hmem
      · rw [hfirst]
        exact List.mem_cons_self
      · exact hmem
    · intro h
      obtain ⟨pick, hpos, hle, hpick⟩ := @exists_pick (first :: rest) first _ h
      exact ⟨pick, ⟨hpos, hle.trans (le_max_right _ _)⟩, congrArg some hpick⟩

theorem laravelChoice_eq_none_iff (pick : ℕ) :
    laravelChoice laravel tunnelId requested pick = none ↔
      laravelTier (Laravel.enabledTargets laravel tunnelId requested) = [] := by
  unfold laravelChoice
  rw [selectTarget_eq]
  cases laravelTier (Laravel.enabledTargets laravel tunnelId requested) with
  | nil | cons first rest => simp

theorem chooseAlike_iff_tiers : ChooseAlike node laravel tunnelId requested ↔
    ∀ id, (∃ target ∈ Control.tier (Control.pinned requested (node.candidates tunnelId)),
        target.id = id) ↔
      ∃ row ∈ laravelTier (Laravel.enabledTargets laravel tunnelId requested), row.id = id := by
  have hnode : ∀ id, (∃ cursor target, nodeChoice node tunnelId requested cursor = some target ∧
      target.id = id) ↔
      ∃ target ∈ Control.tier (Control.pinned requested (node.candidates tunnelId)),
        target.id = id := by
    intro id
    simp only [← exists_nodeChoice_iff]
    constructor
    · rintro ⟨cursor, target, hchoice, hid⟩
      exact ⟨target, ⟨cursor, hchoice⟩, hid⟩
    · rintro ⟨target, ⟨cursor, hchoice⟩, hid⟩
      exact ⟨cursor, target, hchoice, hid⟩
  have hlaravel : ∀ id, (∃ pick, Draw laravel tunnelId requested pick ∧
      ∃ target, laravelChoice laravel tunnelId requested pick = some target ∧ target.id = id) ↔
      ∃ row ∈ laravelTier (Laravel.enabledTargets laravel tunnelId requested), row.id = id := by
    intro id
    simp only [← exists_laravelChoice_iff]
    constructor
    · rintro ⟨pick, hdraw, row, hchoice, hid⟩
      exact ⟨row, ⟨pick, hdraw, hchoice⟩, hid⟩
    · rintro ⟨row, ⟨pick, hdraw, hchoice⟩, hid⟩
      exact ⟨pick, hdraw, row, hchoice, hid⟩
  constructor
  · intro h id
    rw [← hnode, ← hlaravel]
    exact h.same id
  · intro h
    constructor
    case same =>
      intro id
      rw [hnode, hlaravel]
      exact h id
    case none =>
      intro cursor pick _
      rw [nodeChoice_eq_none_iff, laravelChoice_eq_none_iff]
      simp only [List.eq_nil_iff_forall_not_mem]
      constructor
      · intro hnone row hrow
        obtain ⟨target, htarget, -⟩ := (h row.id).2 ⟨row, hrow, rfl⟩
        exact hnone target htarget
      · intro hnone target htarget
        obtain ⟨row, hrow, -⟩ := (h target.id).1 ⟨target, htarget, rfl⟩
        exact hnone row hrow

/-! ## One tier beside the other -/

theorem mem_laravelTier :
    row ∈ laravelTier targets ↔ row ∈ healthyOrUnknown targets ∧
      ∀ other ∈ healthyOrUnknown targets, row.priority ≤ other.priority := by
  unfold laravelTier
  simp only [List.mem_filter, List.all_eq_true, decide_eq_true_eq]

theorem laravelTier_ne_nil (h : healthyOrUnknown targets ≠ []) : laravelTier targets ≠ [] := by
  obtain ⟨row, hrow, hmin⟩ := exists_minimalFor_of_wellFoundedLT
    (fun row => row ∈ healthyOrUnknown targets) (fun row => row.priority)
    (List.exists_mem_of_ne_nil _ h)
  refine List.ne_nil_of_mem (mem_laravelTier.2 ⟨hrow, fun other hother => ?_⟩)
  exact (le_total row.priority other.priority).elim id fun hle => hmin hother hle

theorem mem_tier :
    target ∈ Control.tier candidates ↔
      (∃ candidate ∈ Control.eligible candidates, candidate.target = target) ∧
        ∀ candidate ∈ Control.eligible candidates,
          target.effectivePriority ≤ candidate.target.effectivePriority := by
  unfold Control.tier
  simp only [List.mem_filter, List.all_eq_true, decide_eq_true_eq, List.mem_map,
    forall_exists_index, and_imp, forall_apply_eq_imp_iff₂]

theorem mem_healthyOrUnknown (targets : List Laravel.TargetRow) :
    ∃ status, (∀ row, row ∈ healthyOrUnknown targets ↔
        row ∈ targets ∧ row.healthStatus = status) ∧
      (status = "healthy" ∨
        status = "unknown" ∧ ∀ row ∈ targets, row.healthStatus ≠ "healthy") := by
  unfold healthyOrUnknown
  dsimp only
  split_ifs with hhealthy
  · exact ⟨"healthy", fun row => by rw [List.mem_filter, decide_eq_true_eq], .inl rfl⟩
  · refine ⟨"unknown", fun row => by rw [List.mem_filter, decide_eq_true_eq], .inr ⟨rfl, ?_⟩⟩
    intro row hrow hstatus
    apply hhealthy
    exact List.ne_nil_of_mem (List.mem_filter.2 ⟨hrow, decide_eq_true hstatus⟩)

theorem mem_onlineWith {status : String} : candidate ∈ Control.onlineWith status candidates ↔
      candidate ∈ Control.online candidates ∧ candidate.target.healthStatus = status := by
  unfold Control.onlineWith
  rw [List.mem_filter, decide_eq_true_eq]

theorem eligible_eq_onlineWith {status : String} (hclass : status = "healthy" ∨
      status = "unknown" ∧ Control.onlineWith "healthy" candidates = [])
    (hne : Control.onlineWith status candidates ≠ []) :
    Control.eligible candidates = Control.onlineWith status candidates := by
  unfold Control.eligible
  rcases hclass with rfl | ⟨rfl, hnone⟩
  · rw [if_pos hne]
  · rw [if_neg (not_not.2 hnone), if_pos hne]

theorem get?_of_mem_candidates (hmem : candidate ∈ node.candidates tunnelId) :
    node.targets.get? candidate.target.id = some candidate.target ∧
      candidate.target.tunnelId = tunnelId ∧ candidate.target.enabled = true := by
  unfold Control.Database.candidates at hmem
  rw [List.mem_insertionSort, List.mem_filterMap] at hmem
  obtain ⟨e, he, hcandidate⟩ := hmem
  split at hcandidate
  · split_ifs at hcandidate with hlisted
    cases hcandidate
    refine ⟨?_, hlisted.1, hlisted.2.1⟩
    rw [get?_eq_some_iff, node.targets_keyed e he]
    exact he
  · cases hcandidate

theorem mem_of_mem_live (hmem : candidate ∈ live node tunnelId requested) :
    candidate ∈ node.candidates tunnelId ∧ ∀ id ∈ requested, id = "" ∨ candidate.target.id = id := by
  have hpinned := List.mem_of_mem_filter hmem
  unfold Control.pinned at hpinned
  split at hpinned
  · split_ifs at hpinned with hempty
    · exact ⟨hpinned, fun _ hid => .inl (Option.some.inj hid ▸ hempty)⟩
    · obtain ⟨hcandidate, hid⟩ := List.mem_filter.1 hpinned
      exact ⟨hcandidate, fun _ hsome => .inr (Option.some.inj hsome ▸ of_decide_eq_true hid)⟩
  · exact ⟨hpinned, fun _ hid => nomatch hid⟩

section

variable (h : SameTargets node laravel)
include h

theorem exists_row_of_mem_live (hmem : candidate ∈ live node tunnelId requested) :
    ∃ row ∈ Laravel.enabledTargets laravel tunnelId requested,
      SameTarget candidate.target row := by
  obtain ⟨hcandidate, hpin⟩ := mem_of_mem_live hmem
  obtain ⟨hget, htunnel, henabled⟩ := get?_of_mem_candidates hcandidate
  have hrel := h.target candidate.target.id
  rw [hget] at hrel
  cases hfound : laravel.targets.get? candidate.target.id with
  | none =>
    rw [hfound] at hrel
    cases hrel
  | some row =>
    rw [hfound] at hrel
    cases hrel with
    | some hsame =>
      refine ⟨row, ?_, hsame⟩
      unfold Laravel.enabledTargets
      rw [List.mem_insertionSort, List.mem_filter]
      refine ⟨List.mem_map.2 ⟨_, get?_eq_some_iff.1 hfound, rfl⟩, ?_⟩
      rw [hsame.tunnelId, htunnel, hsame.enabled, henabled, hsame.id]
      cases requested with
      | none => simp
      | some id =>
        rcases hpin id rfl with hempty | hid
        · simp [hempty]
        · simp [hid]

theorem row_eq_of_id {first second : Laravel.TargetRow}
    (hfirst : first ∈ Laravel.enabledTargets laravel tunnelId requested)
    (hsecond : second ∈ Laravel.enabledTargets laravel tunnelId requested)
    (hid : first.id = second.id) : first = second := by
  have hget : ∀ row ∈ Laravel.enabledTargets laravel tunnelId requested,
      laravel.targets.get? row.id = some row := by
    intro row hrow
    unfold Laravel.enabledTargets at hrow
    rw [List.mem_insertionSort, List.mem_filter] at hrow
    obtain ⟨e, he, rfl⟩ := List.mem_map.1 hrow.1
    rw [get?_eq_some_iff, h.keyed e he]
    exact he
  have hsame := hget first hfirst
  rw [hid, hget second hsecond] at hsame
  exact (Option.some.inj hsame).symm

theorem exists_live_of_id (hrow : row ∈ Laravel.enabledTargets laravel tunnelId requested)
    (hid : row.id ∈ (live node tunnelId requested).map fun candidate => candidate.target.id) :
    ∃ candidate ∈ live node tunnelId requested, SameTarget candidate.target row := by
  obtain ⟨candidate, hcandidate, hsame⟩ := List.mem_map.1 hid
  obtain ⟨other, hother, htarget⟩ := exists_row_of_mem_live h hcandidate
  have heq : other = row := row_eq_of_id h hother hrow (htarget.id.trans hsame)
  exact ⟨candidate, hcandidate, heq ▸ htarget⟩

omit h in
theorem mem_targets_of_mem (hrow : row ∈ healthyOrUnknown targets) : row ∈ targets := by
  obtain ⟨status, hmem, -⟩ := mem_healthyOrUnknown targets
  exact ((hmem row).1 hrow).1

theorem mem_eligible_iff
    (hrow : row ∈ healthyOrUnknown (Laravel.enabledTargets laravel tunnelId requested))
    (hlive : candidate ∈ live node tunnelId requested) (hsame : SameTarget candidate.target row)
    (other : Control.Candidate) :
    other ∈ Control.eligible (Control.pinned requested (node.candidates tunnelId)) ↔
      other ∈ live node tunnelId requested ∧
        ∃ found ∈ healthyOrUnknown (Laravel.enabledTargets laravel tunnelId requested),
          SameTarget other.target found := by
  obtain ⟨status, hmem, hclass⟩ :=
    mem_healthyOrUnknown (Laravel.enabledTargets laravel tunnelId requested)
  have hnode : status = "healthy" ∨ status = "unknown" ∧
      Control.onlineWith "healthy" (Control.pinned requested (node.candidates tunnelId)) = [] := by
    refine hclass.imp id fun ⟨hstatus, hnone⟩ => ⟨hstatus, ?_⟩
    rw [List.eq_nil_iff_forall_not_mem]
    intro better hbetter
    obtain ⟨honline, hhealthy⟩ := mem_onlineWith.1 hbetter
    obtain ⟨found, hfound, hsame⟩ := exists_row_of_mem_live h honline
    exact hnone found hfound (hsame.healthStatus.trans hhealthy)
  have hne : Control.onlineWith status
      (Control.pinned requested (node.candidates tunnelId)) ≠ [] := by
    apply @List.ne_nil_of_mem _ candidate
    exact mem_onlineWith.2 ⟨hlive, hsame.healthStatus.symm.trans ((hmem row).1 hrow).2⟩
  rw [eligible_eq_onlineWith hnode hne, mem_onlineWith]
  refine and_congr_right fun honline => ?_
  constructor
  · intro hstatus
    obtain ⟨found, hfound, hsame⟩ := exists_row_of_mem_live h honline
    exact ⟨found, (hmem found).2 ⟨hfound, hsame.healthStatus.trans hstatus⟩, hsame⟩
  · rintro ⟨found, hfound, hsame⟩
    exact hsame.healthStatus.symm.trans ((hmem found).1 hfound).2

end

theorem SameTarget.effectivePriority (h : SameTarget target row) :
    target.effectivePriority = if row.priority = 0 then 100 else (row.priority : ℤ) := by
  unfold Control.TargetRow.effectivePriority
  rw [← h.priority]
  simp only [Int.natCast_eq_zero]

theorem tiers_iff_of_nil
    (hnil : healthyOrUnknown (Laravel.enabledTargets laravel tunnelId requested) = []) :
    (∀ id, (∃ target ∈ Control.tier (Control.pinned requested (node.candidates tunnelId)),
        target.id = id) ↔
      ∃ row ∈ laravelTier (Laravel.enabledTargets laravel tunnelId requested), row.id = id) ↔
    live node tunnelId requested = [] := by
  have htier : laravelTier (Laravel.enabledTargets laravel tunnelId requested) = [] := by
    unfold laravelTier
    rw [hnil]
    rfl
  unfold live
  rw [htier, ← Control.tier_eq_nil_iff, List.eq_nil_iff_forall_not_mem]
  constructor
  · intro hsame target htarget
    obtain ⟨row, hrow, -⟩ := (hsame target.id).1 ⟨target, htarget, rfl⟩
    cases hrow
  · intro hnone id
    constructor
    · rintro ⟨target, htarget, -⟩
      exact absurd htarget (hnone target)
    · rintro ⟨row, hrow, -⟩
      cases hrow

theorem alike_of_tiers (h : SameTargets node laravel)
    (hsame : ∀ id, (∃ target ∈ Control.tier (Control.pinned requested (node.candidates tunnelId)),
        target.id = id) ↔
      ∃ row ∈ laravelTier (Laravel.enabledTargets laravel tunnelId requested), row.id = id) :
    (∀ row ∈ laravelTier (Laravel.enabledTargets laravel tunnelId requested), row.id ∈
        (live node tunnelId requested).map fun candidate => candidate.target.id) ∧
      ((∀ row ∈ laravelTier (Laravel.enabledTargets laravel tunnelId requested),
          row.priority ≠ 0) ∨
        ∀ row ∈ healthyOrUnknown (Laravel.enabledTargets laravel tunnelId requested), row.id ∈
          (live node tunnelId requested).map (fun candidate => candidate.target.id) →
            row.priority = 0 ∨ 100 < row.priority) := by
  have hlive : ∀ row ∈ laravelTier (Laravel.enabledTargets laravel tunnelId requested),
      ∃ target ∈ Control.tier (Control.pinned requested (node.candidates tunnelId)),
        ∃ candidate ∈ live node tunnelId requested, candidate.target = target ∧
          target.id = row.id := by
    intro row hrow
    obtain ⟨target, htarget, hid⟩ := (hsame row.id).2 ⟨row, hrow, rfl⟩
    obtain ⟨⟨candidate, heligible, hcandidate⟩, -⟩ := mem_tier.1 htarget
    exact ⟨target, htarget, candidate,
      Control.eligible_sublist_online.subset heligible, hcandidate, hid⟩
  constructor
  · intro row hrow
    obtain ⟨target, -, candidate, hcandidate, rfl, hid⟩ := hlive row hrow
    exact List.mem_map.2 ⟨candidate, hcandidate, hid⟩
  · rw [or_iff_not_imp_left]
    intro hzero row hrow hrowLive
    push Not at hzero
    obtain ⟨lowest, hlowest, hpriority⟩ := hzero
    by_contra hbetween
    push Not at hbetween
    obtain ⟨_, htarget, candidate, hcandidate, rfl, hid⟩ := hlive lowest hlowest
    have hlowestRow := (mem_laravelTier.1 hlowest).1
    obtain ⟨other, hother, hsameLowest⟩ := exists_row_of_mem_live h hcandidate
    obtain rfl := row_eq_of_id h hother (mem_targets_of_mem hlowestRow) (hsameLowest.id.trans hid)
    obtain ⟨between, hbetweenLive, hsameRow⟩ :=
      exists_live_of_id h (mem_targets_of_mem hrow) hrowLive
    have heligible := mem_eligible_iff h hlowestRow hcandidate hsameLowest
    have hleast := (mem_tier.1 htarget).2
    have hle := hleast between ((heligible between).2 ⟨hbetweenLive, row, hrow, hsameRow⟩)
    rw [hsameLowest.effectivePriority, hsameRow.effectivePriority, if_pos hpriority,
      if_neg hbetween.1] at hle
    have hchosen : between.target ∈
        Control.tier (Control.pinned requested (node.candidates tunnelId)) := by
      refine mem_tier.2 ⟨⟨between, (heligible between).2 ⟨hbetweenLive, row, hrow, hsameRow⟩,
        rfl⟩, fun candidate hmem => ?_⟩
      have hfirst := hleast candidate hmem
      rw [hsameLowest.effectivePriority, if_pos hpriority] at hfirst
      rw [hsameRow.effectivePriority, if_neg hbetween.1]
      omega
    obtain ⟨found, hfound, hfoundId⟩ := (hsame _).1 ⟨_, hchosen, rfl⟩
    obtain ⟨hfoundRow, hfoundLeast⟩ := mem_laravelTier.1 hfound
    obtain rfl := row_eq_of_id h (mem_targets_of_mem hfoundRow) (mem_targets_of_mem hrow)
      (hfoundId.trans hsameRow.id.symm)
    have hzero := hfoundLeast other hlowestRow
    omega

theorem tiers_of_alike (h : SameTargets node laravel)
    (hne : healthyOrUnknown (Laravel.enabledTargets laravel tunnelId requested) ≠ [])
    (hlive : ∀ row ∈ laravelTier (Laravel.enabledTargets laravel tunnelId requested), row.id ∈
      (live node tunnelId requested).map fun candidate => candidate.target.id)
    (hzero : (∀ row ∈ laravelTier (Laravel.enabledTargets laravel tunnelId requested),
        row.priority ≠ 0) ∨
      ∀ row ∈ healthyOrUnknown (Laravel.enabledTargets laravel tunnelId requested), row.id ∈
        (live node tunnelId requested).map (fun candidate => candidate.target.id) →
          row.priority = 0 ∨ 100 < row.priority) {id : String} :
    (∃ target ∈ Control.tier (Control.pinned requested (node.candidates tunnelId)),
        target.id = id) ↔
      ∃ row ∈ laravelTier (Laravel.enabledTargets laravel tunnelId requested), row.id = id := by
  obtain ⟨lowest, hlowest⟩ := List.exists_mem_of_ne_nil _ (laravelTier_ne_nil hne)
  obtain ⟨hlowestRow, hleast⟩ := mem_laravelTier.1 hlowest
  obtain ⟨candidate, hcandidate, hsameLowest⟩ :=
    exists_live_of_id h (mem_targets_of_mem hlowestRow) (hlive lowest hlowest)
  have heligible := mem_eligible_iff h hlowestRow hcandidate hsameLowest
  -- A live candidate compares with one of the tier as Laravel compares them.
  have hcompare : ∀ row ∈ laravelTier (Laravel.enabledTargets laravel tunnelId requested),
      ∀ other ∈ healthyOrUnknown (Laravel.enabledTargets laravel tunnelId requested), other.id ∈
        (live node tunnelId requested).map (fun candidate => candidate.target.id) →
      (if row.priority = 0 then 100 else (row.priority : ℤ)) ≤
          (if other.priority = 0 then 100 else (other.priority : ℤ)) ∧
        ((if other.priority = 0 then 100 else (other.priority : ℤ)) ≤
          (if row.priority = 0 then 100 else (row.priority : ℤ)) →
            other.priority ≤ row.priority) := by
    intro row hrow other hother hotherLive
    have hle := (mem_laravelTier.1 hrow).2 other hother
    rcases hzero with hnonzero | hfar
    · have hpos := hnonzero row hrow
      rw [if_neg hpos, if_neg (by omega)]
      omega
    · have hotherFar := hfar other hother hotherLive
      split_ifs <;> omega
  constructor
  · rintro ⟨_, htarget, rfl⟩
    obtain ⟨⟨chosen, hchosen, rfl⟩, hmin⟩ := mem_tier.1 htarget
    obtain ⟨hchosenLive, row, hrow, hsameRow⟩ := (heligible chosen).1 hchosen
    refine ⟨row, mem_laravelTier.2 ⟨hrow, fun other hother => ?_⟩, hsameRow.id⟩
    have hfirst := hmin candidate ((heligible candidate).2
      ⟨hcandidate, lowest, hlowestRow, hsameLowest⟩)
    rw [hsameRow.effectivePriority, hsameLowest.effectivePriority] at hfirst
    have hle := (hcompare lowest hlowest row hrow
      (List.mem_map.2 ⟨chosen, hchosenLive, hsameRow.id.symm⟩)).2 hfirst
    exact hle.trans (hleast other hother)
  · rintro ⟨row, hrow, rfl⟩
    have hrowRow := (mem_laravelTier.1 hrow).1
    obtain ⟨chosen, hchosenLive, hsameRow⟩ :=
      exists_live_of_id h (mem_targets_of_mem hrowRow) (hlive row hrow)
    refine ⟨chosen.target, mem_tier.2 ⟨⟨chosen, (heligible chosen).2
      ⟨hchosenLive, row, hrowRow, hsameRow⟩, rfl⟩, fun other hother => ?_⟩, hsameRow.id.symm⟩
    obtain ⟨hotherLive, found, hfound, hsameFound⟩ := (heligible other).1 hother
    rw [hsameRow.effectivePriority, hsameFound.effectivePriority]
    exact (hcompare row hrow found hfound
      (List.mem_map.2 ⟨other, hotherLive, hsameFound.id.symm⟩)).1

/-- **The two planes choose alike** exactly under the condition. -/
theorem chooseAlike_iff (h : SameTargets node laravel) :
    ChooseAlike node laravel tunnelId requested ↔ Alike node laravel tunnelId requested := by
  rw [chooseAlike_iff_tiers]
  unfold Alike
  dsimp only
  split_ifs with hnil
  · rw [tiers_iff_of_nil hnil, List.map_eq_nil_iff]
  · constructor
    · exact alike_of_tiers h
    · rintro ⟨hlive, hzero⟩ id
      exact tiers_of_alike h hnil hlive hzero

def oneTarget (healthStatus : String) : Control.TargetRow :=
  ⟨"g1", "o1", "t1", "a1", "default", "127.0.0.1", 3000, 1, Control.one_le_weight, 100, true,
    healthStatus⟩

/-- The Node store with one target, whose agent has the status. -/
def oneNode (status healthStatus : String) : Control.Database where
  agents := OrdMap.empty.set "a1" ⟨"a1", "o1", status, none⟩
  tunnels := .empty
  targets := OrdMap.empty.set "g1" (oneTarget healthStatus)
  policies := .empty
  presence := .empty
  targetSelectionCounters := .empty
  targets_keyed := by
    intro e he
    have hentries : (OrdMap.empty.set "g1" (oneTarget healthStatus)).entries =
        [("g1", oneTarget healthStatus)] := rfl
    rw [hentries] at he
    rw [List.mem_singleton.1 he]
    rfl

def oneRow (healthStatus : String) : Laravel.TargetRow :=
  ⟨"g1", "o1", "t1", "a1", "default", "127.0.0.1", 3000, 1, 100, true, healthStatus, none⟩

def oneLaravel (healthStatus : String) : Laravel.Database where
  agents := .empty
  presence := .empty
  policies := .empty
  tunnels := .empty
  targets := OrdMap.empty.set "g1" (oneRow healthStatus)

theorem sameTargets_one {status healthStatus : String} :
    SameTargets (oneNode status healthStatus) (oneLaravel healthStatus) := by
  constructor
  case target =>
    intro key
    unfold oneNode oneLaravel
    rw [get?_set, get?_set]
    split_ifs
    · exact .some ⟨rfl, rfl, rfl, rfl, rfl, rfl, rfl⟩
    · exact .none
  case keyed =>
    intro e he
    have hentries : (oneLaravel healthStatus).targets.entries = [("g1", oneRow healthStatus)] := rfl
    rw [hentries] at he
    rw [List.mem_singleton.1 he]
    rfl

/-- A healthy target whose agent is offline. -/
theorem not_chooseAlike_offline : ¬ ∀ node laravel tunnelId requested,
    SameTargets node laravel → ChooseAlike node laravel tunnelId requested := by
  intro h
  have hnone := (h (oneNode "offline" "healthy") (oneLaravel "healthy") "t1" none
    sameTargets_one).none 0 1 ⟨by decide, by decide⟩
  have hlaravel : laravelChoice (oneLaravel "healthy") "t1" none 1 = none :=
    hnone.1 (by decide +kernel)
  exact absurd hlaravel (by decide +kernel)

theorem chooseAlike_online :
    SameTargets (oneNode "online" "healthy") (oneLaravel "healthy") ∧
      ChooseAlike (oneNode "online" "healthy") (oneLaravel "healthy") "t1" none := by
  refine ⟨sameTargets_one, (chooseAlike_iff sameTargets_one).2 ?_⟩
  unfold Alike
  decide +kernel

end Tunnara.Planes
