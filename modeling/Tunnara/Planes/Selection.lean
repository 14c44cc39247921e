/-
# The best target

`selectTunnelTarget` on targets whose priorities were given by clients. The best class of health
is right, and so is the smallest priority in it, but for a given zero: it counts as 100.
-/

import Mathlib.Data.Rat.Floor
import Tunnara.Control.Priorities
import Tunnara.Planes.Targets

namespace Tunnara.Planes

open Control Control.TunnelTables Transition OrdMap

/-! ## What is asked of a choice -/

/-- `Math.min(100, Math.max(1, Number(target.weight || 1)))` as a length. -/
def weightCopies (weight : JsNumber) : ℕ :=
  match weight with
  | .nan | .negInf => 1
  | .posInf => 100
  | .fin q => ⌊min 100 (max 1 q)⌋₊

/-- A target with its priority, a whole number, as it is read for a selection. -/
structure Shown (target : TargetRecord) (row : Control.TargetRow) : Prop where
  id : row.id = target.id
  tunnelId : row.tunnelId = target.tunnelId
  agentId : row.agentId = target.agentId
  name : row.name = target.name
  enabled : row.enabled = target.enabled
  healthStatus : row.healthStatus = target.healthStatus
  priority : target.priority.value = .fin row.priority
  copies : weightCopies target.weight.value = row.copies

/-- The store as far as a selection reads it. -/
structure Reads (db : Control.Database) (tables : TunnelTables) : Prop where
  agents : db.agents = tables.agents
  targets : ∀ id, Option.Rel Shown (tables.targets.get? id) (db.targets.get? id)

/-- `healthy` before `unknown` before the others. -/
def healthClass (status : String) : ℕ :=
  if status = "healthy" then 0 else if status = "unknown" then 1 else 2

/-- An enabled target of the tunnel that matches the pin, with an agent that is online and not
revoked. -/
structure Live (tables : TunnelTables) (tunnelId : String) (requested : Option String)
    (target : TargetRecord) : Prop where
  stored : tables.targets.get? target.id = some target
  tunnel : target.tunnelId = tunnelId
  enabled : target.enabled = true
  pin : ∀ id ∈ requested, id = "" ∨ target.id = id
  agent : ∃ agent, tables.agents.get? target.agentId = some agent ∧ agent.revokedAt = none ∧
    agent.status = "online"

/-- A live target of the best class of health. -/
structure Best (tables : TunnelTables) (tunnelId : String) (requested : Option String)
    (target : TargetRecord) : Prop where
  live : Live tables tunnelId requested target
  least : ∀ other, Live tables tunnelId requested other →
    healthClass target.healthStatus ≤ healthClass other.healthStatus

/-- **The promise**, for every value of the cursor. -/
structure SelectsBest (db : Control.Database) (ledger : Ledger) (tunnelId : String)
    (requested : Option String) : Prop where
  none : ∀ cursor, nodeChoice db tunnelId requested cursor = none ↔
    ∀ target, ¬ Live ledger.tables tunnelId requested target
  best : ∀ cursor row, nodeChoice db tunnelId requested cursor = some row →
    ∃ target priority, Best ledger.tables tunnelId requested target ∧ row.id = target.id ∧
      (ledger.supplied target.id).value = .fin priority ∧
      ∀ other, Best ledger.tables tunnelId requested other →
        ∃ priority', (ledger.supplied other.id).value = .fin priority' ∧ priority ≤ priority'

/-- **The condition**: where a target of the best class was given zero, another was given less,
or all others were given zero or more than 100. -/
def ZeroCounts (ledger : Ledger) (tunnelId : String) (requested : Option String) : Prop :=
  ∀ zero, Best ledger.tables tunnelId requested zero → (ledger.supplied zero.id).value = .fin 0 →
    (∃ low priority, Best ledger.tables tunnelId requested low ∧
      (ledger.supplied low.id).value = .fin priority ∧ priority < 0) ∨
    ∀ other priority, Best ledger.tables tunnelId requested other →
      (ledger.supplied other.id).value = .fin priority → priority = 0 ∨ 100 < priority

/-! ## The class -/

variable {db : Control.Database} {tables : TunnelTables} {tunnelId : String}
  {requested : Option String}

variable {candidate : Control.Candidate} {target : TargetRecord}

theorem mem_eligible {candidates : List Control.Candidate} :
    candidate ∈ Control.eligible candidates ↔ candidate ∈ Control.online candidates ∧
      ∀ other ∈ Control.online candidates,
        healthClass candidate.target.healthStatus ≤ healthClass other.target.healthStatus := by
  have hhealthy {status : String} : healthClass status = 0 ↔ status = "healthy" := by
    unfold healthClass
    split_ifs <;> simp_all
  have hunknown {status : String} : healthClass status ≤ 1 ↔
      status = "healthy" ∨ status = "unknown" := by
    unfold healthClass
    split_ifs <;> simp_all
  have hworst (status : String) : healthClass status ≤ 2 := by
    unfold healthClass
    split_ifs <;> omega
  unfold Control.eligible
  split_ifs with hsome hother
  · rw [mem_onlineWith]
    apply and_congr_right
    intro _
    constructor
    · intro hstatus other _
      rw [hhealthy.2 hstatus]
      exact Nat.zero_le _
    · intro hleast
      obtain ⟨first, hfirst⟩ := List.exists_mem_of_ne_nil _ hsome
      rw [mem_onlineWith] at hfirst
      have hle := hleast first hfirst.1
      rw [hhealthy.2 hfirst.2] at hle
      exact hhealthy.1 (Nat.le_zero.1 hle)
  · have hnone : ∀ other ∈ Control.online candidates, other.target.healthStatus ≠ "healthy" :=
      fun other hmem hstatus => hsome (List.ne_nil_of_mem (mem_onlineWith.2 ⟨hmem, hstatus⟩))
    rw [mem_onlineWith]
    apply and_congr_right
    intro honline
    constructor
    · intro hstatus other hmem
      have hpos : 0 < healthClass other.target.healthStatus :=
        Nat.pos_of_ne_zero fun h => hnone other hmem (hhealthy.1 h)
      exact (hunknown.2 (.inr hstatus)).trans hpos
    · intro hleast
      obtain ⟨first, hfirst⟩ := List.exists_mem_of_ne_nil _ hother
      rw [mem_onlineWith] at hfirst
      have hle := (hleast first hfirst.1).trans (hunknown.2 (.inr hfirst.2))
      exact (hunknown.1 hle).resolve_left (hnone candidate honline)
  · have hall : ∀ other ∈ Control.online candidates, healthClass other.target.healthStatus = 2 := by
      intro other hmem
      apply le_antisymm (hworst _)
      by_contra hbetter
      rcases hunknown.1 (Nat.lt_succ_iff.1 (not_le.1 hbetter)) with hstatus | hstatus
      · exact hsome (List.ne_nil_of_mem (mem_onlineWith.2 ⟨hmem, hstatus⟩))
      · exact hother (List.ne_nil_of_mem (mem_onlineWith.2 ⟨hmem, hstatus⟩))
    constructor
    · intro honline
      refine ⟨honline, fun other hmem => ?_⟩
      rw [hall candidate honline, hall other hmem]
    · exact And.left

theorem mem_candidates :
    candidate ∈ db.candidates tunnelId ↔
      db.targets.get? candidate.target.id = some candidate.target ∧
      db.agents.get? candidate.target.agentId = some candidate.agent ∧
      candidate.target.tunnelId = tunnelId ∧ candidate.target.enabled = true ∧
      candidate.agent.revokedAt = none := by
  unfold Control.Database.candidates
  rw [List.mem_insertionSort, List.mem_filterMap]
  constructor
  · rintro ⟨e, he, hcandidate⟩
    split at hcandidate
    · rename_i agent hagent
      split_ifs at hcandidate with hlisted
      cases hcandidate
      refine ⟨?_, hagent, hlisted⟩
      rw [get?_eq_some_iff, db.targets_keyed e he]
      exact he
    · cases hcandidate
  · rintro ⟨hget, hagent, hlisted⟩
    refine ⟨_, get?_eq_some_iff.1 hget, ?_⟩
    rw [hagent]
    exact if_pos hlisted

theorem mem_live :
    candidate ∈ live db tunnelId requested ↔ candidate ∈ db.candidates tunnelId ∧
      (∀ id ∈ requested, id = "" ∨ candidate.target.id = id) ∧
      candidate.agent.status = "online" := by
  have hpinned : candidate ∈ Control.pinned requested (db.candidates tunnelId) ↔
      candidate ∈ db.candidates tunnelId ∧
        ∀ id ∈ requested, id = "" ∨ candidate.target.id = id := by
    unfold Control.pinned
    cases requested with
    | none => simp
    | some id =>
      dsimp only
      split_ifs with hempty
      · simp [hempty]
      · simp [hempty]
  unfold live Control.online
  rw [List.mem_filter, hpinned, decide_eq_true_eq, and_assoc]

/-! ## What is read of the tables -/

theorem exists_candidate (hreads : Reads db tables) (h : Live tables tunnelId requested target) :
    ∃ candidate ∈ live db tunnelId requested, Shown target candidate.target := by
  have hrel := hreads.targets target.id
  rw [h.stored] at hrel
  generalize hfound : db.targets.get? target.id = found at hrel
  cases hrel with
  | @some _ row hshown =>
    obtain ⟨agent, hagent, hrevoked, hstatus⟩ := h.agent
    refine ⟨⟨row, agent⟩, ?_, hshown⟩
    rw [mem_live, mem_candidates, hreads.agents]
    rw [hshown.id, hshown.agentId, hshown.tunnelId, hshown.enabled]
    exact ⟨⟨hfound, hagent, h.tunnel, h.enabled, hrevoked⟩, h.pin, hstatus⟩

theorem exists_target (hreads : Reads db tables)
    (hkeyed : ∀ id target, tables.targets.get? id = some target → target.id = id)
    (h : candidate ∈ live db tunnelId requested) :
    ∃ target, Live tables tunnelId requested target ∧ Shown target candidate.target := by
  obtain ⟨hcandidate, hpin, hstatus⟩ := mem_live.1 h
  obtain ⟨hget, hagent, htunnel, henabled, hrevoked⟩ := mem_candidates.1 hcandidate
  have hrel := hreads.targets candidate.target.id
  rw [hget] at hrel
  generalize hfound : tables.targets.get? candidate.target.id = found at hrel
  cases hrel with
  | @some target _ hshown =>
    refine ⟨target, ⟨?_, ?_, ?_, ?_, ?_⟩, hshown⟩
    · rw [hkeyed _ _ hfound]
      exact hfound
    · rw [← hshown.tunnelId, htunnel]
    · rw [← hshown.enabled, henabled]
    · rw [← hshown.id]
      exact hpin
    · refine ⟨candidate.agent, ?_, hrevoked, hstatus⟩
      rw [← hshown.agentId, ← hreads.agents]
      exact hagent

theorem exists_eligible (hreads : Reads db tables)
    (hkeyed : ∀ id target, tables.targets.get? id = some target → target.id = id)
    (h : Best tables tunnelId requested target) :
    ∃ candidate ∈ Control.eligible (Control.pinned requested (db.candidates tunnelId)),
      Shown target candidate.target := by
  obtain ⟨candidate, hcandidate, hshown⟩ := exists_candidate hreads h.live
  refine ⟨candidate, mem_eligible.2 ⟨hcandidate, fun other hother => ?_⟩, hshown⟩
  obtain ⟨rival, hrival, hsame⟩ := exists_target hreads hkeyed hother
  rw [hshown.healthStatus, hsame.healthStatus]
  exact h.least rival hrival

theorem exists_best (hreads : Reads db tables)
    (hkeyed : ∀ id target, tables.targets.get? id = some target → target.id = id)
    (h : candidate ∈ Control.eligible (Control.pinned requested (db.candidates tunnelId))) :
    ∃ target, Best tables tunnelId requested target ∧ Shown target candidate.target := by
  obtain ⟨hcandidate, hleast⟩ := mem_eligible.1 h
  obtain ⟨target, htarget, hshown⟩ := exists_target hreads hkeyed hcandidate
  refine ⟨target, ⟨htarget, fun other hother => ?_⟩, hshown⟩
  obtain ⟨rival, hrival, hsame⟩ := exists_candidate hreads hother
  rw [← hshown.healthStatus, ← hsame.healthStatus]
  exact hleast rival hrival

/-! ## Given and read priorities -/

def counted (priority : ℚ) : ℚ := if priority = 0 then 100 else priority

theorem effectivePriority_eq {row : Control.TargetRow} {id : String} {supplied : StoredNumber}
    (hshown : Shown target row) (hrecorded : Recorded supplied id target) :
    ∃ priority, supplied.value = .fin priority ∧
      (row.effectivePriority : ℚ) = counted priority := by
  have hread := hrecorded.priority
  have hstored : orNumber (.fin (row.priority : ℚ)) 100 = .fin (row.effectivePriority : ℚ) := by
    unfold orNumber Control.TargetRow.effectivePriority
    by_cases hzero : row.priority = 0
    · rw [if_pos hzero, if_pos (by simp [hzero])]
      rfl
    · rw [if_neg hzero, if_neg (by simp [hzero])]
  rw [hshown.priority, hstored] at hread
  obtain ⟨value, hvalue⟩ := supplied
  cases value with
  | nan => exact absurd rfl hvalue
  | posInf | negInf => cases hread
  | fin priority =>
    refine ⟨priority, rfl, ?_⟩
    unfold orNumber at hread
    unfold counted
    by_cases hzero : priority = 0
    · rw [if_pos (by simp [hzero])] at hread
      rw [if_pos hzero]
      exact JsNumber.fin.inj hread
    · rw [if_neg (by simp [hzero])] at hread
      rw [if_neg hzero]
      exact JsNumber.fin.inj hread

variable {ledger : Ledger}

theorem counted_le_of_choice (hreads : Reads db ledger.tables)
    (haccurate : Accurate ledger.tables ledger.supplied) {cursor : ℕ} {row : Control.TargetRow}
    (h : nodeChoice db tunnelId requested cursor = some row) :
    ∃ target priority, Best ledger.tables tunnelId requested target ∧ row.id = target.id ∧
      (ledger.supplied target.id).value = .fin priority ∧
      ∀ other, Best ledger.tables tunnelId requested other → ∃ priority',
        (ledger.supplied other.id).value = .fin priority' ∧ counted priority ≤ counted priority' := by
  have hkeyed := haccurate.keyed
  obtain ⟨⟨candidate, hcandidate, rfl⟩, hleast⟩ := mem_tier.1 (exists_nodeChoice_iff.1 ⟨cursor, h⟩)
  obtain ⟨target, hbest, hshown⟩ := exists_best hreads hkeyed hcandidate
  obtain ⟨priority, hgiven, hcounted⟩ :=
    effectivePriority_eq hshown (haccurate _ _ hbest.live.stored)
  refine ⟨target, priority, hbest, hshown.id, hgiven, fun other hother => ?_⟩
  obtain ⟨rival, hrival, hsame⟩ := exists_eligible hreads hkeyed hother
  obtain ⟨priority', hgiven', hcounted'⟩ :=
    effectivePriority_eq hsame (haccurate _ _ hother.live.stored)
  refine ⟨priority', hgiven', ?_⟩
  rw [← hcounted, ← hcounted']
  exact_mod_cast hleast rival hrival

theorem exists_choice (hreads : Reads db ledger.tables)
    (haccurate : Accurate ledger.tables ledger.supplied) {priority : ℚ}
    (hbest : Best ledger.tables tunnelId requested target)
    (hgiven : (ledger.supplied target.id).value = .fin priority)
    (hleast : ∀ other priority', Best ledger.tables tunnelId requested other →
      (ledger.supplied other.id).value = .fin priority' → counted priority ≤ counted priority') :
    ∃ cursor row, nodeChoice db tunnelId requested cursor = some row ∧ row.id = target.id := by
  have hkeyed := haccurate.keyed
  obtain ⟨candidate, hcandidate, hshown⟩ := exists_eligible hreads hkeyed hbest
  have htier : candidate.target ∈
      Control.tier (Control.pinned requested (db.candidates tunnelId)) := by
    refine mem_tier.2 ⟨⟨candidate, hcandidate, rfl⟩, fun rival hrival => ?_⟩
    obtain ⟨other, hother, hsame⟩ := exists_best hreads hkeyed hrival
    obtain ⟨value, hvalue, hcounted⟩ :=
      effectivePriority_eq hshown (haccurate _ _ hbest.live.stored)
    obtain ⟨value', hvalue', hcounted'⟩ :=
      effectivePriority_eq hsame (haccurate _ _ hother.live.stored)
    rw [hgiven] at hvalue
    cases hvalue
    have hle := hleast other value' hother hvalue'
    rw [← hcounted, ← hcounted'] at hle
    exact_mod_cast hle
  obtain ⟨cursor, hcursor⟩ := exists_nodeChoice_iff.2 htier
  exact ⟨cursor, candidate.target, hcursor, hshown.id⟩

theorem choice_eq_none_iff (hreads : Reads db ledger.tables)
    (haccurate : Accurate ledger.tables ledger.supplied) (cursor : ℕ) :
    nodeChoice db tunnelId requested cursor = none ↔
      ∀ target, ¬ Live ledger.tables tunnelId requested target := by
  have hkeyed := haccurate.keyed
  rw [nodeChoice_eq_none_iff, Control.tier_eq_nil_iff]
  rw [List.eq_nil_iff_forall_not_mem]
  constructor
  · intro h target htarget
    obtain ⟨candidate, hcandidate, -⟩ := exists_candidate hreads htarget
    exact h candidate hcandidate
  · intro h candidate hcandidate
    obtain ⟨target, htarget, -⟩ := exists_target hreads hkeyed hcandidate
    exact h target htarget

theorem le_of_counted {priority priority' : ℚ} (hle : counted priority ≤ counted priority')
    (hzero : priority' = 0 → priority ≤ 0) : priority ≤ priority' := by
  by_cases h' : priority' = 0
  · rw [h']
    exact hzero h'
  · unfold counted at hle
    rw [if_neg h'] at hle
    split_ifs at hle with h
    · rw [h]
      linarith
    · exact hle

theorem selectsBest_iff_of_accurate (hreads : Reads db ledger.tables)
    (haccurate : Accurate ledger.tables ledger.supplied) :
    SelectsBest db ledger tunnelId requested ↔ ZeroCounts ledger tunnelId requested := by
  constructor
  · intro h zero hzero hgiven
    by_contra hfails
    obtain ⟨hlow, hothers⟩ := not_or.1 hfails
    push_neg at hothers
    obtain ⟨other, priority, hother, hvalue, hne, hle⟩ := hothers
    have hpromised {cursor : ℕ} {row : Control.TargetRow} {target : TargetRecord} {value : ℚ}
        (hchoice : nodeChoice db tunnelId requested cursor = some row) (hid : row.id = target.id)
        (htarget : (ledger.supplied target.id).value = .fin value) : value ≤ 0 := by
      obtain ⟨chosen, value', -, hchosen, hvalue', hleast⟩ := h.best cursor row hchoice
      obtain ⟨least, hzeroValue, hle'⟩ := hleast zero hzero
      rw [← hid, hchosen, hvalue'] at htarget
      rw [hgiven] at hzeroValue
      cases htarget
      cases hzeroValue
      exact hle'
    obtain ⟨row, hrow⟩ : ∃ row, nodeChoice db tunnelId requested 0 = some row := by
      apply Option.ne_none_iff_exists'.1
      intro hnone
      exact (choice_eq_none_iff hreads haccurate 0).1 hnone zero hzero.live
    obtain ⟨first, value, hfirst, hid, hfirstValue, hleast⟩ :=
      counted_le_of_choice hreads haccurate hrow
    have hnonpos := hpromised hrow hid hfirstValue
    -- what is chosen was given zero, which counts as 100, so that the other one counts as much
    have hvalueZero : value = 0 := by
      by_contra hvalueNe
      exact hlow ⟨first, value, hfirst, hfirstValue, lt_of_le_of_ne hnonpos hvalueNe⟩
    subst hvalueZero
    obtain ⟨priority', hvalue', hcounted⟩ := hleast other hother
    rw [hvalue] at hvalue'
    cases hvalue'
    have hcountedOther : counted priority = priority := if_neg hne
    have hhundred : counted 0 = 100 := if_pos rfl
    have hpriority : priority = 100 := by
      rw [hhundred, hcountedOther] at hcounted
      exact le_antisymm hle hcounted
    obtain ⟨cursor, chosen, hchoice, hchosen⟩ : ∃ cursor row,
        nodeChoice db tunnelId requested cursor = some row ∧ row.id = other.id := by
      apply exists_choice hreads haccurate hother hvalue
      intro rival rivalPriority hrival hrivalValue
      obtain ⟨given, hgivenRival, hcountedRival⟩ := hleast rival hrival
      rw [hrivalValue] at hgivenRival
      cases hgivenRival
      rw [hcountedOther, hpriority, ← hhundred]
      exact hcountedRival
    have hcontradiction := hpromised hchoice hchosen hvalue
    rw [hpriority] at hcontradiction
    norm_num at hcontradiction
  · intro h
    constructor
    · exact choice_eq_none_iff hreads haccurate
    · intro cursor row hrow
      obtain ⟨target, priority, hbest, hid, hgiven, hleast⟩ :=
        counted_le_of_choice hreads haccurate hrow
      refine ⟨target, priority, hbest, hid, hgiven, fun other hother => ?_⟩
      obtain ⟨priority', hgiven', hle⟩ := hleast other hother
      refine ⟨priority', hgiven', le_of_counted hle fun hzero => ?_⟩
      subst hzero
      have hhundred : counted 0 = 100 := if_pos rfl
      by_contra hpos
      have hcounted : counted priority = priority := if_neg (ne_of_gt (not_le.1 hpos))
      rcases h other hother hgiven' with ⟨low, value, hlow, hvalue, hneg⟩ | hall
      · obtain ⟨value', hvalue', hlowest⟩ := hleast low hlow
        rw [hvalue] at hvalue'
        cases hvalue'
        have hcountedLow : counted value = value := if_neg (ne_of_lt hneg)
        rw [hcounted, hcountedLow] at hlowest
        exact hpos (hlowest.trans hneg.le)
      · rcases hall target priority hbest hgiven with hzero | hlarge
        · exact hpos hzero.le
        · rw [hcounted, hhundred] at hle
          exact absurd hle (not_le.2 hlarge)

/-! ## A store for every set of tables -/

theorem weightCopies_pos (weight : JsNumber) : 1 ≤ weightCopies weight := by
  unfold weightCopies
  split
  · exact le_rfl
  · exact le_rfl
  · norm_num
  · apply Nat.le_floor
    rw [Nat.cast_one]
    exact le_min (by norm_num) (le_max_left 1 _)

theorem weightCopies_le (weight : JsNumber) : weightCopies weight ≤ 100 := by
  unfold weightCopies
  split
  · norm_num
  · norm_num
  · exact le_rfl
  · apply Nat.floor_le_of_le
    exact_mod_cast min_le_left _ _

def shownRow (target : TargetRecord) (priority : ℤ) : Control.TargetRow where
  id := target.id
  organizationId := target.organizationId
  tunnelId := target.tunnelId
  agentId := target.agentId
  name := target.name
  targetHost := target.targetHost
  -- the port plays no part in a selection
  targetPort := 0
  weight := weightCopies target.weight.value
  weight_pos := by exact_mod_cast weightCopies_pos _
  priority := priority
  enabled := target.enabled
  healthStatus := target.healthStatus

theorem shown_shownRow {priority : ℤ} (h : target.priority.value = .fin priority) :
    Shown target (shownRow target priority) where
  id := rfl
  tunnelId := rfl
  agentId := rfl
  name := rfl
  enabled := rfl
  healthStatus := rfl
  priority := h
  copies := by
    have hpos := weightCopies_pos target.weight.value
    have hle := weightCopies_le target.weight.value
    unfold Control.TargetRow.copies shownRow
    dsimp only
    omega

def wholePriority (target : TargetRecord) : ℤ :=
  match target.priority.value with
  | .fin q => q.num
  | _ => 0

theorem exists_reads (haccurate : Accurate ledger.tables ledger.supplied)
    (hwhole : ∀ id target, ledger.tables.targets.get? id = some target →
      target.priority.value = .fin (wholePriority target)) : ∃ db, Reads db ledger.tables := by
  refine ⟨{
    agents := ledger.tables.agents
    tunnels := .empty
    targets := ledger.tables.targets.mapVals fun _ target => shownRow target (wholePriority target)
    policies := .empty
    presence := .empty
    targetSelectionCounters := .empty
    targets_keyed := ?keyed }, rfl, ?targets⟩
  case keyed =>
    intro e he
    have hget := get?_eq_some_iff.2 he
    rw [get?_mapVals] at hget
    obtain ⟨target, htarget, hrow⟩ := Option.map_eq_some_iff.1 hget
    rw [← hrow]
    exact (haccurate e.1 target htarget).id
  case targets =>
    intro id
    rw [get?_mapVals]
    cases hget : ledger.tables.targets.get? id with
    | none => exact .none
    | some target => exact .some (shown_shownRow (hwhole id target hget))

theorem accurate_of_empty (env : StoreEnv) {start : Ledger} (hstart : start.tables.targets = .empty)
    (events : List LedgerEvent) : Accurate (run (Ledger.step env) start events).tables
      (run (Ledger.step env) start events).supplied := by
  apply accurate_run
  intro id target htarget
  rw [hstart, get?_empty] at htarget
  cases htarget

/-- **When the best target is picked**, in every store that clients have written: unless a best
target was given zero, none of them less, and another one something from 1 to 100. -/
theorem selectsBest_iff (env : StoreEnv) (start : Ledger) (hstart : start.tables.targets = .empty)
    (events : List LedgerEvent) {db : Control.Database}
    (hreads : Reads db (run (Ledger.step env) start events).tables) (tunnelId : String)
    (requested : Option String) :
    SelectsBest db (run (Ledger.step env) start events) tunnelId requested ↔
      ZeroCounts (run (Ledger.step env) start events) tunnelId requested :=
  selectsBest_iff_of_accurate hreads (accurate_of_empty env hstart events)

/-! ## A primary and a standby -/

def emptyLedger : Ledger := ⟨emptyTables, fun _ => defaultPriority⟩

/-- A tunnel with two targets of these priorities. -/
def failover (first second : ℚ) : List LedgerEvent :=
  [.tables (.createTunnel "o1" plainDraws { plainInput with
    targets := [
      ⟨"a1", "primary", "127.0.0.1", .fin 3000, .fin 1, .fin first, true, .null⟩,
      ⟨"a1", "standby", "127.0.0.1", .fin 3001, .fin 1, .fin second, true, .null⟩] })]

theorem whole_of_entries {ledger : Ledger} (h : ∀ e ∈ ledger.tables.targets.entries,
    e.2.priority.value = .fin (wholePriority e.2)) (id : String) (target : TargetRecord)
    (htarget : ledger.tables.targets.get? id = some target) :
    target.priority.value = .fin (wholePriority target) :=
  h (id, target) (get?_eq_some_iff.1 htarget)

theorem selectsBest_failover : ∃ db, Reads db (run (Ledger.step .plain) emptyLedger
      (failover 10 20)).tables ∧
    SelectsBest db (run (Ledger.step .plain) emptyLedger (failover 10 20)) "t1" none := by
  have hwhole : ∀ e ∈ (run (Ledger.step .plain) emptyLedger (failover 10 20)).tables.targets.entries,
      e.2.priority.value = .fin (wholePriority e.2) := by decide +kernel
  have hgiven : ∀ e ∈ (run (Ledger.step .plain) emptyLedger (failover 10 20)).tables.targets.entries,
      ((run (Ledger.step .plain) emptyLedger (failover 10 20)).supplied e.1).value ≠ .fin 0 := by
    decide +kernel
  obtain ⟨db, hreads⟩ := exists_reads (accurate_of_empty .plain rfl (failover 10 20))
    (whole_of_entries hwhole)
  refine ⟨db, hreads, (selectsBest_iff .plain emptyLedger rfl _ hreads "t1" none).2 ?_⟩
  intro zero hzero hvalue
  exact absurd hvalue (hgiven _ (get?_eq_some_iff.1 hzero.live.stored))

/-- Where the primary is given zero, the standby is picked. -/
theorem not_selectsBest_failover : ∃ db, Reads db (run (Ledger.step .plain) emptyLedger
      (failover 0 10)).tables ∧
    ¬ SelectsBest db (run (Ledger.step .plain) emptyLedger (failover 0 10)) "t1" none := by
  generalize hledger : run (Ledger.step .plain) emptyLedger (failover 0 10) = ledger
  have haccurate : Accurate ledger.tables ledger.supplied :=
    hledger ▸ accurate_of_empty .plain rfl (failover 0 10)
  have hwhole : ∀ e ∈ ledger.tables.targets.entries,
      e.2.priority.value = .fin (wholePriority e.2) := by
    subst hledger
    decide +kernel
  have hagent : ledger.tables.agents.get? "a1" = some ⟨"a1", "o1", "online", none⟩ := by
    subst hledger
    decide +kernel
  have hall : ∀ e ∈ ledger.tables.targets.entries, e.2.tunnelId = "t1" ∧ e.2.enabled = true ∧
      e.2.agentId = "a1" ∧ e.2.healthStatus = "unknown" ∧
      ((ledger.supplied e.2.id).value = .fin 0 ∨ (ledger.supplied e.2.id).value = .fin 10) := by
    subst hledger
    decide +kernel
  have hprimary : ∃ e ∈ ledger.tables.targets.entries,
      (ledger.supplied e.2.id).value = .fin 0 := by
    subst hledger
    decide +kernel
  have hstandby : ∃ e ∈ ledger.tables.targets.entries,
      (ledger.supplied e.2.id).value = .fin 10 := by
    subst hledger
    decide +kernel
  have hbest : ∀ e ∈ ledger.tables.targets.entries, Best ledger.tables "t1" none e.2 := by
    intro e he
    obtain ⟨htunnel, henabled, hagentId, hstatus, -⟩ := hall e he
    have hget : ledger.tables.targets.get? e.1 = some e.2 := get?_eq_some_iff.2 he
    refine ⟨⟨?_, htunnel, henabled, nofun, ?_⟩, fun other hother => ?_⟩
    · rw [(haccurate _ _ hget).id]
      exact hget
    · rw [hagentId]
      exact ⟨_, hagent, rfl, rfl⟩
    · have hsame := (hall _ (get?_eq_some_iff.1 hother.stored)).2.2.2.1
      rw [hstatus, hsame]
  obtain ⟨db, hreads⟩ := exists_reads haccurate (whole_of_entries hwhole)
  refine ⟨db, hreads, fun hselects => ?_⟩
  obtain ⟨primary, hfirst, hzero⟩ := hprimary
  obtain ⟨standby, hsecond, hten⟩ := hstandby
  rcases (selectsBest_iff_of_accurate hreads haccurate).1 hselects primary.2 (hbest _ hfirst) hzero with
    ⟨low, priority, hlow, hvalue, hneg⟩ | hothers
  · rcases (hall _ (get?_eq_some_iff.1 hlow.live.stored)).2.2.2.2 with hsame | hsame
    all_goals
      rw [hvalue] at hsame
      cases hsame
      norm_num at hneg
  · have hcounts := hothers standby.2 10 (hbest _ hsecond) hten
    norm_num at hcounts

end Tunnara.Planes
