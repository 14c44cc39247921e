/-
# What the maintenance keeps

`pruneRuntimeData` deletes expired idempotency keys, inspections that are older than the retention
period, then for each organization the inspections behind the limit, and audit rows older than a
period of their own. The rows are compared by the texts of `toISOString`. A cutoff before the
first instant of a `Date` has no text, and a limit from `2^63` on is no offset for SQLite.
-/

import Tunnara.Control.AgentAuth
import Tunnara.Data.Newest
import Mathlib.Data.List.Dedup

namespace Tunnara.Control

open Newest OrdMap

/-! ## The tables -/

/-- A row of `request_inspections`; the years of the clock have four digits. -/
structure RequestInspection where
  organizationId : String
  createdAt : ℕ
  dated : createdAt < fiveDigitYears
  deriving DecidableEq

structure AuditRow where
  createdAt : ℕ
  dated : createdAt < fiveDigitYears

structure ExpiringKey where
  expiresAt : ℕ
  dated : expiresAt < fiveDigitYears

structure RuntimeTables where
  keys : OrdMap (String × String) ExpiringKey
  inspections : OrdMap String RequestInspection
  audit : OrdMap ℕ AuditRow

structure Retention where
  (inspectorRetentionDays inspectorMaxRecords auditRetentionDays : ℕ)

/-- The readings of the clock: `nowIso()`, and `Date.now()` before either cutoff. -/
structure Readings where
  (keys inspections audit : ℕ)
  dated : keys < fiveDigitYears ∧ inspections < fiveDigitYears ∧ audit < fiveDigitYears

structure PruneResult where
  (inspectionsByAge inspectionsByLimit auditByAge idempotencyExpired : ℕ)

/-! ## The operation -/

def dayMillis : ℕ := 86400000

/-- `new Date(Date.now() - days * 86400000).toISOString()`. -/
def cutoff (now days : ℕ) : Except JsError ℤ :=
  if (now : ℤ) - days * dayMillis < -lastInstant then .error { message := "Invalid time value" }
  else .ok (now - days * dayMillis)

/-- `created_at < cutoff` on the texts. A cutoff before 1970 has four digits or a minus sign, and
comes after the plus sign of a year of five digits. -/
def isoBefore (createdAt : ℕ) : ℤ → Bool
  | .ofNat cutoff => !isoLe cutoff createdAt
  | .negSucc _ => fiveDigitYears ≤ createdAt

/-- `DELETE ... WHERE created_at<?`; a period of zero deletes nothing. -/
def deleteOlder {κ ν : Type} (createdAt : ν → ℕ) (now days : ℕ) (rows : OrdMap κ ν) :
    Except JsError (OrdMap κ ν × ℕ) :=
  if 0 < days then do
    let limit ← cutoff now days
    return rows.deleteWhere fun _ row => isoBefore (createdAt row) limit
  else return (rows, 0)

/-- `ORDER BY created_at DESC`. -/
def laterFirst (first second : String × RequestInspection) : Bool :=
  isoLe second.2.createdAt first.2.createdAt

def ofOrganization (rows : OrdMap String RequestInspection) (organizationId : String) :
    List (String × RequestInspection) :=
  rows.entries.filter fun e => e.2.organizationId = organizationId

/-- `SELECT id FROM request_inspections WHERE organization_id=? ... LIMIT -1 OFFSET ?`. -/
def staleIds (rows : OrdMap String RequestInspection) (organizationId : String) (maxRecords : ℕ) :
    Except JsError (List String) :=
  if 2 ^ 63 ≤ maxRecords then .error { message := "datatype mismatch" }
  else .ok ((surplus laterFirst maxRecords (ofOrganization rows organizationId)).map Prod.fst)

/-- The loop over the organizations. -/
def deleteStale (maxRecords : ℕ) : List String → OrdMap String RequestInspection → ℕ →
    Except JsError (OrdMap String RequestInspection × ℕ)
  | [], rows, count => .ok (rows, count)
  | organizationId :: rest, rows, count => do
    let ids ← staleIds rows organizationId maxRecords
    let removed := rows.removeAll ids
    deleteStale maxRecords rest removed.1 (count + removed.2)

/-- `SELECT DISTINCT organization_id FROM request_inspections`. -/
def organizationsOf (rows : OrdMap String RequestInspection) : List String :=
  (rows.entries.map fun e => e.2.organizationId).dedup

def deleteByLimit (maxRecords : ℕ) (rows : OrdMap String RequestInspection) :
    Except JsError (OrdMap String RequestInspection × ℕ) :=
  if 0 < maxRecords then deleteStale maxRecords (organizationsOf rows) rows 0
  else .ok (rows, 0)

/-- What is thrown leaves the deletions made so far. -/
def pruneRuntimeData (retention : Retention) (clock : Readings) (tables : RuntimeTables) :
    Except JsError PruneResult × RuntimeTables :=
  let expired := tables.keys.deleteWhere fun _ row => isoLe row.expiresAt clock.keys
  let first := { tables with keys := expired.1 }
  match deleteOlder RequestInspection.createdAt clock.inspections retention.inspectorRetentionDays
      first.inspections with
  | .error error => (.error error, first)
  | .ok aged =>
    let second := { first with inspections := aged.1 }
    match deleteByLimit retention.inspectorMaxRecords second.inspections with
    | .error error => (.error error, second)
    | .ok limited =>
      let third := { second with inspections := limited.1 }
      match deleteOlder AuditRow.createdAt clock.audit retention.auditRetentionDays
          third.audit with
      | .error error => (.error error, third)
      | .ok audited =>
        (.ok ⟨aged.2, limited.2, audited.2, expired.2⟩, { third with audit := audited.1 })

/-! ## The promise -/

/-- Within the last days before the reading. -/
def Recent (now days createdAt : ℕ) : Prop := now ≤ createdAt + days * dayMillis

instance (now days createdAt : ℕ) : Decidable (Recent now days createdAt) :=
  inferInstanceAs (Decidable (_ ≤ _))

/-- The inspections of an organization that are within the retention period. -/
def recent (now days : ℕ) (rows : OrdMap String RequestInspection) (organizationId : String) :
    List (String × RequestInspection) :=
  (ofOrganization rows organizationId).filter fun e => Recent now days e.2.createdAt

/-- All recent inspections of the organization if they are at most `max`, otherwise `max` of
them, each newer than all that were removed. -/
structure KeepsNewest (now days max : ℕ) (before after : OrdMap String RequestInspection)
    (organizationId : String) : Prop where
  all : (recent now days before organizationId).length ≤ max →
    ∀ e, e ∈ ofOrganization after organizationId ↔ e ∈ recent now days before organizationId
  sub : ∀ e ∈ ofOrganization after organizationId, e ∈ recent now days before organizationId
  count : max < (recent now days before organizationId).length →
    (ofOrganization after organizationId).length = max
  newest : ∀ kept ∈ ofOrganization after organizationId,
    ∀ removed ∈ recent now days before organizationId,
      removed ∉ ofOrganization after organizationId → removed.2.createdAt < kept.2.createdAt

/-- **The promise** of a call that returns. -/
structure Pruned (retention : Retention) (clock : Readings) (before after : RuntimeTables)
    (result : PruneResult) : Prop where
  inspections : ∀ organizationId, KeepsNewest clock.inspections retention.inspectorRetentionDays
    retention.inspectorMaxRecords before.inspections after.inspections organizationId
  keys : ∀ key row, before.keys.get? key = some row → clock.keys < row.expiresAt →
    after.keys.get? key = some row
  audit : ∀ id row, before.audit.get? id = some row →
    (0 < retention.auditRetentionDays →
      Recent clock.audit retention.auditRetentionDays row.createdAt) →
    after.audit.get? id = some row
  byAge : result.inspectionsByAge = (before.inspections.entries.filter fun e =>
    ¬ Recent clock.inspections retention.inspectorRetentionDays e.2.createdAt).length
  byLimit : result.inspectionsByAge + result.inspectionsByLimit + after.inspections.size =
    before.inspections.size
  expired : result.idempotencyExpired + after.keys.size = before.keys.size
  auditByAge : result.auditByAge + after.audit.size = before.audit.size
  again : pruneRuntimeData retention clock after = (.ok ⟨0, 0, 0, 0⟩, after)

/-- The inspections of an organization were saved at different times. -/
def DistinctTimes (rows : OrdMap String RequestInspection) : Prop :=
  ∀ first ∈ rows.entries, ∀ second ∈ rows.entries,
    first.2.organizationId = second.2.organizationId →
      first.2.createdAt = second.2.createdAt → first = second

/-- **The condition**: both cutoffs are dates, and the limit is an integer for SQLite unless no
inspection is within the period. -/
def Prunable (retention : Retention) (clock : Readings) (tables : RuntimeTables) : Prop :=
  retention.inspectorRetentionDays * dayMillis ≤ clock.inspections + lastInstant ∧
    retention.auditRetentionDays * dayMillis ≤ clock.audit + lastInstant ∧
    (retention.inspectorMaxRecords < 2 ^ 63 ∨ ∀ e ∈ tables.inspections.entries,
      ¬ Recent clock.inspections retention.inspectorRetentionDays e.2.createdAt)

/-! ## Cutoffs -/

section Cutoffs

variable {κ ν : Type} {createdAt : ν → ℕ} {now days : ℕ} {rows : OrdMap κ ν}

theorem isoBefore_iff {created : ℕ} (hcreated : created < fiveDigitYears)
    (hnow : now < fiveDigitYears) :
    isoBefore created ((now : ℤ) - days * dayMillis) = true ↔ ¬ Recent now days created := by
  have hcast : ((days * dayMillis : ℕ) : ℤ) = (days : ℤ) * dayMillis := by push_cast; rfl
  rw [← hcast]
  unfold Recent
  generalize days * dayMillis = period
  cases hlimit : (now : ℤ) - (period : ℕ) with
  | ofNat limit =>
    have hvalue : (now : ℤ) - period = limit := hlimit
    have hle := @isoLe_iff limit created (by omega) hcreated
    change (!isoLe limit created) = true ↔ _
    rw [Bool.not_eq_true', Bool.eq_false_iff, ne_eq, hle]
    omega
  | negSucc limit =>
    have hneg : (now : ℤ) - period < 0 := by rw [hlimit]; exact Int.negSucc_lt_zero _
    change decide (fiveDigitYears ≤ created) = true ↔ _
    rw [decide_eq_true_eq]
    omega

/-- A row that the period does not cover. -/
def aged (createdAt : ν → ℕ) (now days : ℕ) (_key : κ) (row : ν) : Bool :=
  0 < days && !decide (Recent now days (createdAt row))

theorem deleteWhere_congr {first second : κ → ν → Bool}
    (h : ∀ e ∈ rows.entries, first e.1 e.2 = second e.1 e.2) :
    rows.deleteWhere first = rows.deleteWhere second := by
  refine Prod.ext (ext_entries (List.filter_congr ?_)) ?_
  · intro e he
    dsimp only
    rw [h e he]
  · exact congrArg List.length (List.filter_congr h)

theorem deleteOlder_eq (hdated : ∀ row, createdAt row < fiveDigitYears)
    (hnow : now < fiveDigitYears) (hperiod : days * dayMillis ≤ now + lastInstant) :
    deleteOlder createdAt now days rows = .ok (rows.deleteWhere (aged createdAt now days)) := by
  unfold deleteOlder
  by_cases hdays : 0 < days
  · have hcutoff : cutoff now days = .ok ((now : ℤ) - days * dayMillis) := by
      have hcast : ((days * dayMillis : ℕ) : ℤ) = (days : ℤ) * dayMillis := by push_cast; rfl
      unfold cutoff
      rw [if_neg]
      rw [← hcast]
      omega
    rw [if_pos hdays, hcutoff]
    apply congrArg Except.ok
    apply deleteWhere_congr
    intro e _
    rw [Bool.eq_iff_iff, isoBefore_iff (hdated e.2) hnow]
    unfold aged
    simp [hdays]
  · rw [if_neg hdays, deleteWhere_of_none fun e _ => ?_]
    · rfl
    · unfold aged
      rw [decide_eq_false hdays, Bool.false_and]

theorem deleteOlder_eq_error (hperiod : ¬ days * dayMillis ≤ now + lastInstant) :
    deleteOlder createdAt now days rows = .error { message := "Invalid time value" } := by
  have hdays : 0 < days := by
    by_contra hzero
    rw [Nat.eq_zero_of_not_pos hzero, Nat.zero_mul] at hperiod
    exact hperiod (Nat.zero_le _)
  have hcutoff : cutoff now days = .error { message := "Invalid time value" } := by
    have hcast : ((days * dayMillis : ℕ) : ℤ) = (days : ℤ) * dayMillis := by push_cast; rfl
    unfold cutoff
    rw [if_pos]
    rw [← hcast]
    omega
  unfold deleteOlder
  rw [if_pos hdays, hcutoff]
  rfl

end Cutoffs

/-! ## The limit of each organization -/

variable {rows after : OrdMap String RequestInspection} {organizationId other : String}
  {maxRecords : ℕ}

theorem isoLe_total {a b : ℕ} : (isoLe a b || isoLe b a) = true := by
  unfold isoLe
  by_cases ha : a < fiveDigitYears <;> by_cases hb : b < fiveDigitYears <;> simp [ha, hb]
  all_goals omega

theorem isoLe_trans {a b c : ℕ} (hab : isoLe a b = true) (hbc : isoLe b c = true) :
    isoLe a c = true := by
  unfold isoLe at *
  by_cases ha : a < fiveDigitYears <;> by_cases hb : b < fiveDigitYears <;>
    by_cases hc : c < fiveDigitYears <;> simp [ha, hb, hc] at *
  all_goals omega

theorem eq_of_key {first second : String × RequestInspection} (hfirst : first ∈ rows.entries)
    (hsecond : second ∈ rows.entries) (hkey : first.1 = second.1) : first = second := by
  have hone := get?_eq_some_iff.2 hfirst
  have htwo := get?_eq_some_iff.2 hsecond
  rw [← hkey, hone] at htwo
  exact Prod.ext hkey (Option.some.inj htwo)

variable {e : String × RequestInspection}

theorem mem_ofOrganization :
    e ∈ ofOrganization rows organizationId ↔
      e ∈ rows.entries ∧ e.2.organizationId = organizationId := by
  unfold ofOrganization
  rw [List.mem_filter, decide_eq_true_eq]

theorem ofOrganization_nodup : (ofOrganization rows organizationId).Nodup :=
  rows.nodup_entries.filter _

theorem ofOrganization_removeAll (rows : OrdMap String RequestInspection)
    (organizationId other : String) (maxRecords : ℕ) :
    ofOrganization (rows.removeAll ((surplus laterFirst maxRecords
      (ofOrganization rows organizationId)).map Prod.fst)).1 other =
      if other = organizationId then (ofOrganization rows other).filter fun e =>
        e ∉ surplus laterFirst maxRecords (ofOrganization rows other)
      else ofOrganization rows other := by
  have hcomm : ofOrganization (rows.removeAll ((surplus laterFirst maxRecords
      (ofOrganization rows organizationId)).map Prod.fst)).1 other =
      (ofOrganization rows other).filter fun e => e.1 ∉ (surplus laterFirst maxRecords
        (ofOrganization rows organizationId)).map Prod.fst := by
    unfold ofOrganization
    rw [entries_removeAll, List.filter_comm]
  have hkey : ∀ e ∈ ofOrganization rows other, (e.1 ∈ (surplus laterFirst maxRecords
      (ofOrganization rows organizationId)).map Prod.fst ↔
        e ∈ surplus laterFirst maxRecords (ofOrganization rows organizationId)) := by
    intro e he
    constructor
    · intro hid
      obtain ⟨stale, hstale, hsame⟩ := List.mem_map.1 hid
      have hfound := (mem_ofOrganization.1 (mem_of_mem_surplus hstale)).1
      rw [← eq_of_key hfound (mem_ofOrganization.1 he).1 hsame]
      exact hstale
    · exact fun hstale => List.mem_map_of_mem hstale
  rw [hcomm]
  split_ifs with hsame
  · subst hsame
    apply List.filter_congr
    intro e he
    exact decide_eq_decide.2 (not_congr (hkey e he))
  · rw [List.filter_eq_self]
    intro e he
    rw [decide_eq_true_eq, hkey e he]
    intro hstale
    have horganization := (mem_ofOrganization.1 (mem_of_mem_surplus hstale)).2
    exact hsame ((mem_ofOrganization.1 he).2.symm.trans horganization)

theorem deleteStale_eq (hmax : maxRecords < 2 ^ 63) {organizations : List String}
    (hnodup : organizations.Nodup) (rows : OrdMap String RequestInspection) (count : ℕ) :
    ∃ after total, deleteStale maxRecords organizations rows count = .ok (after, total) ∧
      total + after.size = count + rows.size ∧
      ∀ organizationId, ofOrganization after organizationId =
        if organizationId ∈ organizations then (ofOrganization rows organizationId).filter fun e =>
          e ∉ surplus laterFirst maxRecords (ofOrganization rows organizationId)
        else ofOrganization rows organizationId := by
  induction organizations generalizing rows count with
  | nil => exact ⟨rows, count, rfl, rfl, fun _ => (if_neg (by simp)).symm⟩
  | cons organizationId rest ih =>
    obtain ⟨hnew, hrest⟩ := List.nodup_cons.1 hnodup
    have hids : staleIds rows organizationId maxRecords = .ok ((surplus laterFirst maxRecords
        (ofOrganization rows organizationId)).map Prod.fst) := if_neg (Nat.not_le.2 hmax)
    obtain ⟨after, total, hafter, htotal, hof⟩ := ih hrest
      (rows.removeAll ((surplus laterFirst maxRecords
        (ofOrganization rows organizationId)).map Prod.fst)).1
      (count + (rows.removeAll ((surplus laterFirst maxRecords
        (ofOrganization rows organizationId)).map Prod.fst)).2)
    have hsize := rows.size_removeAll ((surplus laterFirst maxRecords
      (ofOrganization rows organizationId)).map Prod.fst)
    refine ⟨after, total, ?_, by omega, ?_⟩
    · unfold deleteStale
      rw [hids]
      exact hafter
    · intro found
      rw [hof found, ofOrganization_removeAll]
      by_cases hfound : found = organizationId
      · subst hfound
        rw [if_neg hnew, if_pos rfl, if_pos List.mem_cons_self]
      · rw [if_neg hfound]
        simp only [List.mem_cons, hfound, false_or]

theorem organizationId_mem (h : e ∈ ofOrganization rows organizationId)
    : organizationId ∈ organizationsOf rows := by
  obtain ⟨hmem, rfl⟩ := mem_ofOrganization.1 h
  exact List.mem_dedup.2 (List.mem_map_of_mem hmem)

theorem deleteByLimit_eq (hpos : 0 < maxRecords) (hmax : maxRecords < 2 ^ 63)
    {rows : OrdMap String RequestInspection} :
    ∃ after total, deleteByLimit maxRecords rows = .ok (after, total) ∧
      total + after.size = rows.size ∧
      ∀ organizationId, ofOrganization after organizationId =
        (ofOrganization rows organizationId).filter fun e =>
          e ∉ surplus laterFirst maxRecords (ofOrganization rows organizationId) := by
  obtain ⟨after, total, hafter, htotal, hof⟩ :=
    deleteStale_eq hmax (List.nodup_dedup _) rows 0
  refine ⟨after, total, ?_, by omega, ?_⟩
  · unfold deleteByLimit
    rw [if_pos hpos]
    exact hafter
  · intro organizationId
    rw [hof organizationId]
    split_ifs with hmem
    · rfl
    · have hnone : ofOrganization rows organizationId = [] :=
        List.eq_nil_iff_forall_not_mem.2 fun e he => hmem (organizationId_mem he)
      rw [hnone]
      rfl

theorem deleteByLimit_of_empty (h : rows.entries = []) :
    deleteByLimit maxRecords rows = .ok (rows, 0) := by
  unfold deleteByLimit organizationsOf
  rw [h]
  split_ifs <;> rfl

theorem deleteByLimit_eq_error (hpos : 0 < maxRecords) (hmax : ¬ maxRecords < 2 ^ 63)
    (he : e ∈ rows.entries) :
    deleteByLimit maxRecords rows = .error { message := "datatype mismatch" } := by
  unfold deleteByLimit
  rw [if_pos hpos]
  cases hlist : organizationsOf rows with
  | nil =>
    have hmem := organizationId_mem (mem_ofOrganization.2 ⟨he, rfl⟩)
    rw [hlist] at hmem
    cases hmem
  | cons organizationId rest =>
    have hids : staleIds rows organizationId maxRecords =
        .error { message := "datatype mismatch" } := if_pos (Nat.not_lt.1 hmax)
    unfold deleteStale
    rw [hids]
    rfl

theorem deleteByLimit_of_few (hmax : maxRecords < 2 ^ 63)
    (h : ∀ organizationId, (ofOrganization rows organizationId).length ≤ maxRecords) :
    deleteByLimit maxRecords rows = .ok (rows, 0) := by
  have hloop : ∀ organizations, deleteStale maxRecords organizations rows 0 = .ok (rows, 0) := by
    intro organizations
    induction organizations with
    | nil => rfl
    | cons organizationId rest ih =>
      have hids : staleIds rows organizationId maxRecords = .ok [] := by
        unfold staleIds
        rw [if_neg (Nat.not_le.2 hmax), surplus_eq_nil (h organizationId)]
        rfl
      unfold deleteStale
      rw [hids]
      exact ih
  unfold deleteByLimit
  rw [hloop, ite_self]

/-! ## One call -/

variable {retention : Retention} {clock : Readings} {tables : RuntimeTables}

def withinPeriod (retention : Retention) (clock : Readings)
    (rows : OrdMap String RequestInspection) : OrdMap String RequestInspection :=
  (rows.deleteWhere (aged RequestInspection.createdAt clock.inspections
    retention.inspectorRetentionDays)).1

theorem ofOrganization_withinPeriod (hdays : 0 < retention.inspectorRetentionDays) :
    ofOrganization (withinPeriod retention clock rows) organizationId =
      recent clock.inspections retention.inspectorRetentionDays rows organizationId := by
  unfold withinPeriod OrdMap.deleteWhere OrdMap.filter ofOrganization aged
  rw [List.filter_comm]
  apply List.filter_congr
  intro e _
  simp [hdays]

theorem mem_withinPeriod (hdays : 0 < retention.inspectorRetentionDays)
    : e ∈ (withinPeriod retention clock rows).entries ↔
      e ∈ rows.entries ∧
        Recent clock.inspections retention.inspectorRetentionDays e.2.createdAt := by
  unfold withinPeriod OrdMap.deleteWhere OrdMap.filter aged
  rw [List.mem_filter]
  simp [hdays]

theorem keepsNewest_of_filter (hdays : 0 < retention.inspectorRetentionDays)
    (hdistinct : DistinctTimes rows) (h : ofOrganization after organizationId =
      (ofOrganization (withinPeriod retention clock rows) organizationId).filter fun e =>
        e ∉ surplus laterFirst maxRecords
          (ofOrganization (withinPeriod retention clock rows) organizationId)) :
    KeepsNewest clock.inspections retention.inspectorRetentionDays maxRecords rows after
      organizationId := by
  have hnodup : (recent clock.inspections retention.inspectorRetentionDays rows
      organizationId).Nodup := ofOrganization_nodup.filter _
  rw [ofOrganization_withinPeriod hdays] at h
  constructor
  case all =>
    intro hfew e
    rw [h, surplus_eq_nil hfew]
    simp
  case sub =>
    intro e he
    rw [h] at he
    exact List.mem_of_mem_filter he
  case count =>
    intro hmany
    rw [h, length_remaining hnodup fun _ _ => decide_eq_true_iff]
    omega
  case newest =>
    intro kept hkept removed hremoved hgone
    rw [h, List.mem_filter, decide_eq_true_eq] at hkept
    have hsurplus : removed ∈ surplus laterFirst maxRecords (recent clock.inspections
        retention.inspectorRetentionDays rows organizationId) := by
      by_contra hstays
      rw [h] at hgone
      exact hgone (List.mem_filter.2 ⟨hremoved, decide_eq_true hstays⟩)
    have hle := @newer_of_mem_surplus _ laterFirst _ _ (fun _ _ _ hab hbc => isoLe_trans hbc hab)
      (fun _ _ => isoLe_total) hnodup _ _ hkept.1 hkept.2 hsurplus
    have horder := (isoLe_iff removed.2.dated kept.2.dated).1 hle
    refine lt_of_le_of_ne horder fun hsame => hkept.2 ?_
    have hkeptRow := mem_ofOrganization.1 (List.mem_of_mem_filter hkept.1)
    have hremovedRow := mem_ofOrganization.1 (List.mem_of_mem_filter hremoved)
    rw [hdistinct kept hkeptRow.1 removed hremovedRow.1
      (hkeptRow.2.trans hremovedRow.2.symm) hsame.symm]
    exact hsurplus

theorem deleteByLimit_within (hpos : 0 < retention.inspectorMaxRecords)
    (hdays : 0 < retention.inspectorRetentionDays)
    (hlimit : retention.inspectorMaxRecords < 2 ^ 63 ∨ ∀ e ∈ rows.entries,
      ¬ Recent clock.inspections retention.inspectorRetentionDays e.2.createdAt) :
    ∃ after total, deleteByLimit retention.inspectorMaxRecords
        (withinPeriod retention clock rows) = .ok (after, total) ∧
      total + after.size = (withinPeriod retention clock rows).size ∧
      (∀ organizationId, ofOrganization after organizationId =
        (ofOrganization (withinPeriod retention clock rows) organizationId).filter fun e =>
          e ∉ surplus laterFirst retention.inspectorMaxRecords
            (ofOrganization (withinPeriod retention clock rows) organizationId)) ∧
      deleteByLimit retention.inspectorMaxRecords after = .ok (after, 0) := by
  rcases hlimit with hmax | hnone
  · obtain ⟨after, total, hafter, htotal, hof⟩ := deleteByLimit_eq hpos hmax
    refine ⟨after, total, hafter, htotal, hof, deleteByLimit_of_few hmax fun organizationId => ?_⟩
    rw [hof, length_remaining ofOrganization_nodup fun _ _ => decide_eq_true_iff]
    exact Nat.min_le_left _ _
  · have hempty : (withinPeriod retention clock rows).entries = [] :=
      List.eq_nil_iff_forall_not_mem.2 fun e he =>
        hnone e ((mem_withinPeriod hdays).1 he).1 ((mem_withinPeriod hdays).1 he).2
    refine ⟨_, 0, deleteByLimit_of_empty hempty, Nat.zero_add _, fun organizationId => ?_,
      deleteByLimit_of_empty hempty⟩
    have hof : ofOrganization (withinPeriod retention clock rows) organizationId = [] := by
      unfold ofOrganization
      rw [hempty]
      rfl
    rw [hof]
    rfl

theorem pruneRuntimeData_eq {after : OrdMap String RequestInspection} {total : ℕ}
    (hdays : retention.inspectorRetentionDays * dayMillis ≤ clock.inspections + lastInstant)
    (haudit : retention.auditRetentionDays * dayMillis ≤ clock.audit + lastInstant)
    (hlimit : deleteByLimit retention.inspectorMaxRecords
      (withinPeriod retention clock tables.inspections) = .ok (after, total)) :
    pruneRuntimeData retention clock tables =
      (.ok ⟨(tables.inspections.deleteWhere (aged RequestInspection.createdAt clock.inspections
            retention.inspectorRetentionDays)).2, total,
          (tables.audit.deleteWhere (aged AuditRow.createdAt clock.audit
            retention.auditRetentionDays)).2,
          (tables.keys.deleteWhere fun _ row => isoLe row.expiresAt clock.keys).2⟩,
        { keys := (tables.keys.deleteWhere fun _ row => isoLe row.expiresAt clock.keys).1
          inspections := after
          audit := (tables.audit.deleteWhere (aged AuditRow.createdAt clock.audit
            retention.auditRetentionDays)).1 }) := by
  have hfirst := @deleteOlder_eq _ _ _ _ _ tables.inspections RequestInspection.dated
    clock.dated.2.1 hdays
  have hthird := @deleteOlder_eq _ _ _ _ _ tables.audit AuditRow.dated clock.dated.2.2 haudit
  unfold pruneRuntimeData
  dsimp only
  rw [hfirst]
  change (match deleteByLimit _ (withinPeriod retention clock tables.inspections) with
    | .error error => _
    | .ok limited => _) = _
  rw [hlimit]
  rw [hthird]

theorem pruned_of_prunable (hdays : 0 < retention.inspectorRetentionDays)
    (hmax : 0 < retention.inspectorMaxRecords) (hdistinct : DistinctTimes tables.inspections)
    (h : Prunable retention clock tables) :
    ∃ result after, pruneRuntimeData retention clock tables = (.ok result, after) ∧
      Pruned retention clock tables after result := by
  obtain ⟨hperiod, haudit, hlimit⟩ := h
  obtain ⟨kept, total, hloop, htotal, hof, hstable⟩ := deleteByLimit_within hmax hdays hlimit
  have hrecent : ∀ e ∈ kept.entries,
      Recent clock.inspections retention.inspectorRetentionDays e.2.createdAt := by
    intro e he
    have hmem := mem_ofOrganization.2 ⟨he, rfl⟩
    rw [hof] at hmem
    exact ((mem_withinPeriod hdays).1 (mem_ofOrganization.1 (List.mem_of_mem_filter hmem)).1).2
  have hkept : kept.deleteWhere (aged RequestInspection.createdAt clock.inspections
      retention.inspectorRetentionDays) = (kept, 0) := by
    apply deleteWhere_of_none
    intro e he
    unfold aged
    rw [decide_eq_true (hrecent e he), Bool.not_true, Bool.and_false]
  have hsame : withinPeriod retention clock kept = kept := congrArg Prod.fst hkept
  refine ⟨_, _, pruneRuntimeData_eq hperiod haudit hloop, ?_⟩
  constructor
  case inspections => exact fun organizationId =>
    keepsNewest_of_filter hdays hdistinct (hof organizationId)
  case keys =>
    intro key row hrow hlive
    refine get?_eq_some_iff.2 (List.mem_filter.2 ⟨get?_eq_some_iff.1 hrow, ?_⟩)
    rw [Bool.not_eq_true', Bool.eq_false_iff, ne_eq, isoLe_iff row.dated clock.dated.1]
    omega
  case audit =>
    intro id row hrow hwithin
    refine get?_eq_some_iff.2 (List.mem_filter.2 ⟨get?_eq_some_iff.1 hrow, ?_⟩)
    unfold aged
    by_cases hpos : 0 < retention.auditRetentionDays
    · simp [hwithin hpos]
    · simp [hpos]
  case byAge =>
    apply congrArg List.length
    apply List.filter_congr
    intro e _
    unfold aged
    simp [hdays]
  case byLimit =>
    have hsize := tables.inspections.size_deleteWhere (aged RequestInspection.createdAt
      clock.inspections retention.inspectorRetentionDays)
    change _ + (withinPeriod retention clock tables.inspections).size = _ at hsize
    dsimp only
    omega
  case expired =>
    exact tables.keys.size_deleteWhere fun _ row => isoLe row.expiresAt clock.keys
  case auditByAge => exact tables.audit.size_deleteWhere _
  case again =>
    have hagain := @pruneRuntimeData_eq retention clock
      { keys := (tables.keys.deleteWhere fun _ row => isoLe row.expiresAt clock.keys).1
        inspections := kept
        audit := (tables.audit.deleteWhere (aged AuditRow.createdAt clock.audit
          retention.auditRetentionDays)).1 } kept 0 hperiod haudit (by rw [hsame]; exact hstable)
    rw [hagain]
    rw [hkept, deleteWhere_again, deleteWhere_again]

theorem prunable_of_ok (hmax : 0 < retention.inspectorMaxRecords)
    (hdays : 0 < retention.inspectorRetentionDays) {result : PruneResult} {after : RuntimeTables}
    (h : pruneRuntimeData retention clock tables = (.ok result, after)) :
    Prunable retention clock tables := by
  unfold pruneRuntimeData at h
  dsimp only at h
  by_cases hperiod : retention.inspectorRetentionDays * dayMillis ≤ clock.inspections + lastInstant
  swap
  · rw [deleteOlder_eq_error hperiod] at h
    cases h
  by_cases haudit : retention.auditRetentionDays * dayMillis ≤ clock.audit + lastInstant
  swap
  · rw [deleteOlder_eq_error haudit] at h
    split at h
    · cases h
    · split at h <;> cases h
  refine ⟨hperiod, haudit, ?_⟩
  by_contra hnot
  rw [not_or, not_forall] at hnot
  obtain ⟨hlimit, e, hnot⟩ := hnot
  rw [Classical.not_imp, not_not] at hnot
  rw [@deleteOlder_eq _ _ _ _ _ tables.inspections RequestInspection.dated clock.dated.2.1 hperiod]
    at h
  have herror := deleteByLimit_eq_error hmax hlimit ((mem_withinPeriod hdays).2 hnot)
  unfold withinPeriod at herror
  dsimp only at h
  rw [herror] at h
  cases h

/-- For every set of inspections with distinct times in each organization, and every positive
period and limit, the call returns and keeps the promise exactly under the condition. -/
theorem pruned_iff (retention : Retention) (clock : Readings) (tables : RuntimeTables)
    (hdays : 0 < retention.inspectorRetentionDays) (hmax : 0 < retention.inspectorMaxRecords)
    (hdistinct : DistinctTimes tables.inspections) :
    (∃ result after, pruneRuntimeData retention clock tables = (.ok result, after) ∧
      Pruned retention clock tables after result) ↔ Prunable retention clock tables := by
  constructor
  · rintro ⟨result, after, hok, -⟩
    exact prunable_of_ok hmax hdays hok
  · exact pruned_of_prunable hdays hmax hdistinct

def twoInspections : RuntimeTables where
  keys := .empty
  inspections := (OrdMap.empty.set "r1" ⟨"o1", 1, by decide⟩).set "r2" ⟨"o1", 2, by decide⟩
  audit := .empty

theorem distinctTimes_twoInspections : DistinctTimes twoInspections.inspections := by
  unfold DistinctTimes
  decide

def plainReadings : Readings := ⟨3, 3, 3, by decide⟩

/-- With a period of a million years the cutoff is no date: the call throws, and the limit of one
inspection is not enforced. -/
theorem not_pruned_forever : ¬ ∀ (retention : Retention) (clock : Readings)
    (tables : RuntimeTables), 0 < retention.inspectorRetentionDays →
    0 < retention.inspectorMaxRecords → DistinctTimes tables.inspections →
    ∃ result after, pruneRuntimeData retention clock tables = (.ok result, after) ∧
      Pruned retention clock tables after result := by
  intro h
  obtain ⟨result, after, hok, -⟩ := h ⟨365000000, 1, 90⟩ plainReadings twoInspections (by decide)
    (by decide) distinctTimes_twoInspections
  have hperiod := (prunable_of_ok (by decide) (by decide) hok).1
  exact absurd hperiod (by decide)

theorem pruned_iff_week : (∃ result after,
    pruneRuntimeData ⟨7, 1, 90⟩ plainReadings twoInspections = (.ok result, after) ∧
      Pruned ⟨7, 1, 90⟩ plainReadings twoInspections after result) ↔
    Prunable ⟨7, 1, 90⟩ plainReadings twoInspections :=
  pruned_iff ⟨7, 1, 90⟩ plainReadings twoInspections (by decide) (by decide)
    distinctTimes_twoInspections

end Tunnara.Control
