/-
# The Control database of the Node plane

The rows of `TunnaraDatabase` that routing and policies read, as maps keyed by
primary key, and the policy endpoints of the Control API over them. A request
that throws leaves the database as it is.

`weight` is an integer column that every writer fills with `Math.max(1, …)`, so
positivity is a field of the row.
-/

import Tunnara.Data.OrdMap
import Tunnara.Data.Transition
import Tunnara.Policy.Document

namespace Tunnara.Control

open Policy

structure AgentRow where
  (id organizationId status : String)
  revokedAt : Option String
  deriving DecidableEq

structure PolicyRow where
  (id organizationId name description : String)
  document : Json
  enabled : Bool
  deriving DecidableEq

structure TunnelRow where
  (id organizationId agentId : String)
  policyId : Option String
  (name protocol hostname status : String)
  inspectorEnabled : Bool
  deriving DecidableEq

structure TargetRow where
  (id organizationId tunnelId agentId name targetHost : String)
  targetPort : ℕ
  weight : ℤ
  weight_pos : 1 ≤ weight
  priority : ℤ
  enabled : Bool
  healthStatus : String
  deriving DecidableEq

structure PresenceRow where
  agentId : String
  (relayNodeId relayEdgeUrl : Option String)
  deriving DecidableEq

/-- The tables, and the round-robin cursors the process keeps beside them. -/
structure Database where
  agents : OrdMap String AgentRow
  tunnels : OrdMap String TunnelRow
  targets : OrdMap String TargetRow
  policies : OrdMap String PolicyRow
  presence : OrdMap String PresenceRow
  targetSelectionCounters : OrdMap String ℕ
  /-- `id` is the primary key of `tunnel_targets`. -/
  targets_keyed : ∀ e ∈ targets.entries, e.2.id = e.1

theorem one_le_weight : (1 : ℤ) ≤ 1 := le_rfl

theorem empty_keyed : ∀ e ∈ (OrdMap.empty : OrdMap String TargetRow).entries, e.2.id = e.1 := nofun

namespace Database

variable (db : Database)

def getPolicy (organizationId id : String) : Option PolicyRow :=
  (db.policies.get? id).filter fun row => row.organizationId = organizationId

/-- `UNIQUE (organization_id, name)`, checked against the other rows. -/
def policyNameTaken (organizationId name id : String) : Bool :=
  db.policies.entries.any fun e =>
    e.1 ≠ id && e.2.organizationId = organizationId && e.2.name = name

/-- The error of a failed `UNIQUE` constraint. -/
def uniqueViolation : JsError := { message := "UNIQUE constraint failed: policies.name" }

def createPolicy (id organizationId name description : String) (document : Json)
    (enabled : Bool) : Except JsError Database :=
  if db.policyNameTaken organizationId name id then .error uniqueViolation
  else .ok { db with
    policies := db.policies.set id ⟨id, organizationId, name, description, document, enabled⟩ }

/-- The changes of a PATCH; `none` is `undefined`. -/
structure PolicyChanges where
  (name description : Option String)
  (document enabled : Option Json)

def updatePolicy (organizationId id : String) (changes : PolicyChanges) :
    Except JsError (Option Database) :=
  match db.getPolicy organizationId id with
  | none => .ok none
  | some current =>
    let name := changes.name.getD current.name
    if db.policyNameTaken organizationId name id then .error uniqueViolation
    else .ok (some { db with
      policies := db.policies.set id { current with
        name := name
        description := changes.description.getD current.description
        document := changes.document.getD current.document
        enabled := match changes.enabled with
          | none => current.enabled
          | some v => v.truthy } })

def deletePolicy (organizationId id : String) : Except JsError (Option Database) :=
  if db.tunnels.entries.any fun e =>
      e.2.organizationId = organizationId && e.2.policyId = some id then
    .error {
      message := "Política está associada a túneis ativos."
      statusCode := some 409
      code := some "POLICY_IN_USE" }
  else match db.getPolicy organizationId id with
    | none => .ok none
    | some _ => .ok (some { db with policies := db.policies.erase id })

end Database

variable (host : Host)

/-- `POST /api/v1/policies`; `id` is the uuid drawn for the row. -/
def postPolicy (db : Database) (organizationId id : String) (body : Json) :
    Except JsError Database := do
  let rawName ← property (some body) "name"
  let name := trim (← (orDefault rawName (.str "")).toJsString host)
  if name = "" then
    .error {
      message := "name é obrigatório."
      statusCode := some 422
      code := some "POLICY_NAME_REQUIRED" }
  else do
    let document ← normalizePolicyInput host (some (orDefault (body.get? "document") (.obj [])))
    let description ← (orDefault (body.get? "description") (.str "")).toJsString host
    db.createPolicy id organizationId name description document (notFalse (body.get? "enabled"))

/-- `v === undefined ? undefined : convert(v)`. -/
def ifDefined {α : Type} (convert : Json → Except JsError α) :
    Option Json → Except JsError (Option α)
  | none => .ok none
  | some v => (convert v).map some

/-- `PATCH /api/v1/policies/:id`; `none` when there is no such policy. -/
def patchPolicy (db : Database) (organizationId id : String) (body : Json) :
    Except JsError (Option Database) := do
  let rawName ← property (some body) "name"
  let name ← ifDefined (fun v => (v.toJsString host).map trim) rawName
  let description ← ifDefined (fun v => v.toJsString host) (body.get? "description")
  let document ← ifDefined (fun v => normalizePolicyInput host (some v)) (body.get? "document")
  db.updatePolicy organizationId id ⟨name, description, document, body.get? "enabled"⟩

/-- A write request to the policy endpoints. -/
inductive PolicyRequest
  | post (organizationId id : String) (body : Json)
  | patch (organizationId id : String) (body : Json)
  | delete (organizationId id : String)

/-- Serve one request; a refused one changes nothing. -/
def policyStep (db : Database) : PolicyRequest → Database
  | .post organizationId id body =>
    match postPolicy host db organizationId id body with
    | .ok next => next
    | .error _ => db
  | .patch organizationId id body =>
    match patchPolicy host db organizationId id body with
    | .ok (some next) => next
    | _ => db
  | .delete organizationId id =>
    match db.deletePolicy organizationId id with
    | .ok (some next) => next
    | _ => db

/-- A document that `normalizePolicyInput` produced. -/
def Normalized (document : Json) : Prop :=
  ∃ defaultEffect enabled rules, IsNormalized document defaultEffect enabled rules

def StoresNormalized (db : Database) : Prop :=
  ∀ id row, db.policies.get? id = some row → Normalized row.document

theorem normalized_of_normalizePolicyInput {document : Option Json} {stored : Json}
    (h : normalizePolicyInput host document = .ok stored) : Normalized stored := by
  obtain ⟨rules, hrules⟩ := isNormalized_of_normalizePolicyInput h
  exact ⟨_, _, rules, hrules⟩

variable {db : Database}

section

variable (hdb : StoresNormalized db)
include hdb

theorem StoresNormalized.set {id : String} {row : PolicyRow} (hrow : Normalized row.document) :
    StoresNormalized { db with policies := db.policies.set id row } := by
  intro other found hfound
  rw [OrdMap.get?_set] at hfound
  split at hfound
  · cases hfound
    exact hrow
  · exact hdb other found hfound

theorem storesNormalized_of_postPolicy {next : Database} {organizationId id : String}
    {body : Json} (h : postPolicy host db organizationId id body = .ok next) :
    StoresNormalized next := by
  simp only [postPolicy, bind_eq_ok] at h
  obtain ⟨rawName, -, nameText, -, h⟩ := h
  split at h
  · cases h
  · simp only [bind_eq_ok] at h
    obtain ⟨document, hdocument, description, -, h⟩ := h
    unfold Database.createPolicy at h
    split at h
    · cases h
    · cases h
      exact hdb.set (normalized_of_normalizePolicyInput host hdocument)

omit hdb in
theorem ifDefined_eq_ok {α : Type} {convert : Json → Except JsError α} {v : Option Json}
    {result : Option α} (h : ifDefined convert v = .ok result) :
    result = none ∨ ∃ raw value, convert raw = .ok value ∧ result = some value := by
  cases v with
  | none => cases h; exact Or.inl rfl
  | some raw =>
    cases hconvert : convert raw with
    | error e => simp [ifDefined, hconvert, Except.map] at h
    | ok value =>
      simp only [ifDefined, hconvert, Except.map, Except.ok.injEq] at h
      exact Or.inr ⟨raw, value, hconvert, h.symm⟩

theorem storesNormalized_of_patchPolicy {next : Database} {organizationId id : String}
    {body : Json} (h : patchPolicy host db organizationId id body = .ok (some next)) :
    StoresNormalized next := by
  simp only [patchPolicy, bind_eq_ok] at h
  obtain ⟨rawName, -, name, -, description, -, document, hdocument, h⟩ := h
  unfold Database.updatePolicy at h
  split at h
  · cases h
  · rename_i current hcurrent
    have hstored : Normalized current.document := by
      exact hdb id current (Option.filter_eq_some_iff.1 hcurrent).1
    dsimp only at h
    split at h
    · cases h
    · cases h
      apply hdb.set
      rcases ifDefined_eq_ok hdocument with rfl | ⟨raw, value, hvalue, rfl⟩
      · exact hstored
      · exact normalized_of_normalizePolicyInput host hvalue

theorem storesNormalized_policyStep {request : PolicyRequest} :
    StoresNormalized (policyStep host db request) := by
  cases request with
  | post organizationId id body =>
    simp only [policyStep]
    split
    · exact storesNormalized_of_postPolicy host hdb ‹_›
    · exact hdb
  | patch organizationId id body =>
    simp only [policyStep]
    split
    · exact storesNormalized_of_patchPolicy host hdb ‹_›
    · exact hdb
  | delete organizationId id =>
    simp only [policyStep]
    split
    · rename_i next hnext
      unfold Database.deletePolicy at hnext
      split at hnext
      · cases hnext
      · split at hnext
        · cases hnext
        · cases hnext
          intro other row hrow
          exact hdb other row (OrdMap.get?_of_get?_erase hrow).2
    · exact hdb

end

/-- The databases the policy endpoints produce from one without policies. -/
def PolicyReachable (db : Database) : Prop :=
  Transition.Reachable (policyStep host) Transition.Always
    (fun start => start.policies = OrdMap.empty) db

theorem PolicyReachable.storesNormalized (h : PolicyReachable host db) : StoresNormalized db := by
  apply Transition.Reachable.invariant _ _ h
  · intro start hstart id row hrow
    rw [hstart] at hrow
    cases hrow
  · intro state request hstate _
    exact storesNormalized_policyStep host hstate

end Tunnara.Control
