/-
# Partial updates

Three `PATCH` routes and the repeated `POST /networks/:id/peers` merge a body into a stored row, and
each has a convention of its own: a filter of `undefined`, `??`, `COALESCE`, or a plain overwrite.
A layout says which field of a body changes which column; what is compared with it is the row
before and after the request.
-/

import Tunnara.Control.PeerAddresses
import Tunnara.Control.Priorities
import Tunnara.Edge.BodyLimit

namespace Tunnara.Control

open Policy Edge Transition OrdMap

/-! ## Merges -/

/-- A column that is kept where its field is absent, and that a valid value changes. -/
structure Kept {Value : Type} (valid : Json → Option Value) (v : Option Json)
    (before after : Value) : Prop where
  absent : v = none → after = before
  present : ∀ value, v.bind valid = some value → after = value

/-- A field of a body with its column, and what a valid value makes of the column. -/
structure Field (Row : Type) where
  name : String
  Value : Type
  column : Row → Value
  valid : Json → Option Value

/-- The fields that a body may have, and the columns that no field changes. -/
structure Layout (Row : Type) where
  fields : List (Field Row)
  Rest : Type
  rest : Row → Rest

/-- The row after a request is the row before it, but for what the body mentions. -/
structure Merges {Row : Type} (layout : Layout Row) (body : Json) (before after : Row) : Prop where
  fields : ∀ field ∈ layout.fields,
    Kept field.valid (body.get? field.name) (field.column before) (field.column after)
  rest : layout.rest after = layout.rest before

/-! ## The routes -/

/-- The columns of `tunnels` that only the update writes and only an edge reads. -/
structure TunnelOptions where
  (transport tlsMode : String)
  inspectorBodyLimit : Json

structure TunnelColumns where
  record : TunnelRecord
  options : TunnelOptions

structure TunnelStore extends TunnelTables where
  options : String → TunnelOptions

/-- The store with the conversions of an INTEGER column. -/
structure UpdateEnv extends StoreEnv where
  numericText : String → Option ℚ
  readable : ℚ → Bool

def UpdateEnv.limitEnv (env : UpdateEnv) : LimitEnv := ⟨env.host, env.numericText, env.readable⟩

def UpdateEnv.plain : UpdateEnv := ⟨.plain, fun _ => none, fun _ => true⟩

/-- `SELECT * FROM tunnels WHERE id=?`. -/
def TunnelStore.columns (store : TunnelStore) (id : String) : Option TunnelColumns :=
  (store.tunnels.get? id).map fun record => ⟨record, store.options id⟩

section

variable (env : UpdateEnv)

/-- `v === undefined ? current : v` in the INTEGER column of the limit. -/
def definedLimit (v : Option Json) (current : Json) : Except JsError Json :=
  match v with
  | none => .ok current
  | some v => patchLimit env.limitEnv v

/-- `PATCH /api/v1/tunnels/:id`; `none` when there is no such tunnel. The answer reads the row
back, so it fails on a limit that cannot be read. -/
def TunnelStore.patchTunnel (store : TunnelStore) (organizationId id : String) (body : Json) :
    Except JsError (Option TunnelStore) := do
  match ← store.updateTunnel env.toStoreEnv organizationId id body with
  | none => .ok none
  | some tables => do
    let current := store.options id
    let inspectorBodyLimit ← definedLimit env (body.get? "inspectorBodyLimit")
      current.inspectorBodyLimit
    let transport ← TunnelTables.definedText env.toStoreEnv "tunnels.transport"
      (body.get? "transport") current.transport
    let tlsMode ← TunnelTables.definedText env.toStoreEnv "tunnels.tls_mode" (body.get? "tlsMode")
      current.tlsMode
    return some ⟨tables, Function.update store.options id
      ⟨transport, tlsMode, inspectorBodyLimit⟩⟩

/-- The agent that joins: the one that is authenticated, or the one that the body names. -/
def joiningAgent (principal : Principal) (body : Json) : Except JsError String :=
  match principal with
  | .agent _ id => .ok id
  | .api _ => do (orDefault (← property (some body) "agentId") (.str "")).toJsString env.host

/-- `POST /api/v1/networks/:id/peers`; `id` is the uuid drawn for a new row. -/
def NetworkTables.postPeer (tables : NetworkTables) (principal : Principal)
    (networkId id : String) (body : Json) : Except JsError NetworkTables := do
  let agentId ← joiningAgent env principal body
  if agentId = "" then .error { message := "agentId é obrigatório.", statusCode := some 422 }
  else do
    let publicKey ← property (some body) "publicKey"
    let persistentKeepalive ← (orDefault (body.get? "persistentKeepalive") (.num 25)).toNumber
      env.host
    tables.upsertNetworkPeer env.toStoreEnv principal.organizationId networkId id
      { agentId
        publicKey := orDefault publicKey .null
        endpoint := orDefault (body.get? "endpoint") .null
        allowedIps := list (body.get? "allowedIps")
        persistentKeepalive }

/-- `SELECT * FROM network_peers WHERE network_id=? AND agent_id=?`, with the key of the row. -/
def NetworkTables.peerOf (tables : NetworkTables) (networkId agentId : String) :
    Option (String × PeerRow) :=
  tables.peers.entries.find? fun e => e.2.networkId = networkId ∧ e.2.agentId = agentId

end

/-! ## The fields of the rows -/

def text? : Json → Option String
  | .str s => some s
  | _ => none

def flag? : Json → Option Bool
  | .bool b => some b
  | _ => none

def number? : Json → Option JsNumber
  | .num q => some (.fin q)
  | _ => none

/-- A weight that is not clamped. -/
def weight? : Json → Option JsNumber
  | .num q => if 1 ≤ q then some (.fin q) else none
  | _ => none

def limit? : Json → Option Json
  | .num q => some (.num q)
  | _ => none

/-- A policy is named, or removed with `null`. -/
def policyId? : Json → Option (Option String)
  | .null => some none
  | .str s => some (some s)
  | _ => none

def healthCheck? : Json → Option Json
  | .obj fields => some (.obj fields)
  | _ => none

/-- A key or an endpoint: what is empty counts as none. -/
def filledText? : Json → Option (Option String)
  | .str s => if s = "" then none else some (some s)
  | _ => none

def items? : Json → Option (List Json)
  | .arr items => some items
  | _ => none

def tunnelLayout : Layout TunnelColumns where
  fields := [
    ⟨"name", String, fun row => row.record.name, text?⟩,
    ⟨"status", String, fun row => row.record.status, text?⟩,
    ⟨"policyId", Option String, fun row => row.record.policyId, policyId?⟩,
    ⟨"inspectorEnabled", Bool, fun row => row.record.inspectorEnabled, flag?⟩,
    ⟨"inspectorBodyLimit", Json, fun row => row.options.inspectorBodyLimit, limit?⟩,
    ⟨"transport", String, fun row => row.options.transport, text?⟩,
    ⟨"tlsMode", String, fun row => row.options.tlsMode, text?⟩]
  Rest := String × String × String × String × String × String × StoredNumber × Option ℕ ×
    Option String
  rest row := (row.record.id, row.record.organizationId, row.record.agentId, row.record.protocol,
    row.record.hostname, row.record.targetHost, row.record.targetPort, row.record.publicPort,
    row.record.dnsRecordId)

def policyLayout (host : Host) : Layout PolicyRow where
  fields := [
    ⟨"name", String, PolicyRow.name, fun v => (text? v).map trim⟩,
    ⟨"description", String, PolicyRow.description, text?⟩,
    ⟨"document", Json, PolicyRow.document, fun v => (normalizePolicyInput host (some v)).toOption⟩,
    ⟨"enabled", Bool, PolicyRow.enabled, flag?⟩]
  Rest := String × String
  rest row := (row.id, row.organizationId)

def targetLayout : Layout TargetRecord where
  fields := [
    ⟨"agentId", String, TargetRecord.agentId, text?⟩,
    ⟨"name", String, TargetRecord.name, text?⟩,
    ⟨"targetHost", String, TargetRecord.targetHost, text?⟩,
    ⟨"targetPort", JsNumber, fun row => row.targetPort.value, number?⟩,
    ⟨"weight", JsNumber, fun row => row.weight.value, weight?⟩,
    ⟨"priority", JsNumber, fun row => row.priority.value, number?⟩,
    ⟨"enabled", Bool, TargetRecord.enabled, flag?⟩,
    ⟨"healthCheck", Json, TargetRecord.healthCheck, healthCheck?⟩]
  Rest := String × String × String × String
  rest row := (row.id, row.organizationId, row.tunnelId, row.healthStatus)

def peerLayout : Layout PeerRow where
  fields := [
    ⟨"publicKey", Option String, PeerRow.publicKey, filledText?⟩,
    ⟨"endpoint", Option String, PeerRow.endpoint, filledText?⟩,
    ⟨"allowedIps", List Json, PeerRow.allowedIps, items?⟩,
    ⟨"persistentKeepalive", JsNumber, fun row => row.persistentKeepalive.value, number?⟩]
  Rest := String × String × String × String × String × String
  rest row := (row.id, row.organizationId, row.networkId, row.agentId, row.virtualIp, row.status)

/-! ## Updates -/

/-- A stored row, and the same row after a request. -/
inductive Update
  | tunnel (before after : TunnelColumns)
  | policy (before after : PolicyRow)
  | target (before after : TargetRecord)
  | peer (before after : PeerRow)

/-- The request with this body has made the update and is answered. The targets are those of a
store that was written by its own operations, so that no weight is below one. -/
inductive Update.Served (env : UpdateEnv) (body : Json) : Update → Prop
  | tunnel {store next : TunnelStore} {organizationId id : String} {before after : TunnelColumns}
      (answered : store.patchTunnel env organizationId id body = .ok (some next))
      (stored : store.columns id = some before) (left : next.columns id = some after) :
      Update.Served env body (.tunnel before after)
  | policy {db next : Database} {organizationId id : String} {before after : PolicyRow}
      (answered : patchPolicy env.host db organizationId id body = .ok (some next))
      (stored : db.policies.get? id = some before) (left : next.policies.get? id = some after) :
      Update.Served env body (.policy before after)
  | target {start : TunnelTables.Ledger} (hstart : start.tables.targets = .empty)
      {events : List TunnelTables.LedgerEvent} {tables next : TunnelTables}
      (written : tables = (run (TunnelTables.Ledger.step env.toStoreEnv) start events).tables)
      {organizationId id : String} {before after : TargetRecord}
      (answered : tables.updateTunnelTarget env.toStoreEnv organizationId id body = .ok (some next))
      (stored : tables.targets.get? id = some before) (left : next.targets.get? id = some after) :
      Update.Served env body (.target before after)
  | peer {tables next : NetworkTables} {principal : Principal}
      {networkId id agentId key : String} {before after : PeerRow}
      (answered : tables.postPeer env principal networkId id body = .ok next)
      (joins : joiningAgent env principal body = .ok agentId)
      (stored : tables.peerOf networkId agentId = some (key, before))
      (left : next.peers.get? key = some after) : Update.Served env body (.peer before after)

/-- The fields that are absent are kept, and the others changed. -/
def Update.Merged (env : UpdateEnv) (body : Json) : Update → Prop
  | .tunnel before after => Merges tunnelLayout body before after
  | .policy before after => Merges (policyLayout env.host) body before after
  | .target before after => Merges targetLayout body before after
  | .peer before after => Merges peerLayout body before after

/-- A join that does not fall back to a default, unless the default is what is stored. -/
def Update.Explicit (body : Json) : Update → Prop
  | .peer before _ =>
    (body.get? "allowedIps" = none → before.allowedIps = []) ∧
    (body.get? "persistentKeepalive" = none → before.persistentKeepalive.value = .fin 25) ∧
    body.get? "persistentKeepalive" ≠ some (.num 0)
  | _ => True

/-! ## The conventions -/

theorem property_eq {body : Json} {name : String} {v : Option Json}
    (h : property (some body) name = .ok v) : v = body.get? name := by
  cases body with
  | null => cases h
  | _ => exact (Except.ok.inj h).symm

variable {Value : Type} {valid : Json → Option Value} {organizationId id : String}

section

variable {env : StoreEnv} {column : String} {v : Option Json}

theorem Kept.of_some {before after : Value} (habsent : v = none → after = before)
    (hpresent : ∀ given value, v = some given → valid given = some value → after = value) :
    Kept valid v before after := by
  constructor
  · exact habsent
  · intro value hvalue
    obtain ⟨given, hgiven, hvalid⟩ := Option.bind_eq_some_iff.1 hvalue
    exact hpresent given value hgiven hvalid

theorem Kept.of_change (change : Option Json → Except JsError Value) {before after : Value}
    (h : change v = .ok after) (habsent : change none = .ok before)
    (hpresent : ∀ given value, valid given = some value → change (some given) = .ok value) :
    Kept valid v before after := by
  apply Kept.of_some
  · rintro rfl
    exact Except.ok.inj (h.symm.trans habsent)
  · rintro given value rfl hvalid
    exact Except.ok.inj (h.symm.trans (hpresent given value hvalid))

theorem kept_definedText {current text : String}
    (h : TunnelTables.definedText env column v current = .ok text) : Kept text? v current text := by
  apply Kept.of_change (fun v => TunnelTables.definedText env column v current) h rfl
  intro given value hvalid
  cases given with
  | str s =>
    cases hvalid
    rfl
  | _ => cases hvalid

theorem kept_changedPolicyId {current stored : Option String}
    (h : TunnelTables.changedPolicyId env v current = .ok stored) :
    Kept policyId? v current stored := by
  apply Kept.of_change (fun v => TunnelTables.changedPolicyId env v current) h rfl
  intro given value hvalid
  cases given with
  | null | str s =>
    cases hvalid
    rfl
  | _ => cases hvalid

theorem kept_changedText {current text : String}
    (h : TunnelTables.changedText env column v current = .ok text) : Kept text? v current text := by
  apply Kept.of_change (fun v => TunnelTables.changedText env column v current) h rfl
  intro given value hvalid
  cases given with
  | str s =>
    cases hvalid
    rfl
  | _ => cases hvalid

theorem kept_changedNumber {current n : JsNumber} {stored : StoredNumber}
    (h : TunnelTables.changedNumber env v current = .ok n)
    (hstored : storeNumber column n = .ok stored) : Kept number? v current stored.value := by
  rw [TunnelTables.storeNumber_value hstored]
  apply Kept.of_change (fun v => TunnelTables.changedNumber env v current) h rfl
  intro given value hvalid
  cases given with
  | num q =>
    cases hvalid
    rfl
  | _ => cases hvalid

theorem kept_weight {current n : JsNumber} {stored : StoredNumber}
    (hclamped : current.max 1 = current) (h : TunnelTables.changedNumber env v current = .ok n)
    (hstored : storeNumber column (n.max 1) = .ok stored) :
    Kept weight? v current stored.value := by
  rw [TunnelTables.storeNumber_value hstored]
  apply Kept.of_some
  · rintro rfl
    cases h
    exact hclamped
  · rintro given value rfl hvalid
    cases given with
    | num q =>
      unfold weight? at hvalid
      dsimp only at hvalid
      split_ifs at hvalid with hle
      cases hvalid
      cases h
      exact congrArg JsNumber.fin (max_eq_right hle)
    | _ => cases hvalid

theorem kept_flag {current : Bool} :
    Kept flag? v current (match v with
      | none => current
      | some v => v.truthy) := by
  apply Kept.of_some
  · rintro rfl
    rfl
  · rintro given value rfl hvalid
    cases given with
    | bool b =>
      cases hvalid
      rfl
    | _ => cases hvalid

theorem kept_healthCheck {current : Json} : Kept healthCheck? v current (nullish v current) := by
  apply Kept.of_some
  · rintro rfl
    rfl
  · rintro given value rfl hvalid
    cases given with
    | obj fields =>
      cases hvalid
      rfl
    | _ => cases hvalid

theorem kept_ifDefined {convert : Json → Except JsError Value} {current : Value}
    {changed : Option Value}
    (hvalid : ∀ given value, valid given = some value → convert given = .ok value)
    (h : ifDefined convert v = .ok changed) : Kept valid v current (changed.getD current) := by
  apply Kept.of_some
  · rintro rfl
    cases h
    rfl
  · rintro given value rfl hgiven
    unfold ifDefined at h
    dsimp only at h
    rw [hvalid given value hgiven] at h
    cases h
    rfl

theorem kept_coalesce {current stored : Option String}
    (h : NetworkTables.coalesce env (orDefault v .null) current = .ok stored) :
    Kept filledText? v current stored := by
  apply Kept.of_change (fun v => NetworkTables.coalesce env (orDefault v .null) current) h rfl
  intro given value hvalid
  cases given with
  | str s =>
    unfold filledText? at hvalid
    dsimp only at hvalid
    split_ifs at hvalid with hempty
    cases hvalid
    have hgiven : orDefault (some (.str s)) .null = .str s := by
      apply if_pos
      simpa [Json.truthy] using hempty
    rw [hgiven]
    rfl
  | _ => cases hvalid

theorem kept_list (current : List Json) :
    Kept items? v current (list v) ↔ (v = none → current = []) := by
  constructor
  · rintro ⟨habsent, -⟩ hnone
    rw [← habsent hnone, hnone]
    rfl
  · intro hempty
    apply Kept.of_some
    · intro hnone
      rw [hempty hnone, hnone]
      rfl
    · rintro given value rfl hvalid
      cases given with
      | arr items =>
        cases hvalid
        rfl
      | _ => cases hvalid

theorem kept_keepalive {current n : JsNumber} {stored : StoredNumber}
    (h : (orDefault v (.num 25)).toNumber env.host = .ok n)
    (hstored : storeNumber column n = .ok stored) :
    Kept number? v current stored.value ↔ (v = none → current = .fin 25) ∧ v ≠ some (.num 0) := by
  rw [TunnelTables.storeNumber_value hstored]
  constructor
  · rintro ⟨habsent, hpresent⟩
    constructor
    · rintro rfl
      cases h
      exact (habsent rfl).symm
    · rintro rfl
      cases h
      exact absurd (hpresent (.fin 0) rfl) (by decide)
  · rintro ⟨hdefault, hzero⟩
    apply Kept.of_some
    · rintro rfl
      cases h
      exact (hdefault rfl).symm
    · rintro given value rfl hvalid
      cases given with
      | num q =>
        cases hvalid
        have hgiven : orDefault (some (.num q)) (.num 25) = .num q := by
          apply if_pos
          have hq : q ≠ 0 := fun hq => hzero (by rw [hq])
          simpa [Json.truthy] using hq
        rw [hgiven] at h
        exact (Except.ok.inj h).symm
      | _ => cases hvalid

end

theorem kept_limit {env : UpdateEnv} {v : Option Json} {current stored : Json}
    (h : definedLimit env v current = .ok stored) : Kept limit? v current stored := by
  apply Kept.of_some
  · rintro rfl
    exact (Except.ok.inj h).symm
  · rintro given value rfl hvalid
    cases given with
    | num q =>
      cases hvalid
      unfold definedLimit patchLimit readLimit at h
      dsimp only at h
      split_ifs at h
      exact (Except.ok.inj h).symm
    | _ => cases hvalid

/-! ## The requests -/

variable {env : UpdateEnv} {body : Json}

theorem merged_patchTunnel {store next : TunnelStore} {before after : TunnelColumns}
    (answered : store.patchTunnel env organizationId id body = .ok (some next))
    (stored : store.columns id = some before) (left : next.columns id = some after) :
    Merges tunnelLayout body before after := by
  obtain ⟨found, hupdate, answered⟩ := bind_eq_ok.1 answered
  cases found with
  | none => cases answered
  | some tables =>
    obtain ⟨limit, hlimit, answered⟩ := bind_eq_ok.1 answered
    obtain ⟨transport, htransport, answered⟩ := bind_eq_ok.1 answered
    obtain ⟨tlsMode, htls, answered⟩ := bind_eq_ok.1 answered
    cases answered
    unfold TunnelTables.updateTunnel at hupdate
    split at hupdate
    · cases hupdate
    · rename_i tunnel htunnel
      obtain ⟨rawName, hraw, hupdate⟩ := bind_eq_ok.1 hupdate
      obtain ⟨_, -, hupdate⟩ := bind_eq_ok.1 hupdate
      obtain ⟨name, hname, hupdate⟩ := bind_eq_ok.1 hupdate
      obtain ⟨status, hstatus, hupdate⟩ := bind_eq_ok.1 hupdate
      obtain ⟨policyId, hpolicy, hupdate⟩ := bind_eq_ok.1 hupdate
      obtain ⟨_, -, hupdate⟩ := bind_eq_ok.1 hupdate
      obtain ⟨_, -, hupdate⟩ := bind_eq_ok.1 hupdate
      obtain ⟨_, -, hupdate⟩ := bind_eq_ok.1 hupdate
      split_ifs at hupdate
      cases hupdate
      unfold TunnelStore.columns at stored left
      rw [(TunnelTables.tunnelOf_eq_some htunnel).1] at stored
      dsimp only at left
      rw [get?_set_self, Function.update_self] at left
      cases stored
      cases left
      rw [property_eq hraw] at hname
      constructor
      · exact List.forall_mem_cons.2 ⟨kept_definedText hname, List.forall_mem_cons.2
          ⟨kept_definedText hstatus, List.forall_mem_cons.2 ⟨kept_changedPolicyId hpolicy,
          List.forall_mem_cons.2 ⟨kept_flag, List.forall_mem_cons.2 ⟨kept_limit hlimit,
          List.forall_mem_cons.2 ⟨kept_definedText htransport, List.forall_mem_singleton.2
          (kept_definedText htls)⟩⟩⟩⟩⟩⟩
      · rfl

theorem merged_patchPolicy {db next : Database} {before after : PolicyRow}
    (answered : patchPolicy env.host db organizationId id body = .ok (some next))
    (stored : db.policies.get? id = some before) (left : next.policies.get? id = some after) :
    Merges (policyLayout env.host) body before after := by
  obtain ⟨rawName, hraw, answered⟩ := bind_eq_ok.1 answered
  obtain ⟨name, hname, answered⟩ := bind_eq_ok.1 answered
  obtain ⟨description, hdescription, answered⟩ := bind_eq_ok.1 answered
  obtain ⟨document, hdocument, answered⟩ := bind_eq_ok.1 answered
  unfold Database.updatePolicy at answered
  split at answered
  · cases answered
  · rename_i current hcurrent
    dsimp only at answered
    split_ifs at answered
    cases answered
    rw [(Option.filter_eq_some_iff.1 hcurrent).1] at stored
    rw [get?_set_self] at left
    cases stored
    cases left
    rw [property_eq hraw] at hname
    have hnamed : Kept (fun v => (text? v).map trim) (body.get? "name") before.name
        (name.getD before.name) := by
      apply kept_ifDefined _ hname
      intro given value hgiven
      obtain ⟨text, htext, rfl⟩ := Option.map_eq_some_iff.1 hgiven
      cases given with
      | str s =>
        cases htext
        rfl
      | _ => cases htext
    have hdescribed : Kept text? (body.get? "description") before.description
        (description.getD before.description) := by
      apply kept_ifDefined _ hdescription
      intro given value hgiven
      cases given with
      | str s =>
        cases hgiven
        rfl
      | _ => cases hgiven
    have hdocumented : Kept (fun v => (normalizePolicyInput env.host (some v)).toOption)
        (body.get? "document") before.document (document.getD before.document) := by
      apply kept_ifDefined _ hdocument
      intro given value hgiven
      cases hnormal : normalizePolicyInput env.host (some given) with
      | error error =>
        rw [hnormal] at hgiven
        cases hgiven
      | ok normal =>
        rw [hnormal] at hgiven
        cases hgiven
        rfl
    constructor
    · exact List.forall_mem_cons.2 ⟨hnamed, List.forall_mem_cons.2 ⟨hdescribed,
        List.forall_mem_cons.2 ⟨hdocumented, List.forall_mem_singleton.2 kept_flag⟩⟩⟩
    · rfl

theorem merged_updateTunnelTarget {tables next : TunnelTables} {before after : TargetRecord}
    (hclamped : before.weight.value.max 1 = before.weight.value)
    (answered : tables.updateTunnelTarget env.toStoreEnv organizationId id body = .ok (some next))
    (stored : tables.targets.get? id = some before) (left : next.targets.get? id = some after) :
    Merges targetLayout body before after := by
  unfold TunnelTables.updateTunnelTarget at answered
  split at answered
  · cases answered
  · rename_i current hcurrent
    rw [(TunnelTables.getTunnelTarget_eq_some hcurrent).1] at stored
    cases stored
    obtain ⟨rawAgent, hraw, answered⟩ := bind_eq_ok.1 answered
    obtain ⟨_, -, answered⟩ := bind_eq_ok.1 answered
    obtain ⟨port, hport, answered⟩ := bind_eq_ok.1 answered
    obtain ⟨weight, hweight, answered⟩ := bind_eq_ok.1 answered
    obtain ⟨priority, hpriority, answered⟩ := bind_eq_ok.1 answered
    obtain ⟨agentId, hagent, answered⟩ := bind_eq_ok.1 answered
    obtain ⟨name, hname, answered⟩ := bind_eq_ok.1 answered
    obtain ⟨host, hhost, answered⟩ := bind_eq_ok.1 answered
    obtain ⟨storedPort, hstoredPort, answered⟩ := bind_eq_ok.1 answered
    obtain ⟨storedWeight, hstoredWeight, answered⟩ := bind_eq_ok.1 answered
    obtain ⟨storedPriority, hstoredPriority, answered⟩ := bind_eq_ok.1 answered
    split_ifs at answered
    cases answered
    rw [get?_set_self] at left
    cases left
    rw [property_eq hraw] at hagent
    constructor
    · exact List.forall_mem_cons.2 ⟨kept_changedText hagent, List.forall_mem_cons.2
        ⟨kept_changedText hname, List.forall_mem_cons.2 ⟨kept_changedText hhost,
        List.forall_mem_cons.2 ⟨kept_changedNumber hport hstoredPort, List.forall_mem_cons.2
        ⟨kept_weight hclamped hweight hstoredWeight, List.forall_mem_cons.2
        ⟨kept_changedNumber hpriority hstoredPriority, List.forall_mem_cons.2 ⟨kept_flag,
        List.forall_mem_singleton.2 kept_healthCheck⟩⟩⟩⟩⟩⟩⟩
    · rfl

theorem merged_postPeer_iff {tables next : NetworkTables} {principal : Principal}
    {networkId agentId key : String} {before after : PeerRow}
    (answered : tables.postPeer env principal networkId id body = .ok next)
    (joins : joiningAgent env principal body = .ok agentId)
    (stored : tables.peerOf networkId agentId = some (key, before))
    (left : next.peers.get? key = some after) :
    Merges peerLayout body before after ↔ (Update.peer before after).Explicit body := by
  unfold NetworkTables.postPeer at answered
  rw [joins] at answered
  obtain ⟨_, hjoin, answered⟩ := bind_eq_ok.1 answered
  cases hjoin
  split_ifs at answered
  obtain ⟨rawKey, hraw, answered⟩ := bind_eq_ok.1 answered
  obtain ⟨keepalive, hkeepalive, answered⟩ := bind_eq_ok.1 answered
  unfold NetworkTables.upsertNetworkPeer at answered
  split at answered
  · unfold NetworkTables.peerOf at stored
    rw [stored] at answered
    obtain ⟨publicKey, hkey, answered⟩ := bind_eq_ok.1 answered
    obtain ⟨endpoint, hendpoint, answered⟩ := bind_eq_ok.1 answered
    obtain ⟨storedKeepalive, hstored, answered⟩ := bind_eq_ok.1 answered
    cases answered
    rw [get?_set_self] at left
    cases left
    rw [property_eq hraw] at hkey
    have hips := @kept_list (body.get? "allowedIps") before.allowedIps
    have hsent := @kept_keepalive _ _ _ before.persistentKeepalive.value _ _ hkeepalive hstored
    constructor
    · rintro ⟨hfields, -⟩
      have hrest := (List.forall_mem_cons.1 (List.forall_mem_cons.1 hfields).2).2
      have hallowed := (List.forall_mem_cons.1 hrest).1
      have hnumber := List.forall_mem_singleton.1 (List.forall_mem_cons.1 hrest).2
      exact ⟨hips.1 hallowed, hsent.1 hnumber⟩
    · rintro ⟨hallowed, hnumber⟩
      constructor
      · exact List.forall_mem_cons.2 ⟨kept_coalesce hkey, List.forall_mem_cons.2
          ⟨kept_coalesce hendpoint, List.forall_mem_cons.2 ⟨hips.2 hallowed,
          List.forall_mem_singleton.2 (hsent.2 hnumber)⟩⟩⟩
      · rfl
  · cases answered

/-- **When a partial update keeps what is not mentioned**: always, but for a join that falls back
to a default that is not what is stored. -/
theorem merged_iff {update : Update} (h : update.Served env body) :
    update.Merged env body ↔ update.Explicit body := by
  cases h with
  | tunnel answered stored left =>
    exact iff_of_true (merged_patchTunnel answered stored left) trivial
  | policy answered stored left =>
    exact iff_of_true (merged_patchPolicy answered stored left) trivial
  | target hstart written answered stored left =>
    rename_i start events tables next organizationId id before after
    have haccurate : TunnelTables.Accurate tables
        (run (TunnelTables.Ledger.step env.toStoreEnv) start events).supplied := by
      rw [written]
      apply TunnelTables.accurate_run
      intro key target htarget
      rw [hstart, get?_empty] at htarget
      cases htarget
    have hclamped := (haccurate id before stored).weight
    exact iff_of_true (merged_updateTunnelTarget hclamped answered stored left) trivial
  | peer answered joins stored left => exact merged_postPeer_iff answered joins stored left

/-! ## A re-join -/

def numeralUpdates : UpdateEnv := ⟨NetworkTables.numeralEnv, fun _ => none, fun _ => true⟩

def joinedTables : NetworkTables :=
  NetworkTables.erpTables.join NetworkTables.numeralEnv "org" "n1"
    (NetworkTables.joinOf "p1" "a1")

def subnetPeer (publicKey : String) (allowedIps : List Json) : PeerRow :=
  ⟨"p1", "org", "n1", "a1", "10.91.0.2/24", some publicKey, none, allowedIps, ⟨.fin 25, nofun⟩,
    "pending"⟩

def rejoinBody : Json := .obj [("publicKey", .str "k2"), ("endpoint", .null)]

def explicitBody : Json :=
  .obj [("publicKey", .str "k2"), ("allowedIps", .arr [.str "192.168.60.0/24"]),
    ("persistentKeepalive", .num 25)]

theorem served_explicit : Update.Served numeralUpdates explicitBody
    (.peer (subnetPeer "PUBLIC_KEY_TEST" [.str "192.168.50.0/24"])
      (subnetPeer "k2" [.str "192.168.60.0/24"])) :=
  @Update.Served.peer numeralUpdates explicitBody joinedTables _ (.agent "org" "a1") "n1" "p2"
    "a1" "p1" _ _ rfl rfl rfl rfl

theorem merged_explicit :
    (Update.peer (subnetPeer "PUBLIC_KEY_TEST" [.str "192.168.50.0/24"])
      (subnetPeer "k2" [.str "192.168.60.0/24"])).Merged numeralUpdates explicitBody :=
  (merged_iff served_explicit).2 ⟨nofun, nofun, by decide +kernel⟩

/-- The agent sends a new key, and loses the subnet that it routes. -/
theorem not_merged_rejoin : Update.Served numeralUpdates rejoinBody
      (.peer (subnetPeer "PUBLIC_KEY_TEST" [.str "192.168.50.0/24"]) (subnetPeer "k2" [])) ∧
    ¬ (Update.peer (subnetPeer "PUBLIC_KEY_TEST" [.str "192.168.50.0/24"])
      (subnetPeer "k2" [])).Merged numeralUpdates rejoinBody := by
  constructor
  · exact @Update.Served.peer numeralUpdates rejoinBody joinedTables _ (.agent "org" "a1") "n1" "p2"
      "a1" "p1" _ _ rfl rfl rfl rfl
  · rintro ⟨hfields, -⟩
    have hrest := (List.forall_mem_cons.1 (List.forall_mem_cons.1 hfields).2).2
    have hkept := (List.forall_mem_cons.1 hrest).1.absent rfl
    cases hkept

end Tunnara.Control
