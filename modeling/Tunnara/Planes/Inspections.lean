/-
# An inspection record on its way into either plane

The Edge hands the record to `TunnaraDatabase.saveInspection`, or posts it to
`ClusterController::saveInspection`, whose validation knows other fields: the bodies are
texts with a flag beside them, the host is `hostname` and the status `statusCode`. What it
refuses the Edge only logs.
-/

import Tunnara.Edge.Inspector
import Tunnara.Laravel.TunnelApi

namespace Tunnara.Planes

open Edge

/-- A row of `request_inspections` as `getInspection` reads it. -/
structure NodeInspection where
  (id organizationId tunnelId method host path sourceIp : String)
  requestHeaders : List (String × Json)
  requestBody : Preview
  responseStatus : JsNumber
  responseHeaders : List (String × Json)
  responseBody : Preview
  durationMs : JsNumber
  error : Json
  createdAt : String

def saveInspection (record : InspectionRecord) (createdAt : String) : NodeInspection where
  id := record.id
  organizationId := record.organizationId
  tunnelId := record.tunnelId
  method := record.method
  host := record.host
  path := record.path
  sourceIp := record.sourceIp
  requestHeaders := record.requestHeaders
  requestBody := record.requestBody
  responseStatus := numberOrZero record.responseStatus
  responseHeaders := record.responseHeaders
  responseBody := record.responseBody
  durationMs := numberOrZero record.durationMs
  error := orDefault (some record.error) .null
  createdAt

def previewJson (preview : Preview) : Json :=
  .obj [
    ("encoding", .str (match preview.encoding with
      | .json => "json"
      | .utf8 => "utf8"
      | .base64 => "base64")),
    ("value", .str preview.value), ("truncated", .bool preview.truncated)]

def numberJson : JsNumber → Json
  | .fin q => .num q
  | _ => .null

/-- The body of `ClusterControlClient.saveInspection`. -/
def recordJson (record : InspectionRecord) : Json :=
  .obj [("id", .str record.id), ("organizationId", .str record.organizationId),
    ("tunnelId", .str record.tunnelId), ("method", .str record.method), ("host", .str record.host),
    ("path", .str record.path), ("sourceIp", .str record.sourceIp),
    ("requestHeaders", .obj record.requestHeaders), ("requestBody", previewJson record.requestBody),
    ("responseStatus", numberJson record.responseStatus),
    ("responseHeaders", .obj record.responseHeaders),
    ("responseBody", previewJson record.responseBody),
    ("durationMs", numberJson record.durationMs), ("error", record.error)]

structure ValidationEnv where
  /-- `Str::trim`. -/
  trim : String → String
  /-- `filter_var($value, FILTER_VALIDATE_IP)`. -/
  isIp : String → Bool
  /-- `filter_var($value, FILTER_VALIDATE_INT)`; `none` is `false`. -/
  integer : Json → Option ℤ
  isDate : Json → Bool
  /-- Whether the table has a row with the id. -/
  stored : String → String → Bool

/-- The rules of a field beside `nullable` and `required`. -/
inductive Rule
  | uuid
  | stored (table : String)
  | string
  | stringMax (max : ℕ)
  | ip
  | integerMin (min : ℤ)
  | integerBetween (min max : ℤ)
  | array
  | boolean
  | date

structure Field where
  name : String
  required : Bool
  rules : List Rule

namespace ValidationEnv

variable (env : ValidationEnv)

mutual

/-- `TrimStrings` and `ConvertEmptyStringsToNull`. -/
def clean : Json → Json
  | .str s => if env.trim s = "" then .null else .str (env.trim s)
  | .arr items => .arr (cleanItems items)
  | .obj fields => .obj (cleanFields fields)
  | .null => .null
  | .bool b => .bool b
  | .num q => .num q

def cleanItems : List Json → List Json
  | [] => []
  | item :: rest => clean item :: cleanItems rest

def cleanFields : List (String × Json) → List (String × Json)
  | [] => []
  | (name, v) :: rest => (name, clean v) :: cleanFields rest

end

/-- An object is an array in PHP. -/
def passes (value : Json) : Rule → Bool
  | .uuid => match value with
      | .str s => Laravel.isUuid s
      | _ => false
  | .stored table => match value with
      | .str s => env.stored table s
      | _ => false
  | .string => match value with
      | .str _ => true
      | _ => false
  | .stringMax max => match value with
      | .str s => s.length ≤ max
      | _ => false
  | .ip => match value with
      | .str s => env.isIp s
      | _ => false
  | .integerMin min => match env.integer value with
      | some n => min ≤ n
      | none => false
  | .integerBetween min max => match env.integer value with
      | some n => min ≤ n && n ≤ max
      | none => false
  | .array => match value with
      | .arr _ | .obj _ => true
      | _ => false
  | .boolean => value ∈ [.bool true, .bool false, .num 0, .num 1, .str "0", .str "1"]
  | .date => env.isDate value

/-- Whether the field is named among the errors. -/
def fails (data : Json) (field : Field) : Bool :=
  match data.get? field.name with
  | none | some .null => field.required
  | some v => !field.rules.all (env.passes v)

end ValidationEnv

def inspectionFields : List Field :=
  [⟨"id", false, [.uuid]⟩, ⟨"organizationId", true, [.uuid, .stored "organizations"]⟩,
    ⟨"tunnelId", true, [.uuid, .stored "tunnels"]⟩,
    ⟨"targetId", false, [.uuid, .stored "tunnel_targets"]⟩, ⟨"method", true, [.stringMax 16]⟩,
    ⟨"path", true, [.stringMax 8192]⟩, ⟨"hostname", false, [.stringMax 255]⟩,
    ⟨"sourceIp", false, [.ip]⟩, ⟨"statusCode", false, [.integerBetween 100 599]⟩,
    ⟨"durationMs", false, [.integerMin 0]⟩, ⟨"requestHeaders", false, [.array]⟩,
    ⟨"requestBody", false, [.string]⟩, ⟨"requestBodyTruncated", false, [.boolean]⟩,
    ⟨"responseHeaders", false, [.array]⟩, ⟨"responseBody", false, [.string]⟩,
    ⟨"responseBodyTruncated", false, [.boolean]⟩, ⟨"metadata", false, [.array]⟩,
    ⟨"createdAt", false, [.date]⟩]

/-- A row of `request_inspections` with the casts of the model. -/
structure LaravelInspection where
  (organizationId tunnelId targetId method path hostname sourceIp : Json)
  (statusCode durationMs : Option ℤ)
  (requestHeaders requestBody : Json)
  requestBodyTruncated : Bool
  (responseHeaders responseBody : Json)
  responseBodyTruncated : Bool
  (metadata createdAt : Json)

/-- `$data[name] ?? $default`. -/
def dataOr (data : Json) (name : String) (default : Json) : Json :=
  match data.get? name with
  | none | some .null => default
  | some v => v

/-- The cast of a value that an integer rule admits. -/
def castInteger (env : ValidationEnv) : Json → Option ℤ
  | .null => none
  | v => env.integer v

/-- The cast of a value that `boolean` admits. -/
def castBoolean (v : Json) : Bool := v ∈ [.bool true, .num 1, .str "1"]

/-- `ClusterController::saveInspection`: the row, or the fields that the 422 names. -/
def controllerSaveInspection (env : ValidationEnv) (body now : Json) :
    Except (List String) LaravelInspection :=
  let data := env.clean body
  let errors := (inspectionFields.filter (env.fails data)).map Field.name
  if errors = [] then .ok {
    organizationId := dataOr data "organizationId" .null
    tunnelId := dataOr data "tunnelId" .null
    targetId := dataOr data "targetId" .null
    method := dataOr data "method" .null
    path := dataOr data "path" .null
    hostname := dataOr data "hostname" .null
    sourceIp := dataOr data "sourceIp" .null
    statusCode := castInteger env (dataOr data "statusCode" .null)
    durationMs := castInteger env (dataOr data "durationMs" .null)
    requestHeaders := dataOr data "requestHeaders" (.arr [])
    requestBody := dataOr data "requestBody" .null
    requestBodyTruncated := castBoolean (dataOr data "requestBodyTruncated" (.bool false))
    responseHeaders := dataOr data "responseHeaders" (.arr [])
    responseBody := dataOr data "responseBody" .null
    responseBodyTruncated := castBoolean (dataOr data "responseBodyTruncated" (.bool false))
    metadata := dataOr data "metadata" (.arr [])
    createdAt := dataOr data "createdAt" now }
  else .error errors

/-- The rows agree in host, status, duration, headers and bodies. -/
structure SameInspection (stored : LaravelInspection) (row : NodeInspection) : Prop where
  host : stored.hostname = .str row.host
  status : ∃ n : ℤ, stored.statusCode = some n ∧ row.responseStatus = .fin n
  duration : ∃ n : ℤ, stored.durationMs = some n ∧ row.durationMs = .fin n
  requestHeaders : stored.requestHeaders = .obj row.requestHeaders
  requestBody : stored.requestBody = .str row.requestBody.value
  requestBodyTruncated : stored.requestBodyTruncated = row.requestBody.truncated
  responseHeaders : stored.responseHeaders = .obj row.responseHeaders
  responseBody : stored.responseBody = .str row.responseBody.value
  responseBodyTruncated : stored.responseBodyTruncated = row.responseBody.truncated

/-- **The promise**: the controller accepts the record and stores what the Node plane would. -/
def Crosses (env : ValidationEnv) (record : InspectionRecord) (now : Json) (createdAt : String) :
    Prop :=
  ∃ stored, controllerSaveInspection env (recordJson record) now = .ok stored ∧
    SameInspection stored (saveInspection record createdAt)

section Refusal

variable {env : ValidationEnv}

theorem lookup_cleanFields {fields : List (String × Json)} {name : String} :
    Json.lookup (env.cleanFields fields) name = (Json.lookup fields name).map env.clean := by
  induction fields with
  | nil => rfl
  | cons field rest ih =>
    obtain ⟨key, v⟩ := field
    unfold Json.lookup at ih ⊢
    rw [ValidationEnv.cleanFields, List.find?_cons, List.find?_cons]
    by_cases hkey : key = name
    · simp [hkey]
    · simpa [hkey] using ih

theorem get?_clean_obj (fields : List (String × Json)) (name : String) :
    (env.clean (.obj fields)).get? name = (Json.lookup fields name).map env.clean := by
  rw [ValidationEnv.clean]
  exact lookup_cleanFields

theorem fails_preview {data : Json} {name : String} {preview : Preview}
    (h : data.get? name = some (env.clean (previewJson preview))) :
    env.fails data ⟨name, false, [.string]⟩ = true := by
  rw [previewJson, ValidationEnv.clean] at h
  unfold ValidationEnv.fails
  rw [h]
  rfl

theorem refuses_bodies {record : InspectionRecord} {now : Json} :
    ∃ errors, controllerSaveInspection env (recordJson record) now = .error errors ∧
      "requestBody" ∈ errors ∧ "responseBody" ∈ errors := by
  have hrequest : (env.clean (recordJson record)).get? "requestBody" =
      some (env.clean (previewJson record.requestBody)) := by
    rw [recordJson, get?_clean_obj]
    rfl
  have hresponse : (env.clean (recordJson record)).get? "responseBody" =
      some (env.clean (previewJson record.responseBody)) := by
    rw [recordJson, get?_clean_obj]
    rfl
  have hnamed : ∀ field ∈ inspectionFields, env.fails (env.clean (recordJson record)) field = true →
      field.name ∈ (inspectionFields.filter
        (env.fails (env.clean (recordJson record)))).map Field.name := by
    intro field hmem hfails
    exact List.mem_map_of_mem (List.mem_filter.2 ⟨hmem, hfails⟩)
  have hfirst := hnamed ⟨"requestBody", false, [.string]⟩ (by simp [inspectionFields])
    (fails_preview hrequest)
  have hsecond := hnamed ⟨"responseBody", false, [.string]⟩ (by simp [inspectionFields])
    (fails_preview hresponse)
  refine ⟨_, ?_, hfirst, hsecond⟩
  unfold controllerSaveInspection
  rw [if_neg (List.ne_nil_of_mem hfirst)]

theorem not_crosses {record : InspectionRecord} {now : Json} {createdAt : String} :
    ¬ Crosses env record now createdAt := by
  intro ⟨stored, hstored, _⟩
  obtain ⟨errors, hrefused, -⟩ := @refuses_bodies env record now
  rw [hrefused] at hstored
  cases hstored

end Refusal

/-- **No record crosses**: whatever the Edge has seen, the controller refuses the record it
makes of it because of both bodies. -/
theorem crosses_never (env : ValidationEnv) (inspector : InspectorEnv)
    (id organizationId tunnelId : String) (request : InspectedRequest)
    (response : Option InspectedResponse) (durationMs : JsNumber) (options : InspectorOptions)
    (now : Json) (createdAt : String) {record : InspectionRecord}
    (hrecord : createInspectionRecord inspector id organizationId tunnelId request response
      durationMs options = .ok record) :
    (∃ errors, controllerSaveInspection env (recordJson record) now = .error errors ∧
      "requestBody" ∈ errors ∧ "responseBody" ∈ errors) ∧
    ¬ Crosses env record now createdAt :=
  ⟨refuses_bodies, not_crosses⟩

def plainInspector : InspectorEnv where
  host := .plain
  utf8Text bytes := String.ofList (bytes.map fun byte => Char.ofNat byte.toNat)
  stringify _ := "null"
  exceedsStack _ := false

def plainValidation : ValidationEnv where
  trim := trim
  isIp s := s = "203.0.113.7"
  integer
    | .num q => if q.den = 1 then some q.num else none
    | _ => none
  isDate _ := false
  stored _ _ := true

/-- `GET /health` of `erp.tunnara.test`, answered with 204 after 12 ms. -/
def healthRequest : InspectedRequest where
  method := "GET"
  host := "erp.tunnara.test"
  path := "/health"
  sourceIp := "203.0.113.7"
  headers := [("accept", .str "*/*")]
  body := []

def healthResponse : InspectedResponse where
  status := some (.num 204)
  headers := [("x-tunnara-tunnel-id", .str "t1")]
  body := []

def healthRecord : InspectionRecord where
  id := "0e0f0a5e-0000-4000-8000-000000000001"
  organizationId := "0e0f0a5e-0000-4000-8000-000000000002"
  tunnelId := "0e0f0a5e-0000-4000-8000-000000000003"
  method := "GET"
  host := "erp.tunnara.test"
  path := "/health"
  sourceIp := "203.0.113.7"
  requestHeaders := [("accept", .str "*/*")]
  requestBody := ⟨.utf8, "", false⟩
  responseStatus := .fin 204
  responseHeaders := [("x-tunnara-tunnel-id", .str "t1")]
  responseBody := ⟨.utf8, "", false⟩
  durationMs := .fin 12
  error := .null

theorem healthRecord_created :
    createInspectionRecord plainInspector healthRecord.id healthRecord.organizationId
      healthRecord.tunnelId healthRequest (some healthResponse) (.fin 12) {} = .ok healthRecord := by
  decide +kernel

theorem crosses_never_health :
    (∃ errors, controllerSaveInspection plainValidation (recordJson healthRecord) .null =
      .error errors ∧ "requestBody" ∈ errors ∧ "responseBody" ∈ errors) ∧
    ¬ Crosses plainValidation healthRecord .null "2026-07-06T12:00:00.000Z" :=
  crosses_never plainValidation plainInspector _ _ _ healthRequest (some healthResponse) (.fin 12) {}
    .null _ healthRecord_created

/-- The 422 of the plainest record names the two bodies and nothing else. -/
theorem not_crosses_health :
    createInspectionRecord plainInspector healthRecord.id healthRecord.organizationId
        healthRecord.tunnelId healthRequest (some healthResponse) (.fin 12) {} = .ok healthRecord ∧
      (inspectionFields.filter (plainValidation.fails
        (plainValidation.clean (recordJson healthRecord)))).map Field.name =
          ["requestBody", "responseBody"] ∧
      ¬ Crosses plainValidation healthRecord .null "2026-07-06T12:00:00.000Z" :=
  ⟨healthRecord_created, by decide +kernel, not_crosses⟩

end Tunnara.Planes
