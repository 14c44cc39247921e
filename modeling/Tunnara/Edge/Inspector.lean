/-
# What the inspector keeps of an exchange

`createInspectionRecord` and the two steps it takes with each side of an exchange: the
values of sensitive headers are replaced, and of the body it keeps a preview. A body of JSON
is parsed after it has been cut to the limit, so that its sensitive fields can be replaced;
where that fails the bytes themselves are kept.
-/

import Mathlib.Algebra.Order.Floor.Ring
import Mathlib.Data.Rat.Floor
import Tunnara.Js.Base64
import Tunnara.Js.Value

namespace Tunnara.Edge

/-- The engine, with what it does with texts and deep values. -/
structure InspectorEnv where
  host : Host
  /-- `buffer.toString('utf8')`. -/
  utf8Text : List UInt8 → String
  /-- `JSON.stringify` of a value. -/
  stringify : Json → String
  /-- To walk through the value, or to write it, takes more stack than there is. -/
  exceedsStack : Json → Bool

def defaultSensitiveHeaders : List String :=
  ["authorization", "cookie", "set-cookie", "proxy-authorization", "x-api-key"]

def defaultSensitiveFields : List String :=
  ["password", "passwd", "secret", "token", "access_token", "refresh_token", "api_key", "apikey",
    "authorization"]

def redactedText : Json := .str "[REDACTED]"

namespace InspectorEnv

variable (env : InspectorEnv)

/-- `extra.map((v) => String(v).toLowerCase())`. -/
def lowerNames : List Json → Except JsError (List String)
  | [] => .ok []
  | v :: rest => do
    let text ← v.toJsString env.host
    let names ← lowerNames rest
    return env.host.toLowerCase text :: names

def redactHeaders (headers : List (String × Json)) (extra : List Json) :
    Except JsError (List (String × Json)) := do
  let names ← env.lowerNames extra
  return headers.map fun header =>
    (header.1, if env.host.toLowerCase header.1 ∈ defaultSensitiveHeaders ++ names then redactedText
      else header.2)

mutual

def redactJson (fields : List String) : Json → Json
  | .arr items => .arr (redactItems fields items)
  | .obj entries => .obj (redactEntries fields entries)
  | .null => .null
  | .bool b => .bool b
  | .num q => .num q
  | .str s => .str s

def redactItems (fields : List String) : List Json → List Json
  | [] => []
  | item :: rest => redactJson fields item :: redactItems fields rest

def redactEntries (fields : List String) : List (String × Json) → List (String × Json)
  | [] => []
  | (key, entry) :: rest =>
    (key, if env.host.toLowerCase key ∈ fields then redactedText else redactJson fields entry) ::
      redactEntries fields rest

end

end InspectorEnv

inductive PreviewEncoding
  | json
  | utf8
  | base64
  deriving DecidableEq

structure Preview where
  encoding : PreviewEncoding
  value : String
  truncated : Bool
  deriving DecidableEq

structure InspectorOptions where
  maxBodyBytes : Option Json := none
  sensitiveHeaders : List Json := []
  sensitiveJsonFields : List Json := []

/-- The length of `body.subarray(0, Math.max(0, maxBytes))`. -/
def sliceLength (length : ℕ) : JsNumber → ℕ
  | .nan | .negInf => 0
  | .posInf => length
  | .fin q => min ⌊q⌋₊ length

namespace InspectorEnv

variable (env : InspectorEnv)

/-- `String(headers['content-type'] || headers['Content-Type'] || '').toLowerCase()`. -/
def contentType (headers : List (String × Json)) : Except JsError String := do
  let text ← (orDefault (Json.lookup headers "content-type")
    (orDefault (Json.lookup headers "Content-Type") (.str ""))).toJsString env.host
  return env.host.toLowerCase text

/-- What is inside the `try`; `none` is an exception. -/
def redactedBody (options : InspectorOptions) (slice : List UInt8) : Option String := do
  let names ← (env.lowerNames options.sensitiveJsonFields).toOption
  let parsed ← env.host.parseJson (env.utf8Text slice)
  let redacted := env.redactJson (defaultSensitiveFields ++ names) parsed
  if env.exceedsStack redacted then none else some (env.stringify redacted)

/-- A body whose bytes are shown as text. -/
def isTextual (contentType : String) : Bool :=
  startsWith contentType "text/" || includes contentType "xml" ||
    includes contentType "javascript" || includes contentType "x-www-form-urlencoded"

/-- The preview of the bytes themselves. -/
def rawPreview (contentType : String) (slice : List UInt8) (truncated : Bool) : Preview :=
  if isTextual contentType then ⟨.utf8, env.utf8Text slice, truncated⟩
  else ⟨.base64, Base64.encode slice, truncated⟩

def bodyPreview (body : List UInt8) (headers : List (String × Json)) (options : InspectorOptions) :
    Except JsError Preview :=
  if body = [] then .ok ⟨.utf8, "", false⟩
  else do
    let maxBytes ← (orDefault options.maxBodyBytes (.num 65536)).toNumber env.host
    let slice := body.take (sliceLength body.length maxBytes)
    let truncated : Bool := decide (slice.length < body.length)
    let contentType ← env.contentType headers
    let redacted :=
      if includes contentType "application/json" then env.redactedBody options slice else none
    match redacted with
    | some value => .ok ⟨.json, value, truncated⟩
    | none => .ok (env.rawPreview contentType slice truncated)

end InspectorEnv

/-- The request of an exchange as the Edge has it. -/
structure InspectedRequest where
  (method host path sourceIp : String)
  headers : List (String × Json)
  body : List UInt8

/-- The answer; its status comes from a Relay frame. -/
structure InspectedResponse where
  status : Option Json
  headers : List (String × Json)
  body : List UInt8
  error : Option Json := none

structure InspectionRecord where
  (id organizationId tunnelId method host path sourceIp : String)
  requestHeaders : List (String × Json)
  requestBody : Preview
  responseStatus : JsNumber
  responseHeaders : List (String × Json)
  responseBody : Preview
  durationMs : JsNumber
  error : Json
  deriving DecidableEq

/-- `Number(n || 0)` of a number. -/
def numberOrZero : JsNumber → JsNumber
  | .nan => .fin 0
  | n => n

/-- `id` is the fresh `crypto.randomUUID()`. -/
def createInspectionRecord (env : InspectorEnv) (id organizationId tunnelId : String)
    (request : InspectedRequest) (response : Option InspectedResponse) (durationMs : JsNumber)
    (options : InspectorOptions) : Except JsError InspectionRecord := do
  let answerHeaders := (response.map InspectedResponse.headers).getD []
  let requestHeaders ← env.redactHeaders request.headers options.sensitiveHeaders
  let responseHeaders ← env.redactHeaders answerHeaders options.sensitiveHeaders
  let requestBody ← env.bodyPreview request.body request.headers options
  let responseBody ←
    env.bodyPreview ((response.map InspectedResponse.body).getD []) answerHeaders options
  let responseStatus ← (orDefault (response.bind InspectedResponse.status) (.num 0)).toNumber env.host
  return {
    id, organizationId, tunnelId
    method := request.method
    host := request.host
    path := request.path
    sourceIp := request.sourceIp
    requestHeaders, requestBody, responseStatus, responseHeaders, responseBody
    durationMs := numberOrZero durationMs
    error := orDefault (response.bind InspectedResponse.error) .null }

end Tunnara.Edge
