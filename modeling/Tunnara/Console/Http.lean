/-
# The Console's HTTP services

The requests that the Console's services receive, and the routes they register. What the web
framework does with them (matching of paths, reading of bodies, upgrades) is a parameter,
`Axum`, on which nothing is assumed; which handler a route has and what the handler does is
the program's.
-/

import Tunnara.Data.Lines
import Tunnara.Js.Value

namespace Tunnara.Console

def isWhitespace (c : Char) : Bool :=
  c.val ∈ [0x09, 0x0A, 0x0B, 0x0C, 0x0D, 0x20, 0x85, 0xA0, 0x1680, 0x2028, 0x2029, 0x202F, 0x205F,
    0x3000] || (0x2000 ≤ c.val && c.val ≤ 0x200A)

/-- `str::trim`. -/
def trimText (s : String) : String := String.ofList (Lines.trimmed isWhitespace s.toList)

theorem trimText_trimText {s : String} : trimText (trimText s) = trimText s := by
  unfold trimText
  rw [String.toList_ofList, Lines.trimmed_of_tight Lines.tight_trimmed]

/-- `s.trim().is_empty()`. -/
def isBlank (s : String) : Bool := trimText s = ""

/-- `str::trim_end_matches` of one character. -/
def trimEndChar (c : Char) (s : String) : String :=
  String.ofList ((s.toList.reverse.dropWhile (· = c)).reverse)

structure HttpRequest where
  (method path : String)
  query : Option String
  /-- By lower-case name, in the order of arrival. -/
  headers : List (String × List UInt8)
  body : List UInt8

/-- The characters of header names besides letters and digits. -/
def headerSymbols : List ℕ :=
  [0x21, 0x23, 0x24, 0x25, 0x26, 0x27, 0x2A, 0x2B, 0x2D, 0x2E, 0x5E, 0x5F, 0x60, 0x7C, 0x7E]

/-- `HeaderName::from_bytes` takes the text. -/
def isHeaderName (name : String) : Bool :=
  name ≠ "" && name.toList.all fun c => c.isAlphanum || c.toNat ∈ headerSymbols

/-- `HeaderValue::to_str`: tabs and visible ASCII. -/
def headerToStr (value : List UInt8) : Option String :=
  if value.all fun byte => byte = 9 || (32 ≤ byte && byte < 127) then
    some (String.ofList (value.map fun byte => Char.ofNat byte.toNat))
  else none

namespace HttpRequest

/-- `headers.get(name)`: the first value under the name in any letter case. -/
def header? (request : HttpRequest) (name : String) : Option (List UInt8) :=
  if isHeaderName name then
    (request.headers.find? fun h => h.1 = name.map Char.toLower).map Prod.snd
  else none

/-- `headers.get(name).and_then(|value| value.to_str().ok()).unwrap_or_default()`. -/
def headerText (request : HttpRequest) (name : String) : String :=
  ((request.header? name).bind headerToStr).getD ""

end HttpRequest

/-- What the web framework does. -/
structure Axum where
  /-- The place of the registered path that a path matches. -/
  matched : List String → String → Option ℕ
  /-- The decoded values of its parameters. -/
  captured : List String → String → Option (List String)
  /-- The whole body, if it can be read and is not too long. -/
  readBody : HttpRequest → Option (List UInt8)
  /-- The request is a handshake that `WebSocketUpgrade` takes. -/
  upgrades : HttpRequest → Bool
  /-- `Query<HashMap<String, String>>`. -/
  readQuery : HttpRequest → Option (List (String × String))

inductive RouteMethod
  | get
  | post
  | any

/-- A route for `get` is also one for HEAD. -/
def RouteMethod.takes : RouteMethod → String → Bool
  | .get, method => method = "GET" || method = "HEAD"
  | .post, method => method = "POST"
  | .any, _ => true

structure Route (ε : Type) where
  path : String
  method : RouteMethod
  endpoint : ε

/-- The handler of a request, if its path is registered for its method. -/
def Axum.route {ε : Type} (axum : Axum) (routes : List (Route ε)) (request : HttpRequest) :
    Option ε := do
  let i ← axum.matched (routes.map Route.path) request.path
  let route ← routes[i]?
  if route.method.takes request.method then some route.endpoint else none

/-- Whether the segments of a path match those of a registered one. -/
def segmentsMatch : List String → List String → Bool
  | [], [] => true
  | pattern :: patterns, segment :: segments =>
    startsWith pattern "*" ||
      (pattern = segment || (startsWith pattern ":" && segment ≠ "")) &&
        segmentsMatch patterns segments
  | _, _ => false

/-- The segments that stand for parameters. -/
def capturedSegments : List String → List String → List String
  | pattern :: patterns, segment :: segments =>
    if startsWith pattern ":" then segment :: capturedSegments patterns segments
    else capturedSegments patterns segments
  | _, _ => []

/-- The pairs of a query without escapes. -/
def queryPairs (query : String) : List (String × String) :=
  (splitChar '&' query).map fun pair =>
    match splitChar '=' pair with
    | [] => ("", "")
    | key :: rest => (key, "=".intercalate rest)

/-- It takes the first registered path that matches. -/
def Axum.plain : Axum where
  matched paths path :=
    paths.findIdx? fun pattern => segmentsMatch (splitChar '/' pattern) (splitChar '/' path)
  captured paths path :=
    (paths.find? fun pattern => segmentsMatch (splitChar '/' pattern) (splitChar '/' path)).map
      fun pattern => capturedSegments (splitChar '/' pattern) (splitChar '/' path)
  readBody request := some request.body
  upgrades request := request.headerText "Upgrade" = "websocket"
  readQuery request := some ((request.query.map queryPairs).getD [])

end Tunnara.Console
