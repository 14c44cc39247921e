/-
# What the Edge forwards

The frames that carry a request or an upgrade to the Relay, as functions of the
request and of the decision it was allowed by.
-/

import Tunnara.Edge.PolicyDecision
import Tunnara.Edge.Sockets
import Tunnara.Policy.Results

namespace Tunnara.Edge

open Policy Relay

variable (host : Host)

/-- `value.replace(/:\d+$/, '')`. -/
def dropPort (name : List Char) : List Char :=
  let digits := name.reverse.takeWhile Char.isDigit
  match digits, name.reverse.dropWhile Char.isDigit with
  | _ :: _, ':' :: rest => rest.reverse
  | _, _ => name

/-- `value.replace(/^\.+|\.+$/g, '')`. -/
def dropDots (name : List Char) : List Char :=
  ((name.dropWhile (· = '.')).reverse.dropWhile (· = '.')).reverse

def isHostChar (c : Char) : Bool :=
  ('a' ≤ c && c ≤ 'z') || ('0' ≤ c && c ≤ '9') || c = '.' || c = '-'

def normalizeHostname (value : Option HeaderValue) : Option String :=
  let given := (value.map HeaderValue.toJsString).getD ""
  let name := dropDots (dropPort (host.toLowerCase (trim given)).toList)
  if name = [] ∨ 253 < name.length ∨ !name.all isHostChar ∨ ['.', '.'] <:+: name then none
  else some (String.ofList name)

/-- A header as a frame carries it. -/
def headerJson : HeaderValue → Json
  | .one text => .str text
  | .many texts => .arr (texts.map Json.str)

abbrev FrameHeaders := List (String × Json)

/-- `headers[name] = value`; `__proto__` is not stored. -/
def setHeader (headers : FrameHeaders) (name : String) (value : Json) : FrameHeaders :=
  if name = "__proto__" then headers else Json.setField headers name value

def hopByHop : List String :=
  ["connection", "keep-alive", "proxy-authenticate", "proxy-authorization", "te", "trailer",
    "transfer-encoding", "upgrade"]

/-- The headers of the request but those the handler or the decision drops. -/
def keptHeaders (dropped : List String) (request : Request) (decision : PolicyResult) :
    FrameHeaders :=
  request.headers.foldl (fun headers h =>
    let name := host.toLowerCase h.1
    if name ∈ dropped ∨ name ∈ decision.removeRequestHeaders then headers
    else setHeader headers name (headerJson h.2)) []

/-- `Object.assign(headers, decision.requestHeaders)`. -/
def assignDecided (decision : PolicyResult) (headers : FrameHeaders) : FrameHeaders :=
  decision.requestHeaders.foldl (fun headers h => setHeader headers h.1 (.str h.2)) headers

/-- The two headers that name the identity, if the decision has found one. -/
def identityHeaders (decision : PolicyResult) : Except JsError (List (String × String)) :=
  match decision.identity with
  | none => .ok []
  | some identity =>
    if identity.subject.truthy then do
      let subject ← identity.subject.toJsString host
      return [("x-tunnara-identity-subject", subject),
        ("x-tunnara-identity-type", if identity.type = "" then "unknown" else identity.type)]
    else .ok []

/-- `String(req.headers['x-request-id'] || uuid())`. -/
def requestIdHeader (request : Request) (freshId : String) : String :=
  match request.headers.get? "x-request-id" with
  | some value =>
    match value with
    | .one "" => freshId
    | value => value.toJsString
  | none => freshId

/-- The headers the Edge sets itself. -/
def ownHeaders (secure : Bool) (request : Request) (hostname freshId : String)
    (decision : PolicyResult) : Except JsError (List (String × String)) := do
  let identity ← identityHeaders host decision
  return [("x-forwarded-host", hostname), ("x-forwarded-proto", if secure then "https" else "http"),
    ("x-forwarded-for", request.remoteAddress.getD ""),
    ("x-tunnara-request-id", requestIdHeader request freshId)] ++ identity

/-- The headers of a `proxy_request`. -/
def forwardedHeaders (secure : Bool) (request : Request) (hostname freshId : String)
    (decision : PolicyResult) : Except JsError FrameHeaders := do
  let own ← ownHeaders host secure request hostname freshId decision
  return own.foldl (fun headers h => setHeader headers h.1 (.str h.2))
    (assignDecided decision (keptHeaders host hopByHop request decision))

def upgradeHeaders (request : Request) (decision : PolicyResult) : FrameHeaders :=
  assignDecided decision (keptHeaders host [] request decision)

/-- `decision.path || req.url`. -/
def decidedPath (request : Request) (decision : PolicyResult) : String :=
  if decision.path = "" then request.url else decision.path

/-- `route.tunnel.id` and `route.target.id`. -/
def routeFields (route : Json) : List (String × Option Json) :=
  [("tunnelId", optional (route.get? "tunnel") "id"),
    ("targetId", optional (route.get? "target") "id")]

def proxyRequestFrame (requestId : String) (route : Json) (request : Request)
    (decision : PolicyResult) (headers : FrameHeaders) (body : List UInt8) : Json :=
  frameOf ([("type", text "proxy_request"), ("requestId", text requestId)] ++ routeFields route ++
    [("method", text request.method), ("path", text (decidedPath request decision)),
      ("headers", some (.obj headers)), ("bodyBase64", text (Base64.encode body))])

def headerLines (header : String × Json) : List String :=
  match header.2 with
  | .arr entries => entries.map fun entry =>
    match entry with
    | .str text => header.1 ++ ": " ++ text
    | _ => header.1 ++ ": "
  | .str text => [header.1 ++ ": " ++ text]
  | _ => [header.1 ++ ": "]

/-- `Buffer.from(text)`. -/
def utf8 (text : String) : List UInt8 := text.toList.flatMap String.utf8EncodeChar

/-- The request line and the headers, as an upstream server reads them. -/
def requestHead (request : Request) (httpVersion path : String) (headers : FrameHeaders) :
    List UInt8 :=
  utf8 ("\r\n".intercalate
    ((request.method ++ " " ++ path ++ " HTTP/" ++ httpVersion) :: headers.flatMap headerLines) ++
    "\r\n\r\n")

def upgradeFrame (streamId : String) (route : Json) (initial : List UInt8) : Json :=
  frameOf ([("type", text "stream_open"), ("streamId", text streamId)] ++ routeFields route ++
    [("initialDataBase64", text (Base64.encode initial))])

theorem path_proxyRequestFrame (requestId : String) (route : Json) (request : Request)
    (decision : PolicyResult) (headers : FrameHeaders) (body : List UInt8) :
    (proxyRequestFrame requestId route request decision headers body).get? "path" =
      text (decidedPath request decision) := by
  unfold proxyRequestFrame routeFields
  cases optional (route.get? "tunnel") "id" <;> cases optional (route.get? "target") "id" <;> rfl

theorem headers_proxyRequestFrame (requestId : String) (route : Json) (request : Request)
    (decision : PolicyResult) (headers : FrameHeaders) (body : List UInt8) :
    (proxyRequestFrame requestId route request decision headers body).get? "headers" =
      some (.obj headers) := by
  unfold proxyRequestFrame routeFields
  cases optional (route.get? "tunnel") "id" <;> cases optional (route.get? "target") "id" <;> rfl

theorem initialData_upgradeFrame (streamId : String) (route : Json) (initial : List UInt8) :
    (upgradeFrame streamId route initial).get? "initialDataBase64" =
      text (Base64.encode initial) := by
  unfold upgradeFrame routeFields
  cases optional (route.get? "tunnel") "id" <;> cases optional (route.get? "target") "id" <;> rfl

theorem hasType_upgradeFrame (streamId : String) (route : Json) (initial : List UInt8) :
    hasType (upgradeFrame streamId route initial) "stream_open" = true := by
  cases optional (route.get? "tunnel") "id" <;> cases optional (route.get? "target") "id" <;> rfl

variable {host}

theorem lookup_setHeader (headers : FrameHeaders) (name : String) (value : Json)
    (other : String) : Json.lookup (setHeader headers name value) other =
      if other = name ∧ name ≠ "__proto__" then some value else Json.lookup headers other := by
  unfold setHeader
  by_cases hproto : name = "__proto__"
  · simp [hproto]
  · simp [hproto, Json.lookup_setField]

variable {entries : List (String × String)} {decision : PolicyResult} {request : Request}

theorem lookup_assign_of_not_mem {name : String} (h : name ∉ headerKeys entries)
    (headers : FrameHeaders) :
    Json.lookup (entries.foldl (fun headers h => setHeader headers h.1 (.str h.2)) headers) name =
      Json.lookup headers name := by
  induction entries generalizing headers with
  | nil => rfl
  | cons entry rest ih =>
    have hentry : name ≠ entry.1 := fun heq => h (heq ▸ List.mem_cons_self)
    have hrest : name ∉ headerKeys rest := fun hmem => h (List.mem_cons_of_mem _ hmem)
    rw [List.foldl_cons, ih hrest, lookup_setHeader, if_neg fun hboth => hentry hboth.1]

theorem lookup_assign_of_mem (hmap : HeaderMap entries) {entry : String × String}
    (hentry : entry ∈ entries) (headers : FrameHeaders) :
    Json.lookup (entries.foldl (fun headers h => setHeader headers h.1 (.str h.2)) headers)
      entry.1 = some (.str entry.2) := by
  induction entries generalizing headers with
  | nil => cases hentry
  | cons first rest ih =>
    have hnodup := List.nodup_cons.1 hmap.nodup
    have hproto := hmap.proto
    rw [headerKeys, List.map_cons, List.mem_cons, not_or] at hproto
    rw [List.foldl_cons]
    rcases List.mem_cons.1 hentry with rfl | hlater
    · rw [lookup_assign_of_not_mem hnodup.1, lookup_setHeader,
        if_pos ⟨rfl, fun heq => hproto.1 heq.symm⟩]
    · exact ih ⟨hnodup.2, hproto.2⟩ hlater _

/-- `headers[name]` of the request for a name in lower case: the last header of that name. -/
def requestHeader (host : Host) (request : Request) (name : String) : Option Json :=
  (request.headers.reverse.find? fun h => host.toLowerCase h.1 = name).map fun h => headerJson h.2

theorem lookup_keptHeaders (dropped : List String) (request : Request) (decision : PolicyResult)
    (name : String) : Json.lookup (keptHeaders host dropped request decision) name =
      if name ∈ dropped ∨ name ∈ decision.removeRequestHeaders ∨ name = "__proto__" then none
      else requestHeader host request name := by
  unfold keptHeaders requestHeader
  induction request.headers using List.reverseRecOn with
  | nil => simp [Json.lookup]
  | append_singleton headers header ih =>
    rw [List.foldl_append, List.foldl_cons, List.foldl_nil, List.reverse_append,
      List.reverse_singleton, List.singleton_append, List.find?_cons]
    dsimp only
    by_cases hname : host.toLowerCase header.1 = name
    · subst hname
      split_ifs with hskip hdropped hdropped
      · rw [ih, if_pos hdropped]
      · rw [not_or, not_or] at hdropped
        exact absurd hskip (not_or.2 ⟨hdropped.1, hdropped.2.1⟩)
      · have hproto : host.toLowerCase header.1 = "__proto__" :=
          (hdropped.resolve_left fun h => hskip (.inl h)).resolve_left fun h => hskip (.inr h)
        rw [lookup_setHeader, if_neg (fun h => h.2 hproto), ih, if_pos hdropped]
      · rw [not_or, not_or] at hdropped
        rw [lookup_setHeader, if_pos ⟨rfl, hdropped.2.2⟩]
        simp
    · have hskip : decide (host.toLowerCase header.1 = name) = false := decide_eq_false hname
      rw [hskip, ← ih]
      split_ifs
      · rfl
      · rw [lookup_setHeader, if_neg fun h => hname h.1.symm]

/-- The headers of a frame are those of the request as the decision changed them, but for
the names the handler drops and those it sets itself. -/
structure FollowsDecision (host : Host) (own dropped : List String) (request : Request)
    (decision : PolicyResult) (headers : FrameHeaders) : Prop where
  added : ∀ entry ∈ decision.requestHeaders, entry.1 ∉ own →
    Json.lookup headers entry.1 = some (.str entry.2)
  removed : ∀ name ∈ decision.removeRequestHeaders, name ∉ own →
    name ∉ headerKeys decision.requestHeaders → Json.lookup headers name = none
  kept : ∀ name ∉ own, name ∉ headerKeys decision.requestHeaders →
    name ∉ decision.removeRequestHeaders → name ∉ dropped → name ≠ "__proto__" →
    Json.lookup headers name = requestHeader host request name

theorem followsDecision_assign {dropped : List String} {request : Request}
    (hmap : HeaderMap decision.requestHeaders) :
    FollowsDecision host [] dropped request decision
      (assignDecided decision (keptHeaders host dropped request decision)) := by
  constructor
  · intro entry hentry _
    exact lookup_assign_of_mem hmap hentry _
  · intro name hname _ hother
    unfold assignDecided
    rw [lookup_assign_of_not_mem hother, lookup_keptHeaders, if_pos (.inr (.inl hname))]
  · intro name _ hother hremoved hdropped hproto
    unfold assignDecided
    rw [lookup_assign_of_not_mem hother, lookup_keptHeaders, if_neg]
    rintro (h | h | h)
    · exact hdropped h
    · exact hremoved h
    · exact hproto h

theorem FollowsDecision.assign {own dropped : List String} {headers : FrameHeaders}
    (h : FollowsDecision host [] dropped request decision headers)
    (hentries : ∀ name ∈ headerKeys entries, name ∈ own) :
    FollowsDecision host own dropped request decision
      (entries.foldl (fun headers h => setHeader headers h.1 (.str h.2)) headers) := by
  have hother : ∀ name ∉ own, Json.lookup
      (entries.foldl (fun headers h => setHeader headers h.1 (.str h.2)) headers) name =
        Json.lookup headers name :=
    fun name hname => lookup_assign_of_not_mem (fun hmem => hname (hentries name hmem)) _
  constructor
  · intro entry hentry hown
    rw [hother _ hown]
    exact h.added entry hentry List.not_mem_nil
  · intro name hname hown hdecided
    rw [hother _ hown]
    exact h.removed name hname List.not_mem_nil hdecided
  · intro name hown hdecided hremoved hdropped hproto
    rw [hother _ hown]
    exact h.kept name List.not_mem_nil hdecided hremoved hdropped hproto

/-- The names the Edge sets itself. -/
def ownNames : List String :=
  ["x-forwarded-host", "x-forwarded-proto", "x-forwarded-for", "x-tunnara-request-id",
    "x-tunnara-identity-subject", "x-tunnara-identity-type"]

theorem headerKeys_ownHeaders {secure : Bool} {hostname freshId : String}
    {own : List (String × String)}
    (h : ownHeaders host secure request hostname freshId decision = .ok own) :
    ∀ name ∈ headerKeys own, name ∈ ownNames := by
  obtain ⟨identity, hidentity, h⟩ := bind_eq_ok.1 h
  cases h
  unfold identityHeaders at hidentity
  have hsub : identity = [] ∨
      headerKeys identity = ["x-tunnara-identity-subject", "x-tunnara-identity-type"] := by
    split at hidentity
    · cases hidentity
      exact .inl rfl
    · split at hidentity
      · obtain ⟨subject, -, hidentity⟩ := bind_eq_ok.1 hidentity
        cases hidentity
        exact .inr rfl
      · cases hidentity
        exact .inl rfl
  intro name hname
  rcases hsub with rfl | hsub
  · have hfour : ownNames = ["x-forwarded-host", "x-forwarded-proto", "x-forwarded-for",
        "x-tunnara-request-id"] ++ ["x-tunnara-identity-subject", "x-tunnara-identity-type"] := rfl
    rw [hfour]
    exact List.mem_append_left _ hname
  · have hall : headerKeys ([("x-forwarded-host", hostname),
        ("x-forwarded-proto", if secure then "https" else "http"),
        ("x-forwarded-for", request.remoteAddress.getD ""),
        ("x-tunnara-request-id", requestIdHeader request freshId)] ++ identity) = ownNames := by
      unfold headerKeys at hsub ⊢
      rw [List.map_append, hsub]
      rfl
    rw [← hall]
    exact hname

theorem followsDecision_forwardedHeaders {secure : Bool} {hostname freshId : String}
    {headers : FrameHeaders} (hmap : HeaderMap decision.requestHeaders)
    (h : forwardedHeaders host secure request hostname freshId decision = .ok headers) :
    FollowsDecision host ownNames hopByHop request decision headers := by
  obtain ⟨own, hown, h⟩ := bind_eq_ok.1 h
  cases h
  exact (followsDecision_assign hmap).assign (headerKeys_ownHeaders hown)

theorem followsDecision_upgradeHeaders {request : Request}
    (hmap : HeaderMap decision.requestHeaders) :
    FollowsDecision host [] [] request decision (upgradeHeaders host request decision) :=
  followsDecision_assign hmap

end Tunnara.Edge
