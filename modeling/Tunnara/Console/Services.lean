/-
# The webhook and the WebSocket service

Both ask for a token only where they receive: the lists of events and of clients are open,
and a blank token counts as none, also when one is required. `token_guard` of the internal
API refuses every request in that case.
-/

import Tunnara.Console.Settings

namespace Tunnara.Console

structure WebhookEvent where
  id : ℕ
  (provider event method path status : String)
  headers : List (String × String)
  payload : Json
  receivedAt : String

/-- `WEBHOOK_SEQ` and `WEBHOOK_EVENTS`. -/
structure WebhookState where
  seq : ℕ
  events : List WebhookEvent

inductive WebhookEndpoint
  | root
  | health
  | listEvents
  | testReceive
  | receiveProvider
  | receiveProviderEvent
  deriving DecidableEq

inductive WebhookAnswer
  /-- What `root` and `health` tell. -/
  | status
  | listed (items : List WebhookEvent)
  | received (event : WebhookEvent)
  | unauthorized
  /-- The framework's own refusals. -/
  | refused

structure WebhookEnv where
  axum : Axum
  /-- `serde_json::from_slice`. -/
  parseJson : List UInt8 → Option Json
  /-- `String::from_utf8_lossy`. -/
  lossyText : List UInt8 → String

namespace WebhookConfig

variable (config : WebhookConfig)

def routes : List (Route WebhookEndpoint) :=
  [⟨"/", .get, .root⟩, ⟨"/health", .get, .health⟩, ⟨"/events", .get, .listEvents⟩,
    ⟨"/test", .post, .testReceive⟩, ⟨config.basePath ++ "/events", .get, .listEvents⟩,
    ⟨config.basePath ++ "/test", .post, .testReceive⟩,
    ⟨config.basePath ++ "/:provider", .post, .receiveProvider⟩,
    ⟨config.basePath ++ "/:provider/:event", .post, .receiveProviderEvent⟩]

/-- `validate_token`. -/
def tokenValid (request : HttpRequest) : Bool :=
  !config.tokenRequired || isBlank config.token ||
    request.headerText (trimText config.tokenHeader) = config.token

end WebhookConfig

namespace WebhookEnv

variable (env : WebhookEnv) (config : WebhookConfig)

def parsePayload (body : List UInt8) : Json :=
  if body = [] then .obj []
  else (env.parseJson body).getD (.obj [("raw", .str (env.lossyText body))])

def pushEvent (events : List WebhookEvent) (record : WebhookEvent) : List WebhookEvent :=
  (events ++ [record]).drop ((events ++ [record]).length - 500)

def receiveEvent (state : WebhookState) (request : HttpRequest) (path provider event : String)
    (body : List UInt8) (now : String) : WebhookState × WebhookAnswer :=
  if !config.tokenValid request then (state, .unauthorized)
  else
    let record : WebhookEvent := {
      id := state.seq + 1
      provider, event
      method := "POST"
      path
      status := "received"
      headers := request.headers.map fun h => (h.1, (headerToStr h.2).getD "")
      payload := env.parsePayload body
      receivedAt := now }
    ({ seq := state.seq + 1, events := pushEvent state.events record }, .received record)

/-- A request at the router. -/
def handle (state : WebhookState) (request : HttpRequest) (now : String) :
    WebhookState × WebhookAnswer :=
  let captured := (env.axum.captured (config.routes.map Route.path) request.path).getD []
  match env.axum.route config.routes request with
  | none => (state, .refused)
  | some .root | some .health => (state, .status)
  | some .listEvents =>
    -- the answer to HEAD has no body
    (state, if request.method = "GET" then .listed state.events.reverse else .status)
  | some .testReceive =>
    match env.axum.readBody request with
    | some body => env.receiveEvent config state request "/test" "test" "manual" body now
    | none => (state, .refused)
  | some .receiveProvider =>
    match captured, env.axum.readBody request with
    | [provider], some body =>
      env.receiveEvent config state request ("/webhooks/" ++ provider) provider "generic" body now
    | _, _ => (state, .refused)
  | some .receiveProviderEvent =>
    match captured, env.axum.readBody request with
    | [provider, event], some body =>
      env.receiveEvent config state request ("/webhooks/" ++ provider ++ "/" ++ event) provider
        event body now
    | _, _ => (state, .refused)

end WebhookEnv

/-- The request presents the configured token, which is not blank. -/
def WebhookConfig.Presented (config : WebhookConfig) (request : HttpRequest) : Prop :=
  ¬ isBlank config.token ∧ request.headerText (trimText config.tokenHeader) = config.token

/-- An event is recorded or events are listed. -/
def WebhookAnswer.Serves : WebhookAnswer → Prop
  | .listed _ | .received _ => True
  | _ => False

inductive WebSocketEndpoint
  | root
  | health
  | clients
  | connect
  deriving DecidableEq

inductive WebSocketAnswer
  | status
  | listed
  | upgraded
  | unauthorized
  | refused

namespace WebSocketConfig

variable (config : WebSocketConfig)

def routes : List (Route WebSocketEndpoint) :=
  [⟨"/", .get, .root⟩, ⟨"/health", .get, .health⟩, ⟨"/clients", .get, .clients⟩,
    ⟨config.path, .get, .connect⟩]

/-- `query.get(config.token_query.trim())`, where the last of several values counts. -/
def queryToken (query : List (String × String)) : String :=
  ((query.reverse.find? fun pair => pair.1 = trimText config.tokenQuery).map Prod.snd).getD ""

/-- `validate_token`. -/
def tokenValid (request : HttpRequest) (query : List (String × String)) : Bool :=
  !config.tokenRequired || isBlank config.token ||
    request.headerText (trimText config.tokenHeader) = config.token ||
    config.queryToken query = config.token

/-- A request at the router. -/
def handle (axum : Axum) (request : HttpRequest) : WebSocketAnswer :=
  match axum.route config.routes request with
  | none => .refused
  | some .root | some .health => .status
  | some .clients => if request.method = "GET" then .listed else .status
  | some .connect =>
    if !axum.upgrades request then .refused
    else match axum.readQuery request with
      | none => .refused
      | some query => if config.tokenValid request query then .upgraded else .unauthorized

/-- The request presents the configured token, which is not blank, in the header or in the
query. -/
def Presented (axum : Axum) (request : HttpRequest) : Prop :=
  ¬ isBlank config.token ∧ (request.headerText (trimText config.tokenHeader) = config.token ∨
    ∃ query, axum.readQuery request = some query ∧ config.queryToken query = config.token)

end WebSocketConfig

/-- A connection is upgraded or clients are listed. -/
def WebSocketAnswer.Serves : WebSocketAnswer → Prop
  | .listed | .upgraded => True
  | _ => False

variable {state : WebhookState} {request : HttpRequest} {now : String}

section Webhook

variable (env : WebhookEnv) (config : WebhookConfig)

namespace WebhookConfig

/-- The request asks for the list of events. -/
def Lists (request : HttpRequest) : Prop :=
  env.axum.route config.routes request = some .listEvents ∧ request.method = "GET"

/-- The path, provider, event and body with which a request comes to `receive_event`. -/
def receiver (request : HttpRequest) : Option (String × String × String × List UInt8) :=
  let captured := (env.axum.captured (config.routes.map Route.path) request.path).getD []
  match env.axum.route config.routes request, captured, env.axum.readBody request with
  | some .testReceive, _, some body => some ("/test", "test", "manual", body)
  | some .receiveProvider, [provider], some body =>
    some ("/webhooks/" ++ provider, provider, "generic", body)
  | some .receiveProviderEvent, [provider, event], some body =>
    some ("/webhooks/" ++ provider ++ "/" ++ event, provider, event, body)
  | _, _, _ => none

end WebhookConfig

variable {env config}

theorem handle_of_receiver {path provider event : String} {body : List UInt8}
    (h : config.receiver env request = some (path, provider, event, body)) :
    env.handle config state request now =
      env.receiveEvent config state request path provider event body now := by
  unfold WebhookConfig.receiver at h
  unfold WebhookEnv.handle
  dsimp only at h ⊢
  split at h
  next hroute hbody =>
    cases h
    rw [hroute, hbody]
  next hroute hcaptured hbody =>
    cases h
    rw [hroute, hcaptured, hbody]
  next hroute hcaptured hbody =>
    cases h
    rw [hroute, hcaptured, hbody]
  · cases h

theorem handle_of_not_receiver (h : config.receiver env request = none) :
    (env.handle config state request now).1 = state ∧
      ((env.handle config state request now).2.Serves ↔ config.Lists env request) := by
  unfold WebhookConfig.receiver at h
  unfold WebhookEnv.handle WebhookConfig.Lists
  cases hroute : env.axum.route config.routes request with
  | none => simp [WebhookAnswer.Serves]
  | some endpoint =>
    rw [hroute] at h
    cases endpoint with
    | root | health => simp [WebhookAnswer.Serves]
    | listEvents =>
      by_cases hget : request.method = "GET"
      · simp [WebhookAnswer.Serves, hget]
      · simp [WebhookAnswer.Serves, hget]
    | testReceive =>
      cases hbody : env.axum.readBody request with
      | none => simp [WebhookAnswer.Serves]
      | some body => simp [hbody] at h
    | receiveProvider | receiveProviderEvent =>
      dsimp only at h ⊢
      split
      next hcaptured hbody => simp [hcaptured, hbody] at h
      · simp [WebhookAnswer.Serves]

theorem receiveEvent_serves {path provider event : String} {body : List UInt8} :
    (env.receiveEvent config state request path provider event body now).2.Serves ↔
      config.tokenValid request = true := by
  unfold WebhookEnv.receiveEvent
  cases config.tokenValid request with
  | false | true => simp [WebhookAnswer.Serves]

theorem webhook_closed_iff (hrequired : config.tokenRequired = true) (state : WebhookState)
    (request : HttpRequest) (now : String) :
    ((env.handle config state request now).2.Serves → config.Presented request) ↔
      (config.Lists env request → config.Presented request) ∧
        ((config.receiver env request).isSome → ¬ isBlank config.token) := by
  cases hreceiver : config.receiver env request with
  | none =>
    rw [(handle_of_not_receiver hreceiver).2]
    simp
  | some found =>
    obtain ⟨path, provider, event, body⟩ := found
    have hnot : ¬ config.Lists env request := by
      intro ⟨hroute, _⟩
      simp [WebhookConfig.receiver, hroute] at hreceiver
    rw [handle_of_receiver hreceiver, receiveEvent_serves]
    simp only [hnot, false_implies, true_and, Option.isSome_some, true_implies]
    unfold WebhookConfig.tokenValid WebhookConfig.Presented
    cases hblank : isBlank config.token with
    | true => simp
    | false => simp [hrequired]

end Webhook

section WebSocket

variable (axum : Axum) (config : WebSocketConfig)

namespace WebSocketConfig

/-- The request asks for the list of clients. -/
def Lists (request : HttpRequest) : Prop :=
  axum.route config.routes request = some .clients ∧ request.method = "GET"

/-- The request is a handshake at the service's path. -/
def Connects (request : HttpRequest) : Prop :=
  axum.route config.routes request = some .connect ∧ axum.upgrades request = true ∧
    (axum.readQuery request).isSome

end WebSocketConfig

variable {axum config}

theorem WebSocketConfig.handle_serves :
    (config.handle axum request).Serves ↔ config.Lists axum request ∨
      config.Connects axum request ∧ ∃ query, axum.readQuery request = some query ∧
        config.tokenValid request query = true := by
  unfold WebSocketConfig.handle WebSocketConfig.Lists WebSocketConfig.Connects
  cases hroute : axum.route config.routes request with
  | none => simp [WebSocketAnswer.Serves]
  | some endpoint =>
    cases endpoint with
    | root | health => simp [WebSocketAnswer.Serves]
    | clients =>
      by_cases hget : request.method = "GET"
      · simp [WebSocketAnswer.Serves, hget]
      · simp [WebSocketAnswer.Serves, hget]
    | connect =>
      cases hupgrades : axum.upgrades request with
      | false => simp [WebSocketAnswer.Serves]
      | true =>
        cases hquery : axum.readQuery request with
        | none => simp [WebSocketAnswer.Serves]
        | some query =>
          cases hvalid : config.tokenValid request query with
          | false | true => simp [WebSocketAnswer.Serves, hvalid]

theorem websocket_closed_iff (hrequired : config.tokenRequired = true) {request : HttpRequest} :
    ((config.handle axum request).Serves → config.Presented axum request) ↔
      (config.Lists axum request → config.Presented axum request) ∧
        (config.Connects axum request → ¬ isBlank config.token) := by
  rw [WebSocketConfig.handle_serves]
  unfold WebSocketConfig.Presented
  cases hblank : isBlank config.token with
  | true =>
    have hvalid : ∀ query, config.tokenValid request query = true := by
      simp [WebSocketConfig.tokenValid, hblank]
    constructor
    · intro h
      refine ⟨fun hlists => h (.inl hlists), fun hconnects => ?_⟩
      obtain ⟨query, hquery⟩ := Option.isSome_iff_exists.1 hconnects.2.2
      exact absurd rfl (h (.inr ⟨hconnects, query, hquery, hvalid query⟩)).1
    · intro ⟨hlists, hconnects⟩ hserves
      rcases hserves with h | ⟨h, _⟩
      · exact hlists h
      · exact absurd rfl (hconnects h)
  | false =>
    constructor
    · intro h
      exact ⟨fun hlists => h (.inl hlists), fun _ => by simp⟩
    · intro ⟨hlists, _⟩ hserves
      rcases hserves with h | ⟨_, query, hquery, hvalid⟩
      · exact hlists h
      · unfold WebSocketConfig.tokenValid at hvalid
        simp only [hrequired, hblank, Bool.not_true, Bool.false_or, Bool.or_eq_true,
          decide_eq_true_eq] at hvalid
        refine ⟨by simp, hvalid.imp_right fun htoken => ⟨query, hquery, htoken⟩⟩

end WebSocket

/-- **When required tokens fail closed**: for every configuration that requires a token, saved or
not, and every request. The lists are open, and a blank token is no obstacle. -/
theorem closed_iff (env : WebhookEnv) (webhook : WebhookConfig) (websocket : WebSocketConfig) :
    (webhook.tokenRequired = true → ∀ state request now,
      ((env.handle webhook state request now).2.Serves → webhook.Presented request) ↔
        (webhook.Lists env request → webhook.Presented request) ∧
          ((webhook.receiver env request).isSome → ¬ isBlank webhook.token)) ∧
    (websocket.tokenRequired = true → ∀ request,
      ((websocket.handle env.axum request).Serves → websocket.Presented env.axum request) ↔
        (websocket.Lists env.axum request → websocket.Presented env.axum request) ∧
          (websocket.Connects env.axum request → ¬ isBlank websocket.token)) := by
  refine ⟨webhook_closed_iff, ?_⟩
  exact fun hrequired request => websocket_closed_iff hrequired

def plainWebhookEnv : WebhookEnv where
  axum := .plain
  parseJson _ := none
  lossyText bytes := String.ofList (bytes.map fun byte => Char.ofNat byte.toNat)

def guardedSettings : RuntimeSettings :=
  { templateSettings with webhookToken := "hook-secret", websocketToken := "ws-secret" }

theorem guardedSettings_saved : guardedSettings.save = .ok guardedSettings := by
  decide +kernel

def plainPost (path : String) : HttpRequest := ⟨"POST", path, none, [], []⟩

def plainGet (path : String) : HttpRequest := ⟨"GET", path, none, [], []⟩

/-- With a token a request without it records nothing. -/
theorem closed_iff_guarded :
    SavedWebhookConfig (resolveWebhookConfig guardedSettings) ∧
    SavedWebSocketConfig (resolveWebSocketConfig guardedSettings) ∧
    ((plainWebhookEnv.handle (resolveWebhookConfig guardedSettings) ⟨0, []⟩
        (plainPost "/webhooks/erp/paid") "2026-07-06T12:00:00Z").2.Serves →
      (resolveWebhookConfig guardedSettings).Presented (plainPost "/webhooks/erp/paid")) ∧
    (((resolveWebSocketConfig guardedSettings).handle .plain (plainGet "/ws")).Serves →
      (resolveWebSocketConfig guardedSettings).Presented .plain (plainGet "/ws")) := by
  have h := closed_iff plainWebhookEnv (resolveWebhookConfig guardedSettings)
    (resolveWebSocketConfig guardedSettings)
  refine ⟨⟨_, _, guardedSettings_saved, rfl⟩, ⟨_, _, guardedSettings_saved, rfl⟩, ?_, ?_⟩
  · refine (h.1 (by decide +kernel) ⟨0, []⟩ _ "2026-07-06T12:00:00Z").2 ⟨?_, fun _ => by decide +kernel⟩
    intro ⟨hroute, _⟩
    exact absurd hroute (by decide +kernel)
  · refine (h.2 (by decide +kernel) _).2 ⟨?_, fun _ => by decide +kernel⟩
    intro ⟨hroute, _⟩
    exact absurd hroute (by decide +kernel)

/-- The template requires tokens and has none: an event is recorded and a connection upgraded for
requests without a token. -/
theorem not_closed_template :
    SavedWebhookConfig (resolveWebhookConfig templateSettings) ∧
    (resolveWebhookConfig templateSettings).tokenRequired = true ∧
    ¬ ((plainWebhookEnv.handle (resolveWebhookConfig templateSettings) ⟨0, []⟩
        (plainPost "/webhooks/erp/paid") "2026-07-06T12:00:00Z").2.Serves →
      (resolveWebhookConfig templateSettings).Presented (plainPost "/webhooks/erp/paid")) ∧
    ¬ ((plainWebhookEnv.handle (resolveWebhookConfig guardedSettings) ⟨0, []⟩
        (plainGet "/events") "2026-07-06T12:00:00Z").2.Serves →
      (resolveWebhookConfig guardedSettings).Presented (plainGet "/events")) := by
  refine ⟨⟨templateSettings, templateSettings, by decide +kernel, rfl⟩, by decide +kernel, ?_, ?_⟩
  · rw [webhook_closed_iff (by decide +kernel)]
    intro ⟨_, hreceiver⟩
    exact hreceiver (by decide +kernel) (by decide +kernel)
  · rw [webhook_closed_iff (by decide +kernel)]
    intro ⟨hlists, _⟩
    have hpresented := hlists ⟨by decide +kernel, rfl⟩
    exact absurd hpresented.2 (by decide +kernel)

end Tunnara.Console
