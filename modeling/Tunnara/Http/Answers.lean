/-
# Which requests are answered

For each of the three servers, exactly when the promise of its handler is not rejected
and a response is sent. Inside a `try` block a handler is either careful, so that
nothing is sent when it throws, or its `catch` block copes with a response that has
begun.
-/

import Tunnara.Http.Handlers

namespace Tunnara.Http

open Attempt

variable {response : Response}

/-! ## Handlers on a response that is not sent -/

/-- From a response that is not sent the handler returns, with the postcondition. -/
def Yields {α : Type} (post : α → Response → Prop) (handler : Handler α) : Prop :=
  ∀ response : Response, response.status = none →
    ∃ a next, exec handler response = (.ok a, next) ∧ post a next

abbrev Answers (handler : Handler Unit) : Prop := Yields (fun _ next => next.Answered) handler

/-- The handler sends nothing. -/
abbrev Prepares (handler : Handler Unit) : Prop :=
  Yields (fun _ next => next.status = none) handler

/-- The handler answers, or it throws with nothing sent. -/
def Careful (handler : Handler Unit) : Prop :=
  ∀ response : Response, response.status = none →
    (∃ next, exec handler response = (.ok (), next) ∧ next.Answered) ∨
      ∃ error next, exec handler response = (.error error, next) ∧ next.status = none

variable {α : Type} {handler : Handler Unit} {name : String} {status : ℤ}

theorem Yields.mono {post weaker : α → Response → Prop} {handler : Handler α}
    (h : Yields post handler) (hpost : ∀ a next, post a next → weaker a next) :
    Yields weaker handler := by
  intro response hunsent
  obtain ⟨a, next, hexec, hnext⟩ := h response hunsent
  exact ⟨a, next, hexec, hpost a next hnext⟩

theorem Yields.map {β : Type} {post : β → Response → Prop} {handler : Handler α} {a : β}
    (h : Yields (fun _ next => post a next) handler) :
    Yields post (handler >>= fun _ => pure a) := by
  intro response hunsent
  obtain ⟨b, next, hexec, hnext⟩ := h response hunsent
  rw [exec_bind, hexec]
  exact ⟨a, next, rfl, hnext⟩

theorem Yields.after {post : α → Response → Prop} {rest : Unit → Handler α} (h : Prepares handler)
    (hrest : Yields post (rest ())) : Yields post (handler >>= rest) := by
  intro response hunsent
  obtain ⟨_, next, hexec, hnext⟩ := h response hunsent
  rw [exec_bind, hexec]
  exact hrest next hnext

theorem Answers.careful (h : Answers handler) : Careful handler := by
  intro response hunsent
  obtain ⟨_, next, hexec, hanswered⟩ := h response hunsent
  exact .inl ⟨next, hexec, hanswered⟩

theorem Answers.responds (h : Answers handler) : Responds handler := by
  obtain ⟨_, next, hexec, hanswered⟩ := h .fresh rfl
  exact ⟨next, hexec, hanswered⟩

theorem prepares_pure : Prepares (pure ()) := fun response hunsent => ⟨(), response, rfl, hunsent⟩

theorem prepares_setHeader {content : HeaderContent} (hvalid : validHeader (name, content)) :
    Prepares (setHeader name content) := by
  intro response hunsent
  obtain ⟨next, hexec, hnext⟩ := exec_setHeader hunsent hvalid
  exact ⟨(), next, hexec, hnext⟩

theorem careful_compute_bind {result : Except HttpError α} {rest : α → Handler Unit}
    (h : ∀ a, result = .ok a → Careful (rest a)) : Careful (compute result >>= rest) := by
  intro response hunsent
  rw [exec_bind, exec_compute]
  cases hresult : result with
  | error error => exact .inr ⟨error, response, rfl, hunsent⟩
  | ok a => exact h a hresult response hunsent

theorem answers_compute_bind {a : α} {rest : α → Handler Unit} (h : Answers (rest a)) :
    Answers (compute (.ok a) >>= rest) := h

theorem answers_writeHead {headers : List Header} (hstatus : IsStatus status)
    (hvalid : headers.all validHeader) :
    Answers (writeHead status headers >>= fun _ => finish) := by
  intro response hunsent
  rw [exec_bind, exec_writeHead hunsent hstatus hvalid]
  exact ⟨(), _, rfl, rfl, .inl rfl⟩

theorem answers_tryCatch {body : Handler Unit} {handler : HttpError → Handler Unit}
    (hbody : Careful body) (hhandler : ∀ error, Answers (handler error)) :
    Answers (tryCatch body handler) := by
  intro response hunsent
  rw [exec_tryCatch]
  rcases hbody response hunsent with ⟨next, hexec, hanswered⟩ | ⟨error, next, hexec, hnext⟩
  · rw [hexec]
    exact ⟨(), next, rfl, hanswered⟩
  · rw [hexec]
    exact hhandler error next hnext

/-! ## Replies -/

theorem validHeader_of_name {content : HeaderContent} (hname : validHeader (name, .number 0) = true)
    (hcontent : content.valid = true) :
    validHeader (name, content) = true := by
  unfold validHeader at hname ⊢
  rw [Bool.and_eq_true] at hname ⊢
  exact ⟨hname.1, hcontent⟩

/-- The text is printable ASCII; its codes are compared, since that is quick to evaluate. -/
def printable (s : String) : Bool :=
  s.toList.all fun c => Nat.ble 32 c.toNat && Nat.ble c.toNat 126

theorem isHeaderChar_of_toNat {c : Char} (hlow : 32 ≤ c.toNat) (hhigh : c.toNat ≤ 126) :
    isHeaderChar c = true := by
  have hspace : ' ' ≤ c := Char.le_def.2 (UInt32.le_iff_toNat_le.2 hlow)
  have htilde : c ≤ '~' := Char.le_def.2 (UInt32.le_iff_toNat_le.2 hhigh)
  simp [isHeaderChar, hspace, htilde]

theorem validHeader_of_text {s : String} (hname : validHeader (name, .number 0) = true)
    (h : printable s = true) : validHeader (name, .text s) = true := by
  apply validHeader_of_name hname
  apply List.all_eq_true.2
  intro c hmem
  have hcodes := List.all_eq_true.1 h c hmem
  rw [Bool.and_eq_true, Nat.ble_eq, Nat.ble_eq] at hcodes
  exact isHeaderChar_of_toNat hcodes.1 hcodes.2

theorem prepares_text {s : String} (hname : validHeader (name, .number 0) = true)
    (h : printable s = true) : Prepares (setHeader name (.text s)) :=
  prepares_setHeader (validHeader_of_text hname h)

theorem validHeader_metrics : metricsHeaders.all validHeader = true := by
  unfold metricsHeaders
  rw [List.all_cons, List.all_cons, validHeader_of_text (by decide +kernel) (by decide +kernel),
    validHeader_of_text (by decide +kernel) (by decide +kernel)]
  rfl

theorem validHeader_json {length : ℕ} : (jsonHeaders length).all validHeader = true := by
  unfold jsonHeaders
  rw [List.all_cons, List.all_cons, List.all_cons, List.all_cons,
    validHeader_of_text (by decide +kernel) (by decide +kernel),
    validHeader_of_name (by decide +kernel) rfl,
    validHeader_of_text (by decide +kernel) (by decide +kernel),
    validHeader_of_text (by decide +kernel) (by decide +kernel)]
  rfl

section

variable (platform : Platform)

theorem careful_sendJson (hstatus : IsStatus status) {payload : Json} :
    Careful (sendJson platform status payload) := by
  apply careful_compute_bind
  intro body _
  exact (answers_writeHead hstatus validHeader_json).careful

theorem answers_sendJson (hstatus : IsStatus status) {fields : List (String × String)} :
    Answers (sendJson platform status (textObject fields)) := by
  obtain ⟨body, hbody⟩ := platform.shallow fields
  unfold sendJson textObject
  rw [hbody]
  exact answers_compute_bind (answers_writeHead hstatus validHeader_json)

theorem exec_sendJson_sent {fields : List (String × String)} (hsent : response.status.isSome) :
    exec (sendJson platform status (textObject fields)) response =
      (.error headersSent, response) := by
  obtain ⟨body, hbody⟩ := platform.shallow fields
  unfold sendJson textObject
  rw [hbody, exec_bind, exec_compute]
  dsimp only
  rw [exec_bind, exec_writeHead_sent hsent]

theorem answers_sendError {status : ℤ} (hstatus : IsStatus status) {error message : String} :
    Answers (sendError platform status error message) :=
  answers_sendJson platform hstatus

theorem answers_health {service : String} : Answers (health platform service) :=
  answers_sendJson platform (by decide)

theorem isStatus_statusOr {error : HttpError} {d : ℤ} (hd : IsStatus d) :
    IsStatus (statusOr error d) := by
  unfold statusOr
  split
  · exact hd
  · exact hd
  · rename_i status _ hstatus
    exact error.valid status hstatus

theorem answers_jsonRouteError (error : HttpError) : Answers (jsonRouteError platform error) :=
  answers_sendError platform (isStatus_statusOr (by decide))

theorem answers_sendNoContent : Answers sendNoContent := answers_writeHead (by decide) rfl

theorem careful_send {reply : Reply} : Careful (send platform reply) := by
  cases reply with
  | json status payload => exact careful_sendJson platform status.2
  | noContent => exact answers_sendNoContent.careful

end

theorem valid_headerOr {request : Request} {name : String} {d : String}
    (hd : d.toList.all isHeaderChar = true) :
    (request.headerOr name d).toList.all isHeaderChar = true := by
  unfold Request.headerOr Request.header
  cases request.headers.lookup name with
  | none => exact hd
  | some value =>
    split
    · exact hd
    · exact hd
    · rename_i text _ htext
      cases htext
      exact value.2

/-! ## The Control -/

namespace ControlServer

variable (server : ControlServer) (request : Request)

theorem prepares_secureHeaders : Prepares secureHeaders := by
  iterate 5 apply Yields.after (prepares_text (by decide +kernel) (by decide +kernel))
  exact prepares_text (by decide +kernel) (by decide +kernel)

theorem valid_allowedOrigin {origin : String} (h : server.allowedOrigin request = some origin) :
    origin.toList.all isHeaderChar = true := by
  unfold allowedOrigin at h
  dsimp only at h
  split_ifs at h with hany horigin
  · cases h
    decide
  · cases h
    exact valid_headerOr rfl

theorem prepares_setOrigin : Prepares (setOrigin (server.allowedOrigin request)) := by
  cases horigin : server.allowedOrigin request with
  | none => exact prepares_pure
  | some origin =>
    exact prepares_setHeader (validHeader_of_name (by decide +kernel)
      (valid_allowedOrigin server request horigin))

theorem yields_cors :
    Yields (fun answered next => (answered = true ∧ request.method = "OPTIONS" ∧ next.Answered) ∨
        answered = false ∧ request.method ≠ "OPTIONS" ∧ next.status = none)
      (server.cors request) := by
  apply Yields.after prepares_secureHeaders
  apply Yields.after (prepares_setOrigin server request)
  iterate 4 apply Yields.after (prepares_text (by decide +kernel) (by decide +kernel))
  by_cases hoptions : request.method = "OPTIONS"
  · rw [if_pos hoptions]
    apply Yields.map
    exact answers_sendNoContent.mono fun _ next hnext => .inl ⟨rfl, hoptions, hnext⟩
  · rw [if_neg hoptions]
    intro response hunsent
    exact ⟨false, response, rfl, .inr ⟨rfl, hoptions, hunsent⟩⟩

theorem answers_fail (error : HttpError) : Answers (server.fail error) := by
  have hprepares : Prepares (setRetryAfter error.retryAfter) := by
    unfold setRetryAfter
    split
    · exact prepares_pure
    · exact prepares_pure
    · exact prepares_setHeader (validHeader_of_name (by decide +kernel) rfl)
  exact Yields.after hprepares (answers_jsonRouteError server.toPlatform error)

theorem careful_serveMetrics
    (hcounts : server.authorizeMetrics request = .ok () → ∃ counts, server.counts = .ok counts) :
    Careful (server.serveMetrics request) := by
  apply careful_compute_bind
  intro _ hauthorized
  obtain ⟨counts, hok⟩ := hcounts hauthorized
  rw [hok]
  exact (answers_writeHead (by decide) validHeader_metrics).careful

theorem exec_fail_sent {error : HttpError} (hsent : response.status.isSome) :
    exec (server.fail error) response = (.error headersSent, response) := by
  have hjson : exec (jsonRouteError server.toPlatform error) response =
      (.error headersSent, response) := exec_sendJson_sent server.toPlatform hsent
  unfold fail setRetryAfter
  split
  · exact hjson
  · exact hjson
  · rw [exec_bind, exec_setHeader_sent hsent]

/-- The requests that the Control answers. -/
def Answerable : Prop :=
  request.method = "OPTIONS" ∨ ∃ url, requestUrl server.host request = some url ∧
    ¬ (isMetrics request url ∧ server.authorizeMetrics request = .ok () ∧
      ∃ error, server.counts = .error error)

theorem careful_route {url : Url}
    (h : ¬ (isMetrics request url ∧ server.authorizeMetrics request = .ok () ∧
      ∃ error, server.counts = .error error)) : Careful (server.route request url) := by
  unfold route
  split_ifs with hhealth hmetrics
  · exact (answers_health server.toPlatform).careful
  · apply careful_serveMetrics
    intro hauthorized
    cases hcounts : server.counts with
    | ok counts => exact ⟨counts, rfl⟩
    | error error => exact absurd ⟨hmetrics, hauthorized, error, hcounts⟩ h
  · apply careful_compute_bind
    intro reply _
    exact careful_send server.toPlatform

theorem exec_route_counts {url : Url} {error : HttpError} (hmetrics : isMetrics request url)
    (hauthorized : server.authorizeMetrics request = .ok ()) (hcounts : server.counts = .error error)
    (hunsent : response.status = none) :
    ∃ next, exec (server.route request url) response = (.error error, next) ∧
      next.status.isSome := by
  have hhealth : ¬ isHealth request url := by
    rintro ⟨-, hpath | hpath⟩
    · rw [hmetrics.2] at hpath
      exact absurd hpath (by decide)
    · rw [hmetrics.2] at hpath
      exact absurd hpath (by decide)
  unfold route
  rw [if_neg hhealth, if_pos hmetrics]
  unfold serveMetrics
  rw [hauthorized, hcounts, exec_bind, exec_compute]
  dsimp only
  rw [exec_bind, exec_writeHead hunsent (by decide) validHeader_metrics]
  exact ⟨_, rfl, rfl⟩

theorem exec_handle {answered : Bool} {next : Response}
    (hcors : exec (server.cors request) .fresh = (.ok answered, next)) :
    exec (server.handle request) .fresh =
      exec (if answered then pure () else
        match requestUrl server.host request with
        | none => throw invalidUrl
        | some url => tryCatch (server.route request url) server.fail) next := by
  unfold handle
  rewrite [exec_bind, hcors]
  rfl

theorem responds_handle_iff : Responds (server.handle request) ↔ server.Answerable request := by
  obtain ⟨answered, next, hcors, hnext⟩ := yields_cors server request .fresh rfl
  unfold Responds
  rw [exec_handle server request hcors]
  rcases hnext with ⟨rfl, hoptions, hanswered⟩ | ⟨rfl, hmethod, hunsent⟩
  · exact iff_of_true ⟨next, rfl, hanswered⟩ (.inl hoptions)
  · rw [if_neg Bool.false_ne_true]
    cases hurl : requestUrl server.host request with
    | none =>
      apply iff_of_false
      · rintro ⟨last, hexec, -⟩
        cases hexec
      · rintro (hoptions | ⟨url, hsome, -⟩)
        · exact hmethod hoptions
        · rw [hurl] at hsome
          cases hsome
    | some url =>
      by_cases hfails : isMetrics request url ∧ server.authorizeMetrics request = .ok () ∧
          ∃ error, server.counts = .error error
      · obtain ⟨hmetrics, hauthorized, error, hcounts⟩ := hfails
        obtain ⟨begun, hroute, hsent⟩ :=
          exec_route_counts server request hmetrics hauthorized hcounts hunsent
        apply iff_of_false
        · rintro ⟨last, hexec, -⟩
          rw [exec_tryCatch, hroute] at hexec
          dsimp only at hexec
          rw [exec_fail_sent server hsent] at hexec
          cases hexec
        · rintro (hoptions | ⟨other, hsome, hworks⟩)
          · exact hmethod hoptions
          · rw [hurl] at hsome
            cases hsome
            exact hworks ⟨hmetrics, hauthorized, error, hcounts⟩
      · obtain ⟨_, last, hexec, hanswered⟩ :=
          answers_tryCatch (careful_route server request hfails) (answers_fail server) next
            hunsent
        exact iff_of_true ⟨last, hexec, hanswered⟩ (.inr ⟨url, hurl, hfails⟩)

end ControlServer

/-! ## The Edge -/

namespace EdgeServer

variable (server : EdgeServer) (request : Request)

/-- The requests that the Edge answers: the token that the metrics are asked with has the
length of the cluster's in characters only when it has it in bytes. -/
def Answerable : Prop :=
  request.url = "/__tunnara/metrics" → server.metricsPublic = false → server.clusterToken ≠ "" →
    jsLength server.clusterToken = jsLength (request.headerOr "x-tunnara-cluster-token" "") →
    (bufferFrom server.clusterToken).length =
      (bufferFrom (request.headerOr "x-tunnara-cluster-token" "")).length

theorem exec_fail {error : HttpError} {response : Response} :
    ∃ next, exec (server.fail error) response = (.ok (), next) ∧ next.Answered := by
  unfold fail
  rw [exec_bind, exec_get]
  dsimp only
  cases hstatus : response.status with
  | none =>
    obtain ⟨_, next, hexec, hanswered⟩ := answers_sendError server.toPlatform
      (isStatus_statusOr (d := 502) (by decide)) response hstatus
    exact ⟨next, hexec, hanswered⟩
  | some status =>
    refine ⟨_, rfl, ?_, .inr rfl⟩
    exact Option.isSome_iff_exists.2 ⟨status, hstatus⟩

theorem answered_proxy {next : Response} (h : exec (server.proxy request) .fresh = (.ok (), next)) :
    next.Answered := by
  unfold proxy at h
  split at h
  · obtain ⟨_, last, hexec, hanswered⟩ := @answers_sendError server.toPlatform 400 (by decide)
      "HOST_INVALID" "Host inválido." .fresh rfl
    rw [hexec] at h
    cases h
    exact hanswered
  · rename_i hostname _
    rw [exec_bind, exec_compute] at h
    cases hforward : server.forward request hostname with
    | error error =>
      rw [hforward] at h
      cases h
    | ok forwarded =>
      rw [hforward] at h
      cases forwarded with
      | json status payload =>
        rcases careful_sendJson server.toPlatform status.2 .fresh rfl with
          ⟨last, hexec, hanswered⟩ | ⟨error, last, hexec, -⟩
        · dsimp only at h
          rw [hexec] at h
          cases h
          exact hanswered
        · dsimp only at h
          rw [hexec] at h
          cases h
      | head status headers recorded =>
        dsimp only at h
        rw [exec_bind] at h
        rcases exec_writeHead_cases with ⟨error, hexec⟩ | hexec
        · rw [hexec] at h
          cases h
        · rw [hexec] at h
          dsimp only at h
          rw [exec_bind] at h
          cases recorded with
          | error error => cases h
          | ok _ =>
            cases h
            exact ⟨rfl, .inl rfl⟩

theorem responds_proxy : Responds (tryCatch (server.proxy request) server.fail) := by
  unfold Responds
  rw [exec_tryCatch]
  cases hexec : exec (server.proxy request) .fresh with
  | mk result next =>
    cases result with
    | ok _ => exact ⟨next, rfl, answered_proxy server request hexec⟩
    | error error => exact exec_fail server

theorem responds_serveMetrics_iff : Responds (server.serveMetrics request) ↔
    ∃ allowed, server.metricsAllowed request = .ok allowed := by
  unfold serveMetrics
  cases hallowed : server.metricsAllowed request with
  | error error =>
    apply iff_of_false
    · rintro ⟨next, hexec, -⟩
      cases hexec
    · rintro ⟨allowed, hok⟩
      cases hok
  | ok allowed =>
    refine iff_of_true ?_ ⟨allowed, rfl⟩
    apply Answers.responds
    apply answers_compute_bind
    split
    · exact answers_writeHead (by decide) validHeader_metrics
    · exact answers_sendError server.toPlatform (by decide)

theorem metricsAllowed_eq_ok_iff : (∃ allowed, server.metricsAllowed request = .ok allowed) ↔
    (server.metricsPublic = false → server.clusterToken ≠ "" →
      jsLength server.clusterToken = jsLength (request.headerOr "x-tunnara-cluster-token" "") →
      (bufferFrom server.clusterToken).length =
        (bufferFrom (request.headerOr "x-tunnara-cluster-token" "")).length) := by
  unfold metricsAllowed timingSafeEqual
  dsimp only
  split_ifs with hpublic htoken hlength
  · exact iff_of_true ⟨true, rfl⟩ fun hprivate => by rw [hpublic] at hprivate; cases hprivate
  · apply iff_of_false
    · rintro ⟨allowed, hok⟩
      cases hok
    · intro hsame
      exact hlength (hsame (Bool.eq_false_iff.2 hpublic) htoken.1 htoken.2)
  · exact iff_of_true ⟨_, rfl⟩ fun _ _ _ => not_not.1 hlength
  · exact iff_of_true ⟨false, rfl⟩ fun _ hset hsame => absurd ⟨hset, hsame⟩ htoken

theorem responds_handle_iff : Responds (server.handle request) ↔ server.Answerable request := by
  unfold handle
  split_ifs with hhealth hmetrics
  · refine iff_of_true (answers_health server.toPlatform).responds ?_
    intro hmetrics
    rw [hmetrics] at hhealth
    exact absurd hhealth (by decide)
  · rw [responds_serveMetrics_iff, metricsAllowed_eq_ok_iff]
    exact ⟨fun h _ => h, fun h => h hmetrics⟩
  · exact iff_of_true (responds_proxy server request) fun h => absurd h hmetrics

end EdgeServer

/-! ## The local API of an agent -/

namespace AgentLocalApi

variable (server : AgentLocalApi) (request : Request)

theorem careful_route (url : Url) : Careful (server.route request url) := by
  unfold route
  split_ifs
  · exact (answers_health server.toPlatform).careful
  · apply careful_compute_bind
    intro _ _
    apply careful_compute_bind
    intro reply _
    exact careful_send server.toPlatform

theorem responds_handle_iff :
    Responds (server.handle request) ↔ (requestUrl server.host request).isSome := by
  unfold handle
  cases requestUrl server.host request with
  | none =>
    apply iff_of_false
    · rintro ⟨next, hexec, -⟩
      cases hexec
    · exact Bool.false_ne_true
  | some url =>
    refine iff_of_true ?_ rfl
    exact (answers_tryCatch (careful_route server request url)
      (answers_jsonRouteError server.toPlatform)).responds

end AgentLocalApi

/-! ## The three servers -/

/-- The handlers of the three servers answer the request. -/
structure AllRespond (control : ControlServer) (edge : EdgeServer) (agent : AgentLocalApi)
    (request : Request) : Prop where
  control : Responds (control.handle request)
  edge : Responds (edge.handle request)
  agent : Responds (agent.handle request)

theorem allRespond_iff (control : ControlServer) (edge : EdgeServer) (agent : AgentLocalApi)
    (request : Request) : AllRespond control edge agent request ↔
      control.Answerable request ∧ edge.Answerable request ∧
        (requestUrl agent.host request).isSome := by
  rw [← control.responds_handle_iff, ← edge.responds_handle_iff, ← agent.responds_handle_iff]
  exact ⟨fun h => ⟨h.control, h.edge, h.agent⟩, fun h => ⟨h.1, h.2.1, h.2.2⟩⟩

def plainPlatform : Platform where
  host := .plain
  stringify payload := .ok (Relay.Codec.bytes payload)
  shallow _ := ⟨_, rfl⟩

def plainControl : ControlServer :=
  { plainPlatform with
    corsOrigin := ""
    metricsPublic := false
    clusterToken := "secret"
    authMetrics := fun _ => .error (plainError "Credencial ausente, inválida ou revogada.")
    counts := .ok [0, 0, 0]
    endpoint := fun _ _ => .ok .noContent }

def plainEdge : EdgeServer :=
  { plainPlatform with
    metricsPublic := false
    clusterToken := "secret"
    forward := fun _ _ => .error (plainError "connect ECONNREFUSED") }

def plainAgent : AgentLocalApi :=
  { plainPlatform with
    localApiToken := "secret"
    endpoint := fun _ _ => .ok .noContent }

/-- `GET //`. -/
def slashes : Request := ⟨"GET", "//", []⟩

theorem not_allRespond_slashes :
    ¬ ∀ request, AllRespond plainControl plainEdge plainAgent request := by
  intro h
  have hanswerable := (plainControl.responds_handle_iff slashes).1 (h slashes).control
  rcases hanswerable with hoptions | ⟨url, hurl, -⟩
  · exact absurd hoptions (by decide)
  · cases hurl

/-- `GET /__tunnara/metrics` with a token of six characters and seven bytes. -/
def accented : Request :=
  ⟨"GET", "/__tunnara/metrics", [("x-tunnara-cluster-token", ⟨"secrét", by decide +kernel⟩)]⟩

example : ¬ plainEdge.Answerable accented := by
  intro h
  exact absurd (h rfl rfl (by decide) (by decide +kernel)) (by decide +kernel)

end Tunnara.Http
