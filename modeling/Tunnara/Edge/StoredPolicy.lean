/-
# Decisions under a stored policy

What the Edge decides for a tunnel of the Node plane whose policy was stored through the API. A
stored document is normalised, so it has an `enabled` key and a `defaultEffect` key of its own:
the first overrides the flag of the row, and the second is set from the submitted `defaultEffect`
alone.
-/

import Tunnara.Edge.PolicyDecision

namespace Tunnara.Edge

open Policy

variable (host : Host)

def withId (row : Control.PolicyRow) : Json := .obj (("id", .str row.id) :: ownFields row.document)

/-- The request is let through as it came. -/
structure Transparent (request : Request) (result : PolicyResult) : Prop where
  allowed : result.allowed = true
  path : result.path = request.url
  requestHeaders : result.requestHeaders = []
  responseHeaders : result.responseHeaders = []
  removeRequestHeaders : result.removeRequestHeaders = []
  removeResponseHeaders : result.removeResponseHeaders = []
  identity : result.identity = none

/-- An evaluation that lets the request through as it came. -/
def Untouched (request : Request) (decision : Except JsError PolicyResult × RateBuckets) : Prop :=
  ∃ result, decision.1 = .ok result ∧ Transparent request result

def documentEnabled (row : Control.PolicyRow) : Prop :=
  row.document.get? "enabled" ≠ some (.bool false)

section

variable (trustProxy : Bool) (tunnel : Control.TunnelRow) (target : Control.TargetRow)
  (presence : Option Control.PresenceRow) (row : Control.PolicyRow) (request : Request)
  (hostname : String) (buckets : RateBuckets)

def routeWith : Json := (Control.Route.found tunnel target presence (some row)).toJson

/-- With both flags set the decision is that of the stored document; otherwise it
is that of a tunnel without policy. -/
def HonoursFlags : Prop :=
  let route := routeWith tunnel target presence row
  let decision := (policyDecision host trustProxy route request hostname).run buckets
  let stored := (evaluatePolicy host (withId row)
    (requestContext trustProxy route request hostname)).run buckets
  (row.enabled = true ∧ documentEnabled row → decision = stored) ∧
    (¬ (row.enabled = true ∧ documentEnabled row) → Untouched request decision)

variable {row}

theorem policyDecision_routeWith (hrow : Control.Normalized row.document) :
    policyDecision host trustProxy (routeWith tunnel target presence row) request hostname =
      evaluatePolicy host (withId row)
        (requestContext trustProxy (routeWith tunnel target presence row) request hostname) := by
  obtain ⟨effect, enabled, rules, hdocument, -⟩ := hrow
  rw [routeWith, policyDecision_of_policyArgument host (policyArgument_of_found host hdocument)]
  apply congrFun
  apply evaluatePolicy_congr <;> rw [withId, hdocument] <;> rfl

theorem withId_get? {fields : List (String × Json)} (hdocument : row.document = .obj fields)
    {name : String} (hname : name ≠ "id") : (withId row).get? name = row.document.get? name := by
  rw [withId, hdocument]
  simp [Json.get?, Json.lookup, ownFields, hname.symm]

theorem untouched_of_documentDisabled (hrow : ¬ documentEnabled row) (route : Json) :
    Untouched request ((evaluatePolicy host (withId row)
        (requestContext trustProxy route request hostname)).run buckets) ↔
      row.document.get? "defaultEffect" ≠ some (.str "deny") ∧
        ∃ context, contextOf host (requestContext trustProxy route request hostname) =
          .ok context := by
  have hdisabled : row.document.get? "enabled" = some (.bool false) := not_not.1 hrow
  obtain ⟨fields, hfields⟩ : ∃ fields, row.document = .obj fields := by
    cases hdoc : row.document with
    | obj fields => exact ⟨fields, rfl⟩
    | _ => rw [hdoc] at hdisabled; cases hdisabled
  have henabled : (withId row).get? "enabled" = some (.bool false) :=
    (withId_get? hfields (by decide)).trans hdisabled
  cases hcontext : contextOf host (requestContext trustProxy route request hostname) with
  | error error =>
    rw [evaluatePolicy_of_contextOf_error hcontext]
    simp [Untouched]
  | ok context =>
    have hpath : context.path = request.url := contextOf_path hcontext request.url_ne
    rw [evaluatePolicy_of_disabled hcontext henabled, initialResult,
      withId_get? hfields (by decide), hpath]
    constructor
    · rintro ⟨result, hresult, htransparent⟩
      cases hresult
      exact ⟨of_decide_eq_true htransparent.allowed, context, rfl⟩
    · rintro ⟨heffect, -⟩
      exact ⟨_, rfl, decide_eq_true heffect, rfl, rfl, rfl, rfl, rfl, rfl⟩

end

/-- A database of the Node plane without rows. -/
def emptyDatabase : Control.Database where
  agents := OrdMap.empty
  tunnels := OrdMap.empty
  targets := OrdMap.empty
  policies := OrdMap.empty
  presence := OrdMap.empty
  targetSelectionCounters := OrdMap.empty
  targets_keyed := Control.empty_keyed

/-- A policy that is created switched off, with `deny` as its default effect. -/
def switchedOffBody : Json :=
  .obj [("name", .str "off"), ("enabled", .bool false),
    ("document", .obj [("defaultEffect", .str "deny")])]

def switchedOffRow : Control.PolicyRow :=
  ⟨"p1", "org", "off", "", documentOf "deny" true [], false⟩

def switchedOffDatabase : Control.Database :=
  Control.policyStep Host.plain emptyDatabase (.post "org" "p1" switchedOffBody)

theorem reachable_switchedOffDatabase : Control.PolicyReachable Host.plain switchedOffDatabase :=
  Transition.Reachable.next _ (Transition.Reachable.start rfl) trivial

def plainTunnel : Control.TunnelRow :=
  ⟨"t1", "org", "a1", some "p1", "app", "http", "app.example.test", "active", false⟩

def plainTarget : Control.TargetRow :=
  ⟨"g1", "org", "t1", "a1", "default", "127.0.0.1", 3000, 1, by decide, 100, true, "healthy"⟩

def plainRequest : Request := ⟨"get", "/", by decide, [], none, 0⟩

/-- The policy the engine evaluates for a row. -/
def policyOf (row : Control.PolicyRow) : Json := mergePolicy (some row.toJson) row.document

section

variable (policy : Json) (request : RequestContext)

/-- No enabled rule of the policy matches the request. -/
def MatchesNoRule : Prop :=
  ∀ context, contextOf host request = .ok context →
    ∀ rule ∈ list (policy.get? "rules"), ruleApplies host context rule ≠ .ok true

/-- The URL of the request parses and no criterion of a rule throws. -/
def Evaluable : Prop :=
  ∃ context, contextOf host request = .ok context ∧
    (policy.get? "enabled" ≠ some (.bool false) →
      ∀ rule ∈ list (policy.get? "rules"), ∀ error, ruleApplies host context rule ≠ .error error)

/-- The request is not let through: the decision denies it, or there is none and
the Edge answers with an error. -/
def Refused (buckets : RateBuckets) : Prop :=
  ∀ result, ((evaluatePolicy host policy request).run buckets).1 = .ok result →
    result.allowed = false

end

theorem refused_iff_of_matchesNoRule {policy : Json} {request : RequestContext}
    (hmatch : MatchesNoRule host policy request) (buckets : RateBuckets) :
    Refused host policy request buckets ↔
      policy.get? "defaultEffect" = some (.str "deny") ∨ ¬ Evaluable host policy request := by
  cases hcontext : contextOf host request with
  | error error =>
    refine iff_of_true ?_ (Or.inr ?_)
    · intro result hresult
      rw [evaluatePolicy_of_contextOf_error hcontext] at hresult
      cases hresult
    · rintro ⟨context, h, -⟩
      rw [hcontext] at h
      cases h
  | ok context =>
    -- the initial decision stands, in a disabled policy and after a loop without a match
    have hinitial : ∀ {decision : Except JsError PolicyResult × RateBuckets},
        decision = (.ok (initialResult policy context.path), buckets) →
        ((∀ result, decision.1 = .ok result → result.allowed = false) ↔
          policy.get? "defaultEffect" = some (.str "deny")) := by
      rintro _ rfl
      simp [initialResult]
    unfold Refused
    by_cases hdisabled : policy.get? "enabled" = some (.bool false)
    · have hevaluable : Evaluable host policy request :=
        ⟨context, hcontext, absurd hdisabled⟩
      rw [hinitial (evaluatePolicy_of_disabled hcontext hdisabled buckets)]
      simp [hevaluable]
    · rw [evaluatePolicy_of_enabled hcontext hdisabled]
      rcases evaluateRules_of_no_match (hmatch context hcontext) with
        ⟨hrun, hfalse⟩ | ⟨error, hrun, rule, hrule, hthrows⟩
      · have hevaluable : Evaluable host policy request := by
          refine ⟨context, hcontext, fun _ rule hrule error h => ?_⟩
          rw [hfalse rule hrule] at h
          cases h
        rw [hinitial hrun]
        simp [hevaluable]
      · refine iff_of_true ?_ (Or.inr ?_)
        · intro result hresult
          rw [hrun] at hresult
          cases hresult
        · rintro ⟨other, hother, hnothrow⟩
          rw [hcontext] at hother
          cases hother
          exact hnothrow hdisabled rule hrule error hthrows

/-- A document that asks for `deny` under the documented key `defaultAction` has it
honoured exactly when it also asks for it under `defaultEffect`, or when the
request cannot be evaluated and is refused for that. -/
theorem refused_iff_defaultEffect {fields : List (String × Json)} {row : Control.PolicyRow}
    {request : RequestContext}
    (_haction : Json.lookup fields "defaultAction" = some (.str "deny"))
    (hrow : normalizePolicyInput host (some (.obj fields)) = .ok row.document)
    (hmatch : MatchesNoRule host (policyOf row) request) (buckets : RateBuckets) :
    Refused host (policyOf row) request buckets ↔
      Json.lookup fields "defaultEffect" = some (.str "deny") ∨
        ¬ Evaluable host (policyOf row) request := by
  rw [refused_iff_of_matchesNoRule host hmatch]
  obtain ⟨rules, hdocument, -⟩ := isNormalized_of_normalizePolicyInput hrow
  have heffect : (policyOf row).get? "defaultEffect" = some (.str (effectOf fields)) := by
    rw [policyOf, hdocument]
    rfl
  rw [heffect, effectOf]
  split
  · rename_i h
    simp [h]
  · rename_i h
    simp [h]

def documentedFields : List (String × Json) :=
  [("version", .str "1"), ("defaultAction", .str "deny"), ("rules", .arr [])]

def documentedRow : Control.PolicyRow := ⟨"p1", "org", "closed", "", documentOf "allow" true [], true⟩

def documentedRequest : RequestContext := ⟨"get", "app.example.test", "/", [], "", "t1", 0⟩

theorem matchesNoRule_documented :
    MatchesNoRule Host.plain (policyOf documentedRow) documentedRequest := by
  intro context _ rule hrule
  cases hrule

theorem not_refused_documented :
    Json.lookup documentedFields "defaultAction" = some (.str "deny") ∧
      normalizePolicyInput Host.plain (some (.obj documentedFields)) = .ok documentedRow.document ∧
      MatchesNoRule Host.plain (policyOf documentedRow) documentedRequest ∧
      ¬ Refused Host.plain (policyOf documentedRow) documentedRequest OrdMap.empty := by
  refine ⟨by decide, rfl, matchesNoRule_documented, fun hrefused => ?_⟩
  cases hrefused _ rfl

theorem refused_iff_defaultEffect_documented :
    Refused Host.plain (policyOf documentedRow) documentedRequest OrdMap.empty ↔
      Json.lookup documentedFields "defaultEffect" = some (.str "deny") ∨
        ¬ Evaluable Host.plain (policyOf documentedRow) documentedRequest :=
  refused_iff_defaultEffect Host.plain (by decide) rfl matchesNoRule_documented OrdMap.empty

end Tunnara.Edge
