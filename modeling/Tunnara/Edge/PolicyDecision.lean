/-
# The policy decision of the Edge

`EdgeServer.#policyDecision` reads the policy out of a route of the Control plane
and hands it to the engine. The first argument of that call is a definition of
its own, `policyArgument`, so that the two planes can be compared by what they
make it return.
-/

import Tunnara.Control.Routing
import Tunnara.Laravel.RouteResolver
import Tunnara.Policy.Engine

namespace Tunnara.Edge

open Policy

/-- What the Edge reads of an incoming request. Node never hands out an empty target. -/
structure Request where
  (method url : String)
  url_ne : url ≠ ""
  headers : Headers
  remoteAddress : Option String
  now : ℚ

/-- `v?.name`. -/
def optional (v : Option Json) (name : String) : Option Json := v.bind fun v => v.get? name

/-- The properties `{ ...v }` copies. -/
def ownFields : Json → List (String × Json)
  | .obj fields => fields
  | .arr items => items.zipIdx.map fun item => (toString item.2, item.1)
  | .str s => s.toList.zipIdx.map fun c => (toString c.2, .str (String.singleton c.1))
  | _ => []

variable (host : Host)

/-- The document of a route's policy; `none` when there is nothing to evaluate. -/
def policyDocument (policyRow : Option Json) : Except JsError (Option Json) :=
  if truthy (optional policyRow "document") then .ok (optional policyRow "document")
  else if truthy (optional policyRow "document_json") then do
    let text ← stringOf host (optional policyRow "document_json")
    match host.parseJson text with
    | none => .error { message := "Unexpected token in JSON" }
    | some document => return if document.truthy then some document else none
  else .ok none

/-- `{ id: policyRow.id, enabled: policyRow.enabled !== false, ...document }`. -/
def mergePolicy (policyRow : Option Json) (document : Json) : Json :=
  .obj (Json.spread
    ((match optional policyRow "id" with
      | some id => [("id", id)]
      | none => []) ++ [("enabled", .bool (notFalse (optional policyRow "enabled")))])
    (ownFields document))

/-- The policy the engine is called with, if it is called. -/
def policyArgument (route : Json) : Except JsError (Option Json) := do
  let document ← policyDocument host (route.get? "policy")
  return document.map (mergePolicy (route.get? "policy"))

/-- The address a policy sees as the source of the request. -/
def sourceIp (trustProxy : Bool) (request : Request) : String :=
  let remote := request.remoteAddress.getD ""
  if trustProxy then
    let forwarded := trim ((splitChar ',' (request.headers.text "x-forwarded-for")).headD "")
    if forwarded = "" then remote else forwarded
  else remote

/-- The second argument of the call; `route.tunnel.id` is a string in both planes. -/
def requestContext (trustProxy : Bool) (route : Json) (request : Request) (hostname : String) :
    RequestContext where
  method := request.method
  host := hostname
  path := request.url
  headers := request.headers
  sourceIp := sourceIp trustProxy request
  tunnelId := match optional (route.get? "tunnel") "id" with
    | some (.str id) => id
    | _ => "undefined"
  now := request.now

/-- The decision for a route without policy. The Edge reads status, code and
message of a denial only. -/
def noPolicyDecision (request : Request) : PolicyResult := { allowed := true, path := request.url }

def policyDecision (trustProxy : Bool) (route : Json) (request : Request) (hostname : String) :
    PolicyM PolicyResult := do
  match ← lift (policyArgument host route) with
  | none => return noPolicyDecision request
  | some policy =>
    evaluatePolicy host policy (requestContext trustProxy route request hostname)

variable {route : Json} {tunnel : Control.TunnelRow}

theorem policyDecision_of_policyArgument {trustProxy : Bool} {policy : Json} {request : Request}
    {hostname : String} (h : policyArgument host route = .ok (some policy)) :
    policyDecision host trustProxy route request hostname =
      evaluatePolicy host policy (requestContext trustProxy route request hostname) := by
  funext buckets
  simp only [policyDecision, h]
  rfl

theorem policyArgument_of_document {route policyRow : Json}
    {fields : List (String × Json)} (hpolicy : route.get? "policy" = some policyRow)
    (hdocument : policyRow.get? "document" = some (.obj fields)) :
    policyArgument host route = .ok (some (mergePolicy (some policyRow) (.obj fields))) := by
  simp [policyArgument, policyDocument, optional, hpolicy, hdocument, truthy, Json.truthy,
    bind, Except.bind, pure, Except.pure]

theorem policyArgument_of_no_policy (h : route.get? "policy" = none) :
    policyArgument host route = .ok none := by
  simp [policyArgument, policyDocument, optional, h, truthy, bind, Except.bind, pure, Except.pure]

/-- The engine is called with a policy whose rules are the given ones. -/
def EvaluatesPolicy (route : Json) (rules : List Json) : Prop :=
  ∃ policy, policyArgument host route = .ok (some policy) ∧ list (policy.get? "rules") = rules ∧
    ∀ trustProxy request hostname,
      policyDecision host trustProxy route request hostname =
        evaluatePolicy host policy (requestContext trustProxy route request hostname)

/-- The Edge answers 503 before it looks at the policy when no target was selected. -/
def TargetSelected (route : Json) : Prop := truthy (route.get? "target") = true

/-- The two implementations of the Control plane. -/
inductive Plane
  | node
  | laravel

/-- The routes a plane produces for tunnels with a policy, with the rules of the policy. -/
inductive Produces : Plane → Json → List Json → Prop
  | nodeByHostname {db : Control.Database} {tunnel : Control.TunnelRow}
      {policy : Control.PolicyRow} {hostname id : String} {requested : Option String}
      {route : Control.Route}
      (hdb : Control.PolicyReachable host db)
      (htunnel : db.getTunnelByHostname hostname = some tunnel)
      (hid : tunnel.policyId = some id ∧ id ≠ "")
      (hpolicy : db.getPolicy tunnel.organizationId id = some policy)
      (hroute : (db.resolveTunnelByHostname hostname requested).1 = some route) :
      Produces .node route.toJson (list (policy.document.get? "rules"))
  | nodeById {db : Control.Database} {tunnel : Control.TunnelRow}
      {policy : Control.PolicyRow} {tunnelId id : String} {requested : Option String}
      {route : Control.Route}
      (hdb : Control.PolicyReachable host db)
      (htunnel : db.getTunnel tunnelId = some tunnel)
      (hid : tunnel.policyId = some id ∧ id ≠ "")
      (hpolicy : db.getPolicy tunnel.organizationId id = some policy)
      (hroute : (db.resolveTunnelById tunnelId requested).1 = some route) :
      Produces .node route.toJson (list (policy.document.get? "rules"))
  | laravel {db : Laravel.Database} {tunnel : Laravel.TunnelRow} {policy : Laravel.PolicyRow}
      {hostname id : String} {requested : Option String} {pick : ℤ} {route : Json}
      (htunnel : (db.tunnels.entries.map Prod.snd).find? (fun row =>
        row.publicHostname = some hostname && row.status = "active") = some tunnel)
      (hid : tunnel.policyId = some id)
      (hpolicy : db.policies.get? id = some policy)
      (hroute : Laravel.routeByHostname db hostname requested pick = .ok route) :
      Produces .laravel route (list (policy.definition.get? "rules"))

theorem policyArgument_of_found {target : Control.TargetRow} {presence : Option Control.PresenceRow}
    {row : Control.PolicyRow} {effect : String} {enabled : Bool} {rules : List Json}
    (hdocument : row.document = documentOf effect enabled rules) :
    policyArgument host (Control.Route.found tunnel target presence (some row)).toJson =
      .ok (some (mergePolicy (some row.toJson) row.document)) := by
  rw [hdocument]
  apply policyArgument_of_document
  · rfl
  · exact congrArg some hdocument

variable {requested : Option String}

theorem routeOf_cases {db : Control.Database} {policy : Control.PolicyRow} {id : String}
    (hid : tunnel.policyId = some id ∧ id ≠ "")
    (hpolicy : db.getPolicy tunnel.organizationId id = some policy) :
    (db.routeOf tunnel requested).1 = .noTarget tunnel ∨
      ∃ target presence,
        (db.routeOf tunnel requested).1 = .found tunnel target presence (some policy) := by
  unfold Control.Database.routeOf
  split
  · exact Or.inl rfl
  · simp only [hid.1, if_neg hid.2, hpolicy]
    exact Or.inr ⟨_, _, rfl⟩

theorem evaluatesPolicy_of_routeOf {db : Control.Database} {policy : Control.PolicyRow}
    {id : String} (hdb : Control.PolicyReachable host db)
    (hid : tunnel.policyId = some id ∧ id ≠ "")
    (hpolicy : db.getPolicy tunnel.organizationId id = some policy)
    (hselected : TargetSelected (db.routeOf tunnel requested).1.toJson) :
    EvaluatesPolicy host (db.routeOf tunnel requested).1.toJson
      (list (policy.document.get? "rules")) := by
  have hstored : Control.Normalized policy.document :=
    hdb.storesNormalized host id policy (Option.filter_eq_some_iff.1 hpolicy).1
  obtain ⟨effect, enabled, rules, hdocument, -⟩ := hstored
  rcases routeOf_cases hid hpolicy with hroute | ⟨target, presence, hroute⟩
  · rw [hroute] at hselected
    cases hselected
  · rw [hroute]
    have hargument :
        policyArgument host (Control.Route.found tunnel target presence (some policy)).toJson =
          .ok (some (mergePolicy (some policy.toJson) policy.document)) :=
      policyArgument_of_found host hdocument
    refine ⟨_, hargument, ?_, fun _ _ _ => policyDecision_of_policyArgument host hargument⟩
    rw [hdocument]
    rfl

theorem no_policy_of_routeByHostname {db : Laravel.Database} {hostname : String} {pick : ℤ}
    (hroute : Laravel.routeByHostname db hostname requested pick = .ok route) :
    route.get? "policy" = none := by
  unfold Laravel.routeByHostname at hroute
  split at hroute
  · cases hroute
  · dsimp only at hroute
    split at hroute
    · cases hroute
      unfold Laravel.resolve
      split <;> rfl
    · cases hroute

theorem not_evaluatesPolicy_of_no_policy (h : route.get? "policy" = none) (rules : List Json)
    : ¬ EvaluatesPolicy host route rules := by
  rintro ⟨policy, hpolicy, -⟩
  rw [policyArgument_of_no_policy host h] at hpolicy
  cases hpolicy

/-- A route of the Node plane makes the Edge evaluate the policy of the tunnel; a
route of the Laravel plane, which nests the policy in the tunnel under another
name, never does. -/
theorem evaluatesPolicy_iff {plane : Plane} {route : Json} {rules : List Json}
    (hroute : Produces host plane route rules) :
    (TargetSelected route → EvaluatesPolicy host route rules) ↔
      plane = .node ∨ ¬ TargetSelected route := by
  cases hroute with
  | @nodeByHostname db tunnel policy hostname id requested route hdb htunnel hid hpolicy hroute =>
    refine iff_of_true ?_ (Or.inl rfl)
    intro hselected
    rw [Control.Database.resolveTunnelByHostname, htunnel] at hroute
    cases hroute
    exact evaluatesPolicy_of_routeOf host hdb hid hpolicy hselected
  | @nodeById db tunnel policy tunnelId id requested route hdb htunnel hid hpolicy hroute =>
    refine iff_of_true ?_ (Or.inl rfl)
    intro hselected
    rw [Control.Database.resolveTunnelById, htunnel] at hroute
    cases hroute
    exact evaluatesPolicy_of_routeOf host hdb hid hpolicy hselected
  | laravel htunnel hid hpolicy hroute =>
    have hnever := not_evaluatesPolicy_of_no_policy host (no_policy_of_routeByHostname hroute)
    constructor
    · intro h
      exact Or.inr fun hselected => hnever _ (h hselected)
    · rintro (hplane | hselected) h
      · cases hplane
      · exact absurd h hselected

/-- The body of a `POST` of a policy that denies everything. -/
def denyAllBody : Json :=
  .obj [("name", .str "deny-all"),
    ("definition", .obj [("rules", .arr [.obj [("actions", .arr [.obj [("type", .str "deny")]])]])])]

def denyAllTunnel : Laravel.TunnelRow :=
  ⟨"t1", "org", "a1", some "p1", "app", "http", "127.0.0.1", 3000, some "app.example.test", none,
    "active", none, false, 65536⟩

def denyAllTarget : Laravel.TargetRow :=
  ⟨"g1", "org", "t1", "a1", "default", "127.0.0.1", 3000, 1, 100, true, "healthy", none⟩

/-- A database with the tunnel and its target, and the policies given. -/
def denyAllDatabase (policies : OrdMap String Laravel.PolicyRow) : Laravel.Database where
  agents := OrdMap.empty
  presence := OrdMap.empty
  policies := policies
  tunnels := OrdMap.empty.set "t1" denyAllTunnel
  targets := OrdMap.empty.set "g1" denyAllTarget

/-- The row that `storePolicy` makes of the body. -/
def denyAllPolicy : Laravel.PolicyRow :=
  ⟨"p1", "org", "deny-all", none, true,
    .obj [("rules", .arr [.obj [("actions", .arr [.obj [("type", .str "deny")]])]])], 1⟩

def denyAllRoute : Json :=
  Laravel.resolve (denyAllDatabase (OrdMap.empty.set "p1" denyAllPolicy)) denyAllTunnel none 1

theorem produces_denyAllRoute :
    Produces Host.plain .laravel denyAllRoute (list (denyAllPolicy.definition.get? "rules")) := by
  refine @Produces.laravel _ (denyAllDatabase (OrdMap.empty.set "p1" denyAllPolicy))
    denyAllTunnel denyAllPolicy "app.example.test" "p1" none 1 denyAllRoute ?_ rfl ?_ rfl
  · decide
  · decide

theorem evaluatesPolicy_iff_denyAllRoute :
    (TargetSelected denyAllRoute →
        EvaluatesPolicy Host.plain denyAllRoute (list (denyAllPolicy.definition.get? "rules"))) ↔
      Plane.laravel = .node ∨ ¬ TargetSelected denyAllRoute :=
  evaluatesPolicy_iff Host.plain produces_denyAllRoute

theorem denyAllRoute_lets_through :
    (Laravel.storePolicy (denyAllDatabase OrdMap.empty) "org" "p1" denyAllBody =
        some (denyAllDatabase (OrdMap.empty.set "p1" denyAllPolicy))) ∧
      Produces Host.plain .laravel denyAllRoute (list (denyAllPolicy.definition.get? "rules")) ∧
      TargetSelected denyAllRoute ∧
      ¬ EvaluatesPolicy Host.plain denyAllRoute (list (denyAllPolicy.definition.get? "rules")) ∧
      ∀ request hostname buckets,
        (policyDecision Host.plain false denyAllRoute request hostname).run buckets =
          (.ok (noPolicyDecision request), buckets) := by
  refine ⟨rfl, produces_denyAllRoute, rfl, ?_, fun _ _ _ => rfl⟩
  exact not_evaluatesPolicy_of_no_policy Host.plain rfl _

end Tunnara.Edge
