/-
# A document as it was submitted

Normalisation drops a criterion of an unexpected type, and what is beyond a limit. Here a
submitted document is evaluated with every criterion as a restriction: one of an unexpected type
restricts to nothing, and no rule, action or character is left out. The secrets of the actions
are read as the hashes that stand for them.
-/

import Tunnara.Policy.StoredRules
import Tunnara.Policy.Refusals

namespace Tunnara.Policy

open Attempt

variable (host : Host)

/-! ## Criteria as restrictions -/

def strictMethods (context : Context) : Option Json → Except JsError Bool
  | none => .ok true
  | some (.arr items) => matchMethods host items context
  | some _ => .ok false

/-- An empty text restricts nothing. -/
def strictText (test : String → Bool) : Option Json → Except JsError Bool
  | none => .ok true
  | some (.str s) => .ok (s = "" || test s)
  | some _ => .ok false

def strictCidrs (context : Context) : Option Json → Except JsError Bool
  | none => .ok true
  | some (.arr items) =>
    if items.isEmpty then .ok true
    else someM (fun cidr => cidrContains host cidr context.sourceIp) items
  | some _ => .ok false

def strictHeader (context : Context) (entry : String × Json) : Except JsError Bool :=
  let actual := context.headers.text (host.toLowerCase entry.1)
  match entry.2 with
  | .str s => matchHeader host actual (.str s)
  | .obj fields => matchHeader host actual (.obj fields)
  | _ => .ok false

def strictHeaders (context : Context) : Option Json → List (Except JsError Bool)
  | none => []
  | some (.obj fields) => fields.map (strictHeader host context)
  | some _ => [.ok false]

/-- `pathRegex` on the path. -/
def regexTest (path : String) (s : String) : Bool :=
  ((safeRegex host (some (.str s))).map (·.test path)).getD false

def strictCriteria (criteria : List (String × Json)) (context : Context) : Except JsError Bool :=
  allChecks ([
    strictMethods host context (Json.lookup criteria "methods"),
    strictText (fun s => startsWith context.path s) (Json.lookup criteria "pathPrefix"),
    strictText (regexTest host context.path) (Json.lookup criteria "pathRegex"),
    strictText (fun s => host.toLowerCase s = context.host) (Json.lookup criteria "host"),
    strictCidrs host context (Json.lookup criteria "sourceCidrs")]
    ++ strictHeaders host context (Json.lookup criteria "headers"))

/-- A rule or criteria that are not an object match nothing. -/
def strictApplies (context : Context) : Json → Except JsError Bool
  | .obj fields =>
    if notFalse (Json.lookup fields "enabled") then
      match Json.lookup fields "match" with
      | none => .ok true
      | some (.obj criteria) => strictCriteria host criteria context
      | some _ => .ok false
    else .ok false
  | _ => .ok false

/-! ## The evaluation -/

/-- A submitted action with its secrets replaced. -/
def secured (action : Json) : Json :=
  match action with
  | .null => .null
  | action =>
    match normalizeAction host (object (some action)) with
    | .ok fields => .obj fields
    | .error _ => action

def submittedActions (raw : Json) : List Json :=
  (list (Json.lookup (object (some raw)) "actions")).map (secured host)

/-- The name that the stored rule is listed under. -/
def listedName (index : ℕ) (raw : Json) : Json :=
  match ruleText host raw "id" s!"rule-{index + 1}",
    ruleText host raw "name" s!"Regra {index + 1}" with
  | .ok id, .ok name => orDefault (some (.str (sliceTo 240 name)))
      (orDefault (some (.str (sliceTo 160 id))) (.str "unnamed"))
  | _, _ => .str "unnamed"

def PolicyResult.listing (result : PolicyResult) (name : Json) : PolicyResult :=
  { result with matchedRules := result.matchedRules ++ [name] }

/-- `rule.stop !== false`. -/
def stops (raw : Json) : Bool := notFalse (Json.lookup (object (some raw)) "stop")

def evaluateStrict (context : Context) (policyId : Json) :
    ℕ → List Json → PolicyResult → PolicyM PolicyResult
  | _, [], result => return result
  | index, raw :: rest, result => do
    if ← lift (strictApplies host context raw) then
      let result ← executeActions host context policyId (submittedActions host raw)
        (result.listing (listedName host index raw))
      if stops raw then return result
      else evaluateStrict context policyId (index + 1) rest result
    else evaluateStrict context policyId (index + 1) rest result

def submittedRules (document : Json) : List Json :=
  list (Json.lookup (object (some document)) "rules")

def evaluateSubmitted (policyId : String) (document : Json) (request : RequestContext) :
    PolicyM PolicyResult := do
  let context ← lift (contextOf host request)
  let source := object (some document)
  let initial : PolicyResult :=
    { allowed := effectOf source ≠ "deny", path := context.path }
  if Json.lookup source "enabled" = some (.bool false) then return initial
  else
    evaluateStrict host context (orDefault (some (.str policyId)) (.str "policy")) 0
      (submittedRules document) initial

/-- The policy that the Edge evaluates for a stored document. -/
def storedPolicy (policyId : String) (stored : Json) : Json :=
  .obj (("id", .str policyId) :: object (some stored))

/-! ## What is kept -/

section Kept

variable (context : Context) (policyId : Json)

/-- Whether the stored rule matches. -/
def storedApplies (raw : Json) : Except JsError Bool :=
  if notFalse (Json.lookup (object (some raw)) "enabled") then do
    let criteria ← normalizeMatch host (criteriaOf raw)
    matchRule host criteria context
  else .ok false

/-- No action that is reached is `null` or beyond the limit. -/
def KeptActions : ℕ → List Json → PolicyResult → RateBuckets → Prop
  | _, [], _, _ => True
  | 0, _ :: _, _, _ => False
  | limit + 1, action :: rest, result, buckets =>
    action ≠ .null ∧
      match exec (executeAction host (secured host action) context result policyId) buckets with
      | (.ok outcome, left) =>
        outcome.terminal = false → KeptActions limit rest outcome.result left
      | (.error _, _) => True

/-- Every rule that is reached matches as it was submitted, and none that is beyond the limit
matches. -/
def KeptRules : ℕ → ℕ → List Json → PolicyResult → RateBuckets → Prop
  | _, _, [], _, _ => True
  | 0, _, raws, _, _ => ∀ raw ∈ raws, strictApplies host context raw = .ok false
  | limit + 1, index, raw :: rest, result, buckets =>
    match storedApplies host context raw with
    | .error _ => True
    | .ok false => strictApplies host context raw = .ok false ∧
        KeptRules limit (index + 1) rest result buckets
    | .ok true =>
      let listed := result.listing (listedName host index raw)
      strictApplies host context raw = .ok true ∧
        KeptActions host context policyId 100
          (list (Json.lookup (object (some raw)) "actions")) listed buckets ∧
        match exec (executeActions host context policyId (submittedActions host raw) listed)
            buckets with
        | (.ok next, left) => stops raw = false → KeptRules limit (index + 1) rest next left
        | (.error _, _) => True

end Kept

/-- Nothing that the evaluation of a request reaches was changed or left out. -/
def Kept (policyId : String) (document : Json) (request : RequestContext)
    (buckets : RateBuckets) : Prop :=
  ∀ context, contextOf host request = .ok context →
    Json.lookup (object (some document)) "enabled" ≠ some (.bool false) →
    KeptRules host context (orDefault (some (.str policyId)) (.str "policy")) 200 0
      (submittedRules document)
      { allowed := effectOf (object (some document)) ≠ "deny", path := context.path } buckets

/-- The request goes through. -/
def LetsThrough (evaluation : PolicyM PolicyResult) (buckets : RateBuckets) : Prop :=
  ∃ result left, exec evaluation buckets = (.ok result, left) ∧ result.allowed = true

variable {host} {context : Context} {policyId : Json}

/-! ## Actions and rules -/

theorem normalizeActions_cons {action : Json} {rest stored : List Json} :
    normalizeActions host (action :: rest) = .ok stored ↔ ∃ fields later,
      normalizeAction host (object (some action)) = .ok fields ∧
      normalizeActions host rest = .ok later ∧ stored = .obj fields :: later := by
  rw [normalizeActions]
  constructor
  · intro h
    obtain ⟨fields, hfields, h⟩ := bind_eq_ok.1 h
    obtain ⟨later, hlater, h⟩ := bind_eq_ok.1 h
    exact ⟨fields, later, hfields, hlater, (Except.ok.inj h).symm⟩
  · rintro ⟨fields, later, hfields, hlater, rfl⟩
    exact bind_eq_ok.2 ⟨fields, hfields, bind_eq_ok.2 ⟨later, hlater, rfl⟩⟩

theorem secured_eq {action : Json} {fields : List (String × Json)} (hnull : action ≠ .null)
    (h : normalizeAction host (object (some action)) = .ok fields) :
    secured host action = .obj fields := by
  cases action with
  | null => exact absurd rfl hnull
  | _ => rw [secured, h]; rintro ⟨⟩

variable {limit index : ℕ} {result : PolicyResult} {raws items out : List Json}
  {f : String → String}

theorem exec_submittedActions {actions stored : List Json} {buckets : RateBuckets}
    (hkept : KeptActions host context policyId limit actions result buckets)
    (hstored : normalizeActions host ((actions.take limit).map fun action =>
      .obj (object (some action))) = .ok stored) :
    exec (executeActions host context policyId (actions.map (secured host)) result) buckets =
      exec (executeActions host context policyId stored result) buckets := by
  induction actions generalizing limit stored result buckets with
  | nil =>
    rw [List.take_nil] at hstored
    cases hstored
    rfl
  | cons action rest ih =>
    cases limit with
    | zero => exact absurd hkept id
    | succ limit =>
      obtain ⟨hnull, hnext⟩ := hkept
      rw [List.take_succ_cons, List.map_cons] at hstored
      obtain ⟨fields, later, hfields, hlater, rfl⟩ := normalizeActions_cons.1 hstored
      have hsecured : secured host action = .obj fields := secured_eq hnull hfields
      rw [List.map_cons, hsecured]
      rw [hsecured] at hnext
      unfold executeActions
      rw [exec_bind, exec_bind]
      cases hexec : exec (executeAction host (.obj fields) context result policyId) buckets with
      | mk ended left =>
        rw [hexec] at hnext
        cases ended with
        | error error => rfl
        | ok outcome =>
          dsimp only
          cases hterminal : outcome.terminal with
          | true => rfl
          | false => exact ih (hnext hterminal) hlater

theorem ruleApplies_ruleOf (id name : String) (enabled stop : Bool)
    (fields : List (String × Json)) (actions : List Json) :
    ruleApplies host context (ruleOf id name enabled stop (.obj fields) actions) =
      if enabled then matchRule host (.obj fields) context else .ok false := by
  cases enabled <;> rfl

theorem normalizeMatch_obj {raw : List (String × Json)} {criteria : Json}
    (h : normalizeMatch host raw = .ok criteria) : ∃ fields, criteria = .obj fields := by
  obtain ⟨methods, -, h⟩ := bind_eq_ok.1 h
  obtain ⟨cidrs, -, h⟩ := bind_eq_ok.1 h
  exact ⟨_, (Except.ok.inj h).symm⟩

variable {buckets : RateBuckets}

theorem exec_evaluateStrict_of_none (h : ∀ raw ∈ raws, strictApplies host context raw = .ok false) :
    exec (evaluateStrict host context policyId index raws result) buckets =
      (.ok result, buckets) := by
  induction raws generalizing index with
  | nil => rfl
  | cons raw rest ih =>
    unfold evaluateStrict
    rw [exec_lift_bind, h raw List.mem_cons_self]
    exact ih fun other hmem => h other (List.mem_cons_of_mem _ hmem)

theorem exec_evaluateStrict {rules : List Json} {last : PolicyResult} {left : RateBuckets}
    (hkept : KeptRules host context policyId limit index raws result buckets)
    (hstored : StoredRules host index (raws.take limit) rules)
    (h : exec (evaluateRules host context policyId rules result) buckets = (.ok last, left)) :
    exec (evaluateStrict host context policyId index raws result) buckets = (.ok last, left) := by
  induction raws generalizing limit index rules result buckets with
  | nil =>
    rw [List.take_nil] at hstored
    cases hstored
    exact h
  | cons raw rest ih =>
    cases limit with
    | zero =>
      cases hstored
      rw [exec_evaluateStrict_of_none hkept]
      exact h
    | succ limit =>
      rw [List.take_succ_cons] at hstored
      obtain _ | ⟨hrule, hrest⟩ := hstored
      obtain ⟨id, name, criteria, actions, hid, hname, hcriteria, hactions, rfl⟩ := hrule.parts
      obtain ⟨fields, rfl⟩ := normalizeMatch_obj hcriteria
      have happlies : storedApplies host context raw = ruleApplies host context
          (ruleOf (sliceTo 160 id) (sliceTo 240 name)
            (notFalse (Json.lookup (object (some raw)) "enabled"))
            (notFalse (Json.lookup (object (some raw)) "stop")) (.obj fields) actions) := by
        rw [ruleApplies_ruleOf, storedApplies, hcriteria]
        rfl
      obtain ⟨applies, hmatches, h⟩ := exec_lift_bind_ok h
      unfold KeptRules at hkept
      rw [happlies, hmatches] at hkept
      unfold evaluateStrict
      cases applies with
      | false =>
        obtain ⟨hstrict, hlater⟩ := hkept
        rw [exec_lift_bind, hstrict]
        exact ih hlater hrest h
      | true =>
        obtain ⟨hstrict, hactionsKept, hlater⟩ := hkept
        rw [exec_lift_bind, hstrict]
        dsimp only at h ⊢
        rw [if_pos rfl] at h ⊢
        obtain ⟨next, middle, hexec, h⟩ := exec_bind_ok h
        have hlisted : listedName host index raw =
            orDefault (some (.str (sliceTo 240 name)))
              (orDefault (some (.str (sliceTo 160 id))) (.str "unnamed")) := by
          unfold listedName
          rw [hid, hname]
        have hsame := exec_submittedActions hactionsKept hactions
        have hexec' : exec (executeActions host context policyId actions
            (result.listing (listedName host index raw))) buckets = (.ok next, middle) := by
          rw [hlisted]
          exact hexec
        have hsubmitted : exec (executeActions host context policyId
            (submittedActions host raw) (result.listing (listedName host index raw)))
            buckets = (.ok next, middle) := hsame.trans hexec'
        rw [hsubmitted] at hlater
        rw [exec_bind, hsubmitted]
        have hstop : notFalse ((ruleOf (sliceTo 160 id) (sliceTo 240 name)
            (notFalse (Json.lookup (object (some raw)) "enabled"))
            (notFalse (Json.lookup (object (some raw)) "stop")) (.obj fields) actions).get?
            "stop") = stops raw := notFalse_bool _
        rw [hstop] at h
        cases hstops : stops raw with
        | true =>
          rw [hstops] at h
          exact h
        | false =>
          rw [hstops] at h
          exact ih (hlater hstops) hrest h

/-! ## Documents -/

variable {document stored : Json} {policyId : String} {request : RequestContext}
  {buckets : RateBuckets}

theorem exec_storedPolicy {rules : List Json} {left : RateBuckets}
    (h : exec (evaluatePolicy host (storedPolicy policyId (documentOf
        (effectOf (object (some document)))
        (notFalse (Json.lookup (object (some document)) "enabled")) rules)) request) buckets =
      (.ok result, left)) : ∃ context, contextOf host request = .ok context ∧
      (Json.lookup (object (some document)) "enabled" = some (.bool false) →
        result = { allowed := effectOf (object (some document)) ≠ "deny", path := context.path } ∧
          left = buckets) ∧
      (Json.lookup (object (some document)) "enabled" ≠ some (.bool false) →
        exec (evaluateRules host context (orDefault (some (.str policyId)) (.str "policy")) rules
          { allowed := effectOf (object (some document)) ≠ "deny", path := context.path })
          buckets = (.ok result, left)) := by
  obtain ⟨context, hcontext, h⟩ := exec_lift_bind_ok h
  refine ⟨context, hcontext, ?_⟩
  have hinitial : initialResult (storedPolicy policyId (documentOf
      (effectOf (object (some document)))
      (notFalse (Json.lookup (object (some document)) "enabled")) rules)) context.path =
      { allowed := effectOf (object (some document)) ≠ "deny", path := context.path } := by
    rcases effectOf_cases (object (some document)) with heffect | heffect <;> rw [heffect] <;> rfl
  have henabled : ((storedPolicy policyId (documentOf (effectOf (object (some document)))
      (notFalse (Json.lookup (object (some document)) "enabled")) rules)).get? "enabled" =
        some (.bool false)) ↔
      Json.lookup (object (some document)) "enabled" = some (.bool false) := by
    have hread : (storedPolicy policyId (documentOf (effectOf (object (some document)))
        (notFalse (Json.lookup (object (some document)) "enabled")) rules)).get? "enabled" =
        some (.bool (notFalse (Json.lookup (object (some document)) "enabled"))) := rfl
    rw [hread]
    simp [notFalse]
  rw [hinitial] at h
  constructor
  · intro hdisabled
    rw [if_pos (henabled.2 hdisabled)] at h
    cases h
    exact ⟨rfl, rfl⟩
  · intro hset
    rw [if_neg fun heq => hset (henabled.1 heq)] at h
    exact h

/-! ## Documents of the expected form -/

/-- The criteria have the expected types and are within the limits. -/
structure WellFormedCriteria (host : Host) (criteria : List (String × Json)) : Prop where
  methods : ∀ v, Json.lookup criteria "methods" = some v → ∃ items, v = .arr items ∧
    items.length ≤ 32
  pathPrefix : ∀ v, Json.lookup criteria "pathPrefix" = some v → ∃ s, v = .str s ∧ jsLength s ≤ 4096
  pathRegex : ∀ v, Json.lookup criteria "pathRegex" = some v → ∃ s, v = .str s ∧ jsLength s ≤ 512
  host : ∀ v, Json.lookup criteria "host" = some v → ∃ s, v = .str s ∧
    jsLength (host.toLowerCase s) ≤ 255
  sourceCidrs : ∀ v, Json.lookup criteria "sourceCidrs" = some v → ∃ items, v = .arr items ∧
    items.length ≤ 256
  headers : ∀ v, Json.lookup criteria "headers" = some v → ∃ fields, v = .obj fields ∧
    ∀ entry ∈ fields, (∃ s, entry.2 = .str s) ∨ ∃ expected, entry.2 = .obj expected

structure WellFormedRule (host : Host) (raw : Json) : Prop where
  object : ∃ fields, raw = .obj fields
  criteria : ∀ v, Json.lookup (Tunnara.object (some raw)) "match" = some v → ∃ criteria,
    v = .obj criteria ∧ WellFormedCriteria host criteria
  actions : (list (Json.lookup (Tunnara.object (some raw)) "actions")).length ≤ 100 ∧
    .null ∉ list (Json.lookup (Tunnara.object (some raw)) "actions")

/-- The case mappings of JavaScript change nothing the second time. -/
structure CaseMappings (host : Host) : Prop where
  upper : ∀ s, host.toUpperCase (host.toUpperCase s) = host.toUpperCase s
  lower : ∀ s, host.toLowerCase (host.toLowerCase s) = host.toLowerCase s
  lower_empty : ∀ s, host.toLowerCase s = "" ↔ s = ""

theorem mapStrings_eq_ok (h : mapStrings host f items = .ok out) : ∃ texts,
      items.mapM (fun v => v.toJsString host) = .ok texts ∧
      out = texts.map fun text => .str (f text) := by
  induction items generalizing out with
  | nil =>
    cases h
    exact ⟨[], rfl, rfl⟩
  | cons item rest ih =>
    rw [mapStrings] at h
    obtain ⟨text, htext, h⟩ := bind_eq_ok.1 h
    obtain ⟨later, hlater, h⟩ := bind_eq_ok.1 h
    obtain ⟨texts, htexts, rfl⟩ := ih hlater
    refine ⟨text :: texts, ?_, (Except.ok.inj h).symm⟩
    rw [List.mapM_cons, htext, htexts]
    rfl

theorem mapM_texts (texts : List String) :
    (texts.map Json.str).mapM (fun v => v.toJsString host) = .ok texts := by
  induction texts with
  | nil => rfl
  | cons text rest ih =>
    rw [List.map_cons, List.mapM_cons, ih]
    rfl

theorem mapStrings_isEmpty (h : mapStrings host f items = .ok out) :
    items.isEmpty = out.isEmpty := by
  cases items with
  | nil =>
    cases h
    rfl
  | cons item rest =>
    rw [mapStrings] at h
    obtain ⟨text, -, h⟩ := bind_eq_ok.1 h
    obtain ⟨later, -, h⟩ := bind_eq_ok.1 h
    cases h
    rfl

theorem matchMethods_stored (hcase : CaseMappings host)
    (h : mapStrings host host.toUpperCase items = .ok out) :
    matchMethods host out context = matchMethods host items context := by
  have hempty := mapStrings_isEmpty h
  obtain ⟨texts, htexts, rfl⟩ := mapStrings_eq_ok h
  have hstored : (texts.map fun text => Json.str (host.toUpperCase text)) =
      (texts.map host.toUpperCase).map Json.str := by
    rw [List.map_map]
    rfl
  rw [hstored] at hempty ⊢
  unfold matchMethods
  rw [← hempty]
  by_cases hnone : items.isEmpty
  · rw [if_pos hnone, if_pos hnone]
  · rw [if_neg hnone, if_neg hnone, mapM_texts, htexts]
    dsimp only [bind, Except.bind]
    rw [List.any_map]
    simp only [Function.comp_def, hcase.upper]

theorem cidrContains_text {cidr : Json} {text : String} (h : cidr.toJsString host = .ok text)
    {ip : String} : cidrContains host (.str text) ip = cidrContains host cidr ip := by
  unfold cidrContains
  rw [h]
  rfl

theorem someM_cidrs {ip : String} (h : mapStrings host id items = .ok out) :
    someM (fun cidr => cidrContains host cidr ip) out =
      someM (fun cidr => cidrContains host cidr ip) items := by
  induction items generalizing out with
  | nil =>
    cases h
    rfl
  | cons item rest ih =>
    rw [mapStrings] at h
    obtain ⟨text, htext, h⟩ := bind_eq_ok.1 h
    obtain ⟨later, hlater, h⟩ := bind_eq_ok.1 h
    cases h
    rw [someM, someM, ih hlater]
    have hsame : cidrContains host (.str (id text)) ip = cidrContains host item ip :=
      cidrContains_text htext
    rw [hsame]

theorem checkTruthy_textField {v : Option Json} {test test' : String → Bool}
    (hform : ∀ w, v = some w → ∃ s, w = .str s ∧ (f s = "" ↔ s = "") ∧ test (f s) = test' s) :
    checkTruthy host (textField v f) test = strictText test' v := by
  cases v with
  | none => rfl
  | some w =>
    obtain ⟨s, rfl, hempty, htest⟩ := hform w rfl
    have hread : textField (some (.str s)) f = some (.str (f s)) := rfl
    rw [hread]
    unfold checkTruthy strictText
    by_cases hnone : s = ""
    · have hfalse : truthy (some (Json.str (f s))) = false := by
        simp [truthy, Json.truthy, hempty.2 hnone]
      rw [hfalse]
      simp [hnone]
    · have htrue : truthy (some (Json.str (f s))) = true := by
        simp [truthy, Json.truthy, mt hempty.1 hnone]
      rw [htrue, if_pos rfl]
      simp [checkText, Json.toJsString, htest, hnone, Except.map]

section

variable (hcase : CaseMappings host)
include hcase

theorem matchRule_stored {raw : List (String × Json)} {criteria : Json}
    (hform : WellFormedCriteria host raw) (h : normalizeMatch host raw = .ok criteria) :
    matchRule host criteria context = strictCriteria host raw context := by
  obtain ⟨methods, cidrs, hmethods, hcidrs, hgetMethods, hgetPrefix, hgetRegex, hgetHost, hgetCidrs,
    hgetHeaders⟩ := normalizeMatch_eq_ok h
  have hfirst : matchMethods host methods context =
      strictMethods host context (Json.lookup raw "methods") := by
    cases hlookup : Json.lookup raw "methods" with
    | none =>
      rw [hlookup] at hmethods
      cases hmethods
      rfl
    | some v =>
      obtain ⟨items, rfl, hlength⟩ := hform.methods v hlookup
      rw [hlookup] at hmethods
      have htake : (list (some (.arr items))).take 32 = items := List.take_of_length_le hlength
      rw [htake] at hmethods
      exact matchMethods_stored hcase hmethods
  have hprefix : checkTruthy host (textField (Json.lookup raw "pathPrefix") (sliceTo 4096))
      (startsWith context.path) =
      strictText (startsWith context.path) (Json.lookup raw "pathPrefix") := by
    refine checkTruthy_textField fun w hw => ?_
    obtain ⟨s, rfl, hlength⟩ := hform.pathPrefix w hw
    have hwhole := sliceTo_of_le hlength
    exact ⟨s, rfl, by rw [hwhole], by rw [hwhole]⟩
  have hregex : (if truthy (textField (Json.lookup raw "pathRegex") (sliceTo 512)) then
      .ok (((safeRegex host (textField (Json.lookup raw "pathRegex") (sliceTo 512))).map
        (·.test context.path)).getD false)
      else .ok true) =
      strictText (regexTest host context.path) (Json.lookup raw "pathRegex") := by
    cases hlookup : Json.lookup raw "pathRegex" with
    | none => rfl
    | some v =>
      obtain ⟨s, rfl, hlength⟩ := hform.pathRegex v hlookup
      have hread : textField (some (.str s)) (sliceTo 512) = some (.str s) := by
        rw [textField, sliceTo_of_le hlength]
      rw [hread]
      unfold strictText regexTest
      by_cases hnone : s = ""
      · simp [hnone, truthy, Json.truthy]
      · simp [hnone, truthy, Json.truthy]
  have hname : checkTruthy host (textField (Json.lookup raw "host")
      fun s => sliceTo 255 (host.toLowerCase s)) (fun s => host.toLowerCase s = context.host) =
      strictText (fun s => host.toLowerCase s = context.host) (Json.lookup raw "host") := by
    refine checkTruthy_textField fun w hw => ?_
    obtain ⟨s, rfl, hlength⟩ := hform.host w hw
    have hwhole := sliceTo_of_le hlength
    exact ⟨s, rfl, by rw [hwhole, hcase.lower_empty], by rw [hwhole, hcase.lower]⟩
  have hlast : (if (list (some (Json.arr cidrs))).isEmpty then .ok true
      else someM (fun cidr => cidrContains host cidr context.sourceIp)
        (list (some (Json.arr cidrs)))) =
      strictCidrs host context (Json.lookup raw "sourceCidrs") := by
    cases hlookup : Json.lookup raw "sourceCidrs" with
    | none =>
      rw [hlookup] at hcidrs
      cases hcidrs
      rfl
    | some v =>
      obtain ⟨items, rfl, hlength⟩ := hform.sourceCidrs v hlookup
      rw [hlookup] at hcidrs
      have htake : (list (some (.arr items))).take 256 = items := List.take_of_length_le hlength
      rw [htake] at hcidrs
      have hread : list (some (Json.arr cidrs)) = cidrs := rfl
      rw [hread, someM_cidrs hcidrs, ← mapStrings_isEmpty hcidrs]
      rfl
  have hheaders : (object (some (Json.obj (object (Json.lookup raw "headers"))))).map (fun entry =>
      matchHeader host (context.headers.text (host.toLowerCase entry.1)) entry.2) =
      strictHeaders host context (Json.lookup raw "headers") := by
    cases hlookup : Json.lookup raw "headers" with
    | none => rfl
    | some v =>
      obtain ⟨fields, rfl, hentries⟩ := hform.headers v hlookup
      refine List.map_congr_left fun entry hmem => ?_
      unfold strictHeader
      rcases hentries entry hmem with ⟨s, hvalue⟩ | ⟨expected, hvalue⟩ <;> rw [hvalue]
  unfold matchRule strictCriteria
  rw [hgetMethods, hgetPrefix, hgetRegex, hgetHost, hgetCidrs, hgetHeaders, hprefix, hregex, hname,
    hlast, hheaders, ← hfirst]
  rfl

theorem strictApplies_of_stored {raw : Json} {applies : Bool} (hform : WellFormedRule host raw)
    (h : storedApplies host context raw = .ok applies) :
    strictApplies host context raw = .ok applies := by
  obtain ⟨fields, rfl⟩ := hform.object
  have hcriteria := hform.criteria
  have hread : object (some (Json.obj fields)) = fields := rfl
  unfold storedApplies at h
  unfold strictApplies
  rw [hread] at h hcriteria
  dsimp only
  by_cases henabled : notFalse (Json.lookup fields "enabled") = true
  · rw [if_pos henabled] at h ⊢
    obtain ⟨criteria, hnormal, h⟩ := bind_eq_ok.1 h
    unfold criteriaOf at hnormal
    rw [hread] at hnormal
    cases hlookup : Json.lookup fields "match" with
    | none =>
      rw [hlookup] at hnormal
      cases hnormal
      exact h
    | some v =>
      obtain ⟨submitted, rfl, hwell⟩ := hcriteria v hlookup
      rw [hlookup] at hnormal
      rw [← h]
      exact (matchRule_stored hcase hwell hnormal).symm
  · rw [if_neg henabled] at h ⊢
    exact h

omit hcase in
theorem keptActions_of_length {policyId : Json} {actions : List Json}
    (hlength : actions.length ≤ limit) (hnull : .null ∉ actions) :
    KeptActions host context policyId limit actions result buckets := by
  induction actions generalizing limit result buckets with
  | nil => cases limit <;> exact trivial
  | cons action rest ih =>
    cases limit with
    | zero => exact absurd hlength (by simp)
    | succ limit =>
      rw [List.mem_cons, not_or] at hnull
      obtain ⟨hfirst, hrest⟩ := hnull
      refine ⟨Ne.symm hfirst, ?_⟩
      split
      · exact fun _ => ih (Nat.le_of_succ_le_succ hlength) hrest
      · exact trivial

theorem keptRules_of_wellFormed {policyId : Json} (hlength : raws.length ≤ limit)
    (hform : ∀ raw ∈ raws, WellFormedRule host raw) :
    KeptRules host context policyId limit index raws result buckets := by
  induction raws generalizing limit index result buckets with
  | nil => cases limit <;> exact trivial
  | cons raw rest ih =>
    cases limit with
    | zero => exact absurd hlength (by simp)
    | succ limit =>
      have hrule := hform raw List.mem_cons_self
      have hlater : ∀ {index : ℕ} {result : PolicyResult} {buckets : RateBuckets},
          KeptRules host context policyId limit index rest result buckets :=
        ih (Nat.le_of_succ_le_succ hlength) fun other hmem =>
          hform other (List.mem_cons_of_mem _ hmem)
      unfold KeptRules
      cases happlies : storedApplies host context raw with
      | error error => exact trivial
      | ok applies =>
        have hstrict := strictApplies_of_stored hcase hrule happlies
        cases applies with
        | false => exact ⟨hstrict, hlater⟩
        | true =>
          refine ⟨hstrict, keptActions_of_length hrule.actions.1 hrule.actions.2, ?_⟩
          split
          · exact fun _ => hlater
          · exact trivial

theorem kept_of_wellFormed (hlength : (submittedRules document).length ≤ 200)
    (hform : ∀ raw ∈ submittedRules document, WellFormedRule host raw) :
    Kept host policyId document request buckets :=
  fun _ _ _ => keptRules_of_wellFormed hcase hlength hform

end

/-! ## What is let through -/

/-- **Normalisation does not widen a policy** for a request, as long as every rule that is reached
matches as it was submitted and nothing that is reached was left out. -/
theorem letsThrough_submitted (hstored : normalizePolicyInput host (some document) = .ok stored)
    (hkept : Kept host policyId document request buckets)
    (h : LetsThrough (evaluatePolicy host (storedPolicy policyId stored) request) buckets) :
    LetsThrough (evaluateSubmitted host policyId document request) buckets := by
  obtain ⟨rules, hrules, rfl⟩ := normalizePolicyInput_eq_ok.1 hstored
  obtain ⟨result, left, hexec, hallowed⟩ := h
  obtain ⟨context, hcontext, hoff, hon⟩ := exec_storedPolicy hexec
  refine ⟨result, left, ?_, hallowed⟩
  unfold evaluateSubmitted
  rw [exec_lift_bind, hcontext]
  dsimp only
  by_cases hdisabled : Json.lookup (object (some document)) "enabled" = some (.bool false)
  · obtain ⟨rfl, rfl⟩ := hoff hdisabled
    rw [if_pos hdisabled]
    rfl
  · rw [if_neg hdisabled]
    exact exec_evaluateStrict (hkept context hcontext hdisabled) hrules (hon hdisabled)

/-- Whether a result lets its request through. -/
def Passes (evaluation : PolicyM PolicyResult) (buckets : RateBuckets) : Bool :=
  match (exec evaluation buckets).1 with
  | .ok result => result.allowed
  | .error _ => false

theorem letsThrough_iff_passes {evaluation : PolicyM PolicyResult} :
    LetsThrough evaluation buckets ↔ Passes evaluation buckets = true := by
  unfold LetsThrough Passes
  cases exec evaluation buckets with
  | mk outcome left =>
    cases outcome with
    | error error => exact iff_of_false (by rintro ⟨result, left, h, -⟩; cases h) nofun
    | ok result =>
      constructor
      · rintro ⟨result, left, h, hallowed⟩
        cases h
        exact hallowed
      · exact fun hallowed => ⟨result, left, rfl, hallowed⟩

/-- Everything is refused but what one rule allows. -/
def allowingDocument (criteria : List (String × Json)) : Json :=
  .obj [("defaultEffect", .str "deny"), ("rules", .arr [
    .obj [("match", .obj criteria), ("actions", .arr [.obj [("type", .str "allow")]])]])]

def allowingStored (criteria : List (String × Json)) : Json :=
  documentOf "deny" true [ruleOf "rule-1" "Regra 1" true true
    (.obj ([("methods", .arr [])] ++ criteria ++ [("sourceCidrs", .arr []), ("headers", .obj [])]))
    [.obj [("type", .str "allow")]]]

/-- A prefix in an array is dropped, and the rule allows every path. -/
theorem not_letsThrough_submitted_prefixes :
    ¬ ∀ policyId document stored request buckets,
      normalizePolicyInput .plain (some document) = .ok stored →
      LetsThrough (evaluatePolicy .plain (storedPolicy policyId stored) request) buckets →
      LetsThrough (evaluateSubmitted .plain policyId document request) buckets := by
  intro h
  have hstored : normalizePolicyInput .plain
      (some (allowingDocument [("pathPrefix", .arr [.str "/admin"])])) =
        .ok (allowingStored []) := by
    rfl
  have hpasses : Passes (evaluatePolicy .plain (storedPolicy "p1" (allowingStored []))
      limitedRequest) .empty = true := by decide +kernel
  have hrefused : Passes (evaluateSubmitted .plain "p1"
      (allowingDocument [("pathPrefix", .arr [.str "/admin"])]) limitedRequest) .empty = false := by
    decide +kernel
  have hthrough := h "p1" _ _ limitedRequest .empty hstored (letsThrough_iff_passes.2 hpasses)
  rw [letsThrough_iff_passes, hrefused] at hthrough
  cases hthrough

theorem caseMappings_plain : CaseMappings .plain where
  upper _ := rfl
  lower _ := rfl
  lower_empty _ := Iff.rfl

theorem wellFormedRule_allowing :
    ∀ raw ∈ submittedRules (allowingDocument [("pathPrefix", .str "/")]),
      WellFormedRule .plain raw := by
  have hrules : submittedRules (allowingDocument [("pathPrefix", .str "/")]) =
      [.obj [("match", .obj [("pathPrefix", .str "/")]),
        ("actions", .arr [.obj [("type", .str "allow")]])]] := rfl
  rw [hrules]
  intro raw hmem
  rw [List.mem_singleton] at hmem
  subst hmem
  refine ⟨⟨_, rfl⟩, ?_, ?_⟩
  · rintro v ⟨⟩
    refine ⟨_, rfl, nofun, ?_, nofun, nofun, nofun, nofun⟩
    rintro v ⟨⟩
    exact ⟨"/", rfl, by decide⟩
  · exact ⟨by decide, by simp [Json.lookup, object, list]⟩

theorem letsThrough_submitted_allowing :
    normalizePolicyInput .plain (some (allowingDocument [("pathPrefix", .str "/")])) =
      .ok (allowingStored [("pathPrefix", .str "/")]) ∧
    LetsThrough (evaluatePolicy .plain
      (storedPolicy "p1" (allowingStored [("pathPrefix", .str "/")])) limitedRequest) .empty ∧
    LetsThrough (evaluateSubmitted .plain "p1" (allowingDocument [("pathPrefix", .str "/")])
      limitedRequest) .empty := by
  have hstored : normalizePolicyInput .plain
      (some (allowingDocument [("pathPrefix", .str "/")])) =
        .ok (allowingStored [("pathPrefix", .str "/")]) := rfl
  have hpasses : Passes (evaluatePolicy .plain (storedPolicy "p1"
      (allowingStored [("pathPrefix", .str "/")])) limitedRequest) .empty = true := by
    decide +kernel
  have hkept : Kept .plain "p1" (allowingDocument [("pathPrefix", .str "/")]) limitedRequest
      .empty := kept_of_wellFormed caseMappings_plain (by decide) wellFormedRule_allowing
  have hthrough := letsThrough_iff_passes.2 hpasses
  exact ⟨hstored, hthrough, letsThrough_submitted hstored hkept hthrough⟩

end Tunnara.Policy
