/-
# Transformations in order

What the actions of a decision do to the headers and the path, applied one after the other,
beside what the Edge makes of the decision. The decision keeps the headers that are added apart
from those that are removed, and the Edge removes first and adds then; a rewrite always starts
from the path of the request.
-/

import Tunnara.Data.Edits
import Tunnara.Policy.Refusals
import Tunnara.Edge.Server

namespace Tunnara.Edge

open Policy Relay Attempt Edits

variable (host : Host)

abbrev HeaderEdit := Edit String String

/-- A path as `rewrite_path` changes it; it leaves some paths alone. -/
abbrev Rewrite := String → Except JsError (Option String)

/-- What an action does to a request and to its answer. -/
structure Transform where
  request : List HeaderEdit := []
  response : List HeaderEdit := []
  rewrite : Option Rewrite := none

def settings (entries : List (String × String)) : List HeaderEdit :=
  entries.map fun entry => .set entry.1 entry.2

def removals (names : List String) : List HeaderEdit := names.map .unset

/-- `rewrite_path`, applied to any path. -/
def rewriteOf (action : Json) : Rewrite := fun path => do
  let fromPrefix ← match action.get? "fromPrefix" with
    | none => pure none
    | some v => (v.toJsString host).map fun text =>
      if startsWith path text then some text else none
  match fromPrefix with
  | some text =>
    let toPrefix ← textOr host (action.get? "toPrefix") ""
    let rewritten := toPrefix ++ String.ofList (path.toList.drop text.length)
    return some (if rewritten = "" then "/" else rewritten)
  | none =>
    if truthy (action.get? "regex") then
      match safeRegex host (action.get? "regex") with
      | some regex =>
        let replacement ← textOr host (action.get? "replacement") ""
        let rewritten := regex.replace path replacement
        return some (if rewritten = "" then "/" else rewritten)
      | none => return none
    else return none

/-- The claims that a verified token forwards. -/
def forwardedClaims (action : Json) (context : Context) : List (String × String) :=
  let token := schemeCredentials host "Bearer" (context.headers.text "authorization")
  if token = "" ∨ truthy (action.get? "forwardClaimsHeader") = false then []
  else match host.verifyJwt token action, textOr host (action.get? "forwardClaimsHeader") "" with
    | .ok payload, .ok name => [(host.toLowerCase name, host.claimsHeader payload)]
    | _, _ => []

def typeTransform (type : String) (action : Json) (context : Context) (policyId : Json)
    (buckets : RateBuckets) : Transform :=
  let entries := ((headerEntries host (object (action.get? "headers"))).toOption).getD []
  let names := ((headerNames host (list (action.get? "headers"))).toOption).getD []
  if type = "add_request_headers" then { request := settings entries }
  else if type = "remove_request_headers" then { request := removals names }
  else if type = "add_response_headers" then { response := settings entries }
  else if type = "remove_response_headers" then { response := removals names }
  else if type = "rewrite_path" then { rewrite := some (rewriteOf host action) }
  -- the other actions may set a header of their own
  else if type = "redirect" then
    match textOr host (action.get? "location") "/" with
    | .ok location => { response := settings [("location", location)] }
    | .error _ => {}
  else if type = "rate_limit" then
    match (exec (rateLimit host action context policyId) buckets).1 with
    | .ok (some retryAfter) => { response := settings [("retry-after", retryAfter)] }
    | _ => {}
  else if type = "basic_auth" then
    match accountPasses host action context, textOr host (action.get? "realm") "Tunnara" with
    | .ok false, .ok realm =>
      { response := settings [("www-authenticate", "Basic realm=\"" ++ realm ++ "\"")] }
    | _, _ => {}
  else if type = "jwt" ∨ type = "oidc" then
    { request := settings (forwardedClaims host action context) }
  else {}

/-- What an executed action does. -/
def transformOf (context : Context) (policyId : Json) (executed : Executed) : Transform :=
  match actionType host executed.action with
  | .error _ => {}
  | .ok type => typeTransform host type executed.action context policyId executed.found

/-- What the executed actions of all rules do, in order. -/
def transforms (context : Context) (policyId : Json) (visits : List Visit) : List Transform :=
  (visits.flatMap Visit.executed).map (transformOf host context policyId)

/-! ## What the decision keeps -/

/-- One header map of a decision: what is added, and what is removed. -/
structure Side where
  headers : List (String × String) := []
  removed : List String := []

def Side.record (side : Side) : HeaderEdit → Side
  | .set name value => { side with headers := assignHeader side.headers name value }
  | .unset name => { side with removed := addName side.removed name }

def requestSide (result : PolicyResult) : Side := ⟨result.requestHeaders, result.removeRequestHeaders⟩

def responseSide (result : PolicyResult) : Side :=
  ⟨result.responseHeaders, result.removeResponseHeaders⟩

/-- A rewrite of the path a request came with, where it changes it. -/
def onOriginal (original : String) (rewrite : Rewrite) (path : String) : String :=
  match rewrite original with
  | .ok (some rewritten) => rewritten
  | _ => path

variable {host}

theorem record_settings (entries : List (String × String)) (side : Side) :
    (settings entries).foldl Side.record side =
      { side with headers := entries.foldl (fun acc h => assignHeader acc h.1 h.2) side.headers } := by
  induction entries generalizing side with
  | nil => rfl
  | cons entry rest ih => exact ih (side.record (.set entry.1 entry.2))

theorem record_removals (names : List String) (side : Side) :
    (removals names).foldl Side.record side =
      { side with removed := names.foldl addName side.removed } := by
  induction names generalizing side with
  | nil => rfl
  | cons name rest ih => exact ih (side.record (.unset name))

/-- What an action leaves is what it found, with its transformation recorded. -/
structure Recorded (original : String) (transform : Transform) (before after : PolicyResult) :
    Prop where
  request : requestSide after = transform.request.foldl Side.record (requestSide before)
  response : responseSide after = transform.response.foldl Side.record (responseSide before)
  path : after.path =
    (transform.rewrite.map fun rewrite => onOriginal original rewrite before.path).getD before.path
  rules : after.matchedRules = before.matchedRules

variable {original : String}

theorem recorded_nothing {before after : PolicyResult}
    (hrequest : requestSide after = requestSide before)
    (hresponse : responseSide after = responseSide before) (hpath : after.path = before.path)
    (hrules : after.matchedRules = before.matchedRules) :
    Recorded original {} before after := ⟨hrequest, hresponse, hpath, hrules⟩

theorem rewritePath_eq (action : Json) (context : Context) (result : PolicyResult) :
    rewritePath host action context result = (rewriteOf host action context.path).map
      fun rewritten => { result with path := rewritten.getD result.path } := by
  unfold rewritePath rewriteOf
  cases action.get? "fromPrefix" with
  | none =>
    split_ifs
    · cases safeRegex host (action.get? "regex") with
      | none => rfl
      | some regex => cases textOr host (action.get? "replacement") "" <;> rfl
    · rfl
  | some v =>
    dsimp only
    cases v.toJsString host with
    | error error => rfl
    | ok text =>
      by_cases hstarts : startsWith context.path text
      · simp only [Except.map, hstarts, if_true, bind, Except.bind]
        cases textOr host (action.get? "toPrefix") "" <;> rfl
      · simp only [Except.map, hstarts, Bool.false_eq_true, if_false, bind, Except.bind]
        split_ifs
        · cases safeRegex host (action.get? "regex") with
          | none => rfl
          | some regex => cases textOr host (action.get? "replacement") "" <;> rfl
        · rfl

/-! ## One action -/

section Actions

variable {context : Context} {policyId action : Json} {before : PolicyResult} {outcome : Outcome}
  {found left : RateBuckets}

theorem recorded_basicAuth (h : basicAuth host action context before = .ok outcome) :
    Recorded context.path (typeTransform host "basic_auth" action context policyId found) before
      outcome.result := by
  rw [basicAuth_eq] at h
  obtain ⟨passes, hpasses, h⟩ := bind_eq_ok.1 h
  have htransform : typeTransform host "basic_auth" action context policyId found =
      match accountPasses host action context, textOr host (action.get? "realm") "Tunnara" with
      | .ok false, .ok realm =>
        { response := settings [("www-authenticate", "Basic realm=\"" ++ realm ++ "\"")] }
      | _, _ => {} := rfl
  rw [htransform, hpasses]
  cases passes with
  | true =>
    cases h
    exact recorded_nothing rfl rfl rfl rfl
  | false =>
    obtain ⟨realm, hrealm, h⟩ := bind_eq_ok.1 h
    cases h
    rw [hrealm]
    exact ⟨rfl, rfl, rfl, rfl⟩

theorem recorded_apiKey (h : apiKey host action context before = .ok outcome) :
    Recorded context.path {} before outcome.result := by
  unfold apiKey at h
  split_ifs at h
  all_goals
    obtain ⟨raw, -, h⟩ := bind_eq_ok.1 h
    obtain ⟨valid, -, h⟩ := bind_eq_ok.1 h
    split at h <;> cases h <;> exact recorded_nothing rfl rfl rfl rfl

theorem recorded_bearerToken :
    Recorded context.path { request := settings (forwardedClaims host action context) } before
      (bearerToken host action context before).result := by
  unfold bearerToken forwardedClaims
  by_cases htoken : schemeCredentials host "Bearer" (context.headers.text "authorization") = ""
  · rw [if_pos htoken, if_pos (.inl htoken)]
    exact recorded_nothing rfl rfl rfl rfl
  · rw [if_neg htoken]
    cases hforwards : truthy (action.get? "forwardClaimsHeader") with
    | false =>
      rw [if_pos (.inr rfl)]
      cases host.verifyJwt _ action with
      | error message | ok payload => exact recorded_nothing rfl rfl rfl rfl
    | true =>
      rw [if_neg (by simp [htoken])]
      cases host.verifyJwt _ action with
      | error message => exact recorded_nothing rfl rfl rfl rfl
      | ok payload =>
        cases textOr host (action.get? "forwardClaimsHeader") "" with
        | error error => exact recorded_nothing rfl rfl rfl rfl
        | ok name => exact ⟨rfl, rfl, rfl, rfl⟩

theorem recorded_rewritePath {next : PolicyResult}
    (h : rewritePath host action context before = .ok next) :
    Recorded context.path { rewrite := some (rewriteOf host action) } before next := by
  rw [rewritePath_eq] at h
  obtain ⟨rewritten, hrewritten, rfl⟩ := map_eq_ok.1 h
  refine ⟨rfl, rfl, ?_, rfl⟩
  dsimp only [Option.map, Option.getD, onOriginal]
  rw [hrewritten]
  cases rewritten <;> rfl

theorem recorded_of_exec
    (h : exec (executeAction host action context before policyId) found = (.ok outcome, left)) :
    Recorded context.path
      (transformOf host context policyId ⟨action, before, found, outcome, left⟩) before
      outcome.result := by
  obtain ⟨rawType, hraw, h⟩ := exec_lift_bind_ok h
  obtain ⟨text, htext, h⟩ := exec_lift_bind_ok h
  have htype : actionType host action = .ok (host.toLowerCase text) := by
    rw [actionType, hraw]
    have hread : (textOr host rawType "" >>= fun text => pure (host.toLowerCase text)) =
        Except.ok (host.toLowerCase text) := bind_eq_ok.2 ⟨text, htext, rfl⟩
    exact hread
  unfold transformOf
  rw [htype]
  generalize host.toLowerCase text = type at h
  dsimp only at h ⊢
  by_cases hallow : type = "allow"
  · rw [if_pos hallow] at h
    subst hallow
    cases h
    exact recorded_nothing rfl rfl rfl rfl
  rw [if_neg hallow] at h
  by_cases hdeny : type = "deny"
  · rw [if_pos hdeny] at h
    subst hdeny
    obtain ⟨status, -, h⟩ := exec_lift_bind_ok h
    cases h
    exact recorded_nothing rfl rfl rfl rfl
  rw [if_neg hdeny] at h
  by_cases hredirect : type = "redirect"
  · rw [if_pos hredirect] at h
    subst hredirect
    obtain ⟨status, -, h⟩ := exec_lift_bind_ok h
    obtain ⟨location, hlocation, h⟩ := exec_lift_bind_ok h
    cases h
    have htransform : typeTransform host "redirect" action context policyId found =
        match textOr host (action.get? "location") "/" with
        | .ok location => { response := settings [("location", location)] }
        | .error _ => {} := rfl
    rw [htransform, hlocation]
    exact ⟨rfl, rfl, rfl, rfl⟩
  rw [if_neg hredirect] at h
  by_cases hrate : type = "rate_limit"
  · rw [if_pos hrate] at h
    subst hrate
    obtain ⟨denial, middle, hlimit, h⟩ := exec_bind_ok h
    have htransform : typeTransform host "rate_limit" action context policyId found =
        match (exec (rateLimit host action context policyId) found).1 with
        | .ok (some retryAfter) => { response := settings [("retry-after", retryAfter)] }
        | _ => {} := rfl
    rw [htransform, hlimit]
    cases denial with
    | none =>
      cases h
      exact recorded_nothing rfl rfl rfl rfl
    | some retryAfter =>
      cases h
      exact ⟨rfl, rfl, rfl, rfl⟩
  rw [if_neg hrate] at h
  by_cases hbasic : type = "basic_auth"
  · rw [if_pos hbasic] at h
    subst hbasic
    exact recorded_basicAuth (Prod.mk.inj h).1
  rw [if_neg hbasic] at h
  by_cases hkey : type = "api_key"
  · rw [if_pos hkey] at h
    subst hkey
    exact recorded_apiKey (Prod.mk.inj h).1
  rw [if_neg hkey] at h
  by_cases hbearer : type = "jwt" ∨ type = "oidc"
  · rw [if_pos hbearer] at h
    have houtcome : bearerToken host action context before = outcome :=
      Except.ok.inj (Prod.mk.inj h).1
    have htransform : typeTransform host type action context policyId found =
        { request := settings (forwardedClaims host action context) } := by
      rcases hbearer with rfl | rfl <;> rfl
    rw [htransform, ← houtcome]
    exact recorded_bearerToken
  rw [if_neg hbearer] at h
  -- the actions that are left change headers or the path
  unfold typeTransform
  split_ifs at h with hadd hremove haddResponse hremoveResponse hrewrite
  · obtain ⟨entries, hentries, h⟩ := exec_lift_bind_ok h
    cases h
    rw [if_pos hadd, hentries]
    exact ⟨(record_settings entries (requestSide before)).symm, rfl, rfl, rfl⟩
  · obtain ⟨names, hnames, h⟩ := exec_lift_bind_ok h
    cases h
    rw [if_neg hadd, if_pos hremove, hnames]
    exact ⟨(record_removals names (requestSide before)).symm, rfl, rfl, rfl⟩
  · obtain ⟨entries, hentries, h⟩ := exec_lift_bind_ok h
    cases h
    rw [if_neg hadd, if_neg hremove, if_pos haddResponse, hentries]
    exact ⟨rfl, (record_settings entries (responseSide before)).symm, rfl, rfl⟩
  · obtain ⟨names, hnames, h⟩ := exec_lift_bind_ok h
    cases h
    rw [if_neg hadd, if_neg hremove, if_neg haddResponse, if_pos hremoveResponse, hnames]
    exact ⟨rfl, (record_removals names (responseSide before)).symm, rfl, rfl⟩
  · obtain ⟨next, hnext, h⟩ := exec_lift_bind_ok h
    cases h
    rw [if_neg hadd, if_neg hremove, if_neg haddResponse, if_neg hremoveResponse, if_pos hrewrite]
    exact recorded_rewritePath hnext
  · cases h
    rw [if_neg hadd, if_neg hremove, if_neg haddResponse, if_neg hremoveResponse, if_neg hrewrite,
      if_neg hredirect, if_neg hrate, if_neg hbasic, if_neg hbearer]
    exact recorded_nothing rfl rfl rfl rfl

end Actions

/-! ## All actions -/

def requestEdits (transforms : List Transform) : List HeaderEdit :=
  transforms.flatMap Transform.request

def responseEdits (transforms : List Transform) : List HeaderEdit :=
  transforms.flatMap Transform.response

def rewrites (transforms : List Transform) : List Rewrite :=
  transforms.filterMap Transform.rewrite

/-- Every rewrite of the path the request came with, the last one that changes it first. -/
def rewriteOriginal (original : String) (rewrites : List Rewrite) (path : String) : String :=
  rewrites.foldl (fun path rewrite => onOriginal original rewrite path) path

/-- The transformations that were recorded between two decisions. -/
structure AllRecorded (original : String) (transforms : List Transform)
    (before after : PolicyResult) : Prop where
  request : requestSide after = (requestEdits transforms).foldl Side.record (requestSide before)
  response :
    responseSide after = (responseEdits transforms).foldl Side.record (responseSide before)
  path : after.path = rewriteOriginal original (rewrites transforms) before.path

theorem allRecorded_nil {result : PolicyResult} :
    AllRecorded original [] result result := ⟨rfl, rfl, rfl⟩

theorem AllRecorded.cons {transform : Transform} {later : List Transform}
    {before middle after : PolicyResult} (hfirst : Recorded original transform before middle)
    (hlater : AllRecorded original later middle after) :
    AllRecorded original (transform :: later) before after where
  request := by
    rw [hlater.request, hfirst.request]
    unfold requestEdits
    rw [List.flatMap_cons, List.foldl_append]
  response := by
    rw [hlater.response, hfirst.response]
    unfold responseEdits
    rw [List.flatMap_cons, List.foldl_append]
  path := by
    rw [hlater.path, hfirst.path]
    unfold rewrites
    cases hrewrite : transform.rewrite with
    | none => rw [List.filterMap_cons_none hrewrite]; rfl
    | some rewrite => rw [List.filterMap_cons_some hrewrite]; rfl

theorem AllRecorded.append {first later : List Transform} {before middle after : PolicyResult}
    (hfirst : AllRecorded original first before middle)
    (hlater : AllRecorded original later middle after) :
    AllRecorded original (first ++ later) before after where
  request := by
    rw [hlater.request, hfirst.request]
    unfold requestEdits
    rw [List.flatMap_append, List.foldl_append]
  response := by
    rw [hlater.response, hfirst.response]
    unfold responseEdits
    rw [List.flatMap_append, List.foldl_append]
  path := by
    rw [hlater.path, hfirst.path]
    unfold rewrites rewriteOriginal
    rw [List.filterMap_append, List.foldl_append]

section Runs

variable {context : Context} {policyId : Json}

theorem allRecorded_actionsRun {actions : List Json} {result last : PolicyResult}
    {buckets left : RateBuckets} {executed : List Executed}
    (h : ActionsRun host context policyId actions result buckets executed last left) :
    AllRecorded context.path (executed.map (transformOf host context policyId)) result last := by
  induction h with
  | done => exact allRecorded_nil
  | terminal hexec => exact .cons (recorded_of_exec hexec) allRecorded_nil
  | next hexec _ _ ih => exact .cons (recorded_of_exec hexec) ih

theorem allRecorded_rulesRun {rules : List Json} {result last : PolicyResult}
    {buckets left : RateBuckets} {visits : List Visit}
    (h : RulesRun host context policyId rules result buckets visits last left) :
    AllRecorded context.path (transforms host context policyId visits) result last := by
  unfold transforms
  induction h with
  | done => exact allRecorded_nil
  | skip _ _ ih => exact ih
  | stop _ hactions _ =>
    have hrecorded := allRecorded_actionsRun hactions
    rw [List.flatMap_singleton]
    exact ⟨hrecorded.request, hrecorded.response, hrecorded.path⟩
  | next _ hactions _ _ ih =>
    have hrecorded := allRecorded_actionsRun hactions
    rw [List.flatMap_cons, List.map_append]
    exact .append ⟨hrecorded.request, hrecorded.response, hrecorded.path⟩ ih

end Runs

/-! ## Headers -/

def textUnder (headers : List (String × String)) (name : String) : Option String :=
  (headers.find? fun entry => entry.1 = name).map Prod.snd

theorem textUnder_cons (entry : String × String) (rest : List (String × String)) (name : String) :
    textUnder (entry :: rest) name =
      if entry.1 = name then some entry.2 else textUnder rest name := by
  unfold textUnder
  rw [List.find?_cons]
  by_cases hname : entry.1 = name
  · simp [hname]
  · simp [hname]

variable (headers : List (String × String))

theorem textUnder_replace (name value other : String) :
    textUnder (headers.map fun h => if h.1 = name then (name, value) else h) other =
      if name = other ∧ (headers.any fun h => h.1 = name) = true then some value
      else textUnder headers other := by
  induction headers with
  | nil => simp [textUnder]
  | cons entry rest ih =>
    rw [List.map_cons, textUnder_cons, textUnder_cons, ih, List.any_cons]
    by_cases hentry : entry.1 = name
    · by_cases hname : name = other
      · simp [hentry, hname]
      · simp [hentry, hname]
    · have hskip : decide (entry.1 = name) = false := decide_eq_false hentry
      rw [if_neg hentry, hskip, Bool.false_or]
      by_cases hname : name = other
      · subst hname
        rw [if_neg hentry, if_neg hentry]
      · simp only [hname, false_and, if_false]

theorem textUnder_add (name value other : String) :
    textUnder (headers ++ [(name, value)]) other =
      (textUnder headers other).or (if name = other then some value else none) := by
  induction headers with
  | nil =>
    rw [List.nil_append, textUnder_cons]
    simp [textUnder]
  | cons entry rest ih =>
    rw [List.cons_append, textUnder_cons, textUnder_cons, ih]
    split_ifs <;> rfl

theorem textUnder_assignHeader (name value other : String) :
    textUnder (assignHeader headers name value) other =
      if name = other ∧ name ≠ "__proto__" then some value else textUnder headers other := by
  unfold assignHeader
  by_cases hproto : name = "__proto__"
  · rw [if_pos hproto, if_neg fun h => h.2 hproto]
  rw [if_neg hproto]
  by_cases hany : (headers.any fun h => h.1 = name) = true
  · rw [if_pos hany, textUnder_replace]
    simp [hany, hproto]
  · rw [if_neg hany, textUnder_add]
    by_cases hname : name = other
    · subst hname
      have hnone : textUnder headers name = none := by
        unfold textUnder
        rw [Option.map_eq_none_iff, List.find?_eq_none]
        intro entry hentry hfound
        exact hany (List.any_eq_true.2 ⟨entry, hentry, hfound⟩)
      simp [hnone, hproto]
    · simp [hname]

theorem mem_addName (names : List String) (name other : String) :
    other ∈ addName names name ↔ other = name ∨ other ∈ names := by
  unfold addName
  split_ifs with hmem
  · exact ⟨.inr, fun h => h.elim (fun heq => heq ▸ hmem) id⟩
  · rw [List.mem_append, List.mem_singleton, or_comm]

structure Keeps (side : Side) (edits : List HeaderEdit) : Prop where
  map : HeaderMap side.headers
  text : ∀ name, textUnder side.headers name =
    if name = "__proto__" then none else lastSet edits name
  removed : ∀ name, name ∈ side.removed ↔ isUnset edits name = true

theorem keeps_recorded {edits : List HeaderEdit} : Keeps (edits.foldl Side.record {}) edits := by
  induction edits using List.reverseRecOn with
  | nil =>
    refine ⟨headerMap_nil, fun name => ?_, fun name => ?_⟩
    · split_ifs <;> rfl
    · exact iff_of_false List.not_mem_nil Bool.false_ne_true
  | append_singleton edits edit ih =>
    rw [List.foldl_append, List.foldl_cons, List.foldl_nil]
    cases edit with
    | set other value =>
      refine ⟨ih.map.assign other value, fun name => ?_, fun name => ?_⟩
      · dsimp only [Side.record]
        rw [textUnder_assignHeader, ih.text, lastSet_snoc_set]
        by_cases hname : other = name
        · subst hname
          by_cases hproto : other = "__proto__"
          · simp [hproto]
          · simp [hproto]
        · simp [hname]
      · rw [isUnset_snoc_set]
        exact ih.removed name
    | unset other =>
      refine ⟨ih.map, fun name => ?_, fun name => ?_⟩
      · rw [lastSet_snoc_unset]
        exact ih.text name
      · dsimp only [Side.record]
        rw [mem_addName, ih.removed, isUnset_snoc_unset, Bool.or_eq_true, decide_eq_true_iff,
          or_comm, @eq_comm _ name other]

theorem lookup_assigned {entries : List (String × String)} (hmap : HeaderMap entries)
    (headers : FrameHeaders) (name : String) :
    Json.lookup (entries.foldl (fun headers h => setHeader headers h.1 (.str h.2)) headers) name =
      ((textUnder entries name).map Json.str).or (Json.lookup headers name) := by
  unfold textUnder
  cases hfound : entries.find? fun entry => entry.1 = name with
  | none =>
    have hother : name ∉ headerKeys entries := by
      intro hmem
      obtain ⟨entry, hentry, rfl⟩ := List.mem_map.1 hmem
      exact List.find?_eq_none.1 hfound entry hentry (decide_eq_true rfl)
    rw [lookup_assign_of_not_mem hother]
    rfl
  | some entry =>
    have hname : entry.1 = name := by
      simpa using List.find?_some hfound
    rw [← hname, lookup_assign_of_mem hmap (List.mem_of_find?_eq_some hfound)]
    rfl

variable (host) in
/-- What the Edge passes on of a header of the request, whatever the policy. -/
def passedOn (request : Request) (name : String) : Option Json :=
  if name ∈ hopByHop ∨ name = "__proto__" then none else requestHeader host request name

variable (host) in
/-- The headers of the answer that the Relay brings, but those that are dropped. -/
def keptAnswerHeaders (removed : List String) (answer : Json) : FrameHeaders :=
  (ownFields (orDefault (answer.get? "headers") (.obj []))).foldl (fun headers h =>
    let name := host.toLowerCase h.1
    if name ∈ hopByHop ∨ name = "content-length" ∨ name ∈ removed then headers
    else setHeader headers name h.2) []

variable (host) in
/-- The headers of the answer to the client; the ids are those of the route. -/
def returnedHeaders (answer : Json) (decision : PolicyResult) (length : ℕ)
    (tunnelId targetId : Json) : FrameHeaders :=
  let kept := keptAnswerHeaders host decision.removeResponseHeaders answer
  let assigned := decision.responseHeaders.foldl (fun headers h =>
    setHeader headers h.1 (.str h.2)) kept
  setHeader (setHeader (setHeader assigned "content-length" (.num length)) "x-tunnara-tunnel-id"
    tunnelId) "x-tunnara-target-id" targetId

/-- The names the Edge sets in an answer. -/
def answerNames : List String := ["content-length", "x-tunnara-tunnel-id", "x-tunnara-target-id"]

theorem lookup_keptAnswerHeaders (removed : List String) (answer : Json) (name : String) :
    Json.lookup (keptAnswerHeaders host removed answer) name =
      if name ∈ removed then none
      else Json.lookup (keptAnswerHeaders host [] answer) name := by
  unfold keptAnswerHeaders
  induction ownFields (orDefault (answer.get? "headers") (.obj [])) using List.reverseRecOn with
  | nil => simp [Json.lookup]
  | append_singleton fields field ih =>
    simp only [List.foldl_append, List.foldl_cons, List.foldl_nil]
    by_cases hdropped : host.toLowerCase field.1 ∈ hopByHop ∨
        host.toLowerCase field.1 = "content-length"
    · have hall : ∀ names : List String, host.toLowerCase field.1 ∈ hopByHop ∨
          host.toLowerCase field.1 = "content-length" ∨ host.toLowerCase field.1 ∈ names :=
        fun names => hdropped.imp id .inl
      rw [if_pos (hall removed), if_pos (hall []), ih]
    · rw [not_or] at hdropped
      have hkept : ¬ (host.toLowerCase field.1 ∈ hopByHop ∨
          host.toLowerCase field.1 = "content-length" ∨
          host.toLowerCase field.1 ∈ ([] : List String)) := by
        simp [hdropped]
      rw [if_neg hkept]
      by_cases hremoved : host.toLowerCase field.1 ∈ removed
      · rw [if_pos (.inr (.inr hremoved)), ih, lookup_setHeader]
        split_ifs with hname hboth
        · rfl
        · exact absurd (hboth.1 ▸ hremoved) hname
        · rfl
      · have hstays : ¬ (host.toLowerCase field.1 ∈ hopByHop ∨
            host.toLowerCase field.1 = "content-length" ∨
            host.toLowerCase field.1 ∈ removed) := by
          simp [hdropped, hremoved]
        rw [if_neg hstays, lookup_setHeader, lookup_setHeader, ih]
        split_ifs with hboth hname hname
        · exact absurd (hboth.1 ▸ hname) hremoved
        · rfl
        · rfl
        · rfl

theorem lookup_keptAnswerHeaders_proto {answer : Json} :
    Json.lookup (keptAnswerHeaders host [] answer) "__proto__" = none := by
  unfold keptAnswerHeaders
  induction ownFields (orDefault (answer.get? "headers") (.obj [])) using List.reverseRecOn with
  | nil => rfl
  | append_singleton fields field ih =>
    simp only [List.foldl_append, List.foldl_cons, List.foldl_nil]
    split_ifs
    · exact ih
    · rw [lookup_setHeader, if_neg fun h => h.2 h.1.symm]
      exact ih

/-! ## In order -/

/-- The header that the edits leave, each made on what the earlier ones left. -/
def composed (held : Option Json) (edits : List HeaderEdit) (name : String) : Option Json :=
  inOrder held (edits.map (Edit.map Json.str)) name

/-- The header is what the edits leave exactly if it is not removed after it was added last. A
header object has nothing under `__proto__`. -/
def Stays (edits : List HeaderEdit) (name : String) : Prop :=
  if name = "__proto__" then UnsetLast (edits.map (Edit.map Json.str)) name
  else SetLast (edits.map (Edit.map Json.str)) name

theorem phases_eq_composed_iff {side : Side} {edits : List HeaderEdit} (hkeeps : Keeps side edits)
    {held : Option Json} {name : String} (hproto : name = "__proto__" → held = none) :
    ((textUnder side.headers name).map Json.str).or (if name ∈ side.removed then none else held) =
      composed held edits name ↔ Stays edits name := by
  rw [hkeeps.text]
  unfold composed Stays
  by_cases hname : name = "__proto__"
  · rw [if_pos hname, if_pos hname, hproto hname, ite_self, ← inOrder_eq_none_iff, eq_comm]
    rfl
  · rw [if_neg hname, if_neg hname, ← @inOrder_eq_inPhases_iff _ _ _ held, eq_comm]
    have hphases : ((lastSet edits name).map Json.str).or
        (if name ∈ side.removed then none else held) =
        inPhases held (edits.map (Edit.map Json.str)) name := by
      unfold inPhases
      rw [lastSet_map, isUnset_map]
      cases lastSet edits name with
      | some value => rfl
      | none => simp only [Option.map_none, Option.none_or, hkeeps.removed]
    rw [hphases]

/-! ## Paths -/

/-- Each rewrite, made on what the earlier ones left. -/
def composedPath : List Rewrite → String → Except JsError String
  | [], path => .ok path
  | rewrite :: rest, path => do
    let rewritten ← rewrite path
    composedPath rest (rewritten.getD path)

/-- Each rewrite makes of the path rewritten so far what it makes of the one the request came
with. -/
def RewritesAlike (original : String) : List Rewrite → String → Prop
  | [], _ => True
  | rewrite :: rest, path =>
    (rewrite path).map (fun rewritten => rewritten.getD path) =
        .ok (onOriginal original rewrite path) ∧
      RewritesAlike original rest (onOriginal original rewrite path)

theorem composedPath_cons (rewrite : Rewrite) (rest : List Rewrite) (path : String) :
    composedPath (rewrite :: rest) path =
      ((rewrite path).map fun rewritten => rewritten.getD path) >>= composedPath rest := by
  rw [composedPath]
  cases rewrite path <;> rfl

theorem rewritesAlike_iff {rewrites : List Rewrite} {path : String} :
    RewritesAlike original rewrites path ↔ ∀ n, composedPath (rewrites.take n) path =
      .ok (rewriteOriginal original (rewrites.take n) path) := by
  induction rewrites generalizing path with
  | nil =>
    refine iff_of_true trivial fun n => ?_
    rw [List.take_nil]
    rfl
  | cons rewrite rest ih =>
    constructor
    · rintro ⟨hfirst, hrest⟩ n
      cases n with
      | zero => rfl
      | succ n =>
        rw [List.take_succ_cons, composedPath_cons, hfirst]
        exact ih.1 hrest n
    · intro h
      have hfirst := h 1
      rw [List.take_succ_cons, List.take_zero, composedPath_cons] at hfirst
      have hone : (rewrite path).map (fun rewritten => rewritten.getD path) =
          .ok (onOriginal original rewrite path) := by
        obtain ⟨next, hnext, hdone⟩ := bind_eq_ok.1 hfirst
        cases hdone
        exact hnext
      refine ⟨hone, ih.2 fun n => ?_⟩
      have hlater := h (n + 1)
      rw [List.take_succ_cons, composedPath_cons, hone] at hlater
      exact hlater

/-! ## What is forwarded and returned -/

/-- A request that the engine decided on and the Edge forwarded, and the answer to it. -/
structure Exchange (config : Config) where
  (route policy : Json)
  request : Request
  hostname : String
  buckets : RateBuckets
  context : Context
  visits : List Visit
  decision : PolicyResult
  left : RateBuckets
  (freshId requestId : String)
  /-- The headers the Edge sets itself. -/
  own : List (String × String)
  headers : FrameHeaders
  body : List UInt8
  answer : Json
  length : ℕ
  (tunnelId targetId : Json)
  policy_eq : policyArgument config.host route = .ok (some policy)
  evaluated : exec (evaluatePolicy config.host policy
    (requestContext config.trustProxy route request hostname)) buckets = (.ok decision, left)
  evaluates : Evaluates config.host policy
    (requestContext config.trustProxy route request hostname) buckets context visits decision left
  allowed : decision.allowed = true
  own_eq : ownHeaders config.host config.secure request hostname freshId decision = .ok own
  headers_eq :
    forwardedHeaders config.host config.secure request hostname freshId decision = .ok headers

namespace Exchange

variable {config : Config} (exchange : Exchange config)

/-- What the executed actions do, in order. -/
def transforms : List Transform :=
  Edge.transforms config.host exchange.context
    (orDefault (exchange.policy.get? "id") (.str "policy")) exchange.visits

/-- The frame that goes to the Relay. -/
def frame : Json :=
  proxyRequestFrame exchange.requestId exchange.route exchange.request exchange.decision
    exchange.headers exchange.body

def returned : FrameHeaders :=
  returnedHeaders config.host exchange.answer exchange.decision exchange.length exchange.tunnelId
    exchange.targetId

/-- The headers and the path that are forwarded, and the headers that are returned, are what the
actions leave, each applied to what the earlier ones left. The Edge sets some headers after it. -/
structure Composes : Prop where
  request : ∃ headers, exchange.frame.get? "headers" = some (.obj headers) ∧
    ∀ name ∉ headerKeys exchange.own, Json.lookup headers name =
      composed (passedOn config.host exchange.request name) (requestEdits exchange.transforms) name
  response : ∀ name ∉ answerNames, Json.lookup exchange.returned name =
    composed (Json.lookup (keptAnswerHeaders config.host [] exchange.answer) name)
      (responseEdits exchange.transforms) name
  path : ∃ path, exchange.frame.get? "path" = text path ∧
    composedPath (rewrites exchange.transforms) exchange.request.url = .ok path

/-- The path agrees after every rewrite, not only after the last. -/
def ComposesOnTheWay : Prop :=
  ∀ n, composedPath ((rewrites exchange.transforms).take n) exchange.request.url =
    .ok (rewriteOriginal exchange.request.url ((rewrites exchange.transforms).take n)
      exchange.request.url)

/-- No added header is removed after it was added last, and each rewrite makes of the path
rewritten so far what it makes of the original. -/
structure Orderly : Prop where
  request : ∀ name ∉ headerKeys exchange.own, Stays (requestEdits exchange.transforms) name
  response : ∀ name ∉ answerNames, Stays (responseEdits exchange.transforms) name
  path : RewritesAlike exchange.request.url (rewrites exchange.transforms) exchange.request.url

variable {exchange}

theorem context_path : exchange.context.path = exchange.request.url :=
  contextOf_path exchange.evaluates.1 exchange.request.url_ne

theorem allRecorded : AllRecorded exchange.request.url exchange.transforms
    (initialResult exchange.policy exchange.request.url) exchange.decision := by
  have hrecorded := allRecorded_rulesRun exchange.evaluates.2
  rw [context_path] at hrecorded
  exact hrecorded

theorem keeps_request :
    Keeps (requestSide exchange.decision) (requestEdits exchange.transforms) := by
  rw [allRecorded.request]
  exact keeps_recorded

theorem keeps_response :
    Keeps (responseSide exchange.decision) (responseEdits exchange.transforms) := by
  rw [allRecorded.response]
  exact keeps_recorded

theorem lookup_headers {name : String} (hname : name ∉ headerKeys exchange.own) :
    Json.lookup exchange.headers name =
      ((textUnder (requestSide exchange.decision).headers name).map Json.str).or
        (if name ∈ (requestSide exchange.decision).removed then none
          else passedOn config.host exchange.request name) := by
  have hheaders := exchange.headers_eq
  obtain ⟨own, hown, hheaders⟩ := bind_eq_ok.1 hheaders
  rw [exchange.own_eq] at hown
  rw [← Except.ok.inj hheaders, ← Except.ok.inj hown, lookup_assign_of_not_mem hname]
  have hmap : HeaderMap exchange.decision.requestHeaders := keeps_request.map
  unfold assignDecided
  rw [lookup_assigned hmap, lookup_keptHeaders]
  congr 1
  unfold passedOn requestSide
  by_cases hremoved : name ∈ exchange.decision.removeRequestHeaders
  · rw [if_pos (.inr (.inl hremoved)), if_pos hremoved]
  · rw [if_neg hremoved]
    simp only [hremoved, false_or]

theorem lookup_returned {name : String} (hname : name ∉ answerNames) :
    Json.lookup exchange.returned name =
      ((textUnder (responseSide exchange.decision).headers name).map Json.str).or
        (if name ∈ (responseSide exchange.decision).removed then none
          else Json.lookup (keptAnswerHeaders config.host [] exchange.answer) name) := by
  unfold answerNames at hname
  simp only [List.mem_cons, List.not_mem_nil, or_false, not_or] at hname
  unfold returned returnedHeaders
  have hmap : HeaderMap exchange.decision.responseHeaders := keeps_response.map
  rw [lookup_setHeader, if_neg fun h => hname.2.2 h.1, lookup_setHeader,
    if_neg fun h => hname.2.1 h.1, lookup_setHeader, if_neg fun h => hname.1 h.1,
    lookup_assigned hmap, lookup_keptAnswerHeaders]
  rfl

theorem path_frame : exchange.frame.get? "path" = text
    (rewriteOriginal exchange.request.url (rewrites exchange.transforms) exchange.request.url) := by
  have hsound : exchange.decision.path ≠ "" :=
    (sound_evaluatePolicy _ _ _ exchange.evaluated).path
  unfold frame
  rw [path_proxyRequestFrame]
  unfold decidedPath
  rw [if_neg hsound, allRecorded.path]
  rfl

/-- **The transformations of a decision compose** if and only if no header is removed after it
was added last, and each rewrite makes of the path rewritten so far what it makes of the path
the request came with. -/
theorem composes_iff (exchange : Exchange config) :
    exchange.Composes ∧ exchange.ComposesOnTheWay ↔ exchange.Orderly := by
  have hrequest : ∀ name ∉ headerKeys exchange.own, (Json.lookup exchange.headers name =
      composed (passedOn config.host exchange.request name) (requestEdits exchange.transforms)
        name ↔ Stays (requestEdits exchange.transforms) name) := by
    intro name hname
    rw [lookup_headers hname]
    exact phases_eq_composed_iff keeps_request fun hproto => if_pos (.inr hproto)
  have hresponse : ∀ name ∉ answerNames, (Json.lookup exchange.returned name =
      composed (Json.lookup (keptAnswerHeaders config.host [] exchange.answer) name)
        (responseEdits exchange.transforms) name ↔
      Stays (responseEdits exchange.transforms) name) := by
    intro name hname
    rw [lookup_returned hname]
    refine phases_eq_composed_iff keeps_response fun hproto => ?_
    rw [hproto]
    exact lookup_keptAnswerHeaders_proto
  have hframe : exchange.frame.get? "headers" = some (.obj exchange.headers) :=
    headers_proxyRequestFrame ..
  have hpath := @rewritesAlike_iff exchange.request.url (rewrites exchange.transforms)
    exchange.request.url
  constructor
  · rintro ⟨⟨⟨headers, hheaders, hcomposed⟩, hreturned, -⟩, hway⟩
    rw [hframe] at hheaders
    cases hheaders
    exact ⟨fun name hname => (hrequest name hname).1 (hcomposed name hname),
      fun name hname => (hresponse name hname).1 (hreturned name hname), hpath.2 hway⟩
  · rintro ⟨hstays, hstaysResponse, halike⟩
    have hway := hpath.1 halike
    refine ⟨⟨⟨exchange.headers, hframe, fun name hname => ?_⟩, fun name hname => ?_,
      ⟨_, path_frame, ?_⟩⟩, hway⟩
    · exact (hrequest name hname).2 (hstays name hname)
    · exact (hresponse name hname).2 (hstaysResponse name hname)
    · have hall := hway (rewrites exchange.transforms).length
      rw [List.take_length] at hall
      exact hall

end Exchange

def addAction : Json :=
  .obj [("type", .str "add_request_headers"), ("headers", .obj [("x-a", .str "1")])]

def removeAction : Json :=
  .obj [("type", .str "remove_request_headers"), ("headers", .arr [.str "x-a"])]

def addRemoveRule : Json := .obj [("actions", .arr [addAction, removeAction])]

def addRemoveRoute : Json :=
  .obj [("policy", .obj [("document", .obj [("rules", .arr [addRemoveRule])])])]

theorem addRemovePath_ne : "/a" ≠ "" := by decide

def addRemoveRequest : Request := ⟨"GET", "/a", addRemovePath_ne, [], none, 0⟩

def addRemoveContext : Context :=
  { requestContext false addRemoveRoute addRemoveRequest "app.test" with
    url := ⟨"/a", fun _ => none⟩ }

def addRemovePolicy : Json :=
  .obj [("enabled", .bool true), ("rules", .arr [addRemoveRule])]

def addRemoveStart : PolicyResult :=
  (initialResult addRemovePolicy "/a").matching addRemoveRule

def addRemoveMiddle : PolicyResult := { addRemoveStart with requestHeaders := [("x-a", "1")] }

def addRemoveDecision : PolicyResult := { addRemoveMiddle with removeRequestHeaders := ["x-a"] }

theorem evaluates_addRemove : Evaluates .plain addRemovePolicy
    (requestContext false addRemoveRoute addRemoveRequest "app.test") .empty addRemoveContext
    [⟨addRemoveRule, [⟨addAction, addRemoveStart, .empty, ⟨addRemoveMiddle, false⟩, .empty⟩,
      ⟨removeAction, addRemoveMiddle, .empty, ⟨addRemoveDecision, false⟩, .empty⟩]⟩]
    addRemoveDecision .empty := by
  refine ⟨rfl, .stop rfl (.next ?_ rfl (.next ?_ rfl .done)) rfl⟩
  · rfl
  · rfl

def addRemoveExchange : Exchange plainConfig where
  route := addRemoveRoute
  policy := addRemovePolicy
  request := addRemoveRequest
  hostname := "app.test"
  buckets := .empty
  context := addRemoveContext
  visits := _
  decision := addRemoveDecision
  left := .empty
  freshId := "f1"
  requestId := "r1"
  own := [("x-forwarded-host", "app.test"), ("x-forwarded-proto", "http"), ("x-forwarded-for", ""),
    ("x-tunnara-request-id", "f1")]
  headers := [("x-a", .str "1"), ("x-forwarded-host", .str "app.test"),
    ("x-forwarded-proto", .str "http"), ("x-forwarded-for", .str ""),
    ("x-tunnara-request-id", .str "f1")]
  body := []
  answer := .obj []
  length := 0
  tunnelId := .str "t1"
  targetId := .str "g1"
  policy_eq := rfl
  evaluated := rfl
  evaluates := evaluates_addRemove
  allowed := rfl
  own_eq := rfl
  headers_eq := rfl

/-- The header that the second action removes is forwarded. -/
theorem not_composes_addRemove :
    ¬ ∀ (config : Config) (exchange : Exchange config), exchange.Composes := by
  intro h
  obtain ⟨headers, hheaders, hcomposed⟩ := (h plainConfig addRemoveExchange).request
  have hframe : addRemoveExchange.frame.get? "headers" = some (.obj addRemoveExchange.headers) :=
    headers_proxyRequestFrame ..
  rw [hframe] at hheaders
  cases hheaders
  have hname : "x-a" ∉ headerKeys addRemoveExchange.own := by decide
  have hheld : composed (passedOn plainConfig.host addRemoveExchange.request "x-a")
      (requestEdits addRemoveExchange.transforms) "x-a" = none := by rfl
  have hadded : Json.lookup addRemoveExchange.headers "x-a" = some (.str "1") := by rfl
  have hsame := hcomposed "x-a" hname
  rw [hheld, hadded] at hsame
  cases hsame

end Tunnara.Edge
