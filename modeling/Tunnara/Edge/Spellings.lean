/-
# One resource, two spellings

The target of a request may be a path or the whole URL, and an upstream takes both for the same
resource. The engine compares `req.url` as it came with the path criteria of its rules, while
the query is read from a URL that is parsed from it. Two requests that differ only in the
spelling get the same decision as long as every rule and every action that is reached reads the
two alike.
-/

import Tunnara.Edge.Transforms

namespace Tunnara.Edge

open Policy Relay Attempt

/-- The same request with its target spelled otherwise. -/
def respelled (context : Context) (path : String) (url : Url) : Context :=
  { context with path := path, url := url }

def SameButPath (result other : PolicyResult) : Prop := other = { result with path := other.path }

/-- Two runs end the same way: both throw, or both return, and the same buckets are left. -/
structure SameRun {α : Type} (Same : α → α → Prop) (x y : Except JsError α × RateBuckets) :
    Prop where
  left : y.2 = x.2
  returns : ∀ a, x.1 = .ok a → ∃ b, y.1 = .ok b ∧ Same a b
  throws : ∀ error, x.1 = .error error → ∃ error', y.1 = .error error'

def SameOutcome (outcome other : Outcome) : Prop :=
  SameButPath outcome.result other.result ∧ other.terminal = outcome.terminal

variable {host : Host} {context : Context} {path : String} {url : Url}
  {result other : PolicyResult} {policyId action : Json}

variable {α β : Type} {actions rules : List Json} {left : RateBuckets} {last : PolicyResult}

variable {buckets : RateBuckets} {Same : α → α → Prop}

theorem sameRun_ok {a b : α} (h : Same a b) :
    SameRun Same (.ok a, buckets) (.ok b, buckets) where
  left := rfl
  returns _ ha := ⟨b, rfl, by cases ha; exact h⟩
  throws _ := nofun

theorem sameRun_error {error error' : JsError} :
    SameRun Same (.error error, buckets) (.error error', buckets) where
  left := rfl
  returns _ := nofun
  throws _ _ := ⟨error', rfl⟩

theorem sameRun_bind {Same : β → β → Prop} {m : PolicyM α} {f g : α → PolicyM β}
    (h : ∀ a left, SameRun Same (exec (f a) left) (exec (g a) left)) :
    SameRun Same (exec (m >>= f) buckets) (exec (m >>= g) buckets) := by
  rw [exec_bind, exec_bind]
  cases exec m buckets with
  | mk ended left =>
    cases ended with
    | ok a => exact h a left
    | error error => exact sameRun_error

theorem SameRun.bind {Same : α → α → Prop} {Same' : β → β → Prop} {m m' : PolicyM α}
    {f g : α → PolicyM β} {buckets : RateBuckets}
    (h : SameRun Same (exec m buckets) (exec m' buckets))
    (hnext : ∀ a a' left, exec m buckets = (.ok a, left) → Same a a' →
      SameRun Same' (exec (f a) left) (exec (g a') left)) :
    SameRun Same' (exec (m >>= f) buckets) (exec (m' >>= g) buckets) := by
  rw [exec_bind, exec_bind]
  cases hfirst : exec m buckets with
  | mk ended left =>
    cases hsecond : exec m' buckets with
    | mk ended' left' =>
      rw [hfirst, hsecond] at h
      have hleft : left' = left := h.left
      subst hleft
      cases ended with
      | error error =>
        obtain ⟨error', hthrows⟩ := h.throws error rfl
        cases hthrows
        exact sameRun_error
      | ok a =>
        obtain ⟨a', hreturns, hsame⟩ := h.returns a rfl
        cases hreturns
        exact hnext a a' _ hfirst hsame

theorem sameRun_lift_bind {Same : β → β → Prop} {x : Except JsError α} {f g : α → PolicyM β}
    (h : ∀ a, x = .ok a → SameRun Same (exec (f a) buckets) (exec (g a) buckets)) :
    SameRun Same (exec (lift x >>= f) buckets) (exec (lift x >>= g) buckets) := by
  rw [exec_lift_bind, exec_lift_bind]
  cases x with
  | ok a => exact h a rfl
  | error error => exact sameRun_error

theorem sameRun_ite {p : Prop} [Decidable p] {f g f' g' : PolicyM α}
    (hpos : p → SameRun Same (exec f buckets) (exec f' buckets))
    (hneg : ¬ p → SameRun Same (exec g buckets) (exec g' buckets)) :
    SameRun Same (exec (if p then f else g) buckets) (exec (if p then f' else g') buckets) := by
  split_ifs with h
  · exact hpos h
  · exact hneg h

/-! ## One action -/

variable (host) in
/-- What an action reads of the spelling: the path that it rewrites, and the key in the query. -/
structure ActionAlike (context other : Context) (action : Json) : Prop where
  key : actionType host action = .ok "api_key" →
    presentedKey host action other = presentedKey host action context
  rewrite : actionType host action = .ok "rewrite_path" →
    (rewriteOf host action other.path).isOk = (rewriteOf host action context.path).isOk

theorem sameOutcome_of_path {next : PolicyResult} {terminal : Bool} {path : String} :
    SameOutcome ⟨next, terminal⟩ ⟨{ next with path := path }, terminal⟩ := ⟨rfl, rfl⟩

theorem sameRun_basicAuth : SameRun SameOutcome
    (exec (lift (basicAuth host action context result)) buckets)
    (exec (lift (basicAuth host action (respelled context path url)
      { result with path := other.path })) buckets) := by
  have hpasses : accountPasses host action (respelled context path url) =
      accountPasses host action context := rfl
  have hpresented : presentedBasic host (respelled context path url) =
      presentedBasic host context := rfl
  rw [basicAuth_eq, basicAuth_eq, hpasses, hpresented]
  cases accountPasses host action context with
  | error error => exact sameRun_error
  | ok passes =>
    cases passes with
    | true => exact sameRun_ok sameOutcome_of_path
    | false =>
      cases textOr host (action.get? "realm") "Tunnara" with
      | error error => exact sameRun_error
      | ok realm => exact sameRun_ok sameOutcome_of_path

theorem sameRun_apiKey (hkey : presentedKey host action (respelled context path url) =
      presentedKey host action context) {buckets : RateBuckets} : SameRun SameOutcome
    (exec (lift (apiKey host action context result)) buckets)
    (exec (lift (apiKey host action (respelled context path url)
      { result with path := other.path })) buckets) := by
  rw [apiKey_eq, apiKey_eq, hkey]
  cases presentedKey host action context with
  | error error => exact sameRun_error
  | ok key =>
    dsimp only [bind, Except.bind]
    cases someM (fun hash => (hash.toJsString host).map fun text =>
      decide (text = host.sha256Hex key)) (list (action.get? "hashes")) with
    | error error => exact sameRun_error
    | ok valid =>
      cases valid with
      | true | false => exact sameRun_ok sameOutcome_of_path

theorem sameOutcome_bearerToken : SameOutcome (bearerToken host action context result)
    (bearerToken host action (respelled context path url) { result with path := other.path }) := by
  have htoken : (respelled context path url).headers = context.headers := rfl
  unfold bearerToken
  rw [htoken]
  dsimp only
  split_ifs
  · exact sameOutcome_of_path
  · cases host.verifyJwt _ action with
    | error message => exact sameOutcome_of_path
    | ok payload =>
      cases textOr host (action.get? "forwardClaimsHeader") "" with
      | error error | ok name => exact sameOutcome_of_path
  · cases host.verifyJwt _ action with
    | error message | ok payload => exact sameOutcome_of_path

theorem sameRun_rewritePath
    (hrewrite : (rewriteOf host action path).isOk = (rewriteOf host action context.path).isOk) :
    SameRun SameOutcome
    (exec (lift (rewritePath host action context result) >>=
      fun next => pure (⟨next, false⟩ : Outcome)) buckets)
    (exec (lift (rewritePath host action (respelled context path url)
      { result with path := other.path }) >>= fun next => pure (⟨next, false⟩ : Outcome))
      buckets) := by
  have hpath : (respelled context path url).path = path := rfl
  rw [rewritePath_eq, rewritePath_eq, hpath]
  cases hfirst : rewriteOf host action context.path with
  | error error =>
    cases hsecond : rewriteOf host action path with
    | error error' => exact sameRun_error
    | ok rewritten =>
      rw [hfirst, hsecond] at hrewrite
      cases hrewrite
  | ok rewritten =>
    cases hsecond : rewriteOf host action path with
    | error error =>
      rw [hfirst, hsecond] at hrewrite
      cases hrewrite
    | ok rewritten' => exact sameRun_ok ⟨rfl, rfl⟩

theorem sameRun_executeAction (hsame : SameButPath result other)
    (halike : ActionAlike host context (respelled context path url) action) : SameRun SameOutcome
      (exec (executeAction host action context result policyId) buckets)
      (exec (executeAction host action (respelled context path url) other policyId) buckets) := by
  rw [hsame]
  refine sameRun_lift_bind fun rawType hraw => sameRun_lift_bind fun text htext => ?_
  have htype : actionType host action = .ok (host.toLowerCase text) := by
    rw [actionType, hraw]
    have hread : (textOr host rawType "" >>= fun text => pure (host.toLowerCase text)) =
        Except.ok (host.toLowerCase text) := bind_eq_ok.2 ⟨text, htext, rfl⟩
    exact hread
  generalize host.toLowerCase text = type at htype
  have hsame : ∀ next : PolicyResult, ∀ terminal : Bool, SameOutcome ⟨next, terminal⟩
      ⟨{ next with path := other.path }, terminal⟩ := fun _ _ => sameOutcome_of_path
  apply sameRun_ite <;> intro hallow
  · exact sameRun_ok (hsame _ _)
  apply sameRun_ite <;> intro hdeny
  · exact sameRun_lift_bind fun status _ => sameRun_ok (hsame _ _)
  apply sameRun_ite <;> intro hredirect
  · exact sameRun_lift_bind fun status _ => sameRun_lift_bind fun location _ =>
      sameRun_ok (hsame _ _)
  apply sameRun_ite <;> intro hrate
  · have hlimit : rateLimit host action (respelled context path url) policyId =
        rateLimit host action context policyId := rfl
    rw [hlimit]
    refine sameRun_bind fun denial left => ?_
    cases denial with
    | none | some retryAfter => exact sameRun_ok (hsame _ _)
  apply sameRun_ite <;> intro hbasic
  · exact sameRun_basicAuth
  apply sameRun_ite <;> intro hkey
  · exact sameRun_apiKey (halike.key (hkey ▸ htype))
  apply sameRun_ite <;> intro hbearer
  · exact sameRun_ok sameOutcome_bearerToken
  apply sameRun_ite <;> intro hadd
  · exact sameRun_lift_bind fun entries _ => sameRun_ok (hsame _ _)
  apply sameRun_ite <;> intro hremove
  · exact sameRun_lift_bind fun names _ => sameRun_ok (hsame _ _)
  apply sameRun_ite <;> intro haddResponse
  · exact sameRun_lift_bind fun entries _ => sameRun_ok (hsame _ _)
  apply sameRun_ite <;> intro hremoveResponse
  · exact sameRun_lift_bind fun names _ => sameRun_ok (hsame _ _)
  apply sameRun_ite <;> intro hrewrite
  · exact sameRun_rewritePath (halike.rewrite (hrewrite ▸ htype))
  · exact sameRun_ok (hsame _ _)

/-! ## What is reached -/

section Reached

variable (host context policyId) (other : Context)

/-- The actions that are reached read the two spellings alike. -/
def ActionsAlike : List Json → PolicyResult → RateBuckets → Prop
  | [], _, _ => True
  | action :: rest, result, buckets =>
    ActionAlike host context other action ∧
      match exec (executeAction host action context result policyId) buckets with
      | (.ok outcome, left) => outcome.terminal = false → ActionsAlike rest outcome.result left
      | (.error _, _) => True

/-- The rules that are reached match both spellings, or neither, or throw on both. -/
def RulesAlike : List Json → PolicyResult → RateBuckets → Prop
  | [], _, _ => True
  | rule :: rest, result, buckets =>
    (ruleApplies host other rule).toOption = (ruleApplies host context rule).toOption ∧
      match ruleApplies host context rule with
      | .error _ => True
      | .ok false => RulesAlike rest result buckets
      | .ok true =>
        let actions := list (rule.get? "actions")
        ActionsAlike host context policyId other actions (result.matching rule) buckets ∧
          match exec (executeActions host context policyId actions (result.matching rule))
              buckets with
          | (.ok next, left) => notFalse (rule.get? "stop") = false → RulesAlike rest next left
          | (.error _, _) => True

end Reached

theorem sameRun_executeActions {buckets : RateBuckets} (hsame : SameButPath result other)
    (halike : ActionsAlike host context policyId (respelled context path url) actions result
      buckets) : SameRun SameButPath
      (exec (executeActions host context policyId actions result) buckets)
      (exec (executeActions host (respelled context path url) policyId actions other) buckets) := by
  induction actions generalizing result other buckets with
  | nil => exact sameRun_ok hsame
  | cons action rest ih =>
    obtain ⟨haction, hrest⟩ := halike
    refine (sameRun_executeAction hsame haction).bind ?_
    intro outcome outcome' left hexec houtcome
    rw [hexec] at hrest
    rw [houtcome.2]
    cases hends : outcome.terminal with
    | true => exact sameRun_ok houtcome.1
    | false => exact ih houtcome.1 (hrest hends)

theorem sameRun_evaluateRules (hsame : SameButPath result other)
    (halike : RulesAlike host context policyId (respelled context path url) rules result buckets) :
    SameRun SameButPath
      (exec (evaluateRules host context policyId rules result) buckets)
      (exec (evaluateRules host (respelled context path url) policyId rules other) buckets) := by
  induction rules generalizing result other buckets with
  | nil => exact sameRun_ok hsame
  | cons rule rest ih =>
    obtain ⟨hrule, hrest⟩ := halike
    unfold evaluateRules
    rw [exec_lift_bind, exec_lift_bind]
    cases hfirst : ruleApplies host context rule with
    | error error =>
      rw [hfirst] at hrule
      cases hsecond : ruleApplies host (respelled context path url) rule with
      | error error' => exact sameRun_error
      | ok applies =>
        rw [hsecond] at hrule
        cases hrule
    | ok applies =>
      rw [hfirst] at hrule hrest
      cases hsecond : ruleApplies host (respelled context path url) rule with
      | error error' =>
        rw [hsecond] at hrule
        cases hrule
      | ok applies' =>
        rw [hsecond] at hrule
        have happlies : applies' = applies := Option.some.inj hrule
        subst happlies
        cases applies' with
        | false => exact ih hsame hrest
        | true =>
          obtain ⟨hactions, hnext⟩ := hrest
          have hmatching : SameButPath (result.matching rule) (other.matching rule) := by
            rw [hsame]
            rfl
          refine (sameRun_executeActions hmatching hactions).bind ?_
          intro next next' left hexec hresult
          rw [hexec] at hnext
          apply sameRun_ite
          · exact fun _ => sameRun_ok hresult
          · exact fun hstop => ih hresult (hnext (Bool.eq_false_iff.2 hstop))

/-! ## Rules that match one spelling only -/

theorem matchedRules_executeAction {outcome : Outcome}
    (h : exec (executeAction host action context result policyId) buckets = (.ok outcome, left)) :
    outcome.result.matchedRules = result.matchedRules := (recorded_of_exec h).rules

theorem matchedRules_actionsRun {executed : List Executed}
    (h : ActionsRun host context policyId actions result buckets executed last left) :
    last.matchedRules = result.matchedRules := by
  induction h with
  | done => rfl
  | terminal hexec => exact matchedRules_executeAction hexec
  | next hexec _ _ ih => rw [ih, matchedRules_executeAction hexec]

/-- The name a rule is listed under. -/
def ruleName (rule : Json) : Json :=
  orDefault (rule.get? "name") (orDefault (rule.get? "id") (.str "unnamed"))

theorem matchedRules_rulesRun {visits : List Visit}
    (h : RulesRun host context policyId rules result buckets visits last left) :
    ∃ names, last.matchedRules = result.matchedRules ++ names ∧ names ⊆ rules.map ruleName := by
  induction h with
  | done => exact ⟨[], (List.append_nil _).symm, List.nil_subset _⟩
  | skip _ _ ih =>
    obtain ⟨names, hnames, hsub⟩ := ih
    exact ⟨names, hnames, List.subset_cons_of_subset _ hsub⟩
  | @stop rule rest result last buckets left executed _ hactions _ =>
    refine ⟨[ruleName rule], ?_, List.cons_subset_cons _ (List.nil_subset _)⟩
    exact matchedRules_actionsRun hactions
  | @next rule rest result middle last buckets left final executed visits _ hactions _ _ ih =>
    obtain ⟨names, hnames, hsub⟩ := ih
    refine ⟨ruleName rule :: names, ?_, List.cons_subset_cons _ hsub⟩
    rw [hnames, matchedRules_actionsRun hactions, List.append_cons]
    rfl

theorem matchedRules_of_applies {rule : Json} {rest : List Json} {buckets : RateBuckets}
    (happlies : ruleApplies host context rule = .ok true)
    (h : exec (evaluateRules host context policyId (rule :: rest) result) buckets =
      (.ok last, left)) :
    ∃ names, last.matchedRules = result.matchedRules ++ ruleName rule :: names := by
  obtain ⟨visits, hrun⟩ := rulesRun_of_exec h
  cases hrun with
  | skip hskip =>
    rw [happlies] at hskip
    cases hskip
  | stop _ hactions _ => exact ⟨[], matchedRules_actionsRun hactions⟩
  | next _ hactions _ hrest =>
    obtain ⟨names, hnames, -⟩ := matchedRules_rulesRun hrest
    refine ⟨names, ?_⟩
    rw [hnames, matchedRules_actionsRun hactions, List.append_cons]
    rfl

theorem isOk_rewriteOf_of_exec {outcome : Outcome}
    (htype : actionType host action = .ok "rewrite_path")
    (h : exec (executeAction host action context result policyId) buckets = (.ok outcome, left)) :
    (rewriteOf host action context.path).isOk = true := by
  obtain ⟨rawType, hraw, h⟩ := exec_lift_bind_ok h
  obtain ⟨text, htext, h⟩ := exec_lift_bind_ok h
  obtain ⟨rawType', hraw', htype⟩ := bind_eq_ok.1 htype
  cases hraw.symm.trans hraw'
  obtain ⟨text', htext', htype⟩ := bind_eq_ok.1 htype
  cases htext.symm.trans htext'
  have hname : host.toLowerCase text = "rewrite_path" := Except.ok.inj htype
  rw [hname] at h
  have hrewrite : exec (lift (rewritePath host action context result) >>= fun next =>
      pure (⟨next, false⟩ : Outcome)) buckets = (.ok outcome, left) := h
  obtain ⟨next, hnext, -⟩ := exec_lift_bind_ok hrewrite
  rw [rewritePath_eq] at hnext
  obtain ⟨rewritten, hrewritten, -⟩ := map_eq_ok.1 hnext
  rw [hrewritten]
  rfl

section Returns

variable (hquery : url.searchParam = context.url.searchParam)

include hquery in
theorem actionsAlike_of_returns {last' : PolicyResult} {buckets left' : RateBuckets}
    (hsame : SameButPath result other)
    (h : exec (executeActions host context policyId actions result) buckets = (.ok last, left))
    (h' : exec (executeActions host (respelled context path url) policyId actions other) buckets =
      (.ok last', left')) :
    ActionsAlike host context policyId (respelled context path url) actions result buckets := by
  induction actions generalizing result other buckets with
  | nil => trivial
  | cons action rest ih =>
    obtain ⟨outcome, middle, hexec, h⟩ := exec_bind_ok h
    obtain ⟨outcome', middle', hexec', h'⟩ := exec_bind_ok h'
    have haction : ActionAlike host context (respelled context path url) action := by
      constructor
      · intro _
        unfold presentedKey respelled
        rw [hquery]
      · intro htype
        rw [isOk_rewriteOf_of_exec htype hexec, isOk_rewriteOf_of_exec htype hexec']
    have hrun : SameRun SameOutcome
        (exec (executeAction host action context result policyId) buckets)
        (exec (executeAction host action (respelled context path url) other policyId) buckets) :=
      sameRun_executeAction hsame haction
    rw [hexec, hexec'] at hrun
    obtain ⟨outcome'', hreturns, hresult, hterminal⟩ := hrun.returns outcome rfl
    cases hreturns
    have hleft : middle' = middle := hrun.left
    subst hleft
    refine ⟨haction, ?_⟩
    rw [hexec]
    intro hends
    rw [hends] at h hterminal
    rw [hterminal] at h'
    exact ih hresult h h'

theorem ruleApplies_of_exec {rule : Json} {rest : List Json} {buckets : RateBuckets}
    (h : exec (evaluateRules host context policyId (rule :: rest) result) buckets =
      (.ok last, left)) : ∃ applies, ruleApplies host context rule = .ok applies := by
  obtain ⟨applies, happlies, -⟩ := exec_lift_bind_ok h
  exact ⟨applies, happlies⟩

include hquery in
theorem rulesAlike_of_returns {last' : PolicyResult} {buckets left' : RateBuckets}
    (hnames : (rules.map ruleName).Nodup) (hsame : SameButPath result other)
    (h : exec (evaluateRules host context policyId rules result) buckets = (.ok last, left))
    (h' : exec (evaluateRules host (respelled context path url) policyId rules other) buckets =
      (.ok last', left')) (hmatched : last'.matchedRules = last.matchedRules) :
    RulesAlike host context policyId (respelled context path url) rules result buckets := by
  have hbefore : other.matchedRules = result.matchedRules := by rw [hsame]
  induction rules generalizing result other buckets with
  | nil => trivial
  | cons rule rest ih =>
    obtain ⟨hnew, hrest⟩ := List.nodup_cons.1 hnames
    obtain ⟨applies, happlies⟩ := ruleApplies_of_exec h
    obtain ⟨applies', happlies'⟩ := ruleApplies_of_exec h'
    have halike : applies' = applies := by
      by_contra hne
      -- the rule is listed for one spelling only
      cases applies with
      | true =>
        have hfalse : applies' = false := by cases applies' <;> simp_all
        subst hfalse
        obtain ⟨names, hlisted⟩ := matchedRules_of_applies happlies h
        rw [evaluateRules_cons_of_not_applies happlies'] at h'
        obtain ⟨visits, hrun⟩ := rulesRun_of_exec h'
        obtain ⟨names', hlisted', hsub⟩ := matchedRules_rulesRun hrun
        rw [hmatched, hlisted, hbefore] at hlisted'
        exact hnew (hsub (List.append_cancel_left hlisted' ▸ List.mem_cons_self))
      | false =>
        have htrue : applies' = true := by cases applies' <;> simp_all
        subst htrue
        obtain ⟨names, hlisted⟩ := matchedRules_of_applies happlies' h'
        rw [evaluateRules_cons_of_not_applies happlies] at h
        obtain ⟨visits, hrun⟩ := rulesRun_of_exec h
        obtain ⟨names', hlisted', hsub⟩ := matchedRules_rulesRun hrun
        rw [← hmatched, hlisted, hbefore] at hlisted'
        exact hnew (hsub (List.append_cancel_left hlisted' ▸ List.mem_cons_self))
    subst halike
    refine ⟨by rw [happlies, happlies'], ?_⟩
    rw [happlies]
    cases applies' with
    | false =>
      rw [evaluateRules_cons_of_not_applies happlies] at h
      rw [evaluateRules_cons_of_not_applies happlies'] at h'
      exact ih hrest hsame h h' hbefore
    | true =>
      unfold evaluateRules at h h'
      rw [exec_lift_bind, happlies] at h
      rw [exec_lift_bind, happlies'] at h'
      dsimp only at h h'
      rw [if_pos rfl] at h h'
      obtain ⟨next, middle, hexec, h⟩ := exec_bind_ok h
      obtain ⟨next', middle', hexec', h'⟩ := exec_bind_ok h'
      have hmatching : SameButPath (result.matching rule) (other.matching rule) := by
        rw [hsame]
        rfl
      have hactions : ActionsAlike host context policyId (respelled context path url)
          (list (rule.get? "actions")) (result.matching rule) buckets :=
        actionsAlike_of_returns hquery hmatching hexec hexec'
      have hrun := sameRun_executeActions hmatching hactions
      have hexecFirst : exec (executeActions host context policyId
          (list (rule.get? "actions")) (result.matching rule)) buckets = (.ok next, middle) :=
        hexec
      have hexecSecond : exec (executeActions host (respelled context path url) policyId
          (list (rule.get? "actions")) (other.matching rule)) buckets = (.ok next', middle') :=
        hexec'
      rw [hexecFirst, hexecSecond] at hrun
      obtain ⟨next'', hreturns, hresult⟩ := hrun.returns next rfl
      cases hreturns
      have hleft : middle' = middle := hrun.left
      subst hleft
      refine ⟨hactions, ?_⟩
      rw [hexecFirst]
      intro hstop
      rw [hstop] at h h'
      exact ih hrest hresult h h' (by rw [hresult])

end Returns

/-! ## Two requests -/

/-- The same request, with the whole URL of its resource as its target. -/
structure Respelled (host : Host) (hostname : String) (request other : Request) : Prop where
  target : startsWith request.url "/" = true
  url : ∃ authority, normalizeHostname host (some (.one authority)) = some hostname ∧
    other.url = "http://" ++ authority ++ request.url
  method : other.method = request.method
  headers : other.headers = request.headers
  remoteAddress : other.remoteAddress = request.remoteAddress
  now : other.now = request.now

/-- What a client and an upstream can tell of a decision. -/
def observed (decided : Except JsError PolicyResult) : Option (Bool × Option Identity × List Json) :=
  decided.toOption.map fun decision => (decision.allowed, decision.identity, decision.matchedRules)

/-- The engine reads both spellings alike, as far as it gets. -/
def ReadAlike (config : Config) (route : Json) (request other : Request) (hostname : String)
    (buckets : RateBuckets) : Prop :=
  ∀ policy, policyArgument config.host route = .ok (some policy) →
    match contextOf config.host (requestContext config.trustProxy route request hostname),
      contextOf config.host (requestContext config.trustProxy route other hostname) with
    | .ok context, .ok context' => policy.get? "enabled" ≠ some (.bool false) →
        RulesAlike config.host context (orDefault (policy.get? "id") (.str "policy")) context'
          (list (policy.get? "rules")) (initialResult policy context.path) buckets
    | .error _, .error _ => True
    | _, _ => False

variable {config : Config} {route : Json} {request respelledRequest : Request} {hostname : String}
  {buckets : RateBuckets}

theorem decision_eq_exec {policy : Json}
    (hargument : policyArgument config.host route = .ok (some policy)) :
    config.decision route request hostname buckets = (exec (evaluatePolicy config.host policy
      (requestContext config.trustProxy route request hostname)) buckets).1 := by
  unfold Config.decision
  rw [policyDecision_of_policyArgument config.host hargument]
  rfl

theorem observed_eq_of_sameRun {x y : Except JsError PolicyResult × RateBuckets}
    (h : SameRun SameButPath x y) : observed y.1 = observed x.1 := by
  cases hx : x.1 with
  | ok decision =>
    obtain ⟨decision', hy, hsame⟩ := h.returns decision hx
    rw [hy]
    rw [hsame]
    rfl
  | error error =>
    obtain ⟨error', hy⟩ := h.throws error hx
    rw [hy]
    rfl

theorem contextOf_respelled (h : Respelled config.host hostname request respelledRequest)
    {context context' : Context}
    (hcontext : contextOf config.host (requestContext config.trustProxy route request hostname) =
      .ok context) (hcontext' : contextOf config.host
      (requestContext config.trustProxy route respelledRequest hostname) = .ok context') :
    context' = respelled context context'.path context'.url := by
  obtain ⟨method, url, url_ne, headers, remoteAddress, now⟩ := request
  obtain ⟨method', url', url_ne', headers', remoteAddress', now'⟩ := respelledRequest
  have hmethod := h.method
  have hheaders := h.headers
  have haddress := h.remoteAddress
  have hnow := h.now
  subst hmethod hheaders haddress hnow
  unfold contextOf at hcontext hcontext'
  dsimp only [requestContext] at hcontext hcontext'
  split at hcontext
  · cases hcontext
  · split at hcontext'
    · cases hcontext'
    · cases hcontext
      cases hcontext'
      rfl

theorem observed_eq_of_readAlike (hrespelled : Respelled config.host hostname request respelledRequest)
    (halike : ReadAlike config route request respelledRequest hostname buckets) :
    observed (config.decision route respelledRequest hostname buckets) =
      observed (config.decision route request hostname buckets) := by
  cases hargument : policyArgument config.host route with
  | error error =>
    unfold Config.decision policyDecision
    rw [hargument]
    rfl
  | ok argument =>
    cases argument with
    | none =>
      unfold Config.decision policyDecision
      rw [hargument]
      rfl
    | some policy =>
      have hread := halike policy hargument
      rw [decision_eq_exec hargument, decision_eq_exec hargument]
      unfold evaluatePolicy
      rw [exec_lift_bind, exec_lift_bind]
      cases hcontext : contextOf config.host
          (requestContext config.trustProxy route request hostname) with
      | error error =>
        rw [hcontext] at hread
        cases hcontext' : contextOf config.host
            (requestContext config.trustProxy route respelledRequest hostname) with
        | error error' => rfl
        | ok context' =>
          rw [hcontext'] at hread
          exact absurd hread id
      | ok context =>
        rw [hcontext] at hread
        cases hcontext' : contextOf config.host
            (requestContext config.trustProxy route respelledRequest hostname) with
        | error error' =>
          rw [hcontext'] at hread
          exact absurd hread id
        | ok context' =>
          rw [hcontext'] at hread
          rw [contextOf_respelled hrespelled hcontext hcontext'] at hread ⊢
          apply observed_eq_of_sameRun
          have hinitial : SameButPath (initialResult policy context.path)
              (initialResult policy context'.path) := rfl
          apply sameRun_ite
          · exact fun _ => sameRun_ok hinitial
          · exact fun henabled => sameRun_evaluateRules hinitial (hread henabled)

/-- The two decisions can be told apart by what they list: both return, the names of the rules are
distinct, and the query is read alike. -/
structure Told (config : Config) (route : Json) (request other : Request) (hostname : String)
    (buckets : RateBuckets) : Prop where
  returns : (config.decision route request hostname buckets).isOk = true
  returns' : (config.decision route other hostname buckets).isOk = true
  names : ∀ policy, policyArgument config.host route = .ok (some policy) →
    ((list (policy.get? "rules")).map ruleName).Nodup
  query : ∀ context context',
    contextOf config.host (requestContext config.trustProxy route request hostname) = .ok context →
    contextOf config.host (requestContext config.trustProxy route other hostname) = .ok context' →
    context'.url.searchParam = context.url.searchParam

theorem exec_evaluatePolicy {policy : Json} {sent : RequestContext} {decision : PolicyResult}
    (h : exec (evaluatePolicy host policy sent) buckets = (.ok decision, left)) :
    ∃ context, contextOf host sent = .ok context ∧
      (policy.get? "enabled" ≠ some (.bool false) →
        exec (evaluateRules host context (orDefault (policy.get? "id") (.str "policy"))
          (list (policy.get? "rules")) (initialResult policy context.path)) buckets =
            (.ok decision, left)) := by
  obtain ⟨context, hcontext, h⟩ := exec_lift_bind_ok h
  refine ⟨context, hcontext, fun henabled => ?_⟩
  rw [if_neg henabled] at h
  exact h

theorem readAlike_of_observed_eq
    (hrespelled : Respelled config.host hostname request respelledRequest)
    (htold : Told config route request respelledRequest hostname buckets)
    (hsame : observed (config.decision route respelledRequest hostname buckets) =
      observed (config.decision route request hostname buckets)) :
    ReadAlike config route request respelledRequest hostname buckets := by
  intro policy hargument
  have hreturns := htold.returns
  have hreturns' := htold.returns'
  rw [decision_eq_exec hargument] at hreturns hreturns' hsame
  rw [decision_eq_exec hargument] at hsame
  cases hexec : exec (evaluatePolicy config.host policy
      (requestContext config.trustProxy route request hostname)) buckets with
  | mk ended left =>
    cases hexec' : exec (evaluatePolicy config.host policy
        (requestContext config.trustProxy route respelledRequest hostname)) buckets with
    | mk ended' left' =>
      rw [hexec] at hreturns hsame
      rw [hexec'] at hreturns' hsame
      cases ended with
      | error error => cases hreturns
      | ok decision =>
        cases ended' with
        | error error => cases hreturns'
        | ok decision' =>
          obtain ⟨context, hcontext, hrules⟩ := exec_evaluatePolicy hexec
          obtain ⟨context', hcontext', hrules'⟩ := exec_evaluatePolicy hexec'
          have hquery := htold.query context context' hcontext hcontext'
          rw [hcontext, hcontext']
          intro henabled
          have hother := contextOf_respelled hrespelled hcontext hcontext'
          rw [hother] at hrules' ⊢
          have hmatched : decision'.matchedRules = decision.matchedRules :=
            (Prod.mk.inj (Prod.mk.inj (Option.some.inj hsame)).2).2
          have hinitial : SameButPath (initialResult policy context.path)
              (initialResult policy context'.path) := rfl
          exact rulesAlike_of_returns hquery (htold.names policy hargument) hinitial
            (hrules henabled) (hrules' henabled) hmatched

/-- **Both spellings get the same decision** as long as every rule that is reached matches both
or neither, and the actions that are reached rewrite both paths or neither and read the same key.
Where the decisions can be told apart, they get the same decision in no other case. -/
theorem observed_respelled (hrespelled : Respelled config.host hostname request respelledRequest) :
    (ReadAlike config route request respelledRequest hostname buckets →
      observed (config.decision route respelledRequest hostname buckets) =
        observed (config.decision route request hostname buckets)) ∧
    (Told config route request respelledRequest hostname buckets →
      (observed (config.decision route respelledRequest hostname buckets) =
        observed (config.decision route request hostname buckets) ↔
      ReadAlike config route request respelledRequest hostname buckets)) :=
  ⟨observed_eq_of_readAlike hrespelled, fun htold =>
    ⟨readAlike_of_observed_eq hrespelled htold, observed_eq_of_readAlike hrespelled⟩⟩

def adminPolicy : Json :=
  .obj [("rules", .arr [.obj [("name", .str "admin"),
    ("match", .obj [("pathPrefix", .str "/admin")]),
    ("actions", .arr [.obj [("type", .str "deny")]])]])]

def adminRoute : Json := .obj [("policy", .obj [("document", adminPolicy)])]

def adminRequest : Request := ⟨"GET", "/admin", by decide, [("host", .one "app.test")], none, 0⟩

def adminAbsolute : Request :=
  ⟨"GET", "http://app.test/admin", by decide, [("host", .one "app.test")], none, 0⟩

theorem respelled_admin : Respelled plainConfig.host "app.test" adminRequest adminAbsolute :=
  ⟨by decide, ⟨"app.test", by decide, by decide⟩, rfl, rfl, rfl, rfl⟩

/-- `/admin` is refused, and the whole URL of the same resource is let through. -/
theorem not_observed_respelled_admin : ¬ ∀ (config : Config) (route : Json)
    (request other : Request) (hostname : String) (buckets : RateBuckets),
    Respelled config.host hostname request other →
    observed (config.decision route other hostname buckets) =
      observed (config.decision route request hostname buckets) := by
  intro h
  have hsame := h plainConfig adminRoute adminRequest adminAbsolute "app.test" .empty respelled_admin
  have hallowed : observed (plainConfig.decision adminRoute adminAbsolute "app.test" .empty) =
      some (true, none, []) := by decide +kernel
  have hrefused : observed (plainConfig.decision adminRoute adminRequest "app.test" .empty) =
      some (false, none, [.str "admin"]) := by decide +kernel
  rw [hallowed, hrefused] at hsame
  cases hsame

def publicRequest : Request := ⟨"GET", "/public", by decide, [("host", .one "app.test")], none, 0⟩

def publicAbsolute : Request :=
  ⟨"GET", "http://app.test/public", by decide, [("host", .one "app.test")], none, 0⟩

theorem readAlike_public :
    ReadAlike plainConfig adminRoute publicRequest publicAbsolute "app.test" .empty := by
  intro policy hpolicy
  cases hpolicy
  intro _
  exact ⟨by decide +kernel, trivial⟩

/-- Elsewhere both spellings are let through. -/
theorem observed_respelled_public :
    Respelled plainConfig.host "app.test" publicRequest publicAbsolute ∧
      observed (plainConfig.decision adminRoute publicAbsolute "app.test" .empty) =
        observed (plainConfig.decision adminRoute publicRequest "app.test" .empty) := by
  have hrespelled : Respelled plainConfig.host "app.test" publicRequest publicAbsolute :=
    ⟨by decide, ⟨"app.test", by decide, by decide⟩, rfl, rfl, rfl, rfl⟩
  exact ⟨hrespelled, (observed_respelled hrespelled).1 readAlike_public⟩

end Tunnara.Edge
