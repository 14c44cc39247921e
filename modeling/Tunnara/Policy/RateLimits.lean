/-
# Rate limits that share their buckets

Every `rate_limit` action of every policy counts in one map, under the policy id and the text of
the identity. An action has windows of its own exactly as far as no other action and no other
kind of identity has counted under the same text. The requests of a run are listed as they reach
the actions, and the map is compared with one window for each action and identity.
-/

import Tunnara.Data.Tally
import Tunnara.Policy.Refusals

namespace Tunnara.Policy

open Attempt Tally

/-- Where a `rate_limit` action stands: its policy, its rule and its position there. -/
structure Place where
  (policy rule action : ℕ)
  deriving DecidableEq

/-- A request reaches a `rate_limit` action. -/
structure Reach where
  place : Place
  (action policyId : Json)
  context : Context
  outcome : Except JsError (Option String)

/-- The action refuses the request. -/
def Reach.refused (reach : Reach) : Bool :=
  match reach.outcome with
  | .ok (some _) => true
  | _ => false

/-- One of the policies is evaluated for a request. -/
structure Call where
  policy : ℕ
  request : RequestContext

variable (host : Host)

/-! ## The actions that are reached -/

def actionReaches (context : Context) (policyId : Json) (place : Place) (action : Json)
    (buckets : RateBuckets) : List Reach :=
  if actionType host action = .ok "rate_limit" then
    [⟨place, action, policyId, context, (exec (rateLimit host action context policyId) buckets).1⟩]
  else []

/-- The actions of a rule, from the one at `index` on. -/
def actionsReaches (context : Context) (policyId : Json) (policy rule : ℕ) :
    ℕ → List Json → PolicyResult → RateBuckets → List Reach
  | _, [], _, _ => []
  | index, action :: rest, result, buckets =>
    actionReaches host context policyId ⟨policy, rule, index⟩ action buckets ++
      match exec (executeAction host action context result policyId) buckets with
      | (.ok outcome, left) =>
        if outcome.terminal then []
        else actionsReaches context policyId policy rule (index + 1) rest outcome.result left
      | (.error _, _) => []

/-- The rules of a policy, from the one at `index` on. -/
def rulesReaches (context : Context) (policyId : Json) (policy : ℕ) :
    ℕ → List Json → PolicyResult → RateBuckets → List Reach
  | _, [], _, _ => []
  | index, rule :: rest, result, buckets =>
    match ruleApplies host context rule with
    | .error _ => []
    | .ok false => rulesReaches context policyId policy (index + 1) rest result buckets
    | .ok true =>
      let name := orDefault (rule.get? "name") (orDefault (rule.get? "id") (.str "unnamed"))
      let matched := { result with matchedRules := result.matchedRules ++ [name] }
      let actions := list (rule.get? "actions")
      actionsReaches host context policyId policy index 0 actions matched buckets ++
        match exec (executeActions host context policyId actions matched) buckets with
        | (.ok result, left) =>
          if notFalse (rule.get? "stop") then []
          else rulesReaches context policyId policy (index + 1) rest result left
        | (.error _, _) => []

variable (policies : ℕ → Json)

/-- The id that the engine counts under. -/
def policyIdOf (policy : ℕ) : Json := orDefault ((policies policy).get? "id") (.str "policy")

def callReaches (call : Call) (buckets : RateBuckets) : List Reach :=
  match contextOf host call.request with
  | .error _ => []
  | .ok context =>
    if (policies call.policy).get? "enabled" = some (.bool false) then []
    else rulesReaches host context (policyIdOf policies call.policy) call.policy 0
      (list ((policies call.policy).get? "rules"))
      (initialResult (policies call.policy) context.path) buckets

/-- What an evaluation leaves in the buckets. -/
def serve (buckets : RateBuckets) (call : Call) : RateBuckets :=
  (exec (evaluatePolicy host (policies call.policy) call.request) buckets).2

/-- What the requests of a run reach, in order. -/
def runReaches : List Call → RateBuckets → List Reach
  | [], _ => []
  | call :: rest, buckets =>
    callReaches host policies call buckets ++ runReaches rest (serve host policies buckets call)

/-! ## The buckets are what the reached actions count -/

/-- The reached actions, one after the other, from these buckets to those. -/
inductive Replay : RateBuckets → List Reach → RateBuckets → Prop
  | nil {buckets : RateBuckets} : Replay buckets [] buckets
  | cons {buckets left last : RateBuckets} {reach : Reach} {rest : List Reach}
      (hreach : exec (rateLimit host reach.action reach.context reach.policyId) buckets =
        (reach.outcome, left))
      (hrest : Replay left rest last) : Replay buckets (reach :: rest) last

variable {host} {policies}

variable {last : RateBuckets} {calls : List Call}

theorem Replay.append {buckets middle : RateBuckets} {first second : List Reach}
    (hfirst : Replay host buckets first middle) (hsecond : Replay host middle second last) :
    Replay host buckets (first ++ second) last := by
  induction hfirst with
  | nil => exact hsecond
  | cons hreach _ ih => exact .cons hreach (ih hsecond)

variable {context : Context} {policyId : Json} {result : PolicyResult} {buckets : RateBuckets}

theorem left_typeEvents (type : String) (action : Json) :
    (typeEvents host type action context policyId buckets).2 =
      if type = "rate_limit" then (exec (rateLimit host action context policyId) buckets).2
      else buckets := by
  by_cases hrate : type = "rate_limit"
  · subst hrate
    unfold typeEvents
    cases exec (rateLimit host action context policyId) buckets with
    | mk outcome left =>
      cases outcome with
      | error error => rfl
      | ok denial => cases denial <;> rfl
  · rw [if_neg hrate]
    unfold typeEvents
    split_ifs <;> rfl

theorem replay_executeAction (place : Place) (action : Json) :
    Replay host buckets (actionReaches host context policyId place action buckets)
      (exec (executeAction host action context result policyId) buckets).2 := by
  rw [follows_executeAction.left]
  unfold actionReaches actionEvents
  cases htype : actionType host action with
  | error error => exact .nil
  | ok type =>
    rw [left_typeEvents]
    by_cases hrate : type = "rate_limit"
    · rw [if_pos (congrArg _ hrate), if_pos hrate]
      exact .cons rfl .nil
    · rw [if_neg fun h => hrate (Except.ok.inj h), if_neg hrate]
      exact .nil

theorem replay_executeActions (policy rule index : ℕ) (actions : List Json) :
    Replay host buckets
      (actionsReaches host context policyId policy rule index actions result buckets)
      (exec (executeActions host context policyId actions result) buckets).2 := by
  induction actions generalizing index result buckets with
  | nil => exact .nil
  | cons action rest ih =>
    have hfirst := @replay_executeAction host context policyId result buckets
      ⟨policy, rule, index⟩ action
    unfold actionsReaches executeActions
    rw [exec_bind]
    cases hexec : exec (executeAction host action context result policyId) buckets with
    | mk returned left =>
      rw [hexec] at hfirst
      cases returned with
      | error error => exact hfirst.append .nil
      | ok outcome =>
        dsimp only
        split_ifs
        · exact hfirst.append .nil
        · exact hfirst.append (ih (index + 1))

theorem replay_evaluateRules (policy index : ℕ) (rules : List Json) :
    Replay host buckets (rulesReaches host context policyId policy index rules result buckets)
      (exec (evaluateRules host context policyId rules result) buckets).2 := by
  induction rules generalizing index result buckets with
  | nil => exact .nil
  | cons rule rest ih =>
    unfold rulesReaches evaluateRules
    rw [exec_lift_bind]
    cases ruleApplies host context rule with
    | error error => exact .nil
    | ok applies =>
      cases applies with
      | false => exact ih (index + 1)
      | true =>
        dsimp only
        rw [if_pos rfl, exec_bind]
        generalize { result with matchedRules := result.matchedRules ++
          [orDefault (rule.get? "name") (orDefault (rule.get? "id") (.str "unnamed"))] } =
          matched
        have hfirst := @replay_executeActions host context policyId matched buckets
          policy index 0 (list (rule.get? "actions"))
        cases hexec : exec (executeActions host context policyId
            (list (rule.get? "actions")) matched) buckets with
        | mk returned left =>
          rw [hexec] at hfirst
          cases returned with
          | error error => exact hfirst.append .nil
          | ok last =>
            split_ifs
            · exact hfirst.append .nil
            · exact hfirst.append (ih (index + 1))

theorem replay_serve (call : Call) : Replay host buckets
    (callReaches host policies call buckets) (serve host policies buckets call) := by
  unfold callReaches serve evaluatePolicy
  rw [exec_lift_bind]
  cases contextOf host call.request with
  | error error => exact .nil
  | ok context =>
    split_ifs
    · exact .nil
    · exact replay_evaluateRules call.policy 0 _

theorem replay_run (calls : List Call) (buckets : RateBuckets) : Replay host buckets
    (runReaches host policies calls buckets) (calls.foldl (serve host policies) buckets) := by
  induction calls generalizing buckets with
  | nil => exact .nil
  | cons call rest ih => exact (replay_serve call).append (ih _)

variable {reach : Reach}

/-! ## A place determines its action -/

theorem mem_actionsReaches {policy rule index : ℕ} {actions : List Json}
    (h : reach ∈ actionsReaches host context policyId policy rule index actions result buckets) :
    reach.policyId = policyId ∧ ∃ k, actions[k]? = some reach.action ∧
      reach.place = ⟨policy, rule, index + k⟩ := by
  induction actions generalizing index result buckets with
  | nil => cases h
  | cons action rest ih =>
    rcases List.mem_append.1 h with hfirst | hrest
    · unfold actionReaches at hfirst
      split_ifs at hfirst
      · cases List.mem_singleton.1 hfirst
        exact ⟨rfl, 0, rfl, rfl⟩
      · cases hfirst
    · split at hrest
      · split_ifs at hrest
        · cases hrest
        · obtain ⟨hid, k, haction, hplace⟩ := ih hrest
          exact ⟨hid, k + 1, haction, by rw [hplace, Nat.add_assoc, Nat.add_comm 1]⟩
      · cases hrest

theorem mem_rulesReaches {policy index : ℕ} {rules : List Json}
    (h : reach ∈ rulesReaches host context policyId policy index rules result buckets) :
    reach.policyId = policyId ∧ ∃ k rule j, rules[k]? = some rule ∧
      (list (rule.get? "actions"))[j]? = some reach.action ∧
      reach.place = ⟨policy, index + k, j⟩ := by
  induction rules generalizing index result buckets with
  | nil => cases h
  | cons rule rest ih =>
    have hlater {next : PolicyResult} {left : RateBuckets} (hrest : reach ∈
        rulesReaches host context policyId policy (index + 1) rest next left) :
        reach.policyId = policyId ∧ ∃ k found j, (rule :: rest)[k]? = some found ∧
          (list (found.get? "actions"))[j]? = some reach.action ∧
          reach.place = ⟨policy, index + k, j⟩ := by
      obtain ⟨hid, k, found, j, hfound, haction, hplace⟩ := ih hrest
      exact ⟨hid, k + 1, found, j, hfound, haction, by rw [hplace, Nat.add_assoc, Nat.add_comm 1]⟩
    unfold rulesReaches at h
    split at h
    · cases h
    · exact hlater h
    · rcases List.mem_append.1 h with hfirst | hrest
      · obtain ⟨hid, j, haction, hplace⟩ := mem_actionsReaches hfirst
        exact ⟨hid, 0, rule, j, rfl, haction, by rw [hplace, Nat.add_zero, Nat.zero_add]⟩
      · split at hrest
        · split_ifs at hrest
          · cases hrest
          · exact hlater hrest
        · cases hrest

theorem mem_callReaches {call : Call} (h : reach ∈ callReaches host policies call buckets) :
    reach.policyId = policyIdOf policies reach.place.policy ∧
      ∃ rule, (list ((policies reach.place.policy).get? "rules"))[reach.place.rule]? = some rule ∧
        (list (rule.get? "actions"))[reach.place.action]? = some reach.action := by
  unfold callReaches at h
  split at h
  · cases h
  · split_ifs at h
    · cases h
    · obtain ⟨hid, k, rule, j, hrule, haction, hplace⟩ := mem_rulesReaches h
      rw [hplace]
      exact ⟨hid, rule, by rw [Nat.zero_add]; exact hrule, haction⟩

theorem mem_runReaches (h : reach ∈ runReaches host policies calls buckets) :
    ∃ call buckets, reach ∈ callReaches host policies call buckets := by
  induction calls generalizing buckets with
  | nil => cases h
  | cons call rest ih =>
    rcases List.mem_append.1 h with hfirst | hrest
    · exact ⟨call, buckets, hfirst⟩
    · exact ih hrest

theorem action_of_place {first second : Reach}
    (hfirst : first ∈ runReaches host policies calls buckets)
    (hsecond : second ∈ runReaches host policies calls buckets)
    (hplace : first.place = second.place) :
    first.action = second.action ∧ first.policyId = second.policyId := by
  obtain ⟨_, _, hfirst⟩ := mem_runReaches hfirst
  obtain ⟨_, _, hsecond⟩ := mem_runReaches hsecond
  obtain ⟨hid, rule, hrule, haction⟩ := mem_callReaches hfirst
  obtain ⟨hid', rule', hrule', haction'⟩ := mem_callReaches hsecond
  rw [hplace] at hid hrule haction
  rw [hrule] at hrule'
  cases hrule'
  rw [haction] at haction'
  exact ⟨Option.some.inj haction', hid.trans hid'.symm⟩

/-! ## Windows of one action for one identity -/

/-- A window: when its first request came, in milliseconds, and how many it has counted. -/
structure Window where
  start : ℚ
  count : ℕ

/-- The end of a window that lasts so many seconds. -/
def windowEnd (seconds : JsNumber) (start : ℚ) : JsNumber :=
  seconds.map fun length => start + length * 1000

/-- A request belongs to the window that covers it, or starts the next. -/
def Window.next (seconds : JsNumber) (now : ℚ) : Option Window → Window
  | some window =>
    if (windowEnd seconds window.start).atMost now then ⟨now, 1⟩
    else ⟨window.start, window.count + 1⟩
  | none => ⟨now, 1⟩

/-- A request counts in the bucket that covers it, or in a new one. -/
def nextBucket (seconds : JsNumber) (now : ℚ) (held : Option Bucket) : Bucket :=
  let fresh : Bucket := ⟨0, windowEnd seconds now⟩
  let bucket := match held with
    | some bucket => if bucket.resetAt.atMost now then fresh else bucket
    | none => fresh
  { bucket with count := bucket.count + 1 }

namespace Reach

variable (host)

def stated (reach : Reach) (name : String) : Except JsError JsNumber :=
  match reach.action.get? name with
  | none => .ok (.fin 60)
  | some v => v.toNumber host

/-- The number that the engine takes. -/
def taken (reach : Reach) (name : String) : Except JsError JsNumber :=
  (numberOr host (reach.action.get? name) 60).map (JsNumber.max 1)

/-- The key value of the request for the kind of key that the action has. -/
def identity (reach : Reach) : String :=
  match textOr host (reach.action.get? "key") "sourceIp" with
  | .ok keyTemplate => rateIdentity host reach.context keyTemplate
  | .error _ => ""

/-- An action counts separately for every key value. -/
def counter (reach : Reach) : Place × String := (reach.place, reach.identity host)

/-- The text that the engine counts under. -/
def bucketKey (reach : Reach) : Except JsError String := do
  let keyTemplate ← textOr host (reach.action.get? "key") "sourceIp"
  let policyText ← reach.policyId.toJsString host
  return policyText ++ ":" ++ rateIdentity host reach.context keyTemplate

/-- The window of the reach, from the earlier reaches of its own counter. -/
def ownWindow (seconds : JsNumber) (before : List Reach) (reach : Reach) : Window :=
  Window.next seconds reach.context.now
    (own (fun other : Reach => Window.next seconds other.context.now) none
      (before.filter fun other => other.counter host = reach.counter host))

/-- The action refuses exactly when its own window has counted more than `requests`. -/
def RefusesByOwn (before : List Reach) (reach : Reach) : Prop :=
  ∀ limit seconds, reach.stated host "requests" = .ok limit →
    reach.stated host "windowSeconds" = .ok seconds →
      (reach.refused = true ↔ limit.exceeds (reach.ownWindow host seconds before).count = true)

/-- The engine takes the numbers as they are stated, and nothing else has counted under the
text of the reach. -/
structure Alone (before : List Reach) (reach : Reach) : Prop where
  requests : ∃ limit, reach.stated host "requests" = .ok limit ∧
    reach.taken host "requests" = .ok limit
  windowSeconds : ∃ seconds, reach.stated host "windowSeconds" = .ok seconds ∧
    reach.taken host "windowSeconds" = .ok seconds
  key : ∃ text, reach.bucketKey host = .ok text
  own : ∀ other ∈ before, other.bucketKey host = reach.bucketKey host →
    other.counter host = reach.counter host

/-- The text counted under, where it converts. -/
def keyText (reach : Reach) : String := ((reach.bucketKey host).toOption).getD ""

/-- The bucket that the engine writes. -/
def counted (reach : Reach) (held : Option Bucket) : Bucket :=
  nextBucket (((reach.taken host "windowSeconds").toOption).getD .nan) reach.context.now held

variable {host} {before : List Reach}

theorem exec_set_ite {read : RateBuckets} {key retryAfter : String} {bucket : Bucket}
    {limit : JsNumber} : exec (do
      set (read.set key bucket)
      if limit.exceeds bucket.count then return some retryAfter
      else return none : PolicyM (Option String)) buckets =
        (.ok (if limit.exceeds bucket.count then some retryAfter else none),
          read.set key bucket) := by
  rw [exec_bind]
  split_ifs <;> rfl

theorem exec_of_alone (h : reach.Alone host before) {limit : JsNumber}
    (hlimit : reach.taken host "requests" = .ok limit) {outcome : Except JsError (Option String)}
    {left : RateBuckets}
    (hexec : exec (rateLimit host reach.action reach.context reach.policyId) buckets =
      (outcome, left)) :
    left = touch (keyText host) (counted host) buckets reach ∧
      ((∃ text, outcome = .ok (some text)) ↔
        limit.exceeds (reach.counted host (buckets.get? (reach.keyText host))).count = true) := by
  obtain ⟨seconds, -, hseconds⟩ := h.windowSeconds
  obtain ⟨text, htext⟩ := h.key
  obtain ⟨rawLimit, hrawLimit, rfl⟩ := map_eq_ok.1 hlimit
  obtain ⟨rawSeconds, hrawSeconds, hmax⟩ := map_eq_ok.1 hseconds
  have hbucketKey := htext
  obtain ⟨keyTemplate, hkey, htext⟩ := bind_eq_ok.1 htext
  obtain ⟨policyText, hpolicy, htext⟩ := bind_eq_ok.1 htext
  cases htext
  have hkeyText : reach.keyText host =
      policyText ++ ":" ++ rateIdentity host reach.context keyTemplate := by
    rw [keyText, hbucketKey]
    rfl
  have hcounted : ∀ held, reach.counted host held =
      nextBucket (JsNumber.max 1 rawSeconds) reach.context.now held := by
    intro held
    rw [counted, hseconds, ← hmax]
    rfl
  unfold rateLimit at hexec
  rw [exec_lift_bind, hrawLimit] at hexec
  dsimp only at hexec
  rw [exec_lift_bind, hrawSeconds] at hexec
  dsimp only at hexec
  rw [exec_lift_bind, hkey] at hexec
  dsimp only at hexec
  rw [exec_lift_bind, hpolicy] at hexec
  dsimp only at hexec
  rw [exec_bind, exec_get] at hexec
  dsimp only at hexec
  rw [exec_set_ite] at hexec
  cases hexec
  unfold touch
  rw [hcounted, hkeyText]
  refine ⟨rfl, ?_⟩
  split_ifs with hexceeds
  · exact iff_of_true ⟨_, rfl⟩ hexceeds
  · exact iff_of_false nofun hexceeds

def Shows (seconds : JsNumber) (bucket : Bucket) (window : Window) : Prop :=
  bucket.count = window.count ∧ bucket.resetAt = windowEnd seconds window.start

theorem shows_next {seconds : JsNumber} {now : ℚ} {held : Option Bucket}
    {shown : Option Window} (h : Option.Rel (Shows seconds) held shown) :
    Shows seconds (nextBucket seconds now held) (Window.next seconds now shown) := by
  cases h with
  | none => exact ⟨rfl, rfl⟩
  | @some bucket window hshows =>
    obtain ⟨hcount, hend⟩ := hshows
    unfold nextBucket Window.next
    dsimp only
    rw [hend]
    split_ifs
    · exact ⟨rfl, rfl⟩
    · exact ⟨congrArg (· + 1) hcount, hend⟩

/-! ## The shared map under the condition -/

variable {reaches : List Reach}

def EachAlone (host : Host) (reaches : List Reach) : Prop :=
  ∀ before reach after, reaches = before ++ reach :: after → reach.Alone host before

theorem EachAlone.mem (h : EachAlone host reaches) (hreach : reach ∈ reaches) :
    ∃ earlier, reach.Alone host earlier := by
  obtain ⟨earlier, later, rfl⟩ := List.append_of_mem hreach
  exact ⟨earlier, h earlier reach later rfl⟩

theorem replay_append_inv {first second : List Reach}
    (h : Replay host buckets (first ++ second) last) :
    ∃ middle, Replay host buckets first middle ∧ Replay host middle second last := by
  induction first generalizing buckets with
  | nil => exact ⟨buckets, .nil, h⟩
  | cons reach rest ih =>
    cases h with
    | cons hreach hrest =>
      obtain ⟨middle, hfirst, hsecond⟩ := ih hrest
      exact ⟨middle, .cons hreach hfirst, hsecond⟩

theorem touches_of_replay (h : Replay host buckets reaches last)
    (halone : ∀ reach ∈ reaches, ∃ earlier, reach.Alone host earlier) :
    last = reaches.foldl (touch (keyText host) (counted host)) buckets := by
  induction h with
  | nil => rfl
  | cons hreach _ ih =>
    obtain ⟨earlier, hfirst⟩ := halone _ List.mem_cons_self
    obtain ⟨limit, -, hlimit⟩ := hfirst.requests
    rw [ih fun other hother => halone other (List.mem_cons_of_mem _ hother),
      (exec_of_alone hfirst hlimit hreach).1, List.foldl_cons]

theorem refused_iff : reach.refused = true ↔ ∃ text, reach.outcome = .ok (some text) := by
  unfold refused
  split
  · rename_i text houtcome
    exact iff_of_true rfl ⟨text, houtcome⟩
  · rename_i houtcome
    refine iff_of_false nofun ?_
    rintro ⟨text, htext⟩
    exact houtcome text htext

theorem bucketKey_of_counter {other : Reach} (haction : other.action = reach.action)
    (hid : other.policyId = reach.policyId) (hcounter : other.counter host = reach.counter host) :
    other.bucketKey host = reach.bucketKey host := by
  have hidentity : other.identity host = reach.identity host := (Prod.mk.inj hcounter).2
  unfold identity at hidentity
  unfold bucketKey
  rw [haction] at hidentity ⊢
  rw [hid]
  cases hkey : textOr host (reach.action.get? "key") "sourceIp" with
  | error error => rfl
  | ok keyTemplate =>
    rw [hkey] at hidentity
    simp only [bind, Except.bind, hidentity]

theorem bucketKey_of_keyText {other : Reach} {text otherText : String}
    (hother : other.bucketKey host = .ok otherText) (hreach : reach.bucketKey host = .ok text)
    (h : other.keyText host = reach.keyText host) : other.bucketKey host = reach.bucketKey host := by
  unfold keyText at h
  rw [hother, hreach] at h
  rw [hother, hreach]
  exact congrArg Except.ok h

theorem filter_keyText {after : List Reach}
    (hsplit : runReaches host policies calls .empty = before ++ reach :: after)
    (halone : EachAlone host (runReaches host policies calls .empty)) :
    (before.filter fun other => other.keyText host = reach.keyText host) =
      before.filter fun other => other.counter host = reach.counter host := by
  apply List.filter_congr
  intro other hother
  apply decide_eq_decide.2
  have hreach := halone before reach after hsplit
  have hmem : ∀ found ∈ before ++ reach :: after, found ∈ runReaches host policies calls .empty :=
    fun found hfound => hsplit ▸ hfound
  obtain ⟨earlier, hotherAlone⟩ := halone.mem (hmem other (List.mem_append_left _ hother))
  obtain ⟨otherText, hotherText⟩ := hotherAlone.key
  obtain ⟨text, htext⟩ := hreach.key
  constructor
  · intro hkey
    exact hreach.own other hother (bucketKey_of_keyText hotherText htext hkey)
  · intro hcounter
    have hplace : other.place = reach.place := (Prod.mk.inj hcounter).1
    obtain ⟨haction, hid⟩ := action_of_place (hmem other (List.mem_append_left _ hother))
      (hmem reach (List.mem_append_right _ List.mem_cons_self)) hplace
    unfold keyText
    rw [bucketKey_of_counter haction hid hcounter]

/-- In a run in which every reach is alone under its text, every `rate_limit` action refuses by
windows of its own. -/
theorem refusesByOwn_run (policies : ℕ → Json) (calls : List Call)
    (halone : EachAlone host (runReaches host policies calls .empty)) :
    ∀ before reach after, runReaches host policies calls .empty = before ++ reach :: after →
      reach.RefusesByOwn host before := by
  intro before reach after hsplit limit seconds hlimit hseconds
  have hreach := halone before reach after hsplit
  have hreplay := @replay_run host policies calls .empty
  have hbefore : ∀ other ∈ before, ∃ earlier, other.Alone host earlier := fun other hother =>
    halone.mem (hsplit ▸ List.mem_append_left _ hother)
  rw [hsplit] at hreplay
  obtain ⟨middle, hfirst, hrest⟩ := replay_append_inv hreplay
  have hmiddle := touches_of_replay hfirst hbefore
  obtain ⟨_, hstated, htaken⟩ := hreach.requests
  rw [hlimit] at hstated
  cases hstated
  obtain ⟨_, hstated, hwindow⟩ := hreach.windowSeconds
  rw [hseconds] at hstated
  cases hstated
  cases hrest with
  | cons hexec _ =>
    rw [refused_iff, (exec_of_alone hreach htaken hexec).2, hmiddle, get?_touches,
      filter_keyText hsplit halone]
    -- items of the counter are of the same action, so their windows are as long
    have hshows : Option.Rel (Shows seconds)
        (Tally.own (counted host) none
          (before.filter fun other => other.counter host = reach.counter host))
        (Tally.own (fun other : Reach => Window.next seconds other.context.now) none
          (before.filter fun other => other.counter host = reach.counter host)) := by
      refine own_rel _ ?_ .none
      intro other hother held shown hheld
      obtain ⟨hmem, hcounter⟩ := List.mem_filter.1 hother
      have hplace : other.place = reach.place := (Prod.mk.inj (of_decide_eq_true hcounter)).1
      obtain ⟨haction, -⟩ := action_of_place (hsplit ▸ List.mem_append_left _ hmem)
        (hsplit ▸ List.mem_append_right _ List.mem_cons_self) hplace
      have hlength : ((other.taken host "windowSeconds").toOption).getD .nan = seconds := by
        have hsame : other.taken host "windowSeconds" = reach.taken host "windowSeconds" := by
          unfold taken
          rw [haction]
        rw [hsame, hwindow]
        rfl
      unfold counted
      rw [hlength]
      exact shows_next hheld
    have hlast : Shows seconds (reach.counted host (Tally.own (counted host) none
        (before.filter fun other => other.counter host = reach.counter host)))
        (reach.ownWindow host seconds before) := by
      unfold counted
      rw [hwindow]
      exact shows_next hshows
    rw [OrdMap.get?_empty, hlast.1]

end Reach

/-- A rule with `rate_limit` actions of the given keys, one request a minute each. -/
def countingPolicy (keys : List String) : Json :=
  .obj [("id", .str "p1"), ("rules", .arr [.obj [("actions", .arr (keys.map fun key =>
    .obj [("type", .str "rate_limit"), ("key", .str key), ("requests", .num 1)]))]])]

/-- A request to the one policy there is. -/
def countedCall (now : ℚ) : Call := ⟨0, ⟨"GET", "app.test", "/", [], "10.0.0.1", "t1", now⟩⟩

def doubledReaches : List Reach :=
  runReaches Host.plain (fun _ => countingPolicy ["sourceIp", "sourceIp"]) [countedCall 0] .empty

def countedReaches : List Reach :=
  runReaches Host.plain (fun _ => countingPolicy ["sourceIp"]) [countedCall 0, countedCall 1] .empty

/-- The second limit of the rule refuses the first request, which the first limit has counted. -/
theorem not_refusesByOwn : ¬ ∀ policies calls before reach after,
    runReaches Host.plain policies calls .empty = before ++ reach :: after →
      reach.RefusesByOwn Host.plain before := by
  intro h
  obtain ⟨first, second, hreaches⟩ :=
    List.length_eq_two.1 (show doubledReaches.length = 2 by decide +kernel)
  have hrefused : doubledReaches.map Reach.refused = [false, true] := by decide +kernel
  have hlimits : doubledReaches.map (Reach.stated Host.plain · "requests") =
      [.ok (.fin 1), .ok (.fin 1)] := by decide +kernel
  have hseconds : doubledReaches.map (Reach.stated Host.plain · "windowSeconds") =
      [.ok (.fin 60), .ok (.fin 60)] := by decide +kernel
  have hcounters : doubledReaches.map (Reach.counter Host.plain) =
      [(⟨0, 0, 0⟩, "10.0.0.1"), (⟨0, 0, 1⟩, "10.0.0.1")] := by decide +kernel
  rw [hreaches] at hrefused hlimits hseconds hcounters
  simp only [List.map_cons, List.map_nil, List.cons.injEq, and_true] at hrefused hlimits
  simp only [List.map_cons, List.map_nil, List.cons.injEq, and_true] at hseconds hcounters
  have hexceeds := (h _ _ [first] second [] hreaches _ _ hlimits.2 hseconds.2).1 hrefused.2
  unfold Reach.ownWindow at hexceeds
  rw [List.filter_cons_of_neg (by rw [hcounters.1, hcounters.2]; decide)] at hexceeds
  change (JsNumber.fin 1).exceeds ((1 : ℕ) : ℚ) = true at hexceeds
  exact absurd hexceeds (by decide)

theorem eachAlone_countedReaches : Reach.EachAlone Host.plain countedReaches := by
  obtain ⟨first, second, hreaches⟩ :=
    List.length_eq_two.1 (show countedReaches.length = 2 by decide +kernel)
  have hlimits : countedReaches.map (Reach.stated Host.plain · "requests") =
      [.ok (.fin 1), .ok (.fin 1)] := by decide +kernel
  have htaken : countedReaches.map (Reach.taken Host.plain · "requests") =
      [.ok (.fin 1), .ok (.fin 1)] := by decide +kernel
  have hseconds : countedReaches.map (Reach.stated Host.plain · "windowSeconds") =
      [.ok (.fin 60), .ok (.fin 60)] := by decide +kernel
  have hwindows : countedReaches.map (Reach.taken Host.plain · "windowSeconds") =
      [.ok (.fin 60), .ok (.fin 60)] := by decide +kernel
  have hkeys : countedReaches.map (Reach.bucketKey Host.plain) =
      [.ok "p1:10.0.0.1", .ok "p1:10.0.0.1"] := by decide +kernel
  have hcounters : countedReaches.map (Reach.counter Host.plain) =
      [(⟨0, 0, 0⟩, "10.0.0.1"), (⟨0, 0, 0⟩, "10.0.0.1")] := by decide +kernel
  rw [hreaches] at hlimits htaken hseconds hwindows hkeys hcounters
  simp only [List.map_cons, List.map_nil, List.cons.injEq, and_true] at hlimits htaken hseconds
  simp only [List.map_cons, List.map_nil, List.cons.injEq, and_true] at hwindows hkeys hcounters
  intro before reach after hsplit
  rw [hreaches] at hsplit
  rcases before with _ | ⟨other, _ | ⟨third, rest⟩⟩
  · cases hsplit
    exact ⟨⟨_, hlimits.1, htaken.1⟩, ⟨_, hseconds.1, hwindows.1⟩, ⟨_, hkeys.1⟩, nofun⟩
  · cases hsplit
    refine ⟨⟨_, hlimits.2, htaken.2⟩, ⟨_, hseconds.2, hwindows.2⟩, ⟨_, hkeys.2⟩, ?_⟩
    intro found hfound _
    rw [List.mem_singleton.1 hfound, hcounters.1, hcounters.2]
  · simp at hsplit

theorem refusesByOwn_run_counted :
    countedReaches.map Reach.refused = [false, true] ∧
      ∀ before reach after, countedReaches = before ++ reach :: after →
        reach.RefusesByOwn Host.plain before :=
  ⟨by decide +kernel, Reach.refusesByOwn_run _ _ eachAlone_countedReaches⟩

end Tunnara.Policy
