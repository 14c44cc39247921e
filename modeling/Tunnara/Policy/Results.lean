/-
# What every decision is like

The result an evaluation builds up never loses its path, and its request headers stay
a map: one value under each name.
-/

import Tunnara.Data.Attempt
import Tunnara.Policy.Engine

namespace Tunnara.Policy

open Attempt

/-- The names of a header object. -/
def headerKeys (headers : List (String × String)) : List String := headers.map Prod.fst

theorem headerKeys_assignHeader (headers : List (String × String)) (name value : String) :
    headerKeys (assignHeader headers name value) =
      if name = "__proto__" ∨ name ∈ headerKeys headers then headerKeys headers
      else headerKeys headers ++ [name] := by
  by_cases hproto : name = "__proto__"
  · simp [assignHeader, hproto]
  · by_cases hmem : name ∈ headerKeys headers
    · have hany : (headers.any fun h => h.1 = name) = true := by
        obtain ⟨entry, hentry, hname⟩ := List.mem_map.1 hmem
        exact List.any_eq_true.2 ⟨entry, hentry, by simp [hname]⟩
      have hsame : ∀ entry : String × String,
          (if entry.1 = name then (name, value) else entry).1 = entry.1 := by
        intro entry
        split_ifs with hname
        · exact hname.symm
        · rfl
      rw [if_pos (Or.inr hmem), assignHeader, if_neg hproto, if_pos hany]
      simp only [headerKeys, List.map_map]
      exact List.map_congr_left fun entry _ => hsame entry
    · have hany : (headers.any fun h => h.1 = name) ≠ true := by
        intro h
        obtain ⟨entry, hentry, hname⟩ := List.any_eq_true.1 h
        exact hmem (List.mem_map.2 ⟨entry, hentry, by simpa using hname⟩)
      rw [if_neg (by simp [hproto, hmem]), assignHeader, if_neg hproto, if_neg hany]
      simp [headerKeys]

/-- A header object has one value under each name, and none under `__proto__`. -/
structure HeaderMap (headers : List (String × String)) : Prop where
  nodup : (headerKeys headers).Nodup
  proto : "__proto__" ∉ headerKeys headers

theorem headerMap_nil : HeaderMap [] := ⟨List.nodup_nil, List.not_mem_nil⟩

theorem HeaderMap.assign {headers : List (String × String)} (h : HeaderMap headers)
    (name value : String) : HeaderMap (assignHeader headers name value) := by
  constructor
  · rw [headerKeys_assignHeader]
    split_ifs with hname
    · exact h.nodup
    · have hnew : name ∉ headerKeys headers := fun hmem => hname (Or.inr hmem)
      apply List.nodup_append.2
      refine ⟨h.nodup, List.nodup_singleton _, ?_⟩
      intro a ha b hb hab
      rw [hab, List.mem_singleton.1 hb] at ha
      exact hnew ha
  · rw [headerKeys_assignHeader]
    split_ifs with hname
    · exact h.proto
    · have hother : "__proto__" ≠ name := fun hproto => hname (Or.inl hproto.symm)
      simp [h.proto, hother]

theorem HeaderMap.foldl_assign {headers : List (String × String)} (h : HeaderMap headers)
    {entries : List (String × String)} :
    HeaderMap (entries.foldl (fun acc entry => assignHeader acc entry.1 entry.2) headers) := by
  induction entries generalizing headers with
  | nil => exact h
  | cons entry rest ih => exact ih (h.assign entry.1 entry.2)

/-- The decision names a path, and its request headers are a map. -/
structure PolicyResult.Sound (result : PolicyResult) : Prop where
  path : result.path ≠ ""
  headers : HeaderMap result.requestHeaders

theorem PolicyResult.Sound.congr {result other : PolicyResult} (h : result.Sound)
    (hpath : other.path = result.path) (hheaders : other.requestHeaders = result.requestHeaders) :
    other.Sound :=
  ⟨hpath ▸ h.path, hheaders ▸ h.headers⟩

variable {host : Host} {result : PolicyResult}

theorem returns_lift {α : Type} {post : α → Prop} {x : Except JsError α}
    (h : ∀ a, x = .ok a → post a) : Returns post (lift x) := by
  intro buckets a next hexec
  have hx : x = .ok a := (Prod.mk.inj hexec).1
  exact h a hx

variable {action : Json} {context : Context}

theorem sound_basicAuth {outcome : Outcome} (h : result.Sound)
    (hbasic : basicAuth host action context result = .ok outcome) : outcome.result.Sound := by
  unfold basicAuth at hbasic
  dsimp only at hbasic
  obtain ⟨account, -, hbasic⟩ := bind_eq_ok.1 hbasic
  cases account <;> obtain ⟨passes, -, hbasic⟩ := bind_eq_ok.1 hbasic <;> split at hbasic
  all_goals first
    | obtain ⟨realm, -, hbasic⟩ := bind_eq_ok.1 hbasic
      cases hbasic
      exact h.congr rfl rfl
    | cases hbasic
      exact h.congr rfl rfl

theorem sound_apiKey {outcome : Outcome} (h : result.Sound)
    (hkey : apiKey host action context result = .ok outcome) : outcome.result.Sound := by
  unfold apiKey at hkey
  split_ifs at hkey
  all_goals
    obtain ⟨raw, -, hkey⟩ := bind_eq_ok.1 hkey
    obtain ⟨valid, -, hkey⟩ := bind_eq_ok.1 hkey
    split at hkey <;> cases hkey <;> exact h.congr rfl rfl

theorem sound_bearerToken {action : Json} (h : result.Sound) :
    (bearerToken host action context result).result.Sound := by
  unfold bearerToken
  dsimp only
  split
  · exact h.congr rfl rfl
  · split
    · exact h.congr rfl rfl
    · split
      · split
        · exact h.congr rfl rfl
        · exact ⟨h.path, h.headers.assign _ _⟩
      · exact h.congr rfl rfl

theorem path_or_slash_ne {path : String} : (if path = "" then "/" else path) ≠ "" := by
  split_ifs with hempty
  · decide
  · exact hempty

theorem sound_rewritePath {next : PolicyResult} (h : result.Sound)
    (hrewrite : rewritePath host action context result = .ok next) : next.Sound := by
  unfold rewritePath at hrewrite
  dsimp only at hrewrite
  split at hrewrite
  all_goals
    obtain ⟨start, -, hrewrite⟩ := bind_eq_ok.1 hrewrite
    cases start with
    | some start =>
      obtain ⟨target, -, hrewrite⟩ := bind_eq_ok.1 hrewrite
      cases hrewrite
      exact ⟨path_or_slash_ne, h.headers⟩
    | none =>
      dsimp only at hrewrite
      split at hrewrite
      · split at hrewrite
        · obtain ⟨replacement, -, hrewrite⟩ := bind_eq_ok.1 hrewrite
          cases hrewrite
          exact ⟨path_or_slash_ne, h.headers⟩
        · cases hrewrite
          exact h
      · cases hrewrite
        exact h

variable {policyId : Json}

theorem sound_executeAction {action : Json} (h : result.Sound) :
    Returns (fun outcome : Outcome => outcome.result.Sound)
      (executeAction host action context result policyId) := by
  apply returns_bind
  intro rawType
  apply returns_bind
  intro typeText
  apply returns_ite <;> intro _
  · exact returns_pure (h.congr rfl rfl)
  apply returns_ite <;> intro _
  · exact returns_bind fun status => returns_pure (h.congr rfl rfl)
  apply returns_ite <;> intro _
  · exact returns_bind fun status => returns_bind fun location => returns_pure (h.congr rfl rfl)
  apply returns_ite <;> intro _
  · apply returns_bind
    intro denied
    cases denied with
    | none => exact returns_pure h
    | some retryAfter => exact returns_pure (h.congr rfl rfl)
  apply returns_ite <;> intro _
  · exact returns_lift fun outcome => sound_basicAuth h
  apply returns_ite <;> intro _
  · exact returns_lift fun outcome => sound_apiKey h
  apply returns_ite <;> intro _
  · exact returns_pure (sound_bearerToken h)
  apply returns_ite <;> intro _
  · exact returns_bind fun entries => returns_pure ⟨h.path, h.headers.foldl_assign⟩
  apply returns_ite <;> intro _
  · exact returns_bind fun names => returns_pure (h.congr rfl rfl)
  apply returns_ite <;> intro _
  · exact returns_bind fun entries => returns_pure (h.congr rfl rfl)
  apply returns_ite <;> intro _
  · exact returns_bind fun names => returns_pure (h.congr rfl rfl)
  apply returns_ite <;> intro _
  · have hrewrite : Returns PolicyResult.Sound (lift (rewritePath host action context result)) :=
      returns_lift fun next => sound_rewritePath h
    exact hrewrite.bind fun next hnext => returns_pure hnext
  exact returns_pure h

theorem sound_executeActions {actions : List Json} (h : result.Sound) :
    Returns PolicyResult.Sound (executeActions host context policyId actions result) := by
  induction actions generalizing result with
  | nil => exact returns_pure h
  | cons action rest ih =>
    refine (sound_executeAction h).bind fun outcome houtcome => ?_
    exact returns_ite (fun _ => returns_pure houtcome) fun _ => ih houtcome

theorem sound_evaluateRules {rules : List Json} (h : result.Sound) :
    Returns PolicyResult.Sound (evaluateRules host context policyId rules result) := by
  induction rules generalizing result with
  | nil => exact returns_pure h
  | cons rule rest ih =>
    apply returns_bind
    intro applies
    apply returns_ite <;> intro _
    · have hmatched : ∀ name, PolicyResult.Sound { result with
          matchedRules := result.matchedRules ++ [name] } := fun name => h.congr rfl rfl
      refine (sound_executeActions (hmatched _)).bind fun next hnext => ?_
      exact returns_ite (fun _ => returns_pure hnext) fun _ => ih hnext
    · exact ih h

theorem sound_evaluatePolicy {policy : Json} {request : RequestContext} :
    Returns PolicyResult.Sound (evaluatePolicy host policy request) := by
  have hcontext : Returns (fun context : Context => context.path ≠ "")
      (lift (contextOf host request)) := by
    apply returns_lift
    intro context hcontext
    unfold contextOf at hcontext
    dsimp only at hcontext
    split at hcontext
    · cases hcontext
    · cases hcontext
      exact path_or_slash_ne
  refine hcontext.bind fun context hpath => ?_
  have hinitial : (initialResult policy context.path).Sound := ⟨hpath, headerMap_nil⟩
  exact returns_ite (fun _ => returns_pure hinitial) fun _ => sound_evaluateRules hinitial

end Tunnara.Policy
