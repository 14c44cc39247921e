/-
# The rules of a stored document

`normalizePolicyInput` goes over the rules twice, first for their shape and then for the secrets
of their actions. Here both passes are one relation between a rule as it was submitted and the
rule that is stored.
-/

import Tunnara.Policy.Document

namespace Tunnara.Policy

/-- A stored rule with its six keys. -/
def ruleOf (id name : String) (enabled stop : Bool) (criteria : Json) (actions : List Json) :
    Json :=
  .obj [("id", .str id), ("name", .str name), ("enabled", .bool enabled), ("stop", .bool stop),
    ("match", criteria), ("actions", .arr actions)]

variable (host : Host)

def ruleText (raw : Json) (key default : String) : Except JsError String :=
  (orDefault (Json.lookup (object (some raw)) key) (.str default)).toJsString host

/-- The actions of a submitted rule that are kept, as objects. -/
def keptActions (raw : Json) : List Json :=
  ((list (Json.lookup (object (some raw)) "actions")).take 100).map fun action =>
    .obj (object (some action))

def criteriaOf (raw : Json) : List (String × Json) :=
  object (Json.lookup (object (some raw)) "match")

structure StoredRule (index : ℕ) (raw stored : Json) : Prop where
  parts : ∃ id name criteria actions, ruleText host raw "id" s!"rule-{index + 1}" = .ok id ∧
    ruleText host raw "name" s!"Regra {index + 1}" = .ok name ∧
    normalizeMatch host (criteriaOf raw) = .ok criteria ∧
    normalizeActions host (keptActions raw) = .ok actions ∧
    stored = ruleOf (sliceTo 160 id) (sliceTo 240 name)
      (notFalse (Json.lookup (object (some raw)) "enabled"))
      (notFalse (Json.lookup (object (some raw)) "stop")) criteria actions

inductive StoredRules : ℕ → List Json → List Json → Prop
  | nil {index : ℕ} : StoredRules index [] []
  | cons {index : ℕ} {raw stored : Json} {raws rules : List Json}
      (hrule : StoredRule host index raw stored) (hrest : StoredRules (index + 1) raws rules) :
      StoredRules index (raw :: raws) (stored :: rules)

variable {host}

theorem notFalse_bool (b : Bool) : notFalse (some (.bool b)) = b := by cases b <;> rfl

theorem takeUnits_of_le {chars : List Char} {budget : ℕ}
    (h : (chars.map fun c => if c.val < 0x10000 then 1 else 2).sum ≤ budget) :
    takeUnits budget chars = chars := by
  induction chars generalizing budget with
  | nil => cases budget <;> rfl
  | cons c rest ih =>
    rw [List.map_cons, List.sum_cons] at h
    unfold takeUnits
    rw [if_pos (by omega), ih (by omega)]

theorem sliceTo_of_le {s : String} {n : ℕ} (h : jsLength s ≤ n) : sliceTo n s = s := by
  unfold sliceTo
  rw [takeUnits_of_le h, String.ofList_toList]

/-- A text that the shape keeps. -/
def textField (v : Option Json) (f : String → String) : Option Json :=
  match v with
  | some (.str s) => some (.str (f s))
  | _ => none

theorem stringField_eq (name : String) (v : Option Json) (f : String → String) :
    stringField name v f = ((textField v f).map fun w => (name, w)).toList := by
  rcases v with _ | (_ | _ | _ | s | _ | _) <;> rfl

theorem normalizeMatch_eq_ok {raw : List (String × Json)} {criteria : Json}
    (h : normalizeMatch host raw = .ok criteria) : ∃ methods cidrs,
      mapStrings host host.toUpperCase ((list (Json.lookup raw "methods")).take 32) = .ok methods ∧
      mapStrings host id ((list (Json.lookup raw "sourceCidrs")).take 256) = .ok cidrs ∧
      criteria.get? "methods" = some (.arr methods) ∧
      criteria.get? "pathPrefix" = textField (Json.lookup raw "pathPrefix") (sliceTo 4096) ∧
      criteria.get? "pathRegex" = textField (Json.lookup raw "pathRegex") (sliceTo 512) ∧
      criteria.get? "host" = textField (Json.lookup raw "host")
        (fun s => sliceTo 255 (host.toLowerCase s)) ∧
      criteria.get? "sourceCidrs" = some (.arr cidrs) ∧
      criteria.get? "headers" = some (.obj (object (Json.lookup raw "headers"))) := by
  obtain ⟨methods, hmethods, h⟩ := bind_eq_ok.1 h
  obtain ⟨cidrs, hcidrs, h⟩ := bind_eq_ok.1 h
  cases h
  refine ⟨methods, cidrs, hmethods, hcidrs, rfl, ?_⟩
  rw [stringField_eq, stringField_eq, stringField_eq]
  generalize textField (Json.lookup raw "pathPrefix") _ = pathPrefix
  generalize textField (Json.lookup raw "pathRegex") _ = pathRegex
  generalize textField (Json.lookup raw "host") _ = name
  cases pathPrefix <;> cases pathRegex <;> cases name <;> exact ⟨rfl, rfl, rfl, rfl, rfl⟩

theorem normalizeSecrets_cons (id name : String) (enabled stop : Bool) (criteria : Json)
    (kept rest : List Json) {rules : List Json} :
    normalizeSecrets host (ruleOf id name enabled stop criteria kept :: rest) = .ok rules ↔
      ∃ actions later, normalizeActions host kept = .ok actions ∧
        normalizeSecrets host rest = .ok later ∧
        rules = ruleOf id name enabled stop criteria actions :: later := by
  rw [normalizeSecrets, bind_eq_ok]
  have hactions : list ((ruleOf id name enabled stop criteria kept).get? "actions") = kept := rfl
  have hset : ∀ actions, Json.obj (Json.setField
      (object (some (ruleOf id name enabled stop criteria kept))) "actions" (.arr actions)) =
      ruleOf id name enabled stop criteria actions := fun _ => rfl
  rw [hactions]
  constructor
  · rintro ⟨actions, hkept, h⟩
    obtain ⟨later, hlater, h⟩ := bind_eq_ok.1 h
    rw [hset] at h
    exact ⟨actions, later, hkept, hlater, (Except.ok.inj h).symm⟩
  · rintro ⟨actions, later, hkept, hlater, rfl⟩
    refine ⟨actions, hkept, bind_eq_ok.2 ⟨later, hlater, ?_⟩⟩
    rw [hset]
    rfl

theorem normalizeRule_eq_ok {index : ℕ} {raw shaped : Json} :
    normalizeRule host index raw = .ok shaped ↔ ∃ id name criteria,
      ruleText host raw "id" s!"rule-{index + 1}" = .ok id ∧
      ruleText host raw "name" s!"Regra {index + 1}" = .ok name ∧
      normalizeMatch host (criteriaOf raw) = .ok criteria ∧
      shaped = ruleOf (sliceTo 160 id) (sliceTo 240 name)
        (notFalse (Json.lookup (object (some raw)) "enabled"))
        (notFalse (Json.lookup (object (some raw)) "stop")) criteria (keptActions raw) := by
  constructor
  · intro h
    obtain ⟨id, hid, h⟩ := bind_eq_ok.1 h
    obtain ⟨name, hname, h⟩ := bind_eq_ok.1 h
    obtain ⟨criteria, hcriteria, h⟩ := bind_eq_ok.1 h
    exact ⟨id, name, criteria, hid, hname, hcriteria, (Except.ok.inj h).symm⟩
  · rintro ⟨id, name, criteria, hid, hname, hcriteria, rfl⟩
    exact bind_eq_ok.2 ⟨id, hid, bind_eq_ok.2 ⟨name, hname,
      bind_eq_ok.2 ⟨criteria, hcriteria, rfl⟩⟩⟩

theorem storedRules_iff {index : ℕ} {raws rules : List Json} :
    StoredRules host index raws rules ↔
      ∃ shaped, normalizeRules host index raws = .ok shaped ∧
        normalizeSecrets host shaped = .ok rules := by
  induction raws generalizing index rules with
  | nil =>
    constructor
    · rintro ⟨⟩
      exact ⟨[], rfl, rfl⟩
    · rintro ⟨shaped, hshaped, hrules⟩
      cases hshaped
      cases hrules
      exact .nil
  | cons raw raws ih =>
    constructor
    · rintro (_ | ⟨hrule, hrest⟩)
      obtain ⟨id, name, criteria, actions, hid, hname, hcriteria, hactions, rfl⟩ := hrule.parts
      obtain ⟨shaped, hshaped, hrules⟩ := ih.1 hrest
      refine ⟨_, bind_eq_ok.2 ⟨_, normalizeRule_eq_ok.2 ⟨id, name, criteria, hid, hname,
        hcriteria, rfl⟩, bind_eq_ok.2 ⟨shaped, hshaped, rfl⟩⟩, ?_⟩
      exact (normalizeSecrets_cons ..).2 ⟨actions, _, hactions, hrules, rfl⟩
    · rintro ⟨all, hall, hrules⟩
      obtain ⟨first, hfirst, hall⟩ := bind_eq_ok.1 hall
      obtain ⟨shaped, hshaped, hall⟩ := bind_eq_ok.1 hall
      cases hall
      obtain ⟨id, name, criteria, hid, hname, hcriteria, rfl⟩ := normalizeRule_eq_ok.1 hfirst
      obtain ⟨actions, later, hactions, hlater, rfl⟩ := (normalizeSecrets_cons ..).1 hrules
      exact .cons ⟨id, name, criteria, actions, hid, hname, hcriteria, hactions, rfl⟩
        (ih.2 ⟨shaped, hshaped, hlater⟩)

theorem normalizePolicyInput_eq_ok {document : Option Json} {stored : Json} :
    normalizePolicyInput host document = .ok stored ↔ ∃ rules,
      StoredRules host 0 ((list (Json.lookup (object document) "rules")).take 200) rules ∧
      stored = documentOf (effectOf (object document))
        (notFalse (Json.lookup (object document) "enabled")) rules := by
  constructor
  · intro h
    obtain ⟨normalized, hnormalized, h⟩ := bind_eq_ok.1 h
    obtain ⟨shaped, hshaped, hnormalized⟩ := bind_eq_ok.1 hnormalized
    cases hnormalized
    obtain ⟨rules, hrules, h⟩ := bind_eq_ok.1 h
    exact ⟨rules, storedRules_iff.2 ⟨shaped, hshaped, hrules⟩, (Except.ok.inj h).symm⟩
  · rintro ⟨rules, hrules, rfl⟩
    obtain ⟨shaped, hshaped, hrules⟩ := storedRules_iff.1 hrules
    exact bind_eq_ok.2 ⟨_, bind_eq_ok.2 ⟨shaped, hshaped, rfl⟩, bind_eq_ok.2 ⟨rules, hrules, rfl⟩⟩

end Tunnara.Policy
