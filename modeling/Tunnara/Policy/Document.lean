/-
# Policy documents

`normalizePolicyDocument` brings an arbitrary JSON value into the shape the engine reads, and
`normalizePolicyInput` then replaces the secrets of its actions by digests, with the errors they
can throw. The result is the document as it is stored: `JSON.stringify` drops the keys that the
normaliser sets to `undefined`, so they are absent here.
-/

import Tunnara.Js.Value

namespace Tunnara.Policy

/-- `v !== false`. -/
def notFalse (v : Option Json) : Bool := v ≠ some (.bool false)

/-- `String(v)` where `v` may be `undefined`. -/
def stringOf (host : Host) : Option Json → Except JsError String
  | none => .ok "undefined"
  | some v => v.toJsString host

/-- `typeof v === 'string' ? f(v) : undefined`, as zero or one field. -/
def stringField (name : String) (v : Option Json) (f : String → String) :
    List (String × Json) :=
  match v with
  | some (.str s) => [(name, .str (f s))]
  | _ => []

/-- Convert every item with `String(item)` and a text function. -/
def mapStrings (host : Host) (f : String → String) : List Json → Except JsError (List Json)
  | [] => .ok []
  | item :: rest => do
    let text ← item.toJsString host
    let texts ← mapStrings host f rest
    return .str (f text) :: texts

def normalizeMatch (host : Host) (rawMatch : List (String × Json)) : Except JsError Json := do
  let methods ← mapStrings host host.toUpperCase
    ((list (Json.lookup rawMatch "methods")).take 32)
  let sourceCidrs ← mapStrings host id ((list (Json.lookup rawMatch "sourceCidrs")).take 256)
  return .obj ([("methods", .arr methods)]
    ++ stringField "pathPrefix" (Json.lookup rawMatch "pathPrefix") (sliceTo 4096)
    ++ stringField "pathRegex" (Json.lookup rawMatch "pathRegex") (sliceTo 512)
    ++ stringField "host" (Json.lookup rawMatch "host")
        (fun s => sliceTo 255 (host.toLowerCase s))
    ++ [("sourceCidrs", .arr sourceCidrs),
        ("headers", .obj (object (Json.lookup rawMatch "headers")))])

/-- One rule of the document; `index` counts from zero. -/
def normalizeRule (host : Host) (index : ℕ) (rawRule : Json) : Except JsError Json := do
  let rule := object (some rawRule)
  let id ← (orDefault (Json.lookup rule "id") (.str s!"rule-{index + 1}")).toJsString host
  let name ← (orDefault (Json.lookup rule "name") (.str s!"Regra {index + 1}")).toJsString host
  let criteria ← normalizeMatch host (object (Json.lookup rule "match"))
  let actions := (list (Json.lookup rule "actions")).take 100
  return .obj [
    ("id", .str (sliceTo 160 id)),
    ("name", .str (sliceTo 240 name)),
    ("enabled", .bool (notFalse (Json.lookup rule "enabled"))),
    ("stop", .bool (notFalse (Json.lookup rule "stop"))),
    ("match", criteria),
    ("actions", .arr (actions.map fun rawAction => .obj (object (some rawAction))))]

def normalizeRules (host : Host) : ℕ → List Json → Except JsError (List Json)
  | _, [] => .ok []
  | index, rawRule :: rest => do
    let rule ← normalizeRule host index rawRule
    let rules ← normalizeRules host (index + 1) rest
    return rule :: rules

/-- The document with its four keys. -/
def documentOf (defaultEffect : String) (enabled : Bool) (rules : List Json) : Json :=
  .obj [("version", .str "1"), ("defaultEffect", .str defaultEffect),
    ("enabled", .bool enabled), ("rules", .arr rules)]

/-- The effect the normaliser keeps: the text `deny` under `defaultEffect`, or else `allow`. -/
def effectOf (source : List (String × Json)) : String :=
  if Json.lookup source "defaultEffect" = some (.str "deny") then "deny" else "allow"

def normalizePolicyDocument (host : Host) (document : Option Json) : Except JsError Json := do
  let source := object document
  let rules ← normalizeRules host 0 ((list (Json.lookup source "rules")).take 200)
  return documentOf (effectOf source) (notFalse (Json.lookup source "enabled")) rules

/-- An account keeps its hash, or gets the hash of its password. -/
def normalizeAccount (host : Host) (account : Json) : Except JsError Json := do
  let username ← (orDefault (← property account "username") (.str "")).toJsString host
  let passwordHash ← property account "passwordHash"
  let password ← property account "password"
  let stored ←
    if truthy passwordHash then pure (passwordHash.getD .null)
    else if truthy password then
      (stringOf host password).map fun text => Json.str (host.hashPolicySecret text)
    else pure (.str "")
  return .obj [("username", .str username), ("passwordHash", stored)]

def normalizeAccounts (host : Host) : List Json → Except JsError (List Json)
  | [] => .ok []
  | account :: rest => do
    let account ← normalizeAccount host account
    let accounts ← normalizeAccounts host rest
    return account :: accounts

/-- `[...(v || [])]`: arrays and strings iterate, anything else throws. -/
def iterate : Option Json → Except JsError (List Json)
  | none => .ok []
  | some v =>
    if v.truthy then
      match v with
      | .arr items => .ok items
      | .str s => .ok (s.toList.map fun c => .str (String.singleton c))
      | _ => .error (typeError "object is not iterable")
    else .ok []

/-- `[...new Set(items)]`: equal primitives are kept once, objects are all distinct. -/
def dedup : List Json → List Json
  | [] => []
  | item :: rest =>
    let isPrimitive := match item with
      | .arr _ => false
      | .obj _ => false
      | _ => true
    item :: (dedup rest).filter fun other => !(isPrimitive && decide (other = item))

/-- The body of the loop over the actions of a rule. -/
def normalizeAction (host : Host) (action : List (String × Json)) :
    Except JsError (List (String × Json)) := do
  let type ← (stringOf host (Json.lookup action "type")).map host.toLowerCase
  match Json.lookup action "accounts", Json.lookup action "keys" with
  | some (.arr accounts), keys =>
    if type = "basic_auth" then
      return Json.setField action "accounts" (.arr (← normalizeAccounts host accounts))
    else apiKeys type keys
  | _, keys => apiKeys type keys
where
  apiKeys (type : String) (keys : Option Json) : Except JsError (List (String × Json)) := do
    match keys with
    | some (.arr keys) =>
      if type = "api_key" then
        let hashes ← iterate (Json.lookup action "hashes")
        let digests ← mapStrings host host.sha256Hex keys
        let replaced := Json.setField action "hashes" (.arr (dedup (hashes ++ digests)))
        return replaced.filter fun f => f.1 ≠ "keys"
      else return action
    | _ => return action

def normalizeActions (host : Host) : List Json → Except JsError (List Json)
  | [] => .ok []
  | action :: rest => do
    let action ← normalizeAction host (object (some action))
    let actions ← normalizeActions host rest
    return .obj action :: actions

/-- Replace the actions of the normalised rules. -/
def normalizeSecrets (host : Host) : List Json → Except JsError (List Json)
  | [] => .ok []
  | rule :: rest => do
    let actions ← normalizeActions host (list (rule.get? "actions"))
    let rules ← normalizeSecrets host rest
    return .obj (Json.setField (object (some rule)) "actions" (.arr actions)) :: rules

def normalizePolicyInput (host : Host) (document : Option Json) : Except JsError Json := do
  let normalized ← normalizePolicyDocument host document
  let rules ← normalizeSecrets host (list (normalized.get? "rules"))
  return .obj (Json.setField (object (some normalized)) "rules" (.arr rules))

section

variable (defaultEffect : String) (enabled : Bool) (rules : List Json)

@[simp]
theorem documentOf_rules :
    (documentOf defaultEffect enabled rules).get? "rules" = some (.arr rules) := rfl

@[simp]
theorem documentOf_enabled :
    (documentOf defaultEffect enabled rules).get? "enabled" = some (.bool enabled) := rfl

@[simp]
theorem documentOf_defaultEffect :
    (documentOf defaultEffect enabled rules).get? "defaultEffect" = some (.str defaultEffect) := rfl

@[simp]
theorem documentOf_id : (documentOf defaultEffect enabled rules).get? "id" = none := rfl

theorem setField_documentOf_rules {secrets : List Json} :
    Json.obj (Json.setField (object (some (documentOf defaultEffect enabled rules))) "rules"
      (.arr secrets)) = documentOf defaultEffect enabled secrets := rfl

end

/-- A document as the normaliser leaves it: its four keys and nothing else. -/
structure IsNormalized (document : Json) (defaultEffect : String) (enabled : Bool)
    (rules : List Json) : Prop where
  eq : document = documentOf defaultEffect enabled rules
  effect : defaultEffect = "deny" ∨ defaultEffect = "allow"

theorem effectOf_cases (source : List (String × Json)) :
    effectOf source = "deny" ∨ effectOf source = "allow" := by
  unfold effectOf
  split
  · exact Or.inl rfl
  · exact Or.inr rfl

theorem isNormalized_of_normalizePolicyInput {host : Host} {document : Option Json}
    {stored : Json} (h : normalizePolicyInput host document = .ok stored) :
    ∃ rules, IsNormalized stored (effectOf (object document))
      (notFalse (Json.lookup (object document) "enabled")) rules := by
  rw [normalizePolicyInput, bind_eq_ok] at h
  obtain ⟨normalized, hnormalized, h⟩ := h
  rw [normalizePolicyDocument, bind_eq_ok] at hnormalized
  obtain ⟨rules, -, hnormalized⟩ := hnormalized
  cases hnormalized
  rw [bind_eq_ok] at h
  obtain ⟨secrets, -, h⟩ := h
  cases h
  exact ⟨secrets, setField_documentOf_rules _ _ _, effectOf_cases _⟩

end Tunnara.Policy
