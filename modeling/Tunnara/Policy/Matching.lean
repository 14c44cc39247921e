/-
# Matching a request against the criteria of a rule

`matchRule` and its helpers. Every criterion is optional, and the first one that fails decides; one
whose expected value does not convert to a string throws. The guard of `safeRegex` against
catastrophic backtracking is two fixed regular expressions, written out as list scans.
-/

import Tunnara.Js.Value

namespace Tunnara.Policy

/-- What the Edge passes to the engine, with the clock of the evaluation. -/
structure RequestContext where
  (method host path : String)
  headers : Headers
  (sourceIp tunnelId : String)
  now : ℚ

/-- The normalised context rules are matched against. -/
structure Context extends RequestContext where
  url : Url

/-- `/(\([^)]*[+*][^)]*\))[+*{]/` at the start of a text. -/
def closesRepeated (rest : List Char) : Bool :=
  match rest.dropWhile (· ≠ ')') with
  | _ :: quantifier :: _ =>
    ((rest.takeWhile (· ≠ ')')).any fun c => c = '+' || c = '*')
      && (quantifier = '+' || quantifier = '*' || quantifier = '{')
  | _ => false

/-- The group scan anywhere in a text. -/
def hasRepeatedGroup : List Char → Bool
  | [] => false
  | c :: rest => (c = '(' && closesRepeated rest) || hasRepeatedGroup rest

/-- `/([+*])\1/` anywhere in a text. -/
def hasDoubledQuantifier : List Char → Bool
  | c :: d :: rest => ((c = '+' || c = '*') && c = d) || hasDoubledQuantifier (d :: rest)
  | _ => false

def safeRegex (host : Host) (pattern : Option Json) : Option RegExp :=
  match pattern with
  | some (.str s) =>
    if jsLength s > 512 then none
    else if hasRepeatedGroup s.toList || hasDoubledQuantifier s.toList then none
    else host.regExp s
  | _ => none

/-- `ip.replace(/^::ffff:/, '')`. -/
def stripMapped (ip : String) : String :=
  if startsWith ip "::ffff:" then String.ofList (ip.toList.drop 7) else ip

/-- One octet of a dotted address: an integer between 0 and 255. -/
def octet (host : Host) (part : String) : Option ℕ :=
  match host.stringToNumber part with
  | .fin q => if q.den = 1 ∧ 0 ≤ q.num ∧ q.num ≤ 255 then some q.num.toNat else none
  | _ => none

def ipv4ToInt (host : Host) (ip : String) : Option ℕ :=
  match (splitChar '.' (stripMapped ip)).map (octet host) with
  | [some a, some b, some c, some d] => some (a * 2 ^ 24 + b * 2 ^ 16 + c * 2 ^ 8 + d)
  | _ => none

/-- `(a & mask) === (b & mask)` for the mask the source builds from a prefix length.
The shift count is truncated to an integer, and `NaN` shifts by zero. -/
def sameNetwork (pref : JsNumber) (a b : ℕ) : Bool :=
  match pref with
  | .nan => a = b
  | .posInf | .negInf => false
  | .fin q =>
    if q < 0 ∨ 32 < q then false
    else if q = 0 then true
    else a / 2 ^ (32 - q).floor.toNat = b / 2 ^ (32 - q).floor.toNat

def cidrContains (host : Host) (cidr : Json) (ip : String) : Except JsError Bool := do
  if !host.isIP (stripMapped ip) then return false
  let text ← cidr.toJsString host
  match splitChar '/' text with
  | network :: rawPrefix :: _ =>
    match ipv4ToInt host ip, ipv4ToInt host network with
    | some ipInt, some netInt => return sameNetwork (host.stringToNumber rawPrefix) ipInt netInt
    | _, _ => return false
  | _ => return false

/-- `items.some(test)` for a test that may throw. -/
def someM {α : Type} (test : α → Except JsError Bool) : List α → Except JsError Bool
  | [] => .ok false
  | item :: rest => do
    if ← test item then return true else someM test rest

/-- Run the checks in order until one fails. -/
def allChecks : List (Except JsError Bool) → Except JsError Bool
  | [] => .ok true
  | check :: rest => do
    if ← check then allChecks rest else return false

/-- `v === undefined || test(String(v))`. -/
def checkText (host : Host) (v : Option Json) (test : String → Bool) : Except JsError Bool :=
  match v with
  | none => .ok true
  | some v => (v.toJsString host).map test

/-- The expected value of one header criterion. -/
def matchHeader (host : Host) (actual : String) (expected : Json) : Except JsError Bool :=
  match expected with
  | .str s => .ok (actual = s)
  | .arr _ => .ok true
  | .obj _ =>
    allChecks [
      checkText host (expected.get? "equals") (fun s => actual = s),
      checkText host (expected.get? "contains") (fun s => includes actual s),
      match expected.get? "regex" with
      | none => .ok true
      | some pattern => .ok (((safeRegex host (some pattern)).map (·.test actual)).getD false)]
  | _ => .ok true

def matchMethods (host : Host) (methods : List Json) (context : Context) :
    Except JsError Bool := do
  if methods.isEmpty then return true
  let texts ← methods.mapM fun v => v.toJsString host
  return texts.any fun text => host.toUpperCase text = context.method

/-- `!v || test(String(v))`. -/
def checkTruthy (host : Host) (v : Option Json) (test : String → Bool) : Except JsError Bool :=
  if truthy v then checkText host v test else .ok true

def matchRule (host : Host) (criteria : Json) (context : Context) : Except JsError Bool :=
  allChecks ([
    matchMethods host (list (criteria.get? "methods")) context,
    checkTruthy host (criteria.get? "pathPrefix") (fun s => startsWith context.path s),
    if truthy (criteria.get? "pathRegex") then
      .ok (((safeRegex host (criteria.get? "pathRegex")).map (·.test context.path)).getD false)
    else .ok true,
    checkTruthy host (criteria.get? "host") (fun s => host.toLowerCase s = context.host),
    if (list (criteria.get? "sourceCidrs")).isEmpty then .ok true
    else someM (fun cidr => cidrContains host cidr context.sourceIp)
      (list (criteria.get? "sourceCidrs"))]
    ++ (object (criteria.get? "headers")).map fun entry =>
      matchHeader host (context.headers.text (host.toLowerCase entry.1)) entry.2)

end Tunnara.Policy
