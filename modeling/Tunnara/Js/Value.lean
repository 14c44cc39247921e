/-
# JSON values as JavaScript reads them

The value type and the language operations that the modelled code applies to it: truthiness,
property access, object spread, `String(x)` and `Number(x)`. An absent property is `undefined`,
written `none`; a conversion throws where JavaScript does.

What the engine itself computes (regular expressions, Unicode case mapping, URL parsing, digests,
decimal rendering of numbers) is a parameter, `Host`; every result holds for every host.
-/

import Mathlib.Data.Rat.Floor
import Mathlib.Data.List.Basic
import Mathlib.Data.List.Infix

namespace Tunnara

/-- A JSON value. Numbers are exact; object fields are in insertion order. -/
inductive Json
  | null
  | bool (b : Bool)
  | num (q : ℚ)
  | str (s : String)
  | arr (items : List Json)
  | obj (fields : List (String × Json))
  deriving Inhabited

namespace Json

mutual

/-- Structural equality of values. -/
def decEq : (a b : Json) → Decidable (a = b)
  | .null, .null => isTrue rfl
  | .bool a, .bool b => decidable_of_iff (a = b) (by simp)
  | .num a, .num b => decidable_of_iff (a = b) (by simp)
  | .str a, .str b => decidable_of_iff (a = b) (by simp)
  | .arr a, .arr b =>
    haveI := decEqList a b
    decidable_of_iff (a = b) (by simp)
  | .obj a, .obj b =>
    haveI := decEqFields a b
    decidable_of_iff (a = b) (by simp)
  | .null, .bool _ | .null, .num _ | .null, .str _ | .null, .arr _ | .null, .obj _
  | .bool _, .null | .bool _, .num _ | .bool _, .str _ | .bool _, .arr _ | .bool _, .obj _
  | .num _, .null | .num _, .bool _ | .num _, .str _ | .num _, .arr _ | .num _, .obj _
  | .str _, .null | .str _, .bool _ | .str _, .num _ | .str _, .arr _ | .str _, .obj _
  | .arr _, .null | .arr _, .bool _ | .arr _, .num _ | .arr _, .str _ | .arr _, .obj _
  | .obj _, .null | .obj _, .bool _ | .obj _, .num _ | .obj _, .str _ | .obj _, .arr _ =>
    isFalse (by simp)

/-- Structural equality of array items. -/
def decEqList : (a b : List Json) → Decidable (a = b)
  | [], [] => isTrue rfl
  | [], _ :: _ | _ :: _, [] => isFalse (by simp)
  | a :: as, b :: bs =>
    haveI := decEq a b
    haveI := decEqList as bs
    decidable_of_iff (a = b ∧ as = bs) (by simp)

/-- Structural equality of object fields. -/
def decEqFields : (a b : List (String × Json)) → Decidable (a = b)
  | [], [] => isTrue rfl
  | [], _ :: _ | _ :: _, [] => isFalse (by simp)
  | (k, a) :: as, (l, b) :: bs =>
    haveI := decEq a b
    haveI := decEqFields as bs
    decidable_of_iff ((k = l ∧ a = b) ∧ as = bs) (by simp)

end

instance : DecidableEq Json := decEq

/-- `Boolean(v)`. -/
def truthy : Json → Bool
  | .null => false
  | .bool b => b
  | .num q => q ≠ 0
  | .str s => s ≠ ""
  | .arr _ => true
  | .obj _ => true

def lookup (fields : List (String × Json)) (name : String) : Option Json :=
  (fields.find? fun f => f.1 = name).map Prod.snd

/-- `v.name` on a value that is neither `null` nor `undefined`. -/
def get? : Json → String → Option Json
  | .obj fields, name => lookup fields name
  | _, _ => none

/-- Assign one property of an object literal. -/
def setField (fields : List (String × Json)) (name : String) (value : Json) :
    List (String × Json) :=
  if fields.any fun f => f.1 = name then
    fields.map fun f => if f.1 = name then (name, value) else f
  else fields ++ [(name, value)]

/-- `{ ...fields, ...later }`: later properties win and keep the earlier position. -/
def spread (fields later : List (String × Json)) : List (String × Json) :=
  later.foldl (fun acc f => setField acc f.1 f.2) fields

theorem lookup_setField {fields : List (String × Json)} {name : String} {value : Json}
    {other : String} : lookup (setField fields name value) other =
      if other = name then some value else lookup fields other := by
  unfold setField lookup
  by_cases hany : (fields.any fun f => f.1 = name) = true
  · have hsame : ((fun f : String × Json => decide (f.1 = other)) ∘
        fun f => if f.1 = name then (name, value) else f) = fun f => decide (f.1 = other) := by
      funext f
      show decide ((if f.1 = name then (name, value) else f).1 = other) = decide (f.1 = other)
      split_ifs with hname
      · rw [hname]
      · rfl
    rw [if_pos hany, List.find?_map, hsame]
    split_ifs with hother
    · subst hother
      obtain ⟨f, hf, hname⟩ := List.any_eq_true.1 hany
      cases hfind : fields.find? fun f => decide (f.1 = other) with
      | none => exact absurd hname (List.find?_eq_none.1 hfind f hf)
      | some found =>
        have hfound : found.1 = other := by simpa using List.find?_some hfind
        simp [hfound]
    · cases hfind : fields.find? fun f => decide (f.1 = other) with
      | none => rfl
      | some found =>
        have hfound : found.1 = other := by simpa using List.find?_some hfind
        have hne : found.1 ≠ name := fun h => hother (hfound.symm.trans h)
        simp [hne]
  · rw [if_neg hany, List.find?_append]
    split_ifs with hother
    · subst hother
      have hnone : (fields.find? fun f => decide (f.1 = other)) = none :=
        List.find?_eq_none.2 fun f hf hname => hany (List.any_eq_true.2 ⟨f, hf, hname⟩)
      simp [hnone]
    · have hne : decide (name = other) = false := decide_eq_false fun h => hother h.symm
      simp [hne]

end Json

/-- `Boolean(v)` where `v` may be `undefined`. -/
def truthy : Option Json → Bool
  | none => false
  | some v => v.truthy

/-- `v || d`. -/
def orDefault (v : Option Json) (d : Json) : Json :=
  match v with
  | some v => if v.truthy then v else d
  | none => d

/-- `Array.isArray(v) ? v : []`. -/
def list : Option Json → List Json
  | some (.arr items) => items
  | _ => []

/-- `isPlainObject(v) ? v : {}`, as its fields. -/
def object : Option Json → List (String × Json)
  | some (.obj fields) => fields
  | _ => []

/-- The value a handler throws, as far as anything reads it. -/
structure JsError where
  message : String
  statusCode : Option ℕ := none
  code : Option String := none
  deriving DecidableEq, Inhabited

theorem bind_eq_ok {ε α β : Type} {x : Except ε α} {f : α → Except ε β} {b : β} :
    (x >>= f) = .ok b ↔ ∃ a, x = .ok a ∧ f a = .ok b := by
  cases x <;> simp [bind, Except.bind]

theorem map_eq_ok {ε α β : Type} {x : Except ε α} {f : α → β} {b : β} :
    x.map f = .ok b ↔ ∃ a, x = .ok a ∧ f a = b := by
  cases x <;> simp [Except.map]

/-- Reading a property of `null` or `undefined`, or a failed conversion. -/
def typeError (message : String) : JsError := { message }

/-- `v.name` where `v` may be `null` or `undefined`. -/
def property (v : Option Json) (name : String) : Except JsError (Option Json) :=
  match v with
  | none => .error (typeError "Cannot read properties of undefined")
  | some .null => .error (typeError "Cannot read properties of null")
  | some v => .ok (v.get? name)

/-- A JavaScript number. -/
inductive JsNumber
  | nan
  | posInf
  | negInf
  | fin (q : ℚ)
  deriving DecidableEq

namespace JsNumber

/-- `Math.max(bound, n)` for a finite bound. -/
def max (bound : ℚ) : JsNumber → JsNumber
  | .nan => .nan
  | .posInf => .posInf
  | .negInf => .fin bound
  | .fin q => .fin (Max.max bound q)

/-- `count > n`. -/
def exceeds (count : ℚ) : JsNumber → Bool
  | .nan => false
  | .posInf => false
  | .negInf => true
  | .fin q => q < count

/-- `n <= bound`. -/
def atMost (bound : ℚ) : JsNumber → Bool
  | .nan => false
  | .posInf => false
  | .negInf => true
  | .fin q => q ≤ bound

/-- An increasing function of a number; `NaN` and the infinities stay. -/
def map (f : ℚ → ℚ) : JsNumber → JsNumber
  | .fin q => .fin (f q)
  | n => n

end JsNumber

/-- A compiled regular expression. -/
structure RegExp where
  test : String → Bool
  replace : String → String → String

/-- What the handlers read of a parsed URL. -/
structure Url where
  pathname : String
  searchParam : String → Option String

/-- The engine and library functions that are not embedded. -/
structure Host where
  numberToString : ℚ → String
  stringToNumber : String → JsNumber
  (toLowerCase toUpperCase : String → String)
  /-- `net.isIP(text) !== 0`. -/
  isIP : String → Bool
  /-- `new RegExp(pattern)`; `none` when it throws. -/
  regExp : String → Option RegExp
  /-- `new URL(target, base)`; `none` when it throws. -/
  url : String → String → Option Url
  /-- `JSON.parse`; `none` when it throws. -/
  parseJson : String → Option Json
  /-- `createHash('sha256').update(text).digest('hex')`. -/
  sha256Hex : String → String
  /-- `scryptSync(password, salt, 32)`. -/
  scrypt : String → List UInt8 → List UInt8
  /-- `hashPolicySecret`, with the salt it draws. -/
  hashPolicySecret : String → String
  /-- `Buffer.from(text, 'base64').toString('utf8')`. -/
  base64Text : String → String
  /-- `Buffer.from(text, 'base64url')`. -/
  base64url : String → List UInt8
  /-- `Buffer.from(JSON.stringify(claims)).toString('base64url')`. -/
  claimsHeader : Json → String
  /-- `verifyJwt(token, action)`: the payload, or the message it rejects with. -/
  verifyJwt : String → Json → Except String Json

/-- A host for worked inputs. It behaves as the engine does on plain lower-case
ASCII text; `//` is the target that `new URL` rejects. -/
def Host.plain : Host where
  numberToString q := toString q.num
  stringToNumber s := if s = "" then .fin 0 else .nan
  toLowerCase s := s
  toUpperCase s := s
  isIP _ := false
  regExp _ := none
  url target _ := if target = "//" then none else some ⟨target, fun _ => none⟩
  parseJson _ := none
  sha256Hex s := s
  scrypt _ salt := salt
  hashPolicySecret s := s
  base64Text s := s
  base64url _ := []
  claimsHeader _ := ""
  verifyJwt _ _ := .error "JWT inválido."

/-- `String(n)`. -/
def JsNumber.toJsString (host : Host) : JsNumber → String
  | .nan => "NaN"
  | .posInf => "Infinity"
  | .negInf => "-Infinity"
  | .fin q => host.numberToString q

namespace Json

variable (host : Host)

mutual

/-- `String(v)`. -/
def toJsString : Json → Except JsError String
  | .null => .ok "null"
  | .bool b => .ok (if b then "true" else "false")
  | .num q => .ok (host.numberToString q)
  | .str s => .ok s
  | .arr items => (joinItems items).map (",".intercalate ·)
  | .obj fields =>
    if (lookup fields "toString").isSome then
      .error (typeError "Cannot convert object to primitive value")
    else .ok "[object Object]"

/-- The texts `Array.prototype.join` puts between commas. -/
def joinItems : List Json → Except JsError (List String)
  | [] => .ok []
  | .null :: rest => (joinItems rest).map ("" :: ·)
  | item :: rest => do
    let text ← toJsString item
    let texts ← joinItems rest
    return text :: texts

end

/-- `Number(v)`. -/
def toNumber : Json → Except JsError JsNumber
  | .null => .ok (.fin 0)
  | .bool b => .ok (.fin (if b then 1 else 0))
  | .num q => .ok (.fin q)
  | .str s => .ok (host.stringToNumber s)
  | .arr items => ((Json.arr items).toJsString host).map host.stringToNumber
  | .obj fields => ((Json.obj fields).toJsString host).map fun _ => .nan

end Json

/-- A value of Node's header map: one text, or several for repeatable headers. -/
inductive HeaderValue
  | one (text : String)
  | many (texts : List String)
  deriving DecidableEq

/-- `String(value)` of a header. -/
def HeaderValue.toJsString : HeaderValue → String
  | .one text => text
  | .many texts => ",".intercalate texts

/-- Headers by lower-case name. -/
abbrev Headers := List (String × HeaderValue)

/-- `headers[name]`. -/
def Headers.get? (headers : Headers) (name : String) : Option HeaderValue :=
  (headers.find? fun h => h.1 = name).map Prod.snd

/-- `String(headers[name] || '')`. A header object inherits two lower-case names. -/
def Headers.text (headers : Headers) (name : String) : String :=
  match headers.get? name with
  | some value => value.toJsString
  | none =>
    if name = "constructor" then "function Object() { [native code] }"
    else if name = "__proto__" then "[object Object]"
    else ""

/-- The number of UTF-16 code units, JavaScript's `length`. -/
def jsLength (s : String) : ℕ := (s.toList.map fun c => if c.val < 0x10000 then 1 else 2).sum

/-- `s.startsWith(prefix)`. -/
def startsWith (s head : String) : Bool := head.toList.isPrefixOf s.toList

/-- `s.includes(part)`. -/
def includes (s part : String) : Bool := decide (part.toList <:+: s.toList)

/-- Characters up to a number of UTF-16 code units. -/
def takeUnits : ℕ → List Char → List Char
  | _, [] => []
  | budget, c :: rest =>
    let units := if c.val < 0x10000 then 1 else 2
    if units ≤ budget then c :: takeUnits (budget - units) rest else []

/-- `s.slice(0, n)`. -/
def sliceTo (n : ℕ) (s : String) : String := String.ofList (takeUnits n s.toList)

/-- White space as `trim` and `\s` see it. -/
def isSpace (c : Char) : Bool :=
  c.val ∈ [0x09, 0x0A, 0x0B, 0x0C, 0x0D, 0x20, 0xA0, 0x1680, 0x2028, 0x2029, 0x202F, 0x205F,
    0x3000, 0xFEFF] || (0x2000 ≤ c.val && c.val ≤ 0x200A)

/-- `s.trim()`. -/
def trim (s : String) : String :=
  String.ofList (((s.toList.dropWhile isSpace).reverse.dropWhile isSpace).reverse)

/-- `s.split(sep)` for a one-character separator. -/
def splitChar (sep : Char) (s : String) : List String :=
  (s.toList.splitOn sep).map String.ofList

theorem splitChar_of_not_mem {sep : Char} {text : String} (h : sep ∉ text.toList) :
    splitChar sep text = [text] := by
  unfold splitChar
  rw [List.splitOn_eq_singleton h, List.map_cons, String.ofList_toList]
  rfl

theorem splitChar_append {sep : Char} {first mark rest : String} (hmark : mark.toList = [sep])
    (h : sep ∉ first.toList) :
    splitChar sep (first ++ mark ++ rest) = first :: splitChar sep rest := by
  have htext : (first ++ mark ++ rest).toList = first.toList ++ sep :: rest.toList := by
    simp [hmark]
  unfold splitChar
  rw [htext, List.splitOn_append_cons_self_of_not_mem h, List.map_cons, String.ofList_toList]

end Tunnara
