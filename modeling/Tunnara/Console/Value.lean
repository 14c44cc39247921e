/-
# JSON values as serde reads them

Numbers are integers of 64 bits or floats, and `as_i64` tells them apart; an object has one
value for a key.
-/

import Mathlib.Algebra.Group.Int.Defs
import Mathlib.Data.Rat.Defs

namespace Tunnara.Console

inductive Number
  /-- From `i64::MIN` up to `u64::MAX`. -/
  | int (n : ℤ)
  | float (q : ℚ)

inductive Value
  | null
  | bool (b : Bool)
  | number (n : Number)
  | string (s : String)
  | array (items : List Value)
  | object (fields : List (String × Value))

namespace Number

def asI64 : Number → Option ℤ
  | .int n => if n < 2 ^ 63 then some n else none
  | .float _ => none

def asU64 : Number → Option ℕ
  | .int n => if 0 ≤ n then some n.toNat else none
  | .float _ => none

end Number

namespace Value

def asStr : Value → Option String
  | .string s => some s
  | _ => none

def asI64 : Value → Option ℤ
  | .number n => n.asI64
  | _ => none

def asU64 : Value → Option ℕ
  | .number n => n.asU64
  | _ => none

def asArray : Value → Option (List Value)
  | .array items => some items
  | _ => none

def asObject : Value → Option (List (String × Value))
  | .object fields => some fields
  | _ => none

end Value

/-- `Map::get`. -/
def getField (fields : List (String × Value)) (name : String) : Option Value :=
  (fields.find? fun field => field.1 = name).map Prod.snd

/-- `get(a).or_else(|| get(b))` and so on. -/
def getFirst (fields : List (String × Value)) : List String → Option Value
  | [] => none
  | name :: names => (getField fields name).or (getFirst fields names)

/-- `Map::insert`. -/
def setField (fields : List (String × Value)) (name : String) (value : Value) :
    List (String × Value) :=
  if fields.any fun field => field.1 = name then
    fields.map fun field => if field.1 = name then (name, value) else field
  else fields ++ [(name, value)]

/-- `Map::remove`. -/
def removeField (fields : List (String × Value)) (name : String) : List (String × Value) :=
  fields.filter fun field => field.1 ≠ name

/-- `Option<String>` and the like. -/
def Value.ofOption {α : Type} (value : α → Value) : Option α → Value
  | none => .null
  | some a => value a

/-- Integers of 64 bits. -/
def Value.ofInt (n : ℤ) : Value := .number (.int n)

end Tunnara.Console
