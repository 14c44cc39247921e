/-
# Versions of a release

The functions of `version-utils.mjs`: reading and writing a version, comparing two of them, the
next release and the build numbers of the stores. Texts are lists of characters.
-/

import Tunnara.Data.Lines
import Tunnara.Js.Value

namespace Tunnara.Release

open Lines

/-- A whole number of the language that is not negative, `none` for `Infinity`. -/
abbrev Number := Option ℕ

/-- The first power of two that is no double. -/
def overflow : ℕ := 2 ^ 1024

/-- The double next to `n`, the even one of two. -/
@[irreducible] def nearest (n : ℕ) : Number :=
  let unit := 2 ^ (n.log2 - 52)
  let low := n / unit
  let rest := 2 * (n % unit)
  let rounded := if rest < unit ∨ (rest = unit ∧ low % 2 = 0) then low else low + 1
  if rounded * unit < overflow then some (rounded * unit) else none

/-- `Number(text)` of digits. -/
def number (text : List Char) : Number := nearest (Nat.ofDigitChars 10 text 0)

def Number.plus (a b : Number) : Number := a.bind fun n => b.bind fun m => nearest (n + m)

def Number.times (a : Number) (m : ℕ) : Number := a.bind fun n => nearest (n * m)

/-- The sign of `a - b`, `none` for `NaN`. -/
def Number.minus : Number → Number → Option Ordering
  | some n, some m => some (compare n m)
  | some _, none => some .lt
  | none, some _ => some .gt
  | none, none => none

/-- Digits and a number of zeros that are read as `n`, with as few digits as possible and then
next to `n`. -/
def shortest (n : ℕ) : ℕ × ℕ :=
  let candidates := (List.range (toString n).length).reverse.flatMap fun zeros =>
    let low := n / 10 ^ zeros
    let above := 10 ^ zeros < 2 * (n % 10 ^ zeros) ∨
      (10 ^ zeros = 2 * (n % 10 ^ zeros) ∧ low % 2 = 1)
    if above then [(low + 1, zeros), (low, zeros)] else [(low, zeros), (low + 1, zeros)]
  (candidates.find? fun (digits, zeros) => nearest (digits * 10 ^ zeros) = some n).getD (n, 0)

/-- `String(number)`. -/
def numberText : Number → List Char
  | none => "Infinity".toList
  | some n =>
    if n < 2 ^ 53 then (toString n).toList
    else
      let (digits, zeros) := shortest n
      let text := (toString digits).toList
      if n < 10 ^ 21 then text ++ List.replicate zeros '0'
      else text.take 1 ++ (if text.length = 1 then [] else '.' :: text.drop 1) ++ "e+".toList ++
        (toString (text.length - 1 + zeros)).toList

/-- `/^\d+$/`. -/
def isDigits (text : List Char) : Bool := text ≠ [] && text.all Char.isDigit

/-- `[0-9A-Za-z-]+`. -/
def isIdentifier (text : List Char) : Bool :=
  text ≠ [] && text.all fun c => c.isAlphanum || c = '-'

/-- `(0|[1-9]\d*)`: the digits a number is written with. -/
def numeral? (text : List Char) : Option ℕ :=
  let n := Nat.ofDigitChars 10 text 0
  if isDigits text ∧ (toString n).toList = text then some n else none

/-- The groups of `SEMVER_PATTERN`, a numeral as its value. -/
structure Parts where
  (major minor patch : ℕ)
  (prerelease build : List (List Char))
deriving DecidableEq

def identifiers : Option (List Char) → Option (List (List Char))
  | none => some []
  | some text => if (text.splitOn '.').all isIdentifier then some (text.splitOn '.') else none

/-- What stands before the first `mark`, and what follows it. -/
def group (mark : Char) (text : List Char) : List Char × Option (List Char) :=
  match cut mark text with
  | some (front, rest) => (front, some rest)
  | none => (text, none)

/-- `SEMVER_PATTERN.exec`. No numeral has a `-` or a `+`, no identifier a `+`. -/
def matchVersion (raw : List Char) : Option Parts :=
  let front := group '+' raw
  let core := group '-' front.1
  match core.1.splitOn '.' with
  | [major, minor, patch] => do
    return { major := ← numeral? major, minor := ← numeral? minor, patch := ← numeral? patch
             prerelease := ← identifiers core.2, build := ← identifiers front.2 }
  | _ => none

structure Version where
  (major minor patch : Number)
  (prerelease build : List (List Char))
deriving DecidableEq

def Parts.read (p : Parts) : Version :=
  { major := nearest p.major, minor := nearest p.minor, patch := nearest p.patch
    prerelease := p.prerelease, build := p.build }

def parseVersion (value : List Char) (label : String) : Except String Version :=
  match matchVersion (trimmed isSpace value) with
  | some parts => .ok parts.read
  | none => .error (label ++ " inválida: " ++ String.ofList value)

def suffix (mark : Char) (identifiers : List (List Char)) : List Char :=
  if identifiers = [] then [] else mark :: ['.'].intercalate identifiers

def baseVersion (v : Version) : List Char :=
  ['.'].intercalate [numberText v.major, numberText v.minor, numberText v.patch]

def formatVersion (v : Version) (includeBuild : Bool) : List Char :=
  baseVersion v ++ suffix '-' v.prerelease ++ if includeBuild then suffix '+' v.build else []

section

-- the order of `localeCompare`, which the environment decides
variable (localeCompare : List Char → List Char → Ordering)

def compareIdentifier (left right : List Char) : Option Ordering :=
  if isDigits left ∧ isDigits right then (number left).minus (number right)
  else if isDigits left then some .lt
  else if isDigits right then some .gt
  else some (localeCompare left right)

/-- The loop over the identifiers. -/
def comparePrerelease : List (List Char) → List (List Char) → Option Ordering
  | [], [] => some .eq
  | [], _ :: _ => some .lt
  | _ :: _, [] => some .gt
  | left :: ls, right :: rs =>
    match compareIdentifier localeCompare left right with
    | some .eq => comparePrerelease ls rs
    | compared => compared

/-- The sign of the answer, `none` for `NaN`. -/
def compareVersions (left right : Version) : Option Ordering :=
  if left.major ≠ right.major then left.major.minus right.major
  else if left.minor ≠ right.minor then left.minor.minus right.minor
  else if left.patch ≠ right.patch then left.patch.minus right.patch
  else if left.prerelease = [] ∧ right.prerelease = [] then some .eq
  else if left.prerelease = [] then some .gt
  else if right.prerelease = [] then some .lt
  else comparePrerelease localeCompare left.prerelease right.prerelease

/-- `compareVersions` of two strings. -/
def compareTexts (left right : List Char) : Except String (Option Ordering) := do
  let left ← parseVersion left "Versão"
  let right ← parseVersion right "Versão"
  return compareVersions localeCompare left right

/-- The sort keeps the order of two elements unless the first is greater: `NaN` counts as `0`. -/
def maxVersion (values : List (List Char)) (fallback : List Char) : Except String (List Char) := do
  let parsed ← ((values.map (trimmed isSpace)).filter (· ≠ [])).mapM (parseVersion · "Versão")
  let sorted := parsed.mergeSort fun left right => compareVersions localeCompare left right ≠ some .gt
  return match sorted.getLast? with
    | none => fallback
    | some last => formatVersion last false

/-- The last identifier of digits one higher, if there is one. The list is reversed. -/
def bumpLast : List (List Char) → Option (List (List Char))
  | [] => none
  | identifier :: before =>
    if isDigits identifier then some (numberText ((number identifier).plus (some 1)) :: before)
    else (bumpLast before).map (identifier :: ·)

def incrementPrerelease (v : Version) : Version :=
  if v.prerelease = [] then
    { v with patch := v.patch.plus (some 1), prerelease := ["rc".toList, ['1']], build := [] }
  else
    match bumpLast v.prerelease.reverse with
    | some bumped => { v with prerelease := bumped.reverse, build := [] }
    | none => { v with prerelease := v.prerelease ++ [['1']], build := [] }

def allowed : List String := ["auto", "prerelease", "stable", "patch", "minor", "major"]

def nextPatch (v : Version) : Version :=
  { v with patch := v.patch.plus (some 1), prerelease := [], build := [] }

def increment (bump : String) (base : Version) : Version :=
  match bump with
  | "auto" => if base.prerelease ≠ [] then incrementPrerelease base else nextPatch base
  | "prerelease" => incrementPrerelease base
  | "stable" =>
    if base.prerelease ≠ [] then { base with prerelease := [], build := [] } else nextPatch base
  | "major" =>
    { major := base.major.plus (some 1), minor := some 0, patch := some 0, prerelease := []
      build := [] }
  | "minor" =>
    { base with minor := base.minor.plus (some 1), patch := some 0, prerelease := [], build := [] }
  | _ => nextPatch base

def nextVersion (currentValue latestValue : List Char) (bump : String) :
    Except String (List Char) := do
  let current ← parseVersion currentValue "Versão atual"
  let latest ← parseVersion latestValue "Última versão publicada"
  if bump ∉ allowed then throw ("Incremento SemVer inválido: " ++ bump)
  if bump = "auto" ∧ compareVersions localeCompare current latest = some .gt then
    return formatVersion current false
  let base :=
    if compareVersions localeCompare current latest ∈ [some .eq, some .gt] then current else latest
  return formatVersion (increment bump base) false

end

/-- `offsets[channel] ?? 5000`. Every object has a `constructor`, and no sum with it is a number. -/
def channelOffset (channel : List Char) : Option ℕ :=
  match String.ofList (channel.map Char.toLower) with
  | "dev" | "nightly" => some 0
  | "alpha" => some 1000
  | "beta" => some 3000
  | "preview" => some 5000
  | "rc" => some 7000
  | "constructor" => none
  | _ => some 5000

/-- The last identifier of digits, at most 999. -/
def ordinal (prerelease : List (List Char)) : ℕ :=
  match prerelease.reverse.find? isDigits with
  | none => 1
  | some part => ((number part).map (min 999)).getD 999

/-- `none` for `NaN`. -/
def prereleaseStage : List (List Char) → Option ℕ
  | [] => some 9999
  | channel :: rest =>
    (channelOffset channel).map fun offset => min (offset + ordinal (channel :: rest)) 9998

def windowsBundleVersion (v : Version) : Except String (List Char) :=
  if v.prerelease = [] then .ok (baseVersion v)
  else
    match prereleaseStage v.prerelease with
    | some stage =>
      if 65535 < stage then
        .error ("Versão " ++ String.ofList (formatVersion v true) ++
          " não pode ser convertida para versão MSI.")
      else .ok (baseVersion v ++ '-' :: (toString stage).toList)
    | none =>
      .error ("Versão " ++ String.ofList (formatVersion v true) ++
        " não pode ser convertida para versão MSI.")

def mobileBuildNumber (v : Version) : Except String ℕ :=
  let limit : Except String ℕ := .error ("Versão " ++ String.ofList (formatVersion v true) ++
    " excede o limite de versionCode Android.")
  match prereleaseStage v.prerelease with
  | none => limit
  | some stage =>
    match (((v.major.times 100000000).plus (v.minor.times 1000000)).plus
        (v.patch.times 10000)).plus (some stage) with
    | none => limit
    | some n => if n < 2 ^ 53 ∧ 0 < n ∧ n ≤ 2100000000 then .ok n else limit

end Tunnara.Release
