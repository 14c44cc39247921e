/-
# Histograms

`Histogram.observe` keeps one series for each text of labels: how many observations it has had,
and for each bound how many of them were at most the bound.
-/

import Mathlib.Order.Monotone.Defs
import Tunnara.Data.Tally
import Tunnara.Js.Value

namespace Tunnara.Edge

abbrev Labels := List (String × String)

def sanitize (value : String) : String :=
  String.ofList (value.toList.flatMap fun c =>
    if c = '\\' then ['\\', '\\'] else if c = '"' then ['\\', '"']
    else if c = '\n' then ['\\', 'n'] else [c])

namespace Histogram

/-- The state under a key; its sum is left out. -/
structure Series where
  count : ℕ
  buckets : List ℕ

variable (localeCompare : String → String → Ordering) (bounds : List ℚ)

def labelKey (labels : Labels) : String :=
  String.intercalate "," ((labels.mergeSort fun a b => (localeCompare a.1 b.1).isLE).map
    fun label => label.1 ++ "=\"" ++ sanitize label.2 ++ "\"")

def counted (observation : Labels × JsNumber) (held : Option Series) : Series :=
  let state := held.getD ⟨0, bounds.map fun _ => 0⟩
  ⟨state.count + 1, List.zipWith (fun bound n => if observation.2.atMost bound then n + 1 else n)
    bounds state.buckets⟩

def observe : OrdMap String Series → Labels × JsNumber → OrdMap String Series :=
  Tally.touch (fun observation => labelKey localeCompare observation.1) (counted bounds)

/-- How many observations are at most the bound. -/
def upTo (own : List (Labels × JsNumber)) (bound : ℚ) : ℕ :=
  own.countP fun observation => observation.2.atMost bound

theorem monotone_upTo (own : List (Labels × JsNumber)) : Monotone (upTo own) := by
  intro low high hle
  apply List.countP_mono_left
  rintro ⟨labels, seconds⟩ - hlow
  cases seconds with
  | nan | posInf => cases hlow
  | negInf => rfl
  | fin q => exact decide_eq_true ((of_decide_eq_true hlow).trans hle)

theorem own_counted (own : List (Labels × JsNumber)) (n : ℕ) (f : ℚ → ℕ) :
    Tally.own (counted bounds) (some ⟨n, bounds.map f⟩) own =
      some ⟨n + own.length, bounds.map fun bound => f bound + upTo own bound⟩ := by
  induction own generalizing n f with
  | nil => rfl
  | cons observation rest ih =>
    have hnext : counted bounds observation (some ⟨n, bounds.map f⟩) =
        ⟨n + 1, bounds.map fun bound => if observation.2.atMost bound then f bound + 1 else f bound⟩ := by
      simp [counted, List.zipWith_map_right, List.zipWith_self]
    change Tally.own (counted bounds) (some (counted bounds observation _)) rest = _
    have hcount : n + 1 + rest.length = n + (observation :: rest).length := by
      rw [List.length_cons]
      omega
    rw [hnext, ih, hcount]
    congr 2
    refine List.map_congr_left fun bound _ => ?_
    unfold upTo
    rw [List.countP_cons]
    split_ifs <;> omega

/-- **A series is cumulative** after any observations: its buckets count the ones of its labels
up to their bounds, so none exceeds a later one or the count. -/
theorem series_observed (observations : List (Labels × JsNumber)) (key : String) :
    let own := observations.filter fun observation => labelKey localeCompare observation.1 = key
    (observations.foldl (observe localeCompare bounds) .empty).get? key =
        (if own = [] then none else some ⟨own.length, bounds.map (upTo own)⟩) ∧
      Monotone (upTo own) ∧ ∀ bound, upTo own bound ≤ own.length := by
  intro own
  refine ⟨?_, monotone_upTo own, fun bound => List.countP_le_length⟩
  unfold observe
  rw [Tally.get?_touches]
  change Tally.own _ none own = _
  cases own with
  | nil => rfl
  | cons observation rest =>
    have hstart := own_counted bounds (observation :: rest) 0 fun _ => 0
    simp only [Nat.zero_add] at hstart
    exact hstart

end Histogram

end Tunnara.Edge
