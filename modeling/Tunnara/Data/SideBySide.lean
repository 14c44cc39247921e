/-
# Two runs side by side

Code that may throw and that changes a state, run twice from related states. `Alike` says
that the two runs end the same way, with related results or with the same error, and leave
related states. With two copies of one program and equal results it says that the part of the
state that the relation leaves open does not show.
-/

import Tunnara.Data.Attempt

namespace Tunnara

universe u

namespace Attempt

variable {σ ε α β γ δ : Type u}

/-- Both ended, with related results, or both threw the same error. -/
inductive SameEnd (V : α → β → Prop) : Except ε α → Except ε β → Prop
  | ok {a b} (h : V a b) : SameEnd V (.ok a) (.ok b)
  | error (e) : SameEnd V (.error e) (.error e)

/-- From related states the two programs end the same way and leave related states. -/
def Alike (R : σ → σ → Prop) (V : α → β → Prop) (m : Attempt σ ε α) (m' : Attempt σ ε β) :
    Prop :=
  ∀ s s', R s s' → SameEnd V (exec m s).1 (exec m' s').1 ∧ R (exec m s).2 (exec m' s').2

variable {R : σ → σ → Prop} {V : α → β → Prop} {W : γ → δ → Prop} {x : Except ε α}

theorem SameEnd.eq {y : Except ε α} (h : SameEnd Eq x y) : x = y := by
  cases h with
  | ok h => rw [h]
  | error => rfl

theorem SameEnd.mono {V' : α → β → Prop} {y : Except ε β} (h : SameEnd V x y)
    (hV : ∀ a b, V a b → V' a b) : SameEnd V' x y := by
  cases h with
  | ok h => exact .ok (hV _ _ h)
  | error e => exact .error e

theorem sameEnd_refl : SameEnd Eq x x := by
  cases x with
  | ok a => exact .ok rfl
  | error e => exact .error e

theorem SameEnd.bind {y : Except ε β} {f : α → Except ε γ} {g : β → Except ε δ}
    (h : SameEnd V x y) (hfg : ∀ a b, V a b → SameEnd W (f a) (g b)) :
    SameEnd W (x >>= f) (y >>= g) := by
  cases h with
  | ok h => exact hfg _ _ h
  | error e => exact .error e

theorem alike_pure {a : α} {b : β} (h : V a b) : Alike R V (pure a : Attempt σ ε α) (pure b) :=
  fun _ _ hR => ⟨.ok h, hR⟩

theorem alike_throw {e : ε} : Alike R V (throw e : Attempt σ ε α) (throw e) :=
  fun _ _ hR => ⟨.error e, hR⟩

theorem alike_get : Alike R R (get : Attempt σ ε σ) get := fun _ _ hR => ⟨.ok hR, hR⟩

theorem alike_set {s s' : σ} (h : R s s') : Alike R Eq (set s : Attempt σ ε PUnit) (set s') :=
  fun _ _ _ => ⟨.ok rfl, h⟩

variable {m : Attempt σ ε α} {m' : Attempt σ ε β} {f : α → Attempt σ ε γ}

theorem Alike.bind {f' : β → Attempt σ ε δ} (hm : Alike R V m m')
    (hf : ∀ a b, V a b → Alike R W (f a) (f' b)) : Alike R W (m >>= f) (m' >>= f') := by
  intro s s' hR
  have hfirst := hm s s' hR
  rw [exec_bind, exec_bind]
  cases h : exec m s with
  | mk result next =>
    cases h' : exec m' s' with
    | mk result' next' =>
      rw [h, h'] at hfirst
      obtain ⟨hend, hnext⟩ := hfirst
      cases hend with
      | ok hV => exact hf _ _ hV next next' hnext
      | error e => exact ⟨.error e, hnext⟩

theorem Alike.bind_eq {m' : Attempt σ ε α} {f' : α → Attempt σ ε δ} (hm : Alike R Eq m m')
    (hf : ∀ a, Alike R W (f a) (f' a)) : Alike R W (m >>= f) (m' >>= f') :=
  hm.bind fun a _ h => h ▸ hf a

theorem Alike.map {f : α → γ} {g : β → δ} (h : Alike R V m m')
    (hfg : ∀ a b, V a b → W (f a) (g b)) : Alike R W (f <$> m) (g <$> m') := by
  rw [map_eq_pure_bind, map_eq_pure_bind]
  exact h.bind fun a b hV => alike_pure (hfg a b hV)

theorem Alike.tryCatch {handler : ε → Attempt σ ε α} {handler' : ε → Attempt σ ε β}
    (hm : Alike R V m m') (hhandler : ∀ e, Alike R V (handler e) (handler' e)) :
    Alike R V (tryCatch m handler) (tryCatch m' handler') := by
  intro s s' hR
  have hfirst := hm s s' hR
  rw [exec_tryCatch, exec_tryCatch]
  cases h : exec m s with
  | mk result next =>
    cases h' : exec m' s' with
    | mk result' next' =>
      rw [h, h'] at hfirst
      obtain ⟨hend, hnext⟩ := hfirst
      cases hend with
      | ok hV => exact ⟨.ok hV, hnext⟩
      | error e => exact hhandler e next next' hnext

theorem alike_ite {c c' : Prop} [Decidable c] [Decidable c'] {k : Attempt σ ε α}
    {k' : Attempt σ ε β} (hc : c ↔ c') (hm : c → Alike R V m m') (hk : ¬ c → Alike R V k k') :
    Alike R V (if c then m else k) (if c' then m' else k') := by
  by_cases h : c
  · rw [if_pos h, if_pos (hc.1 h)]
    exact hm h
  · rw [if_neg h, if_neg fun h' => h (hc.2 h')]
    exact hk h

theorem alike_except {y : Except ε β} (h : SameEnd V x y) :
    Alike R V (ExceptT.mk (pure x) : Attempt σ ε α) (ExceptT.mk (pure y)) :=
  fun _ _ hR => ⟨h, hR⟩

theorem alike_forM {f : α → Attempt σ ε PUnit} {f' : β → Attempt σ ε PUnit} {items : List α}
    {items' : List β} (h : List.Forall₂ V items items')
    (hf : ∀ a b, V a b → Alike R Eq (f a) (f' b)) : Alike R Eq (items.forM f) (items'.forM f') := by
  induction h with
  | nil => exact alike_pure rfl
  | cons hV _ ih => exact (hf _ _ hV).bind_eq fun _ => ih

theorem alike_mapM {f' : β → Attempt σ ε δ} {items : List α} {items' : List β}
    (h : List.Forall₂ V items items') (hf : ∀ a b, V a b → Alike R W (f a) (f' b)) :
    Alike R (List.Forall₂ W) (items.mapM f) (items'.mapM f') := by
  induction h with
  | nil => exact alike_pure .nil
  | cons hV _ ih =>
    rw [List.mapM_cons, List.mapM_cons]
    exact (hf _ _ hV).bind fun _ _ hW => ih.bind fun _ _ hrest => alike_pure (.cons hW hrest)

end Attempt

end Tunnara
