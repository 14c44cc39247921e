/-
# Rows with an owner

Tables are maps, and every row belongs to somebody. A reference is *within* its owner when the
row it names is there and belongs to the owner of the row that has it; it is *at most* within when
that is so if the row is there. The first is what a foreign key and a check at every writer give,
the second is what is left without the foreign key.
-/

import Tunnara.Data.OrdMap

namespace Tunnara

universe u v w x y

/-- The owner of a row. -/
class HasOwner (ν : Type u) (ω : outParam (Type v)) where
  owner : ν → ω

open HasOwner

namespace OrdMap

variable {κ : Type u} {ν : Type v} {ι : Type w} {μ : Type x} {ω : Type y}
  [DecidableEq κ] [DecidableEq ι] [HasOwner ν ω] [HasOwner μ ω]

def RefersWithin (rows : OrdMap κ ν) (ref : ν → Option ι) (named : OrdMap ι μ) : Prop :=
  ∀ k row i, rows.get? k = some row → ref row = some i →
    ∃ found, named.get? i = some found ∧ owner found = owner row

def RefersAtMost (rows : OrdMap κ ν) (ref : ν → Option ι) (named : OrdMap ι μ) : Prop :=
  ∀ k row i found, rows.get? k = some row → ref row = some i → named.get? i = some found →
    owner found = owner row

/-- Every row is still there, with its owner. -/
def KeepsOwners (before after : OrdMap ι μ) : Prop :=
  ∀ i row, before.get? i = some row → ∃ kept, after.get? i = some kept ∧ owner kept = owner row

/-- A row that is there before and after has its owner. -/
def SameOwners (before after : OrdMap ι μ) : Prop :=
  ∀ i old row, before.get? i = some old → after.get? i = some row → owner row = owner old

/-- Every row was there before, with its owner and at most its reference. -/
def Inherits (ref : ν → Option ι) (before after : OrdMap κ ν) : Prop :=
  ∀ k row, after.get? k = some row → ∃ old, before.get? k = some old ∧ owner row = owner old ∧
    ∀ i, ref row = some i → ref old = some i

theorem KeepsOwners.refl (m : OrdMap ι μ) : KeepsOwners m m := fun _ row h => ⟨row, h, rfl⟩

theorem KeepsOwners.same {before after : OrdMap ι μ} (h : KeepsOwners before after) :
    SameOwners before after := by
  intro i old row hold hrow
  obtain ⟨kept, hkept, howner⟩ := h i old hold
  rw [hrow] at hkept
  cases hkept
  exact howner

omit [DecidableEq ι] in
variable {ref : ν → Option ι}

theorem Inherits.same {before after : OrdMap κ ν} (h : Inherits ref before after) :
    SameOwners before after := by
  intro k old row hold hrow
  obtain ⟨found, hfound, howner, -⟩ := h k row hrow
  rw [hold] at hfound
  cases hfound
  exact howner

variable {m : OrdMap ι μ}

theorem keepsOwners_set {i : ι} {row : μ}
    (h : ∀ old, m.get? i = some old → owner row = owner old) : KeepsOwners m (m.set i row) := by
  intro j old hold
  rw [get?_set]
  split
  · rename_i hsame
    subst hsame
    exact ⟨row, rfl, h old hold⟩
  · exact ⟨old, hold, rfl⟩

theorem keepsOwners_set_new {i : ι} (h : m.get? i = none) {row : μ} :
    KeepsOwners m (m.set i row) := by
  apply keepsOwners_set
  intro old hold
  rw [h] at hold
  cases hold

theorem keepsOwners_set_old {i : ι} {old row : μ} (h : m.get? i = some old)
    (hrow : owner row = owner old) : KeepsOwners m (m.set i row) := by
  apply keepsOwners_set
  intro found hfound
  rw [h] at hfound
  cases hfound
  exact hrow

theorem keepsOwners_mapVals {f : ι → μ → μ} (h : ∀ i row, owner (f i row) = owner row) :
    KeepsOwners m (m.mapVals f) := by
  intro i old hold
  rw [get?_mapVals, hold]
  exact ⟨f i old, rfl, h i old⟩

theorem keepsOwners_update {i : ι} {f : μ → μ} (h : ∀ row, owner (f row) = owner row) :
    KeepsOwners m (m.update i f) := by
  apply keepsOwners_mapVals
  intro j row
  split
  · exact h row
  · rfl

omit [DecidableEq ι] in
theorem inherits_filter (m : OrdMap κ ν) (keep : κ → ν → Bool) :
    Inherits ref m (m.filter keep) := by
  intro k row hrow
  rw [get?_filter] at hrow
  exact ⟨row, (Option.filter_eq_some_iff.1 hrow).1, rfl, fun _ h => h⟩

omit [DecidableEq ι] in
theorem inherits_mapVals {m : OrdMap κ ν} {f : κ → ν → ν}
    (howner : ∀ k row, owner (f k row) = owner row)
    (href : ∀ k row i, ref (f k row) = some i → ref row = some i) :
    Inherits ref m (m.mapVals f) := by
  intro k row hrow
  rw [get?_mapVals] at hrow
  obtain ⟨old, hold, rfl⟩ := Option.map_eq_some_iff.1 hrow
  exact ⟨old, hold, howner k old, href k old⟩

omit [DecidableEq ι] in
theorem inherits_set {m : OrdMap κ ν} {k : κ} {old row : ν} (hold : m.get? k = some old)
    (howner : owner row = owner old) (href : ∀ i, ref row = some i → ref old = some i) :
    Inherits ref m (m.set k row) := by
  intro j found hfound
  rw [get?_set] at hfound
  split at hfound
  · rename_i hsame
    subst hsame
    cases hfound
    exact ⟨old, hold, howner, href⟩
  · exact ⟨found, hfound, rfl, fun _ h => h⟩

omit [DecidableEq ι] in
theorem inherits_update {m : OrdMap κ ν} {k : κ} {f : ν → ν}
    (howner : ∀ row, owner (f row) = owner row)
    (href : ∀ row i, ref (f row) = some i → ref row = some i) : Inherits ref m (m.update k f) := by
  apply inherits_mapVals
  · intro j row
    split
    · exact howner row
    · rfl
  · intro j row i
    split
    · exact href row i
    · exact id

section

variable {rows after : OrdMap κ ν} {ref : ν → Option ι} {named other : OrdMap ι μ}

namespace RefersWithin

theorem empty : RefersWithin (OrdMap.empty : OrdMap κ ν) ref named := by
  intro k row i hrow
  cases hrow

section

variable (h : RefersWithin rows ref named)
include h

theorem set {k : κ} {row : ν}
    (hrow : ∀ i, ref row = some i → ∃ found, named.get? i = some found ∧ owner found = owner row) :
    RefersWithin (rows.set k row) ref named := by
  intro j found i hfound href
  rw [get?_set] at hfound
  split at hfound
  · cases hfound
    exact hrow i href
  · exact h j found i hfound href

theorem inherits (hrows : Inherits ref rows after) : RefersWithin after ref named := by
  intro k row i hrow href
  obtain ⟨old, hold, howner, hback⟩ := hrows k row hrow
  rw [howner]
  exact h k old i hold (hback i href)

theorem keeps (hkeeps : KeepsOwners named other) : RefersWithin rows ref other := by
  intro k row i hrow href
  obtain ⟨found, hfound, howner⟩ := h k row i hrow href
  obtain ⟨kept, hkept, hsame⟩ := hkeeps i found hfound
  exact ⟨kept, hkept, hsame.trans howner⟩

theorem erase_named {i : ι} (hunused : ∀ k row, rows.get? k = some row → ref row ≠ some i) :
    RefersWithin rows ref (named.erase i) := by
  intro k row j hrow href
  obtain ⟨found, hfound, howner⟩ := h k row j hrow href
  refine ⟨found, ?_, howner⟩
  rw [get?_erase_of_ne, hfound]
  rintro rfl
  exact hunused k row hrow href

theorem filter_named (hsame : SameOwners named other) {keep : κ → ν → Bool}
    (hkeep : ∀ k row i, keep k row = true → ref row = some i → (other.get? i).isSome) :
    RefersWithin (rows.filter keep) ref other := by
  intro k row i hrow href
  rw [get?_filter] at hrow
  obtain ⟨hthere, hkept⟩ := Option.filter_eq_some_iff.1 hrow
  obtain ⟨found, hfound⟩ := Option.isSome_iff_exists.1 (hkeep k row i hkept href)
  obtain ⟨old, hold, howner⟩ := h k row i hthere href
  exact ⟨found, hfound, (hsame i old found hold hfound).trans howner⟩

end

end RefersWithin

namespace RefersAtMost

theorem empty : RefersAtMost (OrdMap.empty : OrdMap κ ν) ref named := by
  intro k row i found hrow
  cases hrow

section

variable (h : RefersAtMost rows ref named)
include h

theorem set {k : κ} {row : ν}
    (hrow : ∀ i found, ref row = some i → named.get? i = some found → owner found = owner row) :
    RefersAtMost (rows.set k row) ref named := by
  intro j other i found hother href hfound
  rw [get?_set] at hother
  split at hother
  · cases hother
    exact hrow i found href hfound
  · exact h j other i found hother href hfound

theorem inherits (hrows : Inherits ref rows after) : RefersAtMost after ref named := by
  intro k row i found hrow href hfound
  obtain ⟨old, hold, howner, hback⟩ := hrows k row hrow
  rw [howner]
  exact h k old i found hold (hback i href) hfound

theorem named_inherits {f : μ → Option ι} (hnamed : Inherits f named other) :
    RefersAtMost rows ref other := by
  intro k row i found hrow href hfound
  obtain ⟨old, hold, howner, -⟩ := hnamed i found hfound
  rw [howner]
  exact h k row i old hrow href hold

theorem set_named {i : ι} {new : μ} (hunused : ∀ k row, rows.get? k = some row → ref row ≠ some i) :
    RefersAtMost rows ref (named.set i new) := by
  intro k row j found hrow href hfound
  rw [get?_set] at hfound
  split at hfound
  · rename_i hsame
    subst hsame
    exact absurd href (hunused k row hrow)
  · exact h k row j found hrow href hfound

end

end RefersAtMost

end

/-- Only rows of the owner differ. -/
def ChangesOwned (own : ω) (before after : OrdMap ι μ) : Prop :=
  ChangesOnly (fun row => owner row = own) before after

namespace ChangesOwned

variable {own : ω} {before after third : OrdMap ι μ}

theorem refl (own : ω) (m : OrdMap ι μ) : ChangesOwned own m m := ChangesOnly.refl _ m

theorem trans (h : ChangesOwned own before after) (h' : ChangesOwned own after third) :
    ChangesOwned own before third := ChangesOnly.trans h h'

theorem set {i : ι} {row : μ} (hold : ∀ old, before.get? i = some old → owner old = own)
    (hrow : owner row = own) : ChangesOwned own before (before.set i row) := by
  intro j hchanged
  rw [get?_set] at hchanged ⊢
  split
  · rename_i hsame
    subst hsame
    refine ⟨hold, ?_⟩
    rintro found ⟨⟩
    exact hrow
  · rename_i hne
    rw [if_neg hne] at hchanged
    exact absurd rfl hchanged

/-- In the maps of a store a new key is one at which nothing is found. -/
theorem set_new {i : ι} {row : μ} (hnew : before.get? i = none) (hrow : owner row = own) :
    ChangesOwned own before (before.set i row) := by
  apply set ?_ hrow
  intro old hold
  rw [hnew] at hold
  cases hold

theorem set_old {i : ι} {old row : μ} (hget : before.get? i = some old) (hold : owner old = own)
    (hrow : owner row = own) : ChangesOwned own before (before.set i row) := by
  apply set ?_ hrow
  intro found hfound
  rw [hget] at hfound
  cases hfound
  exact hold

theorem filter {keep : ι → μ → Bool}
    (h : ∀ i row, before.get? i = some row → keep i row = false → owner row = own) :
    ChangesOwned own before (before.filter keep) := changesOnly_filter_iff.2 h

theorem filter_named {rows : OrdMap κ ν} {ref : ν → Option ι} {keep : κ → ν → Bool}
    (h : RefersWithin rows ref before) (hchanges : ChangesOwned own before after)
    (hkeep : ∀ k row, keep k row = false → ∃ i, ref row = some i ∧ after.get? i = none) :
    ChangesOwned own rows (rows.filter keep) := by
  apply filter
  intro k row hrow hdrop
  obtain ⟨i, href, hgone⟩ := hkeep k row hdrop
  obtain ⟨found, hfound, howner⟩ := h k row i hrow href
  have hchanged : before.get? i ≠ after.get? i := by
    rw [hfound, hgone]
    exact nofun
  rw [← howner]
  exact (hchanges i hchanged).1 found hfound

theorem erase {i : ι} {old : μ} (hget : before.get? i = some old) (hold : owner old = own) :
    ChangesOwned own before (before.erase i) := by
  apply filter
  intro j row hrow hdrop
  have hsame : j = i := by simpa using hdrop
  subst hsame
  rw [hget] at hrow
  cases hrow
  exact hold

theorem mapVals {f : ι → μ → μ} (howner : ∀ i row, owner (f i row) = owner row)
    (h : ∀ i row, before.get? i = some row → f i row ≠ row → owner row = own) :
    ChangesOwned own before (before.mapVals f) := by
  intro i hchanged
  rw [get?_mapVals] at hchanged ⊢
  cases hrow : before.get? i with
  | none =>
    rw [hrow] at hchanged
    exact absurd rfl hchanged
  | some row =>
    rw [hrow] at hchanged
    have hown := h i row hrow fun hsame => hchanged (congrArg some hsame.symm)
    refine ⟨?_, ?_⟩
    · rintro found ⟨⟩
      exact hown
    · rintro found ⟨⟩
      exact (howner i row).trans hown

theorem update {i : ι} {f : μ → μ} (howner : ∀ row, owner (f row) = owner row)
    (h : ∀ row, before.get? i = some row → owner row = own) :
    ChangesOwned own before (before.update i f) := by
  apply mapVals
  · intro j row
    split
    · exact howner row
    · rfl
  · intro j row hrow hne
    split at hne
    · rename_i hsame
      subst hsame
      exact h row hrow
    · exact absurd rfl hne

theorem of_added (hkept : ∀ i row, before.get? i = some row → after.get? i = some row)
    (hnew : ∀ i row, after.get? i = some row → before.get? i = some row ∨ owner row = own) :
    ChangesOwned own before after := by
  intro i hchanged
  cases hold : before.get? i with
  | some row =>
    rw [hold, hkept i row hold] at hchanged
    exact absurd rfl hchanged
  | none =>
    refine ⟨nofun, ?_⟩
    intro row hrow
    rcases hnew i row hrow with hbefore | hown
    · rw [hold] at hbefore
      cases hbefore
    · exact hown

end ChangesOwned

end OrdMap

end Tunnara
