/-
# Edits of a map, in order and in two phases

A list of edits sets and unsets keys. Applied one after the other, the last edit of a key
decides. Applied in two phases, first everything that is unset and then everything that is set,
a key that is ever set stays set. The two agree on a key exactly if it is not unset after it was
set last.
-/

import Mathlib.Data.List.Basic
import Mathlib.Data.List.Induction

namespace Tunnara.Edits

universe u v

variable {κ : Type u} {ν : Type v} [DecidableEq κ]

inductive Edit (κ : Type u) (ν : Type v)
  | set (k : κ) (v : ν)
  | unset (k : κ)

/-- The same edit with other values. -/
def Edit.map {μ : Type v} (f : ν → μ) : Edit κ ν → Edit κ μ
  | .set k v => .set k (f v)
  | .unset k => .unset k

/-- One edit, as it changes what is held under a key. -/
def Edit.apply (k : κ) (held : Option ν) : Edit κ ν → Option ν
  | .set other v => if other = k then some v else held
  | .unset other => if other = k then none else held

def inOrder (held : Option ν) (edits : List (Edit κ ν)) (k : κ) : Option ν :=
  edits.foldl (Edit.apply k) held

/-- The value that a key is set to last. -/
def lastSet (edits : List (Edit κ ν)) (k : κ) : Option ν :=
  edits.foldl (fun last edit => match edit with
    | .set other v => if other = k then some v else last
    | .unset _ => last) none

def isUnset (edits : List (Edit κ ν)) (k : κ) : Bool :=
  edits.any fun edit => match edit with
    | .set _ _ => false
    | .unset other => other = k

/-- What is unset is dropped first, and what is set is set then. -/
def inPhases (held : Option ν) (edits : List (Edit κ ν)) (k : κ) : Option ν :=
  match lastSet edits k with
  | some v => some v
  | none => if isUnset edits k then none else held

/-- A key that is set is not unset after it was set last. -/
def SetLast (edits : List (Edit κ ν)) (k : κ) : Prop :=
  ∀ before v after, edits = before ++ .set k v :: after →
    isUnset after k = true → ∃ v', .set k v' ∈ after

/-- A key that is set is unset later. -/
def UnsetLast (edits : List (Edit κ ν)) (k : κ) : Prop :=
  ∀ before v after, edits = before ++ .set k v :: after → isUnset after k = true

variable {held : Option ν} {edits : List (Edit κ ν)} {k : κ}

theorem inOrder_snoc (edit : Edit κ ν) :
    inOrder held (edits ++ [edit]) k = edit.apply k (inOrder held edits k) := by
  unfold inOrder
  rw [List.foldl_append, List.foldl_cons, List.foldl_nil]

theorem lastSet_snoc_set (other : κ) (v : ν) : lastSet (edits ++ [.set other v]) k =
    if other = k then some v else lastSet edits k := by
  unfold lastSet
  rw [List.foldl_append, List.foldl_cons, List.foldl_nil]

theorem lastSet_snoc_unset {other : κ} : lastSet (edits ++ [.unset other]) k = lastSet edits k := by
  unfold lastSet
  rw [List.foldl_append, List.foldl_cons, List.foldl_nil]

theorem isUnset_append (later : List (Edit κ ν)) :
    isUnset (edits ++ later) k = (isUnset edits k || isUnset later k) := List.any_append

theorem isUnset_snoc_set {other : κ} {v : ν} :
    isUnset (edits ++ [.set other v]) k = isUnset edits k := by
  rw [isUnset_append]
  exact Bool.or_false _

theorem isUnset_snoc_unset (other : κ) :
    isUnset (edits ++ [.unset other]) k = (isUnset edits k || decide (other = k)) := by
  rw [isUnset_append]
  simp [isUnset]

omit [DecidableEq κ] in
/-- A place at which a key is set, in a list with one more edit. -/
theorem snoc_eq_split_iff {edit : Edit κ ν} {before after : List (Edit κ ν)} {v : ν} :
    edits ++ [edit] = before ++ .set k v :: after ↔
      edit = .set k v ∧ edits = before ∧ after = [] ∨
      ∃ rest, after = rest ++ [edit] ∧ edits = before ++ .set k v :: rest := by
  constructor
  · intro h
    rcases List.eq_nil_or_concat after with rfl | ⟨rest, last, rfl⟩
    · obtain ⟨hedits, hlast⟩ := List.append_inj' h rfl
      exact .inl ⟨List.singleton_inj.1 hlast, hedits, rfl⟩
    · rw [List.concat_eq_append, ← List.cons_append, ← List.append_assoc] at h
      obtain ⟨hedits, hlast⟩ := List.append_inj' h rfl
      rw [List.singleton_inj.1 hlast, List.concat_eq_append]
      exact .inr ⟨rest, rfl, hedits⟩
  · rintro (⟨rfl, rfl, rfl⟩ | ⟨rest, rfl, rfl⟩)
    · rfl
    · rw [List.append_assoc, List.cons_append]

theorem lastSet_eq_none_iff : lastSet edits k = none ↔ ∀ v, .set k v ∉ edits := by
  induction edits using List.reverseRecOn with
  | nil => exact iff_of_true rfl fun v => List.not_mem_nil
  | append_singleton edits edit ih =>
    cases edit with
    | set other v =>
      rw [lastSet_snoc_set]
      by_cases hkey : other = k
      · subst hkey
        rw [if_pos rfl]
        exact iff_of_false nofun fun h => h v (List.mem_append_right _ List.mem_cons_self)
      · rw [if_neg hkey, ih]
        apply forall_congr'
        intro v'
        have hother : Edit.set k v' ≠ Edit.set other v := fun heq => hkey (Edit.set.inj heq).1.symm
        simp [hother]
    | unset other =>
      rw [lastSet_snoc_unset, ih]
      simp

theorem lastSet_map {μ : Type v} (f : ν → μ) :
    lastSet (edits.map (Edit.map f)) k = (lastSet edits k).map f := by
  induction edits using List.reverseRecOn with
  | nil => rfl
  | append_singleton edits edit ih =>
    rw [List.map_append, List.map_singleton]
    cases edit with
    | set other v =>
      have hset : Edit.map f (.set other v) = Edit.set other (f v) := rfl
      rw [hset, lastSet_snoc_set, lastSet_snoc_set, ih]
      split_ifs <;> rfl
    | unset other =>
      have hunset : Edit.map f (.unset other) = (Edit.unset other : Edit κ μ) := rfl
      rw [hunset, lastSet_snoc_unset, lastSet_snoc_unset, ih]

theorem isUnset_map {μ : Type v} (f : ν → μ) :
    isUnset (edits.map (Edit.map f)) k = isUnset edits k := by
  unfold isUnset
  rw [List.any_map]
  congr 1
  funext edit
  cases edit <;> rfl

section Others

variable {edit : Edit κ ν} (hset : ∀ v, edit ≠ .set k v) (hunset : edit ≠ .unset k)

include hset hunset in
theorem apply_of_other : edit.apply k held = held := by
  cases edit with
  | set other v =>
    have hother : other ≠ k := fun heq => hset v (heq ▸ rfl)
    exact if_neg hother
  | unset other =>
    have hother : other ≠ k := fun heq => hunset (heq ▸ rfl)
    exact if_neg hother

include hunset in
theorem isUnset_snoc_of_other (rest : List (Edit κ ν)) :
    isUnset (rest ++ [edit]) k = isUnset rest k := by
  cases edit with
  | set other v => exact isUnset_snoc_set
  | unset other =>
    have hother : other ≠ k := fun heq => hunset (heq ▸ rfl)
    rw [isUnset_snoc_unset, decide_eq_false hother, Bool.or_false]

include hset in
theorem lastSet_snoc_of_other : lastSet (edits ++ [edit]) k = lastSet edits k := by
  cases edit with
  | set other v =>
    have hother : other ≠ k := fun heq => hset v (heq ▸ rfl)
    rw [lastSet_snoc_set, if_neg hother]
  | unset other => exact lastSet_snoc_unset

include hset hunset in
/-- An edit that leaves a key alone does not move its last setting. -/
theorem setLast_snoc_of_other : SetLast (edits ++ [edit]) k ↔ SetLast edits k := by
  have hsame := @isUnset_snoc_of_other _ _ _ k edit hunset
  have hmem : ∀ rest, (∃ v, Edit.set k v ∈ rest ++ [edit]) ↔ ∃ v, Edit.set k v ∈ rest := by
    intro rest
    apply exists_congr
    intro v
    have hne := (hset v).symm
    simp [hne]
  constructor
  · intro h before v after hsplit hafter
    apply (hmem after).1
    apply h before v (after ++ [edit])
    · rw [hsplit, List.append_assoc, List.cons_append]
    · rw [hsame, hafter]
  · intro h before v after hsplit hafter
    rcases snoc_eq_split_iff.1 hsplit with ⟨hedit, -⟩ | ⟨rest, rfl, hrest⟩
    · exact absurd hedit (hset v)
    · rw [hsame] at hafter
      exact (hmem rest).2 (h before v rest hrest hafter)

include hset hunset in
theorem unsetLast_snoc_of_other : UnsetLast (edits ++ [edit]) k ↔ UnsetLast edits k := by
  constructor
  · intro h before v after hsplit
    rw [← isUnset_snoc_of_other hunset]
    apply h before v
    rw [hsplit, List.append_assoc, List.cons_append]
  · intro h before v after hsplit
    rcases snoc_eq_split_iff.1 hsplit with ⟨hedit, -⟩ | ⟨rest, rfl, hrest⟩
    · exact absurd hedit (hset v)
    · rw [isUnset_snoc_of_other hunset]
      exact h before v rest hrest

end Others

theorem setLast_snoc_set {v : ν} : SetLast (edits ++ [.set k v]) k := by
  intro before v' after hsplit hafter
  rcases snoc_eq_split_iff.1 hsplit with ⟨-, -, rfl⟩ | ⟨rest, rfl, -⟩
  · cases hafter
  · exact ⟨v, List.mem_append_right _ List.mem_cons_self⟩

omit [DecidableEq κ] in
theorem exists_last_set (h : ∃ v, .set k v ∈ edits) :
    ∃ before v after, edits = before ++ .set k v :: after ∧ ∀ v', .set k v' ∉ after := by
  induction edits using List.reverseRecOn with
  | nil =>
    obtain ⟨v, hmem⟩ := h
    cases hmem
  | append_singleton edits edit ih =>
    by_cases hset : ∃ v, edit = .set k v
    · obtain ⟨v, rfl⟩ := hset
      exact ⟨edits, v, [], rfl, fun _ => List.not_mem_nil⟩
    · have hother : ∀ v, Edit.set k v ≠ edit := fun v heq => hset ⟨v, heq.symm⟩
      obtain ⟨v, hmem⟩ := h
      have hbefore : .set k v ∈ edits :=
        (List.mem_append.1 hmem).resolve_right fun h => hother v (List.mem_singleton.1 h)
      obtain ⟨before, v', after, rfl, hafter⟩ := ih ⟨v, hbefore⟩
      refine ⟨before, v', after ++ [edit], by rw [List.append_assoc, List.cons_append], ?_⟩
      intro v'' hlater
      rcases List.mem_append.1 hlater with hlater | hlater
      · exact hafter v'' hlater
      · exact hother v'' (List.mem_singleton.1 hlater)

theorem setLast_snoc_unset : SetLast (edits ++ [.unset k]) k ↔ ∀ v, .set k v ∉ edits := by
  constructor
  · intro h v hmem
    obtain ⟨before, v', after, rfl, hafter⟩ := exists_last_set ⟨v, hmem⟩
    have hunset : isUnset (after ++ [(Edit.unset k : Edit κ ν)]) k = true := by
      rw [isUnset_snoc_unset, decide_eq_true rfl, Bool.or_true]
    obtain ⟨v'', hlater⟩ := h before v' (after ++ [.unset k])
      (by rw [List.append_assoc, List.cons_append]) hunset
    rcases List.mem_append.1 hlater with hlater | hlater
    · exact hafter v'' hlater
    · cases List.mem_singleton.1 hlater
  · intro h before v after hsplit
    rcases snoc_eq_split_iff.1 hsplit with ⟨hedit, -⟩ | ⟨rest, -, hrest⟩
    · cases hedit
    · refine absurd ?_ (h v)
      rw [hrest]
      exact List.mem_append_right _ List.mem_cons_self

/-- The two phases are the edits in order, exactly if a key stays set after it was set last. -/
theorem inOrder_eq_inPhases_iff :
    inOrder held edits k = inPhases held edits k ↔ SetLast edits k := by
  induction edits using List.reverseRecOn with
  | nil =>
    refine iff_of_true rfl fun before v after hsplit => ?_
    cases before <;> cases hsplit
  | append_singleton edits edit ih =>
    rw [inOrder_snoc]
    by_cases hset : ∃ v, edit = .set k v
    · obtain ⟨v, rfl⟩ := hset
      refine iff_of_true ?_ setLast_snoc_set
      unfold inPhases
      rw [lastSet_snoc_set, if_pos rfl]
      exact if_pos rfl
    by_cases hunset : edit = .unset k
    · subst hunset
      rw [setLast_snoc_unset, ← lastSet_eq_none_iff]
      unfold inPhases
      rw [lastSet_snoc_unset, isUnset_snoc_unset, decide_eq_true rfl, Bool.or_true, if_pos rfl]
      have hgone : Edit.apply k (inOrder held edits k) (.unset k) = none := if_pos rfl
      rw [hgone]
      cases lastSet edits k <;> simp
    · have hother := not_exists.1 hset
      have hphases : inPhases held (edits ++ [edit]) k = inPhases held edits k := by
        unfold inPhases
        rw [lastSet_snoc_of_other hother, isUnset_snoc_of_other hunset]
      rw [setLast_snoc_of_other hother hunset, apply_of_other hother hunset, hphases, ih]

/-- A key under which nothing is held ends without a value, exactly if every setting of it is
undone. -/
theorem inOrder_eq_none_iff : inOrder none edits k = none ↔ UnsetLast edits k := by
  induction edits using List.reverseRecOn with
  | nil =>
    refine iff_of_true rfl fun before v after hsplit => ?_
    cases before <;> cases hsplit
  | append_singleton edits edit ih =>
    rw [inOrder_snoc]
    by_cases hset : ∃ v, edit = .set k v
    · obtain ⟨v, rfl⟩ := hset
      have hheld : Edit.apply k (inOrder none edits k) (.set k v) = some v := if_pos rfl
      rw [hheld]
      refine iff_of_false nofun fun h => ?_
      cases h edits v [] rfl
    by_cases hunset : edit = .unset k
    · subst hunset
      refine iff_of_true (if_pos rfl) fun before v after hsplit => ?_
      rcases snoc_eq_split_iff.1 hsplit with ⟨hedit, -⟩ | ⟨rest, rfl, -⟩
      · cases hedit
      · rw [isUnset_snoc_unset, decide_eq_true rfl, Bool.or_true]
    · have hother := not_exists.1 hset
      rw [apply_of_other hother hunset, unsetLast_snoc_of_other hother hunset, ih]

end Tunnara.Edits
