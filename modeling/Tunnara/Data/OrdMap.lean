/-
# Insertion-ordered finite maps

A finite map kept as a list of entries with distinct keys. Setting a key that is
present keeps its position and setting a new key appends it, so that iteration
order is the order of first insertion. `AList` moves an updated key to the front
and is therefore not used here.

Distinctness of the keys is a field, so every operation returns a map again and
lookups need no side condition.
-/

import Mathlib.Data.List.Induction
import Mathlib.Data.List.Nodup
import Mathlib.Data.List.Lookmap

namespace Tunnara

universe u v w

/-- A finite map whose entries are listed in the order their keys were first set. -/
structure OrdMap (κ : Type u) (ν : Type v) where
  entries : List (κ × ν)
  nodup : (entries.map Prod.fst).Nodup

/-- A condition on the value of a lookup, if there is one, can be checked. -/
instance decidableForallSome {α : Type u} {p : α → Prop} [∀ a, Decidable (p a)] :
    ∀ found : Option α, Decidable (∀ a, found = some a → p a)
  | none => isTrue (by simp)
  | some a => decidable_of_iff (p a) (by simp)

namespace OrdMap

variable {κ : Type u} {ν : Type v} {μ : Type w}

/-- The map without entries. -/
def empty : OrdMap κ ν := ⟨[], List.nodup_nil⟩

instance : Inhabited (OrdMap κ ν) := ⟨empty⟩

/-- How many keys are set. -/
def size (m : OrdMap κ ν) : ℕ := m.entries.length

/-- Rewrite every value in place; keys and their order are untouched. -/
def mapVals (m : OrdMap κ ν) (f : κ → ν → μ) : OrdMap κ μ where
  entries := m.entries.map fun e => (e.1, f e.1 e.2)
  nodup := by simpa [Function.comp_def] using m.nodup

/-- Keep only the entries that pass the test. -/
def filter (m : OrdMap κ ν) (keep : κ → ν → Bool) : OrdMap κ ν where
  entries := m.entries.filter fun e => keep e.1 e.2
  nodup := m.nodup.sublist (List.filter_sublist.map Prod.fst)

variable [DecidableEq κ]

/-- The value set for a key. -/
def get? (m : OrdMap κ ν) (k : κ) : Option ν :=
  (m.entries.find? fun e => e.1 = k).map Prod.snd

/-- Remove a key. -/
def erase (m : OrdMap κ ν) (k : κ) : OrdMap κ ν :=
  m.filter fun k' _ => k' ≠ k

omit [DecidableEq κ] in
/-- Appending an entry with a new key keeps the keys distinct. -/
private theorem nodup_append_new (m : OrdMap κ ν) {k : κ} (v : ν)
    (h : k ∉ m.entries.map Prod.fst) : ((m.entries ++ [(k, v)]).map Prod.fst).Nodup := by
  rw [List.map_append, List.nodup_append]
  refine ⟨m.nodup, by simp, ?_⟩
  intro a ha b hb
  simp only [List.map_cons, List.map_nil, List.mem_singleton] at hb
  rintro rfl
  exact h (hb ▸ ha)

/-- Set a key: in place when it is present, at the end when it is new. -/
def set (m : OrdMap κ ν) (k : κ) (v : ν) : OrdMap κ ν :=
  if h : k ∈ m.entries.map Prod.fst then
    m.mapVals fun k' v' => if k' = k then v else v'
  else
    ⟨m.entries ++ [(k, v)], m.nodup_append_new v h⟩

/-- Rewrite the value of a key, if it has one. -/
def update (m : OrdMap κ ν) (k : κ) (f : ν → ν) : OrdMap κ ν :=
  m.mapVals fun k' v => if k' = k then f v else v

variable {m : OrdMap κ ν} {k : κ} {v : ν}

/-- With distinct keys a lookup finds exactly the entries of the list. -/
theorem get?_eq_some_iff : m.get? k = some v ↔ (k, v) ∈ m.entries := by
  obtain ⟨entries, nodup⟩ := m
  simp only [get?]
  induction entries with
  | nil => simp
  | cons e rest ih =>
    simp only [List.map_cons, List.nodup_cons] at nodup
    by_cases hkey : e.1 = k
    · have habsent : (k, v) ∉ rest := fun hmem => nodup.1 (List.mem_map.2 ⟨(k, v), hmem, hkey.symm⟩)
      obtain ⟨key, value⟩ := e
      subst hkey
      simp [habsent, eq_comm]
    · have hne : (k, v) ≠ e := fun h => hkey (by rw [← h])
      simpa [List.find?_cons, hkey, hne] using ih nodup.2

theorem get?_eq_none_iff : m.get? k = none ↔ k ∉ m.entries.map Prod.fst := by
  rw [Option.eq_none_iff_forall_ne_some]
  simp only [ne_eq, get?_eq_some_iff, List.mem_map, Prod.exists, exists_and_right,
    exists_eq_right, not_exists]

theorem size_eq_zero (h : ∀ k, m.get? k = none) : m.size = 0 := by
  apply List.length_eq_zero_iff.2
  apply List.eq_nil_iff_forall_not_mem.2
  intro e he
  have hfound : m.get? e.1 = some e.2 := get?_eq_some_iff.2 he
  rw [h e.1] at hfound
  cases hfound

theorem get?_of_size_eq_zero (h : m.size = 0) (k : κ) : m.get? k = none := by
  rw [get?_eq_none_iff, List.length_eq_zero_iff.1 h]
  exact List.not_mem_nil

@[simp]
theorem get?_empty (k : κ) : (empty : OrdMap κ ν).get? k = none := rfl

@[simp]
theorem get?_mapVals (m : OrdMap κ ν) (f : κ → ν → μ) (k : κ) :
    (m.mapVals f).get? k = (m.get? k).map (f k) := by
  refine Option.ext fun v => ?_
  rw [get?_eq_some_iff, Option.map_eq_some_iff]
  simp only [mapVals, List.mem_map, Prod.mk.injEq, Prod.exists, get?_eq_some_iff]
  constructor
  · rintro ⟨key, value, hmem, rfl, rfl⟩
    exact ⟨value, hmem, rfl⟩
  · rintro ⟨value, hmem, rfl⟩
    exact ⟨k, value, hmem, rfl, rfl⟩

@[simp]
theorem get?_filter (m : OrdMap κ ν) (keep : κ → ν → Bool) (k : κ) :
    (m.filter keep).get? k = (m.get? k).filter (keep k) := by
  refine Option.ext fun v => ?_
  rw [get?_eq_some_iff, Option.filter_eq_some_iff, get?_eq_some_iff]
  simp [filter]

theorem get?_erase (m : OrdMap κ ν) (k k' : κ) :
    (m.erase k).get? k' = if k' = k then none else m.get? k' := by
  rw [erase, get?_filter]
  by_cases h : k' = k
  · cases m.get? k' <;> simp [Option.filter, h]
  · cases m.get? k' <;> simp [Option.filter, h]

theorem get?_set (m : OrdMap κ ν) (k k' : κ) (v : ν) :
    (m.set k v).get? k' = if k' = k then some v else m.get? k' := by
  by_cases hpresent : k ∈ m.entries.map Prod.fst
  · rw [set, dif_pos hpresent, get?_mapVals]
    by_cases h : k' = k
    · subst h
      have hsome : m.get? k' ≠ none := fun hnone => get?_eq_none_iff.1 hnone hpresent
      obtain ⟨old, hold⟩ := Option.ne_none_iff_exists'.1 hsome
      simp [hold]
    · cases m.get? k' <;> simp [h]
  · rw [set, dif_neg hpresent]
    refine Option.ext fun v' => ?_
    rw [get?_eq_some_iff]
    by_cases h : k' = k
    · subst h
      have habsent : (k', v') ∉ m.entries := fun hmem =>
        hpresent (List.mem_map.2 ⟨(k', v'), hmem, rfl⟩)
      simp [habsent, eq_comm]
    · simp [h, get?_eq_some_iff]

@[simp]
theorem get?_set_self (m : OrdMap κ ν) (k : κ) (v : ν) : (m.set k v).get? k = some v := by
  rw [get?_set, if_pos rfl]

theorem get?_set_of_ne (m : OrdMap κ ν) {k' : κ} (h : k' ≠ k) (v : ν) :
    (m.set k v).get? k' = m.get? k' := by
  rw [get?_set, if_neg h]

@[simp]
theorem get?_erase_self (m : OrdMap κ ν) (k : κ) : (m.erase k).get? k = none := by
  rw [get?_erase, if_pos rfl]

theorem get?_erase_of_ne (m : OrdMap κ ν) {k' : κ} (h : k' ≠ k) :
    (m.erase k).get? k' = m.get? k' := by
  rw [get?_erase, if_neg h]

@[simp]
theorem get?_update_self (m : OrdMap κ ν) (k : κ) (f : ν → ν) :
    (m.update k f).get? k = (m.get? k).map f := by
  simp [update]

theorem get?_update_of_ne (m : OrdMap κ ν) {k' : κ} (h : k' ≠ k) (f : ν → ν) :
    (m.update k f).get? k' = m.get? k' := by
  simp [update, h]

/-- Rewriting a key that has no value changes nothing. -/
theorem update_of_get?_none (h : m.get? k = none) (f : ν → ν) : m.update k f = m := by
  have habsent := get?_eq_none_iff.1 h
  have hsame : ∀ e ∈ m.entries, (e.1, if e.1 = k then f e.2 else e.2) = e := by
    intro e he
    have hne : e.1 ≠ k := fun hk => habsent (List.mem_map.2 ⟨e, he, hk⟩)
    rw [if_neg hne]
  have hentries : (m.update k f).entries = m.entries :=
    (List.map_congr_left hsame).trans (List.map_id _)
  cases m
  simpa [update, mapVals] using hentries

/-- Rewriting a value is setting the key to the new value. -/
theorem update_of_get?_some (h : m.get? k = some v) (f : ν → ν) : m.update k f = m.set k (f v) := by
  have hmem : k ∈ m.entries.map Prod.fst :=
    List.mem_map.2 ⟨(k, v), get?_eq_some_iff.1 h, rfl⟩
  have hsame : ∀ e ∈ m.entries, (e.1, if e.1 = k then f e.2 else e.2) =
      (e.1, if e.1 = k then f v else e.2) := by
    intro e he
    by_cases hk : e.1 = k
    · have hget : m.get? e.1 = some e.2 := get?_eq_some_iff.2 he
      rw [hk, h] at hget
      cases hget
      rfl
    · rw [if_neg hk, if_neg hk]
  rw [set, dif_pos hmem]
  have hentries := List.map_congr_left hsame
  simpa [update, mapVals] using hentries

/-- Setting a key to the value it has changes nothing. -/
theorem set_of_get?_some (h : m.get? k = some v) : m.set k v = m := by
  have hsame : ∀ e ∈ m.entries, (e.1, if e.1 = k then v else e.2) = e := by
    intro e he
    by_cases hk : e.1 = k
    · have hget : m.get? e.1 = some e.2 := get?_eq_some_iff.2 he
      rw [hk, h] at hget
      cases hget
      rw [if_pos hk]
    · rw [if_neg hk]
  have hmem : k ∈ m.entries.map Prod.fst :=
    List.mem_map.2 ⟨(k, v), get?_eq_some_iff.1 h, rfl⟩
  rw [set, dif_pos hmem]
  have hentries : (m.mapVals fun k' v' => if k' = k then v else v').entries = m.entries :=
    (List.map_congr_left hsame).trans (List.map_id _)
  cases m
  simpa [mapVals] using hentries

theorem entries_set_new (h : m.get? k = none) (v : ν) :
    (m.set k v).entries = m.entries ++ [(k, v)] := by
  rw [set, dif_neg (get?_eq_none_iff.1 h)]

/-- Setting a key to a value with the same feature keeps the features in their order. -/
theorem map_entries_set_old {old : ν} (h : m.get? k = some old) {g : ν → μ} (hsame : g v = g old) :
    ((m.set k v).entries.map fun e => g e.2) = m.entries.map fun e => g e.2 := by
  have hmem : k ∈ m.entries.map Prod.fst :=
    List.mem_map.2 ⟨(k, old), get?_eq_some_iff.1 h, rfl⟩
  rw [set, dif_pos hmem]
  simp only [mapVals, List.map_map]
  apply List.map_congr_left
  intro e he
  by_cases hk : e.1 = k
  · have hget : m.get? e.1 = some e.2 := get?_eq_some_iff.2 he
    rw [hk, h] at hget
    cases hget
    simp [hk, hsame]
  · simp [hk]

/-- An update that keeps a feature of the values keeps it for every key. -/
theorem map_get?_update {f : ν → ν} {g : ν → μ} (h : ∀ v, g (f v) = g v) (k' : κ) :
    ((m.update k f).get? k').map g = (m.get? k').map g := by
  by_cases hkey : k' = k
  · subst hkey
    simp [Function.comp_def, h]
  · rw [get?_update_of_ne m hkey]

/-- Removing a key that has no value changes nothing. -/
theorem erase_of_get?_none (h : m.get? k = none) : m.erase k = m := by
  have habsent := get?_eq_none_iff.1 h
  have hentries : (m.erase k).entries = m.entries := by
    apply List.filter_eq_self.2
    intro e he
    have hne : e.1 ≠ k := fun hk => habsent (List.mem_map.2 ⟨e, he, hk⟩)
    simpa using hne
  cases m
  simpa [erase, filter] using hentries

/-- What is found after removing a key was there before, under another key. -/
theorem get?_of_get?_erase {k' : κ} (h : (m.erase k).get? k' = some v) :
    k' ≠ k ∧ m.get? k' = some v := by
  rw [get?_erase] at h
  split at h
  · cases h
  · exact ⟨‹_›, h⟩

def ofList (entries : List (κ × ν)) : OrdMap κ ν :=
  entries.foldl (fun m e => m.set e.1 e.2) empty

theorem ofList_append (entries : List (κ × ν)) (e : κ × ν) :
    ofList (entries ++ [e]) = (ofList entries).set e.1 e.2 := by
  rw [ofList, List.foldl_append]
  rfl

theorem mem_of_get?_ofList {entries : List (κ × ν)} (h : (ofList entries).get? k = some v) :
    (k, v) ∈ entries := by
  induction entries using List.reverseRecOn with
  | nil => cases h
  | append_singleton entries e ih =>
    rw [ofList_append, get?_set] at h
    rw [List.mem_append, List.mem_singleton]
    split at h
    · rename_i hkey
      cases h
      exact .inr (by rw [hkey])
    · exact .inl (ih h)

theorem get?_ofList_ne_none {entries : List (κ × ν)} (h : (k, v) ∈ entries) :
    (ofList entries).get? k ≠ none := by
  induction entries using List.reverseRecOn with
  | nil => cases h
  | append_singleton entries e ih =>
    rw [ofList_append, get?_set]
    split
    · exact Option.some_ne_none _
    · rename_i hkey
      rcases List.mem_append.1 h with hmem | hlast
      · exact ih hmem
      · rw [List.mem_singleton] at hlast
        exact absurd (congrArg Prod.fst hlast) hkey

theorem size_set_new (h : m.get? k = none) (v : ν) : (m.set k v).size = m.size + 1 := by
  unfold size set
  rw [dif_neg (get?_eq_none_iff.1 h), List.length_append, List.length_singleton]

theorem size_erase (h : m.get? k = some v) : (m.erase k).size = m.size - 1 := by
  have hmem : k ∈ m.entries.map Prod.fst :=
    List.mem_map.2 ⟨(k, v), get?_eq_some_iff.1 h, rfl⟩
  have hkeys : (m.erase k).entries.map Prod.fst = (m.entries.map Prod.fst).erase k := by
    rw [m.nodup.erase_eq_filter, List.filter_map]
    congr 1
    apply List.filter_congr
    intro e _
    by_cases hk : e.1 = k <;> simp [hk]
  have hlength := congrArg List.length hkeys
  rw [List.length_map, List.length_erase_of_mem hmem, List.length_map] at hlength
  exact hlength

/-- Every key whose value differs had, and has, only values with the property. -/
def ChangesOnly (p : ν → Prop) (before after : OrdMap κ ν) : Prop :=
  ∀ k, before.get? k ≠ after.get? k →
    (∀ v, before.get? k = some v → p v) ∧ ∀ v, after.get? k = some v → p v

theorem ChangesOnly.refl (p : ν → Prop) (m : OrdMap κ ν) : ChangesOnly p m m :=
  fun _ h => absurd rfl h

variable {p : ν → Prop}

theorem ChangesOnly.trans {first second third : OrdMap κ ν} (h : ChangesOnly p first second)
    (h' : ChangesOnly p second third) : ChangesOnly p first third := by
  intro k hk
  by_cases hfirst : first.get? k = second.get? k
  · have hsecond : second.get? k ≠ third.get? k := hfirst ▸ hk
    rw [hfirst]
    exact h' k hsecond
  · by_cases hsecond : second.get? k = third.get? k
    · rw [← hsecond]
      exact h k hfirst
    · exact ⟨(h k hfirst).1, (h' k hsecond).2⟩

theorem changesOnly_set_new_iff (hnew : m.get? k = none) : ChangesOnly p m (m.set k v) ↔ p v := by
  constructor
  · intro h
    exact (h k (by simp [hnew])).2 v (get?_set_self m k v)
  · intro hv k' hk'
    rw [get?_set] at hk' ⊢
    split
    · rename_i heq
      subst heq
      simp [hnew, hv]
    · rename_i hne
      rw [if_neg hne] at hk'
      exact absurd rfl hk'

theorem changesOnly_set_iff {old : ν} (hold : m.get? k = some old) :
    ChangesOnly p m (m.set k v) ↔ (v ≠ old → p old ∧ p v) := by
  constructor
  · intro h hne
    have hchanged := h k (by rw [hold, get?_set_self]; simpa using hne.symm)
    exact ⟨hchanged.1 old hold, hchanged.2 v (get?_set_self m k v)⟩
  · intro h k' hk'
    rw [get?_set] at hk' ⊢
    split
    · rename_i heq
      subst heq
      rw [if_pos rfl, hold] at hk'
      have hboth := h fun hsame => hk' (by rw [hsame])
      rw [hold]
      exact ⟨by rintro _ ⟨⟩; exact hboth.1, by rintro _ ⟨⟩; exact hboth.2⟩
    · rename_i hne
      rw [if_neg hne] at hk'
      exact absurd rfl hk'

theorem changesOnly_filter_iff {keep : κ → ν → Bool} :
    ChangesOnly p m (m.filter keep) ↔ ∀ k v, m.get? k = some v → keep k v = false → p v := by
  constructor
  · intro h k v hv hdrop
    refine (h k ?_).1 v hv
    rw [get?_filter, hv]
    simp [Option.filter, hdrop]
  · intro h k hk
    cases hv : m.get? k with
    | none => simp [hv] at hk
    | some v =>
      cases hkeep : keep k v with
      | true => simp [hv, Option.filter, hkeep] at hk
      | false => simp [hv, Option.filter, hkeep, h k v hv hkeep]

theorem ChangesOnly.erase {before after : OrdMap κ ν} (h : ChangesOnly p before after)
    (hv : before.get? k = some v) (hp : p v) : ChangesOnly p before (after.erase k) := by
  apply h.trans
  rw [OrdMap.erase, changesOnly_filter_iff]
  intro k' v' hv' hdrop
  have hk : k' = k := by simpa using hdrop
  subst hk
  by_cases hsame : before.get? k' = after.get? k'
  · rw [hv, hv'] at hsame
    cases hsame
    exact hp
  · exact (h k' hsame).2 v' hv'

theorem changesOnly_erase_iff {old : ν} (hold : m.get? k = some old) :
    ChangesOnly p m (m.erase k) ↔ p old := by
  rw [erase, changesOnly_filter_iff]
  constructor
  · intro h
    exact h k old hold (by simp)
  · intro h k' v hv hdrop
    simp only [ne_eq, decide_not, Bool.not_eq_false', decide_eq_true_eq] at hdrop
    subst hdrop
    rw [hold] at hv
    cases hv
    exact h

/-- Some entries with the property are gone; nothing is new or different. -/
structure DropsOnly (p : ν → Prop) (before after : OrdMap κ ν) : Prop where
  found : ∀ k v, after.get? k = some v → before.get? k = some v
  kept : ∀ k v, before.get? k = some v → ¬ p v → after.get? k = some v

theorem DropsOnly.refl (p : ν → Prop) (m : OrdMap κ ν) : DropsOnly p m m :=
  ⟨fun _ _ h => h, fun _ _ h _ => h⟩

theorem DropsOnly.erase {before after : OrdMap κ ν} (h : DropsOnly p before after)
    (hv : before.get? k = some v) (hp : p v) :
    DropsOnly p before (after.erase k) where
  found k' v' hget := h.found k' v' (get?_of_get?_erase hget).2
  kept k' v' hget hnot := by
    have hne : k' ≠ k := by
      rintro rfl
      rw [hv] at hget
      cases hget
      exact hnot hp
    rw [get?_erase_of_ne _ hne, h.kept k' v' hget hnot]

end OrdMap

end Tunnara
