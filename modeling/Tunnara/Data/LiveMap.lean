/-
# Maps that change while they are iterated

A JavaScript `Map` is a list of slots. Setting a new key fills a new slot at the end,
setting a key that is present rewrites its slot, and deleting a key leaves its slot empty.
An iterator is a position in that list, so it meets the entries that were added, and
misses those that were deleted, after it was made.
-/

import Mathlib.Data.List.Basic
import Mathlib.Data.Option.Basic

namespace Tunnara

universe u v

structure LiveMap (κ : Type u) (ν : Type v) where
  slots : List (Option (κ × ν))
  keys_unique : ∀ (i j : ℕ) (k : κ) (v w : ν), slots[i]? = some (some (k, v)) →
    slots[j]? = some (some (k, w)) → i = j

namespace LiveMap

variable {κ : Type u} {ν : Type v}

def empty : LiveMap κ ν := ⟨[], nofun⟩

def Holds (m : LiveMap κ ν) (i : ℕ) (k : κ) (v : ν) : Prop := m.slots[i]? = some (some (k, v))

/-- The entries in the order of an iteration during which nothing changes. -/
def entries (m : LiveMap κ ν) : List (κ × ν) := m.slots.filterMap id

/-- The first entry of a list that passes the test, and the position behind it. -/
def nextFrom (test : κ → ν → Bool) : ℕ → List (Option (κ × ν)) → Option (ℕ × κ × ν)
  | _, [] => none
  | i, none :: rest => nextFrom test (i + 1) rest
  | i, some (k, v) :: rest => if test k v then some (i + 1, k, v) else nextFrom test (i + 1) rest

/-- The first entry at or after a position that passes the test, and the position behind it. -/
def next (m : LiveMap κ ν) (test : κ → ν → Bool) (position : ℕ) : Option (ℕ × κ × ν) :=
  nextFrom test position (m.slots.drop position)

variable [DecidableEq κ]

def get? (m : LiveMap κ ν) (k : κ) : Option ν :=
  m.slots.findSome? fun slot => slot.bind fun e => if e.1 = k then some e.2 else none

variable {m : LiveMap κ ν} {k : κ} {v : ν}

/-- With unique keys a lookup finds the one slot of the key. -/
theorem get?_eq_some_iff : m.get? k = some v ↔ ∃ i, m.Holds i k v := by
  constructor
  · intro h
    obtain ⟨slot, hslot, hfound⟩ := List.exists_of_findSome?_eq_some h
    obtain ⟨e, rfl, hkey⟩ := Option.bind_eq_some_iff.1 hfound
    split_ifs at hkey with hk
    cases hkey
    obtain ⟨i, hi⟩ := List.mem_iff_getElem?.1 hslot
    exact ⟨i, by rw [Holds, hi, ← hk]⟩
  · intro ⟨i, hi⟩
    cases hget : m.get? k with
    | none =>
      have hnone := List.findSome?_eq_none_iff.1 hget _ (List.mem_of_getElem? hi)
      simp at hnone
    | some w =>
      obtain ⟨slot, hslot, hfound⟩ := List.exists_of_findSome?_eq_some hget
      obtain ⟨e, rfl, hkey⟩ := Option.bind_eq_some_iff.1 hfound
      split_ifs at hkey with hk
      obtain ⟨j, hj⟩ := List.mem_iff_getElem?.1 hslot
      obtain ⟨key, value⟩ := e
      cases hk
      cases hkey
      have hsame := m.keys_unique i j _ v _ hi hj
      subst hsame
      rw [Holds, hj] at hi
      cases hi
      rfl

/-- Rewrite the slot of a key that is present. -/
def rewritten (m : LiveMap κ ν) (k : κ) (v : ν) : List (Option (κ × ν)) :=
  m.slots.map fun slot => slot.map fun e => if e.1 = k then (k, v) else e

variable {i : ℕ} {k' : κ} {v' : ν}

theorem getElem?_rewritten :
    (m.rewritten k v)[i]? = some (some (k', v')) ↔
      if k' = k then v' = v ∧ ∃ w, m.Holds i k w else m.Holds i k' v' := by
  unfold rewritten Holds
  rw [List.getElem?_map]
  rcases m.slots[i]? with _ | _ | ⟨key, value⟩
  · simp
  · simp
  · by_cases hkey : key = k
    · subst hkey
      by_cases hk : k' = key
      · subst hk
        simp [eq_comm]
      · simp [hk, Ne.symm hk]
    · by_cases hk : k' = k
      · subst hk
        simp [hkey]
      · simp [hkey, hk]

omit [DecidableEq κ] in
theorem getElem?_append_new :
    (m.slots ++ [some (k, v)])[i]? = some (some (k', v')) ↔
      m.Holds i k' v' ∨ i = m.slots.length ∧ k' = k ∧ v' = v := by
  unfold Holds
  rcases Nat.lt_trichotomy i m.slots.length with hlt | rfl | hgt
  · rw [List.getElem?_append_left hlt]
    simp [Nat.ne_of_lt hlt]
  · simp [eq_comm]
  · rw [List.getElem?_append_right (Nat.le_of_lt hgt), List.getElem?_eq_none (Nat.le_of_lt hgt),
      List.getElem?_eq_none (by simp; omega)]
    simp [Nat.ne_of_gt hgt]

def set (m : LiveMap κ ν) (k : κ) (v : ν) : LiveMap κ ν :=
  if h : (m.get? k).isSome then
    ⟨m.rewritten k v, by
      intro i j k' v' w' hi hj
      rw [getElem?_rewritten] at hi hj
      split_ifs at hi hj with hk
      · obtain ⟨-, a, ha⟩ := hi
        obtain ⟨-, b, hb⟩ := hj
        exact m.keys_unique i j k a b ha hb
      · exact m.keys_unique i j k' v' w' hi hj⟩
  else
    ⟨m.slots ++ [some (k, v)], by
      intro i j k' v' w' hi hj
      have habsent : ∀ i w, ¬ m.Holds i k w := fun i w hw =>
        h (by rw [get?_eq_some_iff.2 ⟨i, hw⟩]; rfl)
      rcases getElem?_append_new.1 hi with hold | ⟨rfl, rfl, rfl⟩
      · rcases getElem?_append_new.1 hj with hold' | ⟨rfl, rfl, rfl⟩
        · exact m.keys_unique i j k' v' w' hold hold'
        · exact absurd hold (habsent i v')
      · rcases getElem?_append_new.1 hj with hold' | ⟨rfl, -, rfl⟩
        · exact absurd hold' (habsent j w')
        · rfl⟩

theorem getElem?_deleted :
    (m.slots.map fun slot => slot.filter fun e => e.1 ≠ k)[i]? = some (some (k', v')) ↔
      k' ≠ k ∧ m.Holds i k' v' := by
  unfold Holds
  rw [List.getElem?_map]
  rcases m.slots[i]? with _ | _ | ⟨key, value⟩
  · simp
  · simp
  · simp only [Option.map_some, Option.some.injEq, Option.filter_eq_some_iff, Prod.mk.injEq,
      decide_eq_true_eq]
    constructor
    · rintro ⟨⟨rfl, rfl⟩, hk⟩
      exact ⟨hk, rfl, rfl⟩
    · rintro ⟨hk, rfl, rfl⟩
      exact ⟨⟨rfl, rfl⟩, hk⟩

def delete (m : LiveMap κ ν) (k : κ) : LiveMap κ ν where
  slots := m.slots.map fun slot => slot.filter fun e => e.1 ≠ k
  keys_unique i j k' v w hi hj :=
    m.keys_unique i j k' v w (getElem?_deleted.1 hi).2 (getElem?_deleted.1 hj).2

theorem get?_eq_none_iff : m.get? k = none ↔ ∀ i v, ¬ m.Holds i k v := by
  rw [Option.eq_none_iff_forall_ne_some]
  constructor
  · intro h i v hv
    exact h v (get?_eq_some_iff.2 ⟨i, hv⟩)
  · intro h v hv
    obtain ⟨i, hi⟩ := get?_eq_some_iff.1 hv
    exact h i v hi

theorem Holds.get? (h : m.Holds i k v) :
    m.get? k = some v := get?_eq_some_iff.2 ⟨i, h⟩

theorem Holds.set (h : m.Holds i k' v') (k : κ) (v : ν) :
    (m.set k v).Holds i k' (if k' = k then v else v') := by
  unfold LiveMap.set
  split_ifs with hpresent hk hk
  · subst hk
    exact getElem?_rewritten.2 (by rw [if_pos rfl]; exact ⟨rfl, v', h⟩)
  · exact getElem?_rewritten.2 (by simpa [hk] using h)
  · subst hk
    rw [h.get?] at hpresent
    exact absurd rfl hpresent
  · exact getElem?_append_new.2 (.inl h)

theorem Holds.delete (h : m.Holds i k' v') (hk : k' ≠ k) :
    (m.delete k).Holds i k' v' := getElem?_deleted.2 ⟨hk, h⟩

theorem get?_delete (m : LiveMap κ ν) (k k' : κ) :
    (m.delete k).get? k' = if k' = k then none else m.get? k' := by
  split_ifs with hk
  · rw [get?_eq_none_iff]
    intro i v h
    exact (getElem?_deleted.1 h).1 hk
  · refine Option.ext fun v => ?_
    rw [get?_eq_some_iff, get?_eq_some_iff]
    exact exists_congr fun i => getElem?_deleted.trans (and_iff_right hk)

theorem get?_set (m : LiveMap κ ν) (k k' : κ) (v : ν) :
    (m.set k v).get? k' = if k' = k then some v else m.get? k' := by
  by_cases hpresent : (m.get? k).isSome
  · obtain ⟨old, hold⟩ := Option.isSome_iff_exists.1 hpresent
    obtain ⟨i, hi⟩ := get?_eq_some_iff.1 hold
    split_ifs with hk
    · subst hk
      have hset := hi.set k' v
      rw [if_pos rfl] at hset
      exact hset.get?
    · refine Option.ext fun v' => ?_
      rw [get?_eq_some_iff, get?_eq_some_iff]
      refine exists_congr fun j => ?_
      unfold set
      rw [dif_pos hpresent]
      exact getElem?_rewritten.trans (by rw [if_neg hk])
  · refine Option.ext fun v' => ?_
    have hnone : m.get? k = none := by simpa using hpresent
    rw [get?_eq_some_iff]
    unfold set
    rw [dif_neg hpresent]
    split_ifs with hk
    · subst hk
      constructor
      · intro ⟨i, hi⟩
        rcases getElem?_append_new.1 hi with hold | ⟨-, -, rfl⟩
        · exact absurd hold (get?_eq_none_iff.1 hnone i v')
        · rfl
      · intro hv
        cases hv
        exact ⟨_, getElem?_append_new.2 (.inr ⟨rfl, rfl, rfl⟩)⟩
    · rw [get?_eq_some_iff]
      refine exists_congr fun i => getElem?_append_new.trans ?_
      exact or_iff_left fun h => hk h.2.1

omit [DecidableEq κ] in
theorem mem_entries : (k, v) ∈ m.entries ↔ ∃ i, m.Holds i k v := by
  unfold entries
  rw [List.mem_filterMap]
  simp only [id_eq, exists_eq_right]
  exact List.mem_iff_getElem?

omit [DecidableEq κ] in
theorem nextFrom_eq_some {test : κ → ν → Bool} {slots : List (Option (κ × ν))} {later : ℕ}
    (h : nextFrom test i slots = some (later, k, v)) :
    ∃ d, later = i + d + 1 ∧ slots[d]? = some (some (k, v)) ∧ test k v = true ∧
      ∀ d' k' v', d' < d → slots[d']? = some (some (k', v')) → test k' v' = false := by
  induction slots generalizing i with
  | nil => cases h
  | cons slot rest ih =>
    -- the entries before what is found are the head, if it fails, and those of the tail
    have htail : nextFrom test (i + 1) rest = some (later, k, v) →
        (∀ e, slot = some e → test e.1 e.2 = false) →
        ∃ d, later = i + d + 1 ∧ (slot :: rest)[d]? = some (some (k, v)) ∧ test k v = true ∧
          ∀ d' k' v', d' < d → (slot :: rest)[d']? = some (some (k', v')) →
            test k' v' = false := by
      intro hrest hhead
      obtain ⟨d, hlater, hslot, htest, hbefore⟩ := ih hrest
      refine ⟨d + 1, by omega, hslot, htest, fun d' k' v' hd' hslot' => ?_⟩
      cases d' with
      | zero =>
        cases hslot'
        exact hhead (k', v') rfl
      | succ d' => exact hbefore d' k' v' (Nat.lt_of_succ_lt_succ hd') hslot'
    rcases slot with _ | ⟨key, value⟩
    · exact htail h nofun
    · unfold nextFrom at h
      split_ifs at h with htest
      · cases h
        exact ⟨0, rfl, rfl, htest, nofun⟩
      · refine htail h fun e he => ?_
        cases he
        simpa using htest

omit [DecidableEq κ] in
theorem nextFrom_eq_none {test : κ → ν → Bool} {slots : List (Option (κ × ν))}
    (h : nextFrom test i slots = none) {d : ℕ} (hd : slots[d]? = some (some (k, v))) :
    test k v = false := by
  induction slots generalizing i d with
  | nil => cases hd
  | cons slot rest ih =>
    rcases slot with _ | ⟨key, value⟩
    · cases d with
      | zero => cases hd
      | succ d => exact ih h hd
    · unfold nextFrom at h
      split_ifs at h with htest
      cases d with
      | zero =>
        cases hd
        simpa using htest
      | succ d => exact ih h hd

omit [DecidableEq κ] in
/-- What is found lies at or behind the position and passes the test; what lies between
does not. -/
theorem next_eq_some {test : κ → ν → Bool} {position later : ℕ}
    (h : m.next test position = some (later, k, v)) :
    ∃ i, later = i + 1 ∧ position ≤ i ∧ m.Holds i k v ∧ test k v = true ∧
      ∀ j k' v', position ≤ j → j < i → m.Holds j k' v' → test k' v' = false := by
  obtain ⟨d, hlater, hslot, htest, hbefore⟩ := nextFrom_eq_some h
  rw [List.getElem?_drop] at hslot
  refine ⟨position + d, hlater, Nat.le_add_right _ _, hslot, htest, ?_⟩
  intro j k' v' hposition hj hholds
  obtain ⟨d', rfl⟩ := Nat.exists_eq_add_of_le hposition
  exact hbefore d' k' v' (by omega) (by rw [List.getElem?_drop]; exact hholds)

omit [DecidableEq κ] in
theorem next_eq_none {test : κ → ν → Bool} {position : ℕ} (h : m.next test position = none)
    (hi : m.Holds i k v) (hposition : position ≤ i) : test k v = false := by
  obtain ⟨d, rfl⟩ := Nat.exists_eq_add_of_le hposition
  exact nextFrom_eq_none h (by rw [List.getElem?_drop]; exact hi)

end LiveMap

end Tunnara
