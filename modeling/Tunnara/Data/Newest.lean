/-
# The newest entries of a map

Entries are sorted from the newest to the oldest, and what stands behind a limit is surplus. An
entry outside the surplus is at least as new as every entry of it, and removing the surplus
leaves as many entries as the limit allows.
-/

import Tunnara.Data.OrdMap

namespace Tunnara

universe u v

namespace Newest

variable {α : Type u} {newer : α → α → Bool} {limit : ℕ} {items : List α}

/-- `ORDER BY ... DESC LIMIT -1 OFFSET limit`. -/
def surplus (newer : α → α → Bool) (limit : ℕ) (items : List α) : List α :=
  (items.mergeSort newer).drop limit

theorem surplus_eq_nil (h : items.length ≤ limit) : surplus newer limit items = [] := by
  unfold surplus
  rw [List.drop_eq_nil_iff, List.length_mergeSort]
  exact h

theorem mem_of_mem_surplus {item : α} (h : item ∈ surplus newer limit items) : item ∈ items :=
  (List.mergeSort_perm items newer).mem_iff.1 (List.mem_of_mem_drop h)

theorem mem_take_iff {item : α} (hnodup : items.Nodup) :
    item ∈ (items.mergeSort newer).take limit ↔
      item ∈ items ∧ item ∉ surplus newer limit items := by
  have hsorted : (items.mergeSort newer).Nodup :=
    (List.mergeSort_perm items newer).nodup_iff.2 hnodup
  have hparts : (items.mergeSort newer).take limit ++ surplus newer limit items =
      items.mergeSort newer := List.take_append_drop _ _
  have hapart := (List.nodup_append.1 (hparts ▸ hsorted)).2.2
  have hmem : item ∈ items ↔
      item ∈ (items.mergeSort newer).take limit ∨ item ∈ surplus newer limit items := by
    rw [← (List.mergeSort_perm items newer).mem_iff, ← List.mem_append, hparts]
  rw [hmem]
  constructor
  · exact fun htake => ⟨.inl htake, fun hdrop => hapart _ htake _ hdrop rfl⟩
  · rintro ⟨htake | hdrop, hkept⟩
    · exact htake
    · exact absurd hdrop hkept

theorem length_remaining (hnodup : items.Nodup) {keep : α → Bool}
    (hkeep : ∀ item ∈ items, keep item = true ↔ item ∉ surplus newer limit items) :
    (items.filter keep).length = min limit items.length := by
  have hperm : (items.filter keep).Perm ((items.mergeSort newer).take limit) := by
    rw [List.perm_ext_iff_of_nodup (hnodup.filter _)
      (((List.mergeSort_perm items newer).nodup_iff.2 hnodup).sublist (List.take_sublist _ _))]
    intro item
    rw [List.mem_filter, mem_take_iff hnodup]
    exact and_congr_right (hkeep item)
  rw [hperm.length_eq, List.length_take, List.length_mergeSort]

theorem newer_of_mem_surplus (htrans : ∀ a b c, newer a b → newer b c → newer a c)
    (htotal : ∀ a b, newer a b || newer b a) (hnodup : items.Nodup) {kept removed : α}
    (hkept : kept ∈ items) (hremains : kept ∉ surplus newer limit items)
    (hremoved : removed ∈ surplus newer limit items) : newer kept removed = true := by
  have hsorted := List.pairwise_mergeSort htrans htotal items
  rw [← List.take_append_drop limit (items.mergeSort newer), List.pairwise_append] at hsorted
  exact hsorted.2.2 kept ((mem_take_iff hnodup).2 ⟨hkept, hremains⟩) removed hremoved

end Newest

namespace OrdMap

variable {κ : Type u} {ν : Type v} {rows : OrdMap κ ν}

theorem ext_entries {first second : OrdMap κ ν} (h : first.entries = second.entries) :
    first = second := by
  cases first
  cases second
  cases h
  rfl

theorem nodup_entries (rows : OrdMap κ ν) : rows.entries.Nodup := rows.nodup.of_map

/-- `DELETE ... WHERE`, with the number of changes. -/
def deleteWhere (rows : OrdMap κ ν) (gone : κ → ν → Bool) : OrdMap κ ν × ℕ :=
  (rows.filter fun k row => !gone k row, (rows.entries.filter fun e => gone e.1 e.2).length)

theorem size_deleteWhere (rows : OrdMap κ ν) (gone : κ → ν → Bool) :
    (rows.deleteWhere gone).2 + (rows.deleteWhere gone).1.size = rows.size := by
  change (rows.entries.filter fun e => gone e.1 e.2).length +
    (rows.entries.filter fun e => !gone e.1 e.2).length = rows.entries.length
  induction rows.entries with
  | nil => rfl
  | cons e rest ih =>
    rw [List.filter_cons, List.filter_cons, List.length_cons]
    cases gone e.1 e.2 <;> simp <;> omega

theorem deleteWhere_of_none {gone : κ → ν → Bool}
    (h : ∀ e ∈ rows.entries, gone e.1 e.2 = false) : rows.deleteWhere gone = (rows, 0) := by
  refine Prod.ext (ext_entries ?_) ?_
  · exact List.filter_eq_self.2 fun e he => by
      dsimp only
      rw [h e he]
      rfl
  · change (rows.entries.filter _).length = 0
    rw [List.length_eq_zero_iff, List.filter_eq_nil_iff]
    intro e he
    rw [h e he]
    exact Bool.false_ne_true

theorem deleteWhere_again (rows : OrdMap κ ν) (gone : κ → ν → Bool) :
    (rows.deleteWhere gone).1.deleteWhere gone = ((rows.deleteWhere gone).1, 0) := by
  apply deleteWhere_of_none
  intro e he
  have hkept := (List.mem_filter.1 he).2
  rwa [Bool.not_eq_true'] at hkept

variable [DecidableEq κ]

/-- `DELETE ... WHERE id=?` for one id after the other. -/
def removeAll (rows : OrdMap κ ν) (ids : List κ) : OrdMap κ ν × ℕ :=
  ids.foldl (fun acc id =>
    (acc.1.erase id, acc.2 + if (acc.1.get? id).isSome then 1 else 0)) (rows, 0)

theorem removeAll_foldl (rows : OrdMap κ ν) (count : ℕ) (ids : List κ) :
    let removed := ids.foldl (fun acc id => (acc.1.erase id,
      acc.2 + if (acc.1.get? id).isSome then 1 else 0)) (rows, count)
    removed.1.entries = rows.entries.filter (fun e => e.1 ∉ ids) ∧
      removed.2 + removed.1.size = count + rows.size := by
  induction ids generalizing rows count with
  | nil => exact ⟨by simp, rfl⟩
  | cons id rest ih =>
    obtain ⟨hentries, hsize⟩ := ih (rows.erase id)
      (count + if (rows.get? id).isSome then 1 else 0)
    refine ⟨hentries.trans ?_, hsize.trans ?_⟩
    · change (rows.entries.filter _).filter _ = _
      rw [List.filter_filter]
      apply List.filter_congr
      intro e _
      by_cases hid : e.1 = id <;> simp [hid]
    · cases hrow : rows.get? id with
      | none => rw [erase_of_get?_none hrow]; rfl
      | some row =>
        have hpos : 0 < rows.size :=
          List.length_pos_of_mem (get?_eq_some_iff.1 hrow)
        rw [size_erase hrow]
        change count + 1 + _ = _
        omega

theorem entries_removeAll (rows : OrdMap κ ν) (ids : List κ) :
    (rows.removeAll ids).1.entries = rows.entries.filter (fun e => e.1 ∉ ids) :=
  (removeAll_foldl rows 0 ids).1

theorem size_removeAll (rows : OrdMap κ ν) (ids : List κ) :
    (rows.removeAll ids).2 + (rows.removeAll ids).1.size = rows.size :=
  (removeAll_foldl rows 0 ids).2.trans (Nat.zero_add _)

end OrdMap

end Tunnara
