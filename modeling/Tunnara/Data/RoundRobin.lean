/-
# Stepping through a list with a cursor

A selector picks the item at the cursor modulo the length of a list and advances by a fixed
stride. A window of as many picks as the list has items visits every position once when the stride
is coprime to the length. With stride two and an even length it visits half of the positions
twice; every item still gets its share exactly when equal items stand next to each other in pairs.
-/

import Mathlib.Data.Finset.Card
import Mathlib.Data.Finset.Image
import Mathlib.Data.Nat.Count
import Mathlib.Data.Nat.ModEq
import Mathlib.Algebra.Group.Nat.Even
import Mathlib.Tactic.Ring

namespace Tunnara.RoundRobin

universe u

variable {α : Type u}

def pick (items : List α) (cursor : ℕ) : Option α := items[cursor % items.length]?

/-- The picks of `n` consecutive steps. -/
def picks (items : List α) (stride start n : ℕ) : List (Option α) :=
  (List.range n).map fun k => pick items (start + stride * k)

@[simp]
theorem length_picks (items : List α) (stride start n : ℕ) :
    (picks items stride start n).length = n := by
  simp [picks]

theorem picks_succ (items : List α) (stride start n : ℕ) :
    picks items stride start (n + 1) =
      pick items start :: picks items stride (start + stride) n := by
  simp only [picks, List.range_succ_eq_map, List.map_cons, List.map_map]
  refine congrArg₂ List.cons (by simp) ?_
  apply List.map_congr_left
  intro k _
  show pick items (start + stride * (k + 1)) = pick items (start + stride + stride * k)
  congr 1
  ring

theorem picks_add (items : List α) (stride start n m : ℕ) :
    picks items stride start (n + m) =
      picks items stride start n ++ picks items stride (start + stride * n) m := by
  induction n generalizing start with
  | zero => simp [picks]
  | succ n ih =>
    rw [Nat.succ_add, picks_succ, picks_succ, ih, List.cons_append]
    congr 3
    ring

variable {stride : ℕ}

theorem window_picks {items : List α} {start : ℕ} {n j m : ℕ} (h : j + m ≤ n) :
    ((picks items stride start n).drop j).take m = picks items stride (start + stride * j) m := by
  obtain ⟨rest, rfl⟩ := Nat.exists_eq_add_of_le h
  rw [Nat.add_assoc, picks_add, List.drop_left' (length_picks ..), picks_add,
    List.take_left' (length_picks ..)]

theorem pick_add_length (items : List α) (cursor : ℕ) :
    pick items (cursor + items.length) = pick items cursor := by
  rw [pick, pick, Nat.add_mod_right]

variable [DecidableEq α]

/-- How often an item is picked in `n` steps. -/
def hits (items : List α) (x : α) (stride start n : ℕ) : ℕ :=
  (picks items stride start n).count (some x)

section

variable (items : List α) (x : α)

variable (stride start n : ℕ)

@[simp]
theorem hits_zero : hits items x stride start 0 = 0 := rfl

theorem hits_succ :
    hits items x stride start (n + 1) =
      (if pick items start = some x then 1 else 0) + hits items x stride (start + stride) n := by
  rw [hits, picks_succ, List.count_cons, hits, Nat.add_comm]
  simp only [beq_iff_eq]

theorem hits_add (m : ℕ) :
    hits items x stride start (n + m) =
      hits items x stride start n + hits items x stride (start + stride * n) m := by
  rw [hits, picks_add, List.count_append, hits, hits]

theorem hits_start_add_length :
    hits items x stride (start + items.length) n = hits items x stride start n := by
  induction n generalizing start with
  | zero => rfl
  | succ n ih =>
    rw [hits_succ, hits_succ, pick_add_length, Nat.add_right_comm, ih]

/-- Steps of one are steps of two from both of the first positions. -/
theorem hits_one_eq_two (m : ℕ) :
    hits items x 1 start (m + m) = hits items x 2 start m + hits items x 2 (start + 1) m := by
  induction m generalizing start with
  | zero => rfl
  | succ m ih =>
    have hsplit : m + 1 + (m + 1) = m + m + 1 + 1 := by omega
    rw [hsplit, hits_succ, hits_succ, hits_succ _ _ 2, hits_succ _ _ 2, ih (start + 1 + 1)]
    rw [show start + 1 + 1 = start + 2 from rfl, show start + 2 + 1 = start + 1 + 2 from rfl]
    omega

theorem hits_eq_card :
    hits items x stride start n =
      ((Finset.range n).filter fun k => pick items (start + stride * k) = some x).card := by
  rw [← Nat.count_eq_card_filter_range, hits, picks]
  induction n with
  | zero => rfl
  | succ n ih =>
    rw [List.range_succ, List.map_append, List.count_append, ih, Nat.count_succ]
    congr 1
    simp [List.count_cons]

/-- Steps of one from the start of the list read the list. -/
theorem hits_one_zero : hits items x 1 0 items.length = items.count x := by
  have hread : picks items 1 0 items.length = items.map some := by
    apply List.ext_getElem
    · simp
    · intro k hk _
      have hlt : k < items.length := by simpa using hk
      simp [picks, pick, Nat.mod_eq_of_lt hlt, hlt]
  rw [hits, hread, List.count_map_of_injective _ some (Option.some_injective α)]

end

/-- A stride coprime to the length does not visit a position twice in one round. -/
theorem injOn_of_coprime {n : ℕ} (hcoprime : Nat.Coprime n stride) {start : ℕ} :
    Set.InjOn (fun k => (start + stride * k) % n) (Finset.range n) := by
  intro a ha b hb hab
  have hmul : stride * a ≡ stride * b [MOD n] := Nat.ModEq.add_left_cancel' start hab
  have hmod : a ≡ b [MOD n] := Nat.ModEq.cancel_left_of_coprime hcoprime hmul
  exact hmod.eq_of_lt_of_lt (by simpa using ha) (by simpa using hb)

theorem image_of_coprime {n : ℕ} (hcoprime : Nat.Coprime n stride) {start : ℕ} :
    (Finset.range n).image (fun k => (start + stride * k) % n) = Finset.range n := by
  rcases Nat.eq_zero_or_pos n with rfl | hn
  · rfl
  apply Finset.eq_of_subset_of_card_le
  · intro p hp
    obtain ⟨k, -, rfl⟩ := Finset.mem_image.1 hp
    exact Finset.mem_range.2 (Nat.mod_lt _ hn)
  · rw [Finset.card_image_of_injOn (injOn_of_coprime hcoprime)]

theorem hits_eq_card_positions {items : List α} (hcoprime : Nat.Coprime items.length stride)
    (x : α) (start : ℕ) :
    hits items x stride start items.length =
      ((Finset.range items.length).filter fun p => items[p]? = some x).card := by
  let position := fun k => (start + stride * k) % items.length
  have hinj : Set.InjOn position
      ((Finset.range items.length).filter fun k => items[position k]? = some x) := by
    apply (injOn_of_coprime hcoprime).mono
    exact fun k hk => (Finset.mem_filter.1 hk).1
  calc hits items x stride start items.length
      = ((Finset.range items.length).filter fun k => items[position k]? = some x).card :=
        hits_eq_card ..
    _ = (((Finset.range items.length).filter fun k =>
          items[position k]? = some x).image position).card :=
        (Finset.card_image_of_injOn hinj).symm
    _ = (((Finset.range items.length).image position).filter fun p => items[p]? = some x).card := by
        rw [Finset.filter_image]
    _ = ((Finset.range items.length).filter fun p => items[p]? = some x).card := by
        rw [image_of_coprime hcoprime]

/-- With a coprime stride every item is picked as often as it occurs. -/
theorem hits_of_coprime {items : List α} (hcoprime : Nat.Coprime items.length stride) (x : α)
    (start : ℕ) : hits items x stride start items.length = items.count x := by
  rw [hits_eq_card_positions hcoprime, ← hits_one_zero,
    hits_eq_card_positions (Nat.coprime_one_right _)]

section

variable {items : List α} {half : ℕ} (hlength : items.length = half + half)
include hlength

theorem hits_two_round (x : α) (start : ℕ) :
    hits items x 2 start items.length = 2 * hits items x 2 start half := by
  have hround : start + 2 * half = start + items.length := by omega
  rw [hlength, hits_add, hround, hits_start_add_length]
  omega

/-- The two parities share the occurrences of an item. -/
theorem hits_two_parities (x : α) (start : ℕ) :
    hits items x 2 start half + hits items x 2 (start + 1) half = items.count x := by
  rw [← hits_one_eq_two, ← hlength, hits_of_coprime (Nat.coprime_one_right _)]

/-- An item that occurs an odd number of times does not get its share. -/
theorem even_count_of_hits_two {x : α} {start : ℕ}
    (h : hits items x 2 start items.length = items.count x) : Even (items.count x) := by
  rw [← h, hits_two_round hlength]
  exact even_two_mul _

/-- Half a round from the cursor after next visits the same positions. -/
theorem hits_two_add_two (x : α) (start : ℕ) :
    hits items x 2 (start + 2) half = hits items x 2 start half := by
  have hwrap : pick items (start + 2 * half) = pick items start := by
    rw [show start + 2 * half = start + items.length by omega, pick_add_length]
  have hlast : hits items x 2 (start + 2 * half) 1 = if pick items start = some x then 1 else 0 := by
    rw [hits_succ items x 2 _ 0, hits_zero, hwrap, Nat.add_zero]
  have hfront := hits_succ items x 2 start half
  have hback := hits_add items x 2 start half 1
  omega

/-- Equal items stand in pairs: each even position and the next hold the same item. -/
def Paired (items : List α) : Prop := ∀ q, items[2 * q]? = items[2 * q + 1]?

omit [DecidableEq α] in
/-- From an even cursor the next pick repeats the pick. -/
theorem pick_succ_of_paired (hpaired : Paired items) {cursor : ℕ} (heven : Even cursor) :
    pick items (cursor + 1) = pick items cursor := by
  obtain ⟨q, hq⟩ := heven
  rcases Nat.eq_zero_or_pos half with rfl | hpos
  · have hnil : items = [] := List.length_eq_zero_iff.1 hlength
    simp [pick, hnil]
  have hmod : cursor % items.length = 2 * (q % half) := by
    rw [hq, hlength, ← two_mul, ← two_mul, Nat.mul_mod_mul_left]
  have hsucc : (cursor + 1) % items.length = 2 * (q % half) + 1 := by
    have hlt : q % half < half := Nat.mod_lt _ hpos
    rw [Nat.add_mod, hmod, Nat.mod_eq_of_lt (show 1 < items.length by omega),
      Nat.mod_eq_of_lt (by omega)]
  rw [pick, pick, hmod, hsucc]
  exact (hpaired _).symm

theorem hits_two_succ_of_paired (hpaired : Paired items) (x : α) {start : ℕ} (heven : Even start)
    (n : ℕ) : hits items x 2 (start + 1) n = hits items x 2 start n := by
  induction n generalizing start with
  | zero => rfl
  | succ n ih =>
    rw [hits_succ, hits_succ, pick_succ_of_paired hlength hpaired heven, Nat.add_right_comm,
      ih (heven.add even_two)]

theorem hits_two_of_paired (hpaired : Paired items) {x : α} {start : ℕ} :
    hits items x 2 start items.length = items.count x := by
  rw [hits_two_round hlength, ← hits_two_parities hlength x start]
  rcases Nat.even_or_odd start with heven | ⟨q, hq⟩
  · rw [hits_two_succ_of_paired hlength hpaired x heven]
    omega
  · have heven : Even (start + 1) := ⟨q + 1, by omega⟩
    have hnext := hits_two_succ_of_paired hlength hpaired x heven half
    have hshift := hits_two_add_two hlength x start
    rw [show start + 1 + 1 = start + 2 from rfl] at hnext
    omega

end

omit [DecidableEq α] in
theorem paired_flatMap_replicate {β : Type*} {blocks : List β} {size : β → ℕ} {item : β → α}
    (heven : ∀ b ∈ blocks, Even (size b)) :
    Paired (blocks.flatMap fun b => List.replicate (size b) (item b)) := by
  induction blocks with
  | nil => intro q; simp
  | cons b rest ih =>
    intro q
    obtain ⟨n, hn⟩ := heven b List.mem_cons_self
    have hrest := ih fun c hc => heven c (List.mem_cons_of_mem _ hc)
    rw [List.flatMap_cons]
    by_cases hq : q < n
    · rw [List.getElem?_append_left (by simp; omega), List.getElem?_append_left (by simp; omega),
        List.getElem?_replicate, List.getElem?_replicate, if_pos (by omega), if_pos (by omega)]
    · rw [List.getElem?_append_right (by simp; omega),
        List.getElem?_append_right (by simp; omega), List.length_replicate]
      have hleft : 2 * q - size b = 2 * (q - n) := by omega
      have hright : 2 * q + 1 - size b = 2 * (q - n) + 1 := by omega
      rw [hleft, hright]
      exact hrest (q - n)

end Tunnara.RoundRobin
