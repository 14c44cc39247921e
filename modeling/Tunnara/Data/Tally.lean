/-
# Entries of a shared map

Items update one shared map, each at the key that the item has. What the map holds under a key
is what the items with that key would have made of an entry of their own; items with other keys
never show.
-/

import Tunnara.Data.OrdMap

namespace Tunnara.Tally

universe u v w

variable {κ : Type u} {β : Type v} {ι : Type w} [DecidableEq κ] (key : ι → κ)
  (next : ι → Option β → β)

/-- An item updates the entry under its key. -/
def touch (store : OrdMap κ β) (item : ι) : OrdMap κ β :=
  store.set (key item) (next item (store.get? (key item)))

/-- An entry that only these items update. -/
def own (held : Option β) (items : List ι) : Option β :=
  items.foldl (fun held item => some (next item held)) held

theorem get?_touches (store : OrdMap κ β) (items : List ι) (k : κ) :
    (items.foldl (touch key next) store).get? k =
      own next (store.get? k) (items.filter fun item => key item = k) := by
  induction items generalizing store with
  | nil => rfl
  | cons item rest ih =>
    rw [List.foldl_cons, ih]
    by_cases hkey : key item = k
    · subst hkey
      rw [List.filter_cons_of_pos (by simp), touch, OrdMap.get?_set_self]
      rfl
    · rw [List.filter_cons_of_neg (by simpa using hkey), touch,
        OrdMap.get?_set_of_ne _ fun h => hkey h.symm]

/-- Two ways of updating that a view relates give related entries. -/
theorem own_rel {γ : Type v} {other : ι → Option γ → γ} {rel : β → γ → Prop} {items : List ι}
    (h : ∀ item ∈ items, ∀ held shown, Option.Rel rel held shown →
      rel (next item held) (other item shown)) {held : Option β} {shown : Option γ}
    (hstart : Option.Rel rel held shown) :
    Option.Rel rel (own next held items) (own other shown items) := by
  induction items generalizing held shown with
  | nil => exact hstart
  | cons item rest ih =>
    apply ih fun other hother => h other (List.mem_cons_of_mem _ hother)
    exact .some (h item List.mem_cons_self held shown hstart)

end Tunnara.Tally
