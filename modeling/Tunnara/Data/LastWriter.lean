/-
# A register with a last writer

Some messages write a register and the others may clear it. Whatever the order of
delivery, the register ends with the value of the last write, unless a later message
clears it; there is nothing else that the order decides.
-/

import Tunnara.Data.Transition

namespace Tunnara.LastWriter

open Transition

universe u v w

/-- A register as its messages see it. `Holds` says which write stands; a message that does
not write either spares that write or leaves the register empty. -/
structure Register (σ : Type u) (μ : Type v) (α : Type w) where
  deliver : σ → μ → σ
  read : σ → Option α
  value : μ → α
  /-- The messages that may be delivered. -/
  Sound : μ → Prop
  Writes : μ → Prop
  Spares : μ → μ → Prop
  Ready : σ → Prop
  Holds : μ → σ → Prop
  Empty : σ → Prop
  ready_deliver : ∀ {state message}, Ready state → Sound message → Ready (deliver state message)
  holds_of_writes : ∀ {state message}, Ready state → Sound message → Writes message →
    Holds message (deliver state message)
  holds_of_spares : ∀ {state last message}, Ready state → Holds last state → ¬ Writes message →
    Spares last message → Holds last (deliver state message)
  empty_of_not_spares : ∀ {state last message}, Ready state → Holds last state →
    ¬ Writes message → ¬ Spares last message → Empty (deliver state message)
  empty_of_empty : ∀ {state message}, Ready state → Empty state → ¬ Writes message →
    Empty (deliver state message)
  read_of_holds : ∀ {state last}, Holds last state → read state = some (value last)
  read_of_empty : ∀ {state}, Empty state → read state = none

namespace Register

variable {σ : Type u} {μ : Type v} {α : Type w} (register : Register σ μ α)

/-- The last write of the order, and every later message spares it. -/
def Stands (order : List μ) (last : μ) : Prop :=
  ∃ front back, order = front ++ last :: back ∧ register.Writes last ∧
    ∀ message ∈ back, ¬ register.Writes message ∧ register.Spares last message

variable {register} {order : List μ}

theorem stands_snoc_of_writes {message last : μ} (hwrites : register.Writes message) :
    register.Stands (order ++ [message]) last ↔ last = message := by
  constructor
  · rintro ⟨front, back, horder, -, hback⟩
    rcases List.eq_nil_or_concat back with rfl | ⟨rest, final, rfl⟩
    · exact ((List.append_inj' horder rfl).2 |> List.singleton_inj.1).symm
    · rw [List.concat_eq_append, ← List.cons_append, ← List.append_assoc] at horder
      have hfinal : final = message := List.singleton_inj.1 (List.append_inj' horder rfl).2.symm
      exact absurd hwrites (hfinal ▸ (hback final (by simp)).1)
  · rintro rfl
    exact ⟨order, [], rfl, hwrites, nofun⟩

theorem stands_snoc_of_not_writes {message last : μ} (hwrites : ¬ register.Writes message) :
    register.Stands (order ++ [message]) last ↔
      register.Stands order last ∧ register.Spares last message := by
  constructor
  · rintro ⟨front, back, horder, hlast, hback⟩
    rcases List.eq_nil_or_concat back with rfl | ⟨rest, final, rfl⟩
    · have hmessage : message = last := List.singleton_inj.1 (List.append_inj' horder rfl).2
      exact absurd (hmessage ▸ hlast) hwrites
    · rw [List.concat_eq_append, ← List.cons_append, ← List.append_assoc] at horder
      obtain ⟨hrest, hfinal⟩ := List.append_inj' horder rfl
      rw [List.singleton_inj] at hfinal
      subst hfinal
      refine ⟨⟨front, rest, hrest, hlast, ?_⟩, (hback message (by simp)).2⟩
      intro other hother
      exact hback other (by simp [hother])
  · rintro ⟨⟨front, back, rfl, hlast, hback⟩, hspares⟩
    refine ⟨front, back ++ [message], by simp, hlast, ?_⟩
    intro other hother
    rcases List.mem_append.1 hother with hmem | hmem
    · exact hback other hmem
    · rw [List.mem_singleton.1 hmem]
      exact ⟨hwrites, hspares⟩

variable (register) in
/-- What the register says after an order that writes it at least once. -/
structure Settled (order : List μ) (state : σ) : Prop where
  ready : register.Ready state
  holds : ∀ last, register.Stands order last → register.Holds last state
  empty : (∃ message ∈ order, register.Writes message) → (∀ last, ¬ register.Stands order last) →
    register.Empty state

theorem settled_run {start : σ} (hstart : register.Ready start)
    (hsound : ∀ message ∈ order, register.Sound message) :
    register.Settled order (run register.deliver start order) := by
  induction order using List.reverseRecOn with
  | nil =>
    refine ⟨hstart, ?_, by simp⟩
    rintro last ⟨front, back, horder, -⟩
    exact absurd horder (by simp)
  | append_singleton order message ih =>
    have hmessage : register.Sound message := hsound message (by simp)
    obtain ⟨hready, hholds, hempty⟩ :=
      ih fun other hother => hsound other (List.mem_append_left _ hother)
    rw [run_append]
    refine ⟨register.ready_deliver hready hmessage, ?_, ?_⟩
    · intro last hlast
      by_cases hwrites : register.Writes message
      · rw [(stands_snoc_of_writes hwrites).1 hlast]
        exact register.holds_of_writes hready hmessage hwrites
      · obtain ⟨hstands, hspares⟩ := (stands_snoc_of_not_writes hwrites).1 hlast
        exact register.holds_of_spares hready (hholds last hstands) hwrites hspares
    · rintro ⟨writer, hwriter, hwritten⟩ hnone
      have hwrites : ¬ register.Writes message := fun hwrites =>
        hnone message ((stands_snoc_of_writes hwrites).2 rfl)
      by_cases hstands : ∃ last, register.Stands order last
      · obtain ⟨last, hlast⟩ := hstands
        apply register.empty_of_not_spares hready (hholds last hlast) hwrites
        exact fun hspares => hnone last ((stands_snoc_of_not_writes hwrites).2 ⟨hlast, hspares⟩)
      · apply register.empty_of_empty hready _ hwrites
        apply hempty _ (not_exists.1 hstands)
        rcases List.mem_append.1 hwriter with hmem | hmem
        · exact ⟨writer, hmem, hwritten⟩
        · exact absurd (List.mem_singleton.1 hmem ▸ hwritten) hwrites

/-- **What is read in the end** is the value of the write that stands. -/
theorem read_run_iff {start : σ} (hstart : register.Ready start)
    (hsound : ∀ message ∈ order, register.Sound message)
    (hwritten : ∃ message ∈ order, register.Writes message) (a : α) :
    register.read (run register.deliver start order) = some a ↔
      ∃ last, register.Stands order last ∧ register.value last = a := by
  have hsettled := settled_run hstart hsound
  constructor
  · intro hread
    by_cases hstands : ∃ last, register.Stands order last
    · obtain ⟨last, hlast⟩ := hstands
      rw [register.read_of_holds (hsettled.holds last hlast)] at hread
      exact ⟨last, hlast, Option.some.inj hread⟩
    · rw [register.read_of_empty (hsettled.empty hwritten (not_exists.1 hstands))] at hread
      cases hread
  · rintro ⟨last, hlast, rfl⟩
    exact register.read_of_holds (hsettled.holds last hlast)

end Register

end Tunnara.LastWriter
