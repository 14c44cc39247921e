/-
# The latest event of a history

A history is a list that grows at its end, and an event of a kind is something that may be said
of a history up to a moment. Of the events so far, the latest decides a register that every
event writes.
-/

import Mathlib.Data.List.Basic
import Mathlib.Data.List.Infix

namespace Tunnara.History

universe u v

variable {α : Type u} {κ : Type v}

/-- An event of the kind has occurred at some moment, and none of any kind since. -/
def Latest (occurs : List α → κ → Prop) (history : List α) (kind : κ) : Prop :=
  ∃ past rest, history = past ++ rest ∧ occurs past kind ∧
    ∀ more left, rest = more ++ left → more ≠ [] → ∀ other, ¬ occurs (past ++ more) other

/-- No event has occurred at any moment. -/
def Never (occurs : List α → κ → Prop) (history : List α) : Prop :=
  ∀ past rest, history = past ++ rest → ∀ kind, ¬ occurs past kind

variable {occurs : List α → κ → Prop} {history : List α} {entry : α} {kind : κ}

theorem never_nil_iff : Never occurs [] ↔ ∀ kind, ¬ occurs [] kind := by
  constructor
  · exact fun h => h [] [] rfl
  · intro h past rest hsplit kind
    rw [(List.append_eq_nil_iff.1 hsplit.symm).1]
    exact h kind

theorem not_latest_nil (h : ∀ kind, ¬ occurs [] kind) : ¬ Latest occurs [] kind := by
  rintro ⟨past, rest, hsplit, hoccurs, -⟩
  rw [(List.append_eq_nil_iff.1 hsplit.symm).1] at hoccurs
  exact h kind hoccurs

theorem latest_of_occurs (h : occurs history kind) : Latest occurs history kind :=
  ⟨history, [], (List.append_nil _).symm, h, fun _ _ hsplit hmore =>
    absurd (List.append_eq_nil_iff.1 hsplit.symm).1 hmore⟩

/-- A moment of the longer history is its end, or a moment of the shorter one. -/
theorem split_snoc {past rest : List α} (h : history ++ [entry] = past ++ rest) :
    (past = history ++ [entry] ∧ rest = []) ∨
      ∃ left, rest = left ++ [entry] ∧ history = past ++ left := by
  rcases List.eq_nil_or_concat rest with rfl | ⟨left, last, rfl⟩
  · exact .inl ⟨by rw [h, List.append_nil], rfl⟩
  · rw [List.concat_eq_append, ← List.append_assoc] at h
    obtain ⟨hhistory, hlast⟩ := List.append_inj' h rfl
    rw [List.concat_eq_append, ← hlast]
    exact .inr ⟨left, rfl, hhistory⟩

/-- Where the new entry is no event, the latest event stays. -/
theorem latest_snoc_iff (h : ∀ other, ¬ occurs (history ++ [entry]) other) :
    Latest occurs (history ++ [entry]) kind ↔ Latest occurs history kind := by
  constructor
  · rintro ⟨past, rest, hsplit, hoccurs, hquiet⟩
    rcases split_snoc hsplit with ⟨rfl, -⟩ | ⟨left, rfl, rfl⟩
    · exact absurd hoccurs (h kind)
    · refine ⟨past, left, rfl, hoccurs, fun more tail htail => hquiet more (tail ++ [entry]) ?_⟩
      rw [htail, List.append_assoc]
  · rintro ⟨past, rest, rfl, hoccurs, hquiet⟩
    refine ⟨past, rest ++ [entry], List.append_assoc .., hoccurs, ?_⟩
    intro more tail htail hmore other
    rcases split_snoc htail with ⟨rfl, -⟩ | ⟨left, -, hrest⟩
    · rw [← List.append_assoc]
      exact h other
    · exact hquiet more left hrest hmore other

theorem latest_snoc_iff_of_occurs {now : κ} (h : occurs (history ++ [entry]) now)
    (hone : ∀ other, occurs (history ++ [entry]) other → other = now) :
    Latest occurs (history ++ [entry]) kind ↔ kind = now := by
  constructor
  · rintro ⟨past, rest, hsplit, hoccurs, hquiet⟩
    rcases split_snoc hsplit with ⟨rfl, -⟩ | ⟨left, rfl, rfl⟩
    · exact hone kind hoccurs
    · refine absurd h ?_
      rw [List.append_assoc]
      exact hquiet (left ++ [entry]) [] (List.append_nil _).symm (by simp) now
  · rintro rfl
    exact latest_of_occurs h

theorem never_snoc_iff : Never occurs (history ++ [entry]) ↔
    Never occurs history ∧ ∀ kind, ¬ occurs (history ++ [entry]) kind := by
  constructor
  · intro h
    refine ⟨fun past rest hsplit => h past (rest ++ [entry]) ?_, h _ [] (List.append_nil _).symm⟩
    rw [hsplit, List.append_assoc]
  · rintro ⟨hnever, hnow⟩ past rest hsplit
    rcases split_snoc hsplit with ⟨rfl, -⟩ | ⟨left, -, hhistory⟩
    · exact hnow
    · exact hnever past left hhistory

end Tunnara.History
