/-
# Texts of lines and fields

A text is cut into pieces at separators, and a piece is trimmed. Pieces that hold no
separator and are tight (they neither begin nor end with a space) come out of a joined text
as they went in.
-/

import Mathlib.Data.List.DropRight
import Mathlib.Data.List.TakeWhile

namespace Tunnara.Lines

variable {α : Type} {space : α → Bool} {t : List α}

/-- Drop what is space at both ends. -/
def trimmed (space : α → Bool) (t : List α) : List α := (t.dropWhile space).rdropWhile space

/-- Neither the first nor the last element is space. -/
structure Tight (space : α → Bool) (t : List α) : Prop where
  first : ∀ x ∈ t.head?, space x = false
  last : ∀ x ∈ t.getLast?, space x = false

variable {x : α}

theorem mem_of_mem_trimmed (h : x ∈ trimmed space t) : x ∈ t :=
  (List.dropWhile_suffix space).subset ((List.rdropWhile_prefix space _).subset h)

theorem dropWhile_of_head? (h : ∀ x ∈ t.head?, space x = false) : t.dropWhile space = t := by
  cases t with
  | nil => rfl
  | cons x t => exact List.dropWhile_cons_of_neg (by simp [h x rfl])

theorem rdropWhile_of_getLast? (h : ∀ x ∈ t.getLast?, space x = false) :
    t.rdropWhile space = t := by
  apply List.rdropWhile_eq_self_iff.2
  intro hne hspace
  have hlast := h _ (List.getLast?_eq_getLast_of_ne_nil hne)
  rw [hspace] at hlast
  cases hlast

theorem tight_of_forall (h : ∀ x ∈ t, space x = false) : Tight space t where
  first x hx := h x (List.mem_of_mem_head? hx)
  last x hx := h x (List.mem_of_mem_getLast? hx)

theorem trimmed_of_tight (h : Tight space t) : trimmed space t = t := by
  rw [trimmed, dropWhile_of_head? h.first, rdropWhile_of_getLast? h.last]

theorem tight_trimmed {space : α → Bool} {t : List α} : Tight space (trimmed space t) := by
  constructor
  case first =>
    intro x hx
    have hprefix := List.rdropWhile_prefix space (t.dropWhile space)
    have hhead : x ∈ (t.dropWhile space).head? := by
      cases hrest : trimmed space t with
      | nil =>
        rw [hrest] at hx
        cases hx
      | cons y rest =>
        rw [hrest] at hx
        obtain ⟨tail, htail⟩ := hprefix
        rw [← htail]
        rw [show (t.dropWhile space).rdropWhile space = y :: rest from hrest]
        exact hx
    have hnot := List.head?_dropWhile_not space t
    rw [Option.mem_def.1 hhead] at hnot
    simpa using hnot
  case last =>
    intro x hx
    have hne : trimmed space t ≠ [] := by
      rintro hnil
      rw [hnil] at hx
      cases hx
    have hlast := List.rdropWhile_last_not space (t.dropWhile space) hne
    have hget : (trimmed space t).getLast hne = x := by
      rw [List.getLast?_eq_getLast_of_ne_nil hne] at hx
      exact Option.some.inj hx
    change ¬ space ((trimmed space t).getLast hne) = true at hlast
    rw [hget] at hlast
    simpa using hlast

theorem trimmed_cons (h : space x = true) : trimmed space (x :: t) = trimmed space t := by
  rw [trimmed, List.dropWhile_cons_of_pos h, trimmed]

theorem rdropWhile_append_cons (h : space x = false) (a b : List α) :
    (a ++ x :: b).rdropWhile space = a ++ x :: b.rdropWhile space := by
  induction b using List.reverseRecOn with
  | nil => exact List.rdropWhile_concat_neg _ _ _ (by simp [h])
  | append_singleton b y ih =>
    rw [← List.cons_append, ← List.append_assoc, List.rdropWhile_concat, List.rdropWhile_concat]
    split
    · exact ih
    · simp

theorem trimmed_rdropWhile (space : α → Bool) (t : List α) :
    trimmed space (t.rdropWhile space) = trimmed space t := by
  induction t using List.reverseRecOn with
  | nil => rfl
  | append_singleton t x ih =>
    cases hx : space x with
    | false => rw [List.rdropWhile_concat_neg _ _ _ (by simp [hx])]
    | true =>
      rw [List.rdropWhile_concat_pos _ _ _ hx, ih]
      unfold trimmed
      rw [List.dropWhile_append]
      split
      · rename_i hblank
        rw [List.isEmpty_iff.1 hblank, List.dropWhile_cons_of_pos hx]
        rfl
      · rw [List.rdropWhile_concat_pos _ _ _ hx]

/-- Between two texts that are not empty it does not matter what stands. -/
theorem Tight.append {a b c : List α} (ha : Tight space a) (hc : Tight space c) (hane : a ≠ [])
    (hcne : c ≠ []) : Tight space (a ++ b ++ c) where
  first x hx := by
    obtain ⟨y, a, rfl⟩ := List.exists_cons_of_ne_nil hane
    exact ha.first x hx
  last x hx := by
    rw [List.getLast?_append_of_ne_nil _ hcne] at hx
    exact hc.last x hx

variable [DecidableEq α]

/-- What stands before and after the first `x`. -/
def cut (x : α) : List α → Option (List α × List α)
  | [] => none
  | y :: t => if y = x then some ([], t) else (cut x t).map fun parts => (y :: parts.1, parts.2)

theorem cut_append {a : List α} (h : x ∉ a) (b : List α) : cut x (a ++ x :: b) = some (a, b) := by
  induction a with
  | nil => exact if_pos rfl
  | cons y a ih =>
    rw [List.mem_cons, not_or] at h
    obtain ⟨hne, hrest⟩ := h
    rw [List.cons_append, cut, if_neg (Ne.symm hne), ih hrest]
    rfl

theorem append_cons_inj {a b c d : List α} (h : x ∉ a) (h' : x ∉ c)
    (heq : a ++ x :: b = c ++ x :: d) : a = c ∧ b = d := by
  have hcut := congrArg (cut x) heq
  rw [cut_append h, cut_append h'] at hcut
  cases hcut
  exact ⟨rfl, rfl⟩

/-- The last separator. -/
theorem append_cons_inj_last {a b c d : List α} (h : x ∉ b) (h' : x ∉ d)
    (heq : a ++ x :: b = c ++ x :: d) : a = c ∧ b = d := by
  have hreverse := congrArg List.reverse heq
  simp only [List.reverse_append, List.reverse_cons, List.append_assoc, List.singleton_append]
    at hreverse
  obtain ⟨hb, ha⟩ := append_cons_inj (fun hmem => h (List.mem_reverse.1 hmem))
    (fun hmem => h' (List.mem_reverse.1 hmem)) hreverse
  exact ⟨List.reverse_injective ha, List.reverse_injective hb⟩

theorem cut_eq_none_iff : cut x t = none ↔ x ∉ t := by
  constructor
  · intro h hmem
    obtain ⟨before, after, rfl, hnot⟩ := List.eq_append_cons_of_mem hmem
    rw [cut_append hnot] at h
    cases h
  · intro h
    induction t with
    | nil => rfl
    | cons y t ih =>
      rw [List.mem_cons, not_or] at h
      rw [cut, if_neg (Ne.symm h.1), ih h.2]
      rfl

/-- The text is the parts with the separator between them. -/
theorem eq_of_cut {parts : List α × List α} (h : cut x t = some parts) :
    t = parts.1 ++ x :: parts.2 ∧ x ∉ parts.1 := by
  induction t generalizing parts with
  | nil => cases h
  | cons y t ih =>
    rw [cut] at h
    split at h
    · rename_i hsame
      cases h
      exact ⟨by rw [hsame, List.nil_append], List.not_mem_nil⟩
    · rename_i hne
      obtain ⟨rest, hrest, rfl⟩ := Option.map_eq_some_iff.1 h
      obtain ⟨heq, hnot⟩ := ih hrest
      refine ⟨by rw [heq, List.cons_append], ?_⟩
      rw [List.mem_cons, not_or]
      exact ⟨Ne.symm hne, hnot⟩

omit [DecidableEq α] in
/-- A piece holds no separator and nothing that the text does not hold. -/
theorem mem_of_mem_splitOnP {p : α → Bool} {piece : List α} (h : piece ∈ t.splitOnP p)
    (hx : x ∈ piece) : x ∈ t ∧ p x = false := by
  induction t generalizing piece with
  | nil =>
    rw [List.splitOnP_nil, List.mem_singleton] at h
    rw [h] at hx
    cases hx
  | cons y t ih =>
    rw [List.splitOnP_cons_eq_if_modifyHead] at h
    split at h
    · rcases List.mem_cons.1 h with rfl | h
      · cases hx
      · exact ⟨List.mem_cons_of_mem y (ih h hx).1, (ih h hx).2⟩
    · rename_i hy
      obtain ⟨first, rest, hsplit⟩ := List.exists_cons_of_ne_nil (List.splitOnP_ne_nil p t)
      rw [hsplit, List.modifyHead_cons] at h
      rw [hsplit] at ih
      rcases List.mem_cons.1 h with rfl | h
      · rcases List.mem_cons.1 hx with rfl | hx
        · exact ⟨List.mem_cons_self, by simpa using hy⟩
        · have hfirst := ih List.mem_cons_self hx
          exact ⟨List.mem_cons_of_mem y hfirst.1, hfirst.2⟩
      · have hrest := ih (List.mem_cons_of_mem first h) hx
        exact ⟨List.mem_cons_of_mem y hrest.1, hrest.2⟩

omit [DecidableEq α] in
/-- Lines that hold no separator, each with one behind it, are the pieces, and an empty one. -/
theorem splitOnP_lines {p : α → Bool} {separator : α} (hseparator : p separator = true)
    {lines : List (List α)} (h : ∀ line ∈ lines, ∀ x ∈ line, p x = false) :
    (lines.flatMap fun line => line ++ [separator]).splitOnP p = lines ++ [[]] := by
  induction lines with
  | nil => rfl
  | cons line lines ih =>
    have hrest := ih fun other hother => h other (List.mem_cons_of_mem line hother)
    rw [List.flatMap_cons, List.append_assoc, List.singleton_append,
      List.splitOnP_append_cons_of_forall_mem (h line List.mem_cons_self) separator hseparator,
      hrest, List.cons_append]

omit [DecidableEq α] in
/-- Joining lines with a separator and putting one at the end. -/
theorem intercalate_append {separator : α} {lines : List (List α)} (h : lines ≠ []) :
    [separator].intercalate lines ++ [separator] =
      lines.flatMap fun line => line ++ [separator] := by
  induction lines with
  | nil => exact absurd rfl h
  | cons line lines ih =>
    cases lines with
    | nil => simp
    | cons next lines =>
      rw [List.intercalate_cons_cons, List.append_assoc (line ++ [separator]),
        ih (List.cons_ne_nil next lines)]
      rfl

omit [DecidableEq α] in
theorem mem_of_mem_intercalate {separator : List α} {items : List (List α)}
    (h : x ∈ separator.intercalate items) : x ∈ separator ∨ ∃ item ∈ items, x ∈ item := by
  induction items with
  | nil => cases h
  | cons item items ih =>
    cases items with
    | nil =>
      rw [List.intercalate_singleton] at h
      exact .inr ⟨item, List.mem_cons_self, h⟩
    | cons next items =>
      rw [List.intercalate_cons_cons, List.mem_append, List.mem_append] at h
      rcases h with (h | h) | h
      · exact .inr ⟨item, List.mem_cons_self, h⟩
      · exact .inl h
      · rcases ih h with h | ⟨found, hfound, hx⟩
        · exact .inl h
        · exact .inr ⟨found, List.mem_cons_of_mem item hfound, hx⟩

omit [DecidableEq α] in
theorem tight_intercalate {separator : List α} {items : List (List α)} (hne : items ≠ [])
    (hitems : ∀ item ∈ items, item ≠ []) (htight : ∀ item ∈ items, Tight space item) :
    separator.intercalate items ≠ [] ∧ Tight space (separator.intercalate items) := by
  induction items with
  | nil => exact absurd rfl hne
  | cons item items ih =>
    cases items with
    | nil =>
      rw [List.intercalate_singleton]
      exact ⟨hitems item List.mem_cons_self, htight item List.mem_cons_self⟩
    | cons next items =>
      obtain ⟨hrestNe, hrest⟩ := ih (List.cons_ne_nil next items)
        (fun other hother => hitems other (List.mem_cons_of_mem item hother))
        (fun other hother => htight other (List.mem_cons_of_mem item hother))
      rw [List.intercalate_cons_cons]
      refine ⟨by simp [hrestNe], ?_⟩
      exact (htight item List.mem_cons_self).append hrest (hitems item List.mem_cons_self)
        hrestNe

/-- Tight items without a comma come out of a list that is joined with a comma and a space. -/
theorem pieces_intercalate {comma blank : α} (hblank : space blank = true)
    {items : List (List α)} (hne : items ≠ []) (hcomma : ∀ item ∈ items, comma ∉ item)
    (hblanks : comma ≠ blank) (htight : ∀ item ∈ items, Tight space item) :
    (([comma, blank].intercalate items).splitOn comma).map (trimmed space) = items := by
  have hsplit : ∀ (first : List α) (rest : List (List α)), comma ∉ first →
      (∀ item ∈ rest, comma ∉ item) →
      ([comma, blank].intercalate (first :: rest)).splitOn comma =
        first :: rest.map (blank :: ·) := by
    intro first rest hfirst hrest
    induction rest generalizing first with
    | nil => simpa using List.splitOn_eq_singleton hfirst
    | cons next rest ih =>
      have hnext : comma ∉ blank :: next := by
        rw [List.mem_cons, not_or]
        exact ⟨hblanks, hrest next List.mem_cons_self⟩
      have hjoined := ih (blank :: next) hnext fun item hitem =>
        hrest item (List.mem_cons_of_mem next hitem)
      have hmove : blank :: [comma, blank].intercalate (next :: rest) =
          [comma, blank].intercalate ((blank :: next) :: rest) := by
        cases rest with
        | nil => simp
        | cons other rest => simp [List.intercalate_cons_cons]
      rw [List.intercalate_cons_cons, List.append_assoc]
      show (first ++ comma :: blank :: [comma, blank].intercalate (next :: rest)).splitOn comma = _
      rw [List.splitOn_append_cons_self_of_not_mem hfirst, hmove, hjoined, List.map_cons]
  obtain ⟨first, rest, rfl⟩ := List.exists_cons_of_ne_nil hne
  rw [hsplit first rest (hcomma first List.mem_cons_self) fun item hitem =>
    hcomma item (List.mem_cons_of_mem first hitem), List.map_cons, List.map_map]
  rw [trimmed_of_tight (htight first List.mem_cons_self)]
  have hrest : rest.map (trimmed space ∘ (blank :: ·)) = rest := by
    apply (List.map_congr_left ?_).trans (List.map_id rest)
    intro item hitem
    rw [Function.comp_apply, trimmed_cons hblank,
      trimmed_of_tight (htight item (List.mem_cons_of_mem first hitem))]
    rfl
  rw [hrest]

theorem toList_toString (n : ℕ) : (toString n).toList = Nat.toDigits 10 n := by
  rw [Nat.toString_eq_ofList_toDigits, String.toList_ofList]

theorem isDigit_of_mem_toString {n : ℕ} {c : Char} (h : c ∈ (toString n).toList) :
    c.isDigit = true := by
  rw [toList_toString] at h
  exact Nat.isDigit_of_mem_toDigits (by decide) (by decide) h

theorem not_mem_toString {c : Char} (hc : c.isDigit = false) (n : ℕ) : c ∉ (toString n).toList := by
  intro h
  rw [isDigit_of_mem_toString h] at hc
  cases hc

theorem ofDigitChars_toString (n : ℕ) : Nat.ofDigitChars 10 (toString n).toList 0 = n := by
  rw [toList_toString]
  exact Nat.ofDigitChars_ten_toDigits

theorem toString_inj {n m : ℕ} (h : (toString n).toList = (toString m).toList) : n = m := by
  rw [← ofDigitChars_toString n, h, ofDigitChars_toString m]

end Tunnara.Lines
