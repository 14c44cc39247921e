/-
# Instants as texts

An instant is a number of nanoseconds since the first of January 1970. Its text has the date and
the time of day in fields of fixed width, and then as many digits of the second as it takes, in
threes. Up to the end of the year 9999 the texts are ordered as the instants are: a field that is
missing is followed by `+`, which is less than every digit and the point.
-/

import Mathlib.Data.String.Basic
import Mathlib.Data.Nat.Find
import Mathlib.Tactic.IntervalCases

namespace Tunnara.Rfc3339

variable {a b x y : List Char}

/-- Fields of the same width are compared before what follows them. -/
theorem append_lt_append (h : a.length = b.length) : a ++ x < b ++ y ↔ a < b ∨ a = b ∧ x < y := by
  induction a generalizing b with
  | nil =>
    rw [List.eq_nil_of_length_eq_zero h.symm]
    simp
  | cons c a ih =>
    cases b with
    | nil => cases h
    | cons d b =>
      simp only [List.cons_append, List.cons_lt_cons_iff, List.cons.injEq, ih (Nat.succ.inj h)]
      tauto

/-- A character behind two texts that is less than theirs does not change their order. -/
theorem lt_of_terminated {z : Char} (ha : ∀ c ∈ a, z < c) (hb : ∀ c ∈ b, z < c) (hlt : a < b) :
    a ++ z :: x < b ++ z :: x := by
  induction a generalizing b with
  | nil =>
    cases b with
    | nil => exact absurd hlt (List.not_lt_nil _)
    | cons d b => exact List.cons_lt_cons_iff.2 (.inl (hb d List.mem_cons_self))
  | cons c a ih =>
    cases b with
    | nil => exact absurd hlt (List.not_lt_nil _)
    | cons d b =>
      rcases List.cons_lt_cons_iff.1 hlt with hless | ⟨rfl, hrest⟩
      · exact List.cons_lt_cons_iff.2 (.inl hless)
      · exact List.cons_lt_cons_iff.2 (.inr ⟨rfl, ih
          (fun e he => ha e (List.mem_cons_of_mem _ he))
          (fun e he => hb e (List.mem_cons_of_mem _ he)) hrest⟩)

theorem lt_of_padded {p q : ℕ} (ha : ∀ c ∈ a, '0' ≤ c) (hwidth : a.length + p = b.length + q)
    (h : a ++ List.replicate p '0' < b ++ List.replicate q '0') : a < b := by
  induction a generalizing b q with
  | nil =>
    cases b with
    | nil =>
      rw [show p = q by simpa using hwidth] at h
      exact absurd h (lt_irrefl _)
    | cons d b => exact List.nil_lt_cons _ _
  | cons c a ih =>
    cases b with
    | nil =>
      exfalso
      cases q with
      | zero => exact absurd h (List.not_lt_nil _)
      | succ q =>
        rw [List.nil_append, List.replicate_succ, List.cons_append] at h
        rcases List.cons_lt_cons_iff.1 h with hless | ⟨-, hrest⟩
        · exact absurd hless (not_lt.2 (ha c List.mem_cons_self))
        · exact absurd (ih (fun e he => ha e (List.mem_cons_of_mem _ he))
            (b := []) (by simp at hwidth ⊢; omega) hrest) (List.not_lt_nil _)
    | cons d b =>
      rcases List.cons_lt_cons_iff.1 h with hless | ⟨rfl, hrest⟩
      · exact List.cons_lt_cons_iff.2 (.inl hless)
      · exact List.cons_lt_cons_iff.2 (.inr ⟨rfl, ih
          (fun e he => ha e (List.mem_cons_of_mem _ he)) (by simp at hwidth; omega) hrest⟩)

def digit (n : ℕ) : Char := Char.ofNat (48 + n % 10)

/-- The last `k` digits of a number. -/
def digits : ℕ → ℕ → List Char
  | 0, _ => []
  | k + 1, n => digit (n / 10 ^ k) :: digits k n

theorem digit_spec : ∀ m < 10, ∀ n < 10, (Char.ofNat (48 + m) < Char.ofNat (48 + n) ↔ m < n) ∧
    (Char.ofNat (48 + m) = Char.ofNat (48 + n) ↔ m = n) ∧ '0' ≤ Char.ofNat (48 + m) := by
  decide

theorem length_digits (k n : ℕ) : (digits k n).length = k := by
  induction k with
  | zero => rfl
  | succ k ih => exact congrArg Nat.succ ih

variable {k n m : ℕ} {c : Char}

theorem zero_le_of_mem_digits (h : c ∈ digits k n) : '0' ≤ c := by
  induction k with
  | zero => cases h
  | succ k ih =>
    rcases List.mem_cons.1 h with rfl | h
    · exact (digit_spec _ (Nat.mod_lt _ (by decide)) 0 (by decide)).2.2
    · exact ih h

theorem digits_lt_iff (k m n : ℕ) : digits k m < digits k n ↔ m % 10 ^ k < n % 10 ^ k := by
  induction k with
  | zero => simp [digits, Nat.mod_one]
  | succ k ih =>
    have hpos : 0 < 10 ^ k := Nat.pow_pos (by decide)
    have hm := Nat.mod_lt m hpos
    have hn := Nat.mod_lt n hpos
    obtain ⟨hless, hsame, -⟩ := digit_spec (m / 10 ^ k % 10) (Nat.mod_lt _ (by decide))
      (n / 10 ^ k % 10) (Nat.mod_lt _ (by decide))
    unfold digits digit
    rw [List.cons_lt_cons_iff, hless, hsame, ih, Nat.mod_pow_succ, Nat.mod_pow_succ]
    generalize m / 10 ^ k % 10 = c, n / 10 ^ k % 10 = d
    generalize 10 ^ k = p at *
    constructor
    · rintro (hlt | ⟨rfl, hlt⟩)
      · have hstep : p * c + p ≤ p * d := Nat.mul_le_mul_left p hlt
        omega
      · omega
    · intro hlt
      rcases Nat.lt_trichotomy c d with hcd | rfl | hcd
      · exact .inl hcd
      · exact .inr ⟨rfl, by omega⟩
      · have hstep : p * d + p ≤ p * c := Nat.mul_le_mul_left p hcd
        omega

theorem digits_lt_of_lt (hm : m < 10 ^ k) (hn : n < 10 ^ k) : digits k m < digits k n ↔ m < n := by
  rw [digits_lt_iff, Nat.mod_eq_of_lt hm, Nat.mod_eq_of_lt hn]

theorem digits_eq_zeros (h : n % 10 ^ k = 0) : digits k n = List.replicate k '0' := by
  induction k with
  | zero => rfl
  | succ k ih =>
    rw [Nat.mod_pow_succ] at h
    have hrest : n % 10 ^ k = 0 := by omega
    have hdigit : n / 10 ^ k % 10 = 0 := by
      rcases Nat.mul_eq_zero.1 (show 10 ^ k * (n / 10 ^ k % 10) = 0 by omega) with hzero | hzero
      · exact absurd hzero (Nat.pow_pos (by decide)).ne'
      · exact hzero
    unfold digits digit
    rw [hdigit, ih hrest]
    rfl

theorem digits_add (j k n : ℕ) : digits (j + k) n = digits j (n / 10 ^ k) ++ digits k n := by
  induction j with
  | zero => rw [Nat.zero_add]; rfl
  | succ j ih =>
    rw [Nat.succ_add]
    change digit (n / 10 ^ (j + k)) :: digits (j + k) n =
      digit (n / 10 ^ k / 10 ^ j) :: (digits j (n / 10 ^ k) ++ digits k n)
    rw [ih, Nat.div_div_eq_div_mul, ← pow_add, Nat.add_comm k j]

/-- The digits of so many nanoseconds that are written: three, six or nine. -/
def written (n : ℕ) : List Char :=
  if n % 10 ^ 6 = 0 then digits 3 (n / 10 ^ 6)
  else if n % 10 ^ 3 = 0 then digits 6 (n / 10 ^ 3)
  else digits 9 n

/-- The fraction, with its point, if there is one. -/
def fraction (n : ℕ) : List Char := if n = 0 then [] else '.' :: written n

theorem written_padded {n : ℕ} : ∃ p, written n ++ List.replicate p '0' = digits 9 n := by
  unfold written
  split_ifs with hmilli hmicro
  · exact ⟨6, by rw [← digits_eq_zeros hmilli, ← digits_add]⟩
  · exact ⟨3, by rw [← digits_eq_zeros hmicro, ← digits_add]⟩
  · exact ⟨0, List.append_nil _⟩

theorem zero_le_of_mem_written (h : c ∈ written n) : '0' ≤ c := by
  unfold written at h
  split_ifs at h <;> exact zero_le_of_mem_digits h

theorem written_lt (hlt : m < n) (hn : n < 10 ^ 9) : written m < written n := by
  obtain ⟨p, hp⟩ := written_padded
  obtain ⟨q, hq⟩ := written_padded
  refine @lt_of_padded _ _ p q (fun c => zero_le_of_mem_written) ?_ ?_
  · have hm := congrArg List.length hp
    have hn := congrArg List.length hq
    rw [List.length_append, List.length_replicate, length_digits] at hm hn
    rw [hm, hn]
  · rw [hp, hq, digits_lt_iff, Nat.mod_eq_of_lt hn, Nat.mod_eq_of_lt (hlt.trans hn)]
    exact hlt

theorem plus_lt_of_mem_fraction (h : c ∈ fraction n) : '+' < c := by
  unfold fraction at h
  split_ifs at h
  · cases h
  · rcases List.mem_cons.1 h with rfl | h
    · decide
    · exact lt_of_lt_of_le (by decide) (zero_le_of_mem_written h)

theorem fraction_lt (hlt : m < n) (hn : n < 10 ^ 9) : fraction m < fraction n := by
  have hne : n ≠ 0 := by omega
  unfold fraction
  rw [if_neg hne]
  split_ifs
  · exact List.nil_lt_cons _ _
  · exact List.cons_lt_cons_iff.2 (.inr ⟨rfl, written_lt hlt hn⟩)

def leapsBefore (year : ℕ) : ℕ := (year - 1) / 4 - (year - 1) / 100 + (year - 1) / 400

/-- The days from 1970 to the beginning of the year that is so many years later. -/
def daysBefore (years : ℕ) : ℕ := 365 * years + leapsBefore (1970 + years) - leapsBefore 1970

/-- How many years after 1970 a day is. -/
def yearOf (day : ℕ) : ℕ := Nat.findGreatest (fun years => daysBefore years ≤ day) (day / 365)

/-- The days of a year before a month, which are one more from March on in a leap year. -/
def monthStart (leap month : ℕ) : ℕ :=
  [0, 31, 59, 90, 120, 151, 181, 212, 243, 273, 304, 334].getD month 0 +
    if 2 ≤ month then leap else 0

/-- How many months after January a day of the year is. -/
def monthOf (leap day : ℕ) : ℕ := Nat.findGreatest (fun month => monthStart leap month ≤ day) 11

/-- The days that a year has besides its 365. -/
def leapDay (years : ℕ) : ℕ := leapsBefore (1970 + years + 1) - leapsBefore (1970 + years)

/-- The year, the month and the day of the month. -/
def date (day : ℕ) : List Char :=
  let years := yearOf day
  let rest := day - daysBefore years
  let month := monthOf (leapDay years) rest
  digits 4 (1970 + years) ++ '-' :: digits 2 (month + 1) ++
    '-' :: digits 2 (rest - monthStart (leapDay years) month + 1)

def timeOfDay (second : ℕ) : List Char :=
  digits 2 (second / 3600) ++ ':' :: digits 2 (second / 60 % 60) ++ ':' :: digits 2 (second % 60)

def characters (nanos : ℕ) : List Char :=
  let second := nanos / 10 ^ 9
  date (second / 86400) ++ 'T' :: timeOfDay (second % 86400) ++
    (fraction (nanos % 10 ^ 9) ++ ['+', '0', '0', ':', '0', '0'])

/-- `to_rfc3339` of an instant in UTC. -/
def rfc3339 (nanos : ℕ) : String := String.ofList (characters nanos)

example : rfc3339 1767225600000000000 = "2026-01-01T00:00:00+00:00" := by decide +kernel

example : rfc3339 1709251199120000000 = "2024-02-29T23:59:59.120+00:00" := by decide +kernel

theorem daysBefore_succ (years : ℕ) : daysBefore years + 365 ≤ daysBefore (years + 1) ∧
    daysBefore (years + 1) ≤ daysBefore years + 366 := by
  have hleap (year : ℕ) : year / 4 - year / 100 + year / 400 ≤
      (year + 1) / 4 - (year + 1) / 100 + (year + 1) / 400 ∧
      (year + 1) / 4 - (year + 1) / 100 + (year + 1) / 400 ≤
        year / 4 - year / 100 + year / 400 + 1 := by
    by_cases hfour : (year + 1) % 4 = 0
    · by_cases hcentury : (year + 1) % 100 = 0
      · by_cases hera : (year + 1) % 400 = 0 <;> omega
      · omega
    · omega
  have hstep := hleap (1970 + years - 1)
  have hfirst : 477 ≤ (1970 + years - 1) / 4 - (1970 + years - 1) / 100 +
      (1970 + years - 1) / 400 := by
    omega
  unfold daysBefore leapsBefore
  rw [show 1970 + (years + 1) - 1 = 1970 + years - 1 + 1 by omega]
  omega

theorem daysBefore_mono (h : m ≤ n) : daysBefore m ≤ daysBefore n :=
  monotone_nat_of_le_succ (fun k => by have := daysBefore_succ k; omega) h

theorem le_daysBefore (years : ℕ) : 365 * years ≤ daysBefore years := by
  unfold daysBefore leapsBefore
  omega

theorem yearOf_spec (day : ℕ) :
    daysBefore (yearOf day) ≤ day ∧ day < daysBefore (yearOf day) + 366 := by
  have hle : daysBefore (yearOf day) ≤ day :=
    Nat.findGreatest_spec (P := fun years => daysBefore years ≤ day) (Nat.zero_le _)
      (show daysBefore 0 ≤ day from Nat.zero_le _)
  refine ⟨hle, ?_⟩
  have hnext : day < daysBefore (yearOf day + 1) := by
    by_cases hbound : yearOf day + 1 ≤ day / 365
    · exact not_le.1 (Nat.findGreatest_is_greatest (P := fun years => daysBefore years ≤ day)
        (Nat.lt_add_one _) hbound)
    · have hfloor := le_daysBefore (yearOf day + 1)
      omega
  have hstep := daysBefore_succ (yearOf day)
  omega

theorem yearOf_mono (h : m ≤ n) : yearOf m ≤ yearOf n :=
  Nat.findGreatest_mono (fun _ hm => le_trans hm h) (Nat.div_le_div_right h)

theorem leapDay_le (years : ℕ) : leapDay years ≤ 1 := by
  unfold leapDay leapsBefore
  omega

theorem monthStart_succ : ∀ leap ≤ 1, ∀ month < 11,
    monthStart leap (month + 1) ≤ monthStart leap month + 31 := by
  decide

theorem monthOf_spec {leap day : ℕ} (hleap : leap ≤ 1) (hday : day < 366) :
    monthOf leap day ≤ 11 ∧ monthStart leap (monthOf leap day) ≤ day ∧
      day < monthStart leap (monthOf leap day) + 32 := by
  have hbound : monthOf leap day ≤ 11 := Nat.findGreatest_le _
  refine ⟨hbound, Nat.findGreatest_spec (P := fun month => monthStart leap month ≤ day)
    (Nat.zero_le _) (show monthStart leap 0 ≤ day from Nat.zero_le _), ?_⟩
  rcases Nat.lt_or_ge (monthOf leap day) 11 with hlast | hlast
  · have hnext := not_le.1 (Nat.findGreatest_is_greatest
      (P := fun month => monthStart leap month ≤ day) (Nat.lt_add_one _) hlast)
    have hstep := monthStart_succ leap hleap _ hlast
    unfold monthOf at hstep ⊢
    omega
  · rw [show monthOf leap day = 11 by omega]
    have hdecember : 334 ≤ monthStart leap 11 := Nat.le_add_right _ _
    omega

theorem monthOf_mono (leap : ℕ) (h : m ≤ n) : monthOf leap m ≤ monthOf leap n :=
  Nat.findGreatest_mono (fun _ hm => le_trans hm h) le_rfl

theorem length_date {day : ℕ} : (date day).length = 10 := by
  unfold date
  simp only [List.length_append, List.length_cons, length_digits]

/-- The days of the years up to 9999. -/
def lastDays : ℕ := daysBefore 8030

theorem date_lt (hlt : m < n) (hn : n < lastDays) : date m < date n := by
  obtain ⟨hm, hmNext⟩ := yearOf_spec m
  obtain ⟨hnFirst, hnNext⟩ := yearOf_spec n
  have hyear : yearOf n < 8030 := by
    by_contra hlate
    have hbefore := daysBefore_mono (not_lt.1 hlate)
    unfold lastDays at hn
    omega
  have hmono := yearOf_mono hlt.le
  unfold date
  rw [List.append_assoc, List.append_assoc, List.cons_append, List.cons_append,
    append_lt_append (by simp only [length_digits]), digits_lt_of_lt (by omega) (by omega)]
  rcases Nat.lt_or_eq_of_le hmono with hless | hsame
  · exact .inl (by omega)
  right
  rw [hsame] at hm hmNext ⊢
  refine ⟨rfl, List.cons_lt_cons_iff.2 (.inr ⟨rfl, ?_⟩)⟩
  have hleap := leapDay_le (yearOf n)
  generalize leapDay (yearOf n) = leap at hleap ⊢
  generalize daysBefore (yearOf n) = first at hm hmNext hnFirst hnNext ⊢
  obtain ⟨hmMonth, hmDay, hmLast⟩ := @monthOf_spec leap (m - first) hleap (by omega)
  obtain ⟨hnMonth, hnDay, hnLast⟩ := @monthOf_spec leap (n - first) hleap (by omega)
  have hmonths := monthOf_mono leap (show m - first ≤ n - first by omega)
  rw [append_lt_append (by simp only [length_digits]), digits_lt_of_lt (by omega) (by omega)]
  rcases Nat.lt_or_eq_of_le hmonths with hless | hsameMonth
  · exact .inl (by omega)
  right
  rw [hsameMonth] at hmDay hmLast ⊢
  refine ⟨rfl, List.cons_lt_cons_iff.2 (.inr ⟨rfl, ?_⟩)⟩
  rw [digits_lt_of_lt (by omega) (by omega)]
  omega

theorem length_timeOfDay {second : ℕ} : (timeOfDay second).length = 8 := by
  unfold timeOfDay
  simp only [List.length_append, List.length_cons, length_digits]

theorem timeOfDay_lt (hlt : m < n) (hn : n < 86400) : timeOfDay m < timeOfDay n := by
  unfold timeOfDay
  rw [List.append_assoc, List.append_assoc, List.cons_append, List.cons_append,
    append_lt_append (by simp only [length_digits]), digits_lt_of_lt (by omega) (by omega)]
  rcases Nat.lt_or_eq_of_le (show m / 3600 ≤ n / 3600 by omega) with hless | hhour
  · exact .inl hless
  right
  refine ⟨by rw [hhour], List.cons_lt_cons_iff.2 (.inr ⟨rfl, ?_⟩)⟩
  rw [append_lt_append (by simp only [length_digits]), digits_lt_of_lt (by omega) (by omega)]
  rcases Nat.lt_or_eq_of_le (show m / 60 % 60 ≤ n / 60 % 60 by omega) with hless | hminute
  · exact .inl hless
  right
  refine ⟨by rw [hminute], List.cons_lt_cons_iff.2 (.inr ⟨rfl, ?_⟩)⟩
  rw [digits_lt_of_lt (by omega) (by omega)]
  omega

/-- The first instant of the year 10000. -/
def horizon : ℕ := lastDays * 86400 * 10 ^ 9

theorem characters_lt (hlt : m < n) (hn : n < horizon) : characters m < characters n := by
  unfold horizon at hn
  unfold characters
  rw [List.append_assoc, List.append_assoc, List.cons_append, List.cons_append]
  refine (append_lt_append (length_date.trans length_date.symm)).2 ?_
  rcases Nat.lt_or_eq_of_le (show m / 10 ^ 9 / 86400 ≤ n / 10 ^ 9 / 86400 by omega) with
    hless | hday
  · exact .inl (date_lt hless (by omega))
  right
  rw [hday]
  refine ⟨rfl, List.cons_lt_cons_iff.2 (.inr ⟨rfl, ?_⟩)⟩
  refine (append_lt_append (length_timeOfDay.trans length_timeOfDay.symm)).2 ?_
  rcases Nat.lt_or_eq_of_le (show m / 10 ^ 9 % 86400 ≤ n / 10 ^ 9 % 86400 by omega) with
    hless | hsecond
  · exact .inl (timeOfDay_lt hless (Nat.mod_lt _ (by decide)))
  right
  rw [hsecond]
  refine ⟨rfl, lt_of_terminated (fun _ => plus_lt_of_mem_fraction)
    (fun _ => plus_lt_of_mem_fraction) (fraction_lt ?_ (Nat.mod_lt _ (by decide)))⟩
  omega

/-- Up to the year 9999 the texts are ordered as the instants are. -/
theorem rfc3339_lt_iff (hm : m < horizon) (hn : n < horizon) : rfc3339 m < rfc3339 n ↔ m < n := by
  unfold rfc3339
  rw [String.lt_iff_toList_lt, String.toList_ofList, String.toList_ofList]
  refine ⟨fun h => ?_, fun h => characters_lt h hn⟩
  by_contra hle
  rcases Nat.lt_or_eq_of_le (not_lt.1 hle) with hless | rfl
  · exact lt_asymm h (characters_lt hless hm)
  · exact lt_irrefl _ h

end Tunnara.Rfc3339
