/-
# The next release

Below `2 ^ 53` numbers are compared and raised exactly, and `nextVersion` goes above both
versions it is given: every increment is above the version it starts from, which is the greater
of the two.
-/

import Tunnara.Release.Precedence

namespace Tunnara.Release

open Lines Std

/-- The numeric parts of a version stay below a limit. -/
structure Parts.Below (limit : ℕ) (p : Parts) : Prop where
  major : p.major < limit
  minor : p.minor < limit
  patch : p.patch < limit
  prerelease : ∀ identifier ∈ p.prerelease, isDigits identifier →
    Nat.ofDigitChars 10 identifier 0 < limit

section

variable {localeCompare : List Char → List Char → Ordering} {p q : Parts} {n : ℕ}
  {identifiers bumped : List (List Char)}

theorem nearest_of_lt (h : n < 2 ^ 53) : nearest n = some n := by
  have hunit : n.log2 - 52 = 0 := by
    by_cases hzero : n = 0
    · rw [hzero, Nat.log2_zero]
    · have := (Nat.log2_lt hzero).2 h
      omega
  have hbound : n < overflow := h.trans (by decide +kernel)
  unfold nearest
  rw [hunit]
  simp only [Nat.pow_zero, Nat.div_one, Nat.mod_one, Nat.mul_zero, Nat.zero_lt_one, true_or,
    if_true, Nat.mul_one]
  simp only [hbound, if_true]

theorem nearest_plus_one (h : n < 2 ^ 53 - 1) : (nearest n).plus (some 1) = nearest (n + 1) := by
  rw [nearest_of_lt (by omega)]
  rfl

theorem reprints_of_lt (h : n < 2 ^ 53) : Reprints n := by
  unfold Reprints
  rw [nearest_of_lt h]
  exact if_pos h

theorem Parts.Below.reprints (h : p.Below (2 ^ 53)) :
    Reprints p.major ∧ Reprints p.minor ∧ Reprints p.patch :=
  ⟨reprints_of_lt h.major, reprints_of_lt h.minor, reprints_of_lt h.patch⟩

theorem Parts.Below.mono {low high : ℕ} (h : p.Below low) (hle : low ≤ high) : p.Below high where
  major := h.major.trans_le hle
  minor := h.minor.trans_le hle
  patch := h.patch.trans_le hle
  prerelease identifier hmem hdigits := (h.prerelease identifier hmem hdigits).trans_le hle

theorem comparePrerelease_of_lt {ls rs : List (List Char)}
    (hls : ∀ l ∈ ls, isDigits l → Nat.ofDigitChars 10 l 0 < 2 ^ 53)
    (hrs : ∀ r ∈ rs, isDigits r → Nat.ofDigitChars 10 r 0 < 2 ^ 53) :
    comparePrerelease localeCompare ls rs =
      some (List.compareLex (identifierOrder localeCompare) ls rs) := by
  induction ls generalizing rs with
  | nil => cases rs <;> rfl
  | cons l ls ih =>
    cases rs with
    | nil => rfl
    | cons r rs =>
      rw [List.forall_mem_cons] at hls hrs
      have hread : compareIdentifier localeCompare l r =
          some (identifierOrder localeCompare l r) := by
        unfold compareIdentifier identifierOrder
        by_cases hl : isDigits l <;> by_cases hr : isDigits r
        · simp only [hl, hr, and_self, if_true, number, nearest_of_lt (hls.1 hl),
            nearest_of_lt (hrs.1 hr)]
          rfl
        all_goals simp [hl, hr]
      rw [comparePrerelease, hread, List.compareLex_cons_cons]
      cases identifierOrder localeCompare l r with
      | eq => exact ih hls.2 hrs.2
      | lt | gt => rfl

theorem minus_then {m : ℕ} {rest : Option Ordering} {order : Ordering} (h : rest = some order) :
    (if some n ≠ some m then Number.minus (some n) (some m) else rest) =
      some ((compare n m).then order) := by
  split_ifs with hne
  · show some (compare n m) = _
    have hdiffer : compare n m ≠ .eq := fun heq => hne (congrArg some (Nat.compare_eq_eq.1 heq))
    cases hcompare : compare n m with
    | eq => exact absurd hcompare hdiffer
    | lt | gt => rfl
  · rw [Option.some.inj (not_not.1 hne), Nat.compare_eq_eq.2 rfl, h]
    rfl

theorem compareVersions_of_below (hp : p.Below (2 ^ 53)) (hq : q.Below (2 ^ 53)) :
    compareVersions localeCompare p.read q.read = some (precedence localeCompare p q) := by
  unfold Parts.read
  simp only [nearest_of_lt hp.major, nearest_of_lt hp.minor, nearest_of_lt hp.patch,
    nearest_of_lt hq.major, nearest_of_lt hq.minor, nearest_of_lt hq.patch]
  apply minus_then (minus_then (minus_then ?_))
  by_cases hpempty : p.prerelease = [] <;> by_cases hqempty : q.prerelease = [] <;>
    simp [Parts.stage, hpempty, hqempty, comparePrerelease_of_lt hp.prerelease hq.prerelease,
      Nat.compare_eq_gt.2 Nat.one_pos, Nat.compare_eq_lt.2 Nat.one_pos, List.compareLex_nil_nil]

/-- A version that an increment of `base` may be. -/
structure Above (localeCompare : List Char → List Char → Ordering) (base next : Parts) : Prop where
  formed : next.Formed
  below : next.Below (2 ^ 53)
  build : next.build = []
  greater : precedence localeCompare next base = .gt

theorem isDigits_toString {n : ℕ} : isDigits (toString n).toList := by
  have h := numeral?_toString n
  unfold numeral? at h
  dsimp only at h
  split_ifs at h with hdigits
  exact hdigits.1

theorem isIdentifier_of_isDigits {identifier : List Char} (h : isDigits identifier) :
    isIdentifier identifier := by
  unfold isDigits at h
  unfold isIdentifier
  rw [Bool.and_eq_true, List.all_eq_true] at *
  exact ⟨h.1, fun c hc => by simp [Char.isAlphanum, h.2 c hc]⟩

theorem bumpLast_eq (h : bumpLast identifiers = some bumped) :
    ∃ after identifier before, identifiers = after ++ identifier :: before ∧
      isDigits identifier ∧
      bumped = after ++ numberText ((number identifier).plus (some 1)) :: before := by
  induction identifiers generalizing bumped with
  | nil => cases h
  | cons identifier before ih =>
    rw [bumpLast] at h
    split_ifs at h with hdigits
    · cases h
      exact ⟨[], identifier, before, rfl, hdigits, rfl⟩
    · obtain ⟨rest, hrest, rfl⟩ := Option.map_eq_some_iff.1 h
      obtain ⟨after, found, earlier, rfl, hfound, rfl⟩ := ih hrest
      exact ⟨identifier :: after, found, earlier, rfl, hfound, rfl⟩

theorem compareLex_append {cmp : List Char → List Char → Ordering} [ReflCmp cmp]
    {front xs ys : List (List Char)} :
    List.compareLex cmp (front ++ xs) (front ++ ys) = List.compareLex cmp xs ys := by
  induction front with
  | nil => rfl
  | cons x front ih =>
    rw [List.cons_append, List.cons_append, List.compareLex_cons_cons,
      @ReflCmp.compare_self _ cmp, ih]
    rfl

theorem above_of_fields {major minor patch : ℕ} (h : p.Below (2 ^ 53 - 1))
    (hmajor : major ≤ p.major + 1) (hminor : minor ≤ p.minor + 1) (hpatch : patch ≤ p.patch + 1)
    {prerelease : List (List Char)}
    (hidentifiers : ∀ identifier ∈ prerelease, isIdentifier identifier)
    (hbelow : ∀ identifier ∈ prerelease, isDigits identifier →
      Nat.ofDigitChars 10 identifier 0 < 2 ^ 53)
    (hgreater : p.major < major ∨ (p.major = major ∧ p.minor < minor) ∨
      (p.major = major ∧ p.minor = minor ∧ p.patch < patch)) :
    Above localeCompare p
      { major := major, minor := minor, patch := patch, prerelease := prerelease, build := [] } where
  formed := ⟨hidentifiers, nofun⟩
  below := by
    have := h.major
    have := h.minor
    have := h.patch
    exact ⟨by dsimp only; omega, by dsimp only; omega, by dsimp only; omega, hbelow⟩
  build := rfl
  greater := by
    unfold precedence
    rcases hgreater with hgt | ⟨hmajor, hgt⟩ | ⟨hmajor, hminor, hgt⟩
    · simp [Nat.compare_eq_gt.2 hgt]
    · simp [Nat.compare_eq_eq.2 hmajor.symm, Nat.compare_eq_gt.2 hgt]
    · simp [Nat.compare_eq_eq.2 hmajor.symm, Nat.compare_eq_eq.2 hminor.symm,
        Nat.compare_eq_gt.2 hgt]

theorem above_of_prerelease (h : p.Below (2 ^ 53 - 1)) (hne : p.prerelease ≠ [])
    {prerelease : List (List Char)}
    (hidentifiers : ∀ identifier ∈ prerelease, isIdentifier identifier)
    (hbelow : ∀ identifier ∈ prerelease, isDigits identifier →
      Nat.ofDigitChars 10 identifier 0 < 2 ^ 53) (hgreater : prerelease = [] ∨
      List.compareLex (identifierOrder localeCompare) prerelease p.prerelease = .gt) :
    Above localeCompare p { p with prerelease := prerelease, build := [] } where
  formed := ⟨hidentifiers, nofun⟩
  below :=
    { h.mono (Nat.sub_le _ 1) with prerelease := hbelow }
  build := rfl
  greater := by
    unfold precedence Parts.stage
    rcases hgreater with rfl | hgt
    · simp [hne, Nat.compare_eq_gt.2 Nat.one_pos]
    · have hsome : prerelease ≠ [] := by
        rintro rfl
        cases hprerelease : p.prerelease with
        | nil => exact hne hprerelease
        | cons x xs =>
          rw [hprerelease] at hgt
          cases hgt
      simp [hne, hsome, hgt]

theorem exists_incrementPrerelease [TransCmp localeCompare] (hformed : p.Formed) (h : p.Below (2 ^ 53 - 1)) :
    ∃ next, incrementPrerelease p.read = next.read ∧ Above localeCompare p next := by
  by_cases hne : p.prerelease = []
  · refine ⟨_, ?_, @above_of_fields localeCompare p p.major p.minor (p.patch + 1) h
      (by omega) (by omega) le_rfl ["rc".toList, ['1']] (by decide) (by decide)
      (.inr (.inr (by simp)))⟩
    unfold incrementPrerelease
    rw [if_pos (by exact hne)]
    simp only [Parts.read, nearest_plus_one h.patch]
  · have hbelow := (h.mono (Nat.sub_le _ 1)).prerelease
    cases hbump : bumpLast p.prerelease.reverse with
    | none =>
      refine ⟨{ p with prerelease := p.prerelease ++ [['1']], build := [] }, ?_,
        above_of_prerelease h hne ?_ ?_ (.inr ?_)⟩
      · unfold incrementPrerelease
        rw [if_neg (by exact hne)]
        simp only [Parts.read, hbump]
      · intro identifier hmem
        rcases List.mem_append.1 hmem with hmem | hmem
        · exact hformed.prerelease identifier hmem
        · rw [List.mem_singleton.1 hmem]
          decide
      · intro identifier hmem hdigits
        rcases List.mem_append.1 hmem with hmem | hmem
        · exact hbelow identifier hmem hdigits
        · rw [List.mem_singleton.1 hmem]
          decide
      · conv_lhs => rw [← List.append_nil p.prerelease, List.append_assoc]
        exact compareLex_append
    | some bumped =>
      obtain ⟨after, identifier, before, hlist, hdigits, rfl⟩ := bumpLast_eq hbump
      have hsplit : p.prerelease = before.reverse ++ identifier :: after.reverse := by
        rw [← List.reverse_reverse p.prerelease, hlist]
        simp
      have hlt : Nat.ofDigitChars 10 identifier 0 < 2 ^ 53 - 1 :=
        h.prerelease identifier (by rw [hsplit]; simp) hdigits
      have htext : numberText ((number identifier).plus (some 1)) =
          (toString (Nat.ofDigitChars 10 identifier 0 + 1)).toList := by
        rw [number, nearest_plus_one hlt]
        exact reprints_of_lt (by omega)
      rw [htext] at hbump
      have hmem {item : List Char} (hitem : item ∈ before.reverse ++
          (toString (Nat.ofDigitChars 10 identifier 0 + 1)).toList :: after.reverse) :
          item ∈ p.prerelease ∨
            item = (toString (Nat.ofDigitChars 10 identifier 0 + 1)).toList := by
        rw [hsplit]
        simp only [List.mem_append, List.mem_cons] at hitem ⊢
        tauto
      refine ⟨{ p with
          prerelease := before.reverse ++
            (toString (Nat.ofDigitChars 10 identifier 0 + 1)).toList :: after.reverse
          build := [] }, ?_, above_of_prerelease h hne ?_ ?_ (.inr ?_)⟩
      · unfold incrementPrerelease
        rw [if_neg (by exact hne)]
        simp [Parts.read, hbump]
      · intro item hitem
        rcases hmem hitem with hitem | rfl
        · exact hformed.prerelease item hitem
        · exact isIdentifier_of_isDigits isDigits_toString
      · intro item hitem hitemDigits
        rcases hmem hitem with hitem | rfl
        · exact hbelow item hitem hitemDigits
        · rw [ofDigitChars_toString]
          omega
      · rw [hsplit, compareLex_append, List.compareLex_cons_cons]
        have hgt : identifierOrder localeCompare
            (toString (Nat.ofDigitChars 10 identifier 0 + 1)).toList identifier = .gt := by
          unfold identifierOrder compareOn
          dsimp only
          rw [if_pos isDigits_toString, if_pos hdigits, ofDigitChars_toString]
          exact Nat.compare_eq_gt.2 (Nat.lt_succ_self _)
        rw [hgt]
        rfl

theorem exists_nextPatch (h : p.Below (2 ^ 53 - 1)) :
    ∃ next, nextPatch p.read = next.read ∧ Above localeCompare p next := by
  refine ⟨_, ?_, @above_of_fields localeCompare p p.major p.minor (p.patch + 1) h
    (by omega) (by omega) le_rfl [] nofun nofun (.inr (.inr (by simp)))⟩
  simp only [nextPatch, Parts.read, nearest_plus_one h.patch]

theorem exists_increment [TransCmp localeCompare] (hformed : p.Formed) (h : p.Below (2 ^ 53 - 1)) {bump : String}
    (hbump : bump ∈ allowed) :
    ∃ next, increment bump p.read = next.read ∧ Above localeCompare p next := by
  have hzero : nearest 0 = some 0 := nearest_of_lt (by decide)
  simp only [allowed, List.mem_cons, List.not_mem_nil, or_false] at hbump
  rcases hbump with rfl | rfl | rfl | rfl | rfl | rfl
  case inl =>
    show ∃ next, (if p.prerelease ≠ [] then _ else _) = _ ∧ _
    split_ifs
    · exact exists_incrementPrerelease hformed h
    · exact exists_nextPatch h
  case inr.inl => exact exists_incrementPrerelease hformed h
  case inr.inr.inl =>
    show ∃ next, (if p.prerelease ≠ [] then _ else _) = _ ∧ _
    split_ifs with hne
    · exact ⟨_, rfl, @above_of_prerelease localeCompare p h hne [] nofun nofun (.inl rfl)⟩
    · exact exists_nextPatch h
  case inr.inr.inr.inl => exact exists_nextPatch h
  case inr.inr.inr.inr.inl =>
    refine ⟨_, ?_, @above_of_fields localeCompare p p.major (p.minor + 1) 0 h
      (by omega) le_rfl (by omega) [] nofun nofun (.inr (.inl (by simp)))⟩
    simp only [increment, Parts.read, nearest_plus_one h.minor, hzero]
  case inr.inr.inr.inr.inr =>
    refine ⟨_, ?_, @above_of_fields localeCompare p (p.major + 1) 0 0 h
      le_rfl (by omega) (by omega) [] nofun nofun (.inl (by simp))⟩
    simp only [increment, Parts.read, nearest_plus_one h.major, hzero]

theorem Above.text_eq {base next : Parts} (h : Above localeCompare base next) :
    formatVersion next.read false = next.text := by
  rw [formatVersion_read h.below.reprints]
  congr 1
  exact congrArg (fun build => { next with build := build }) h.build.symm

/-- The next release is above both versions. With `auto` a current version that is above the
latest one is kept, without its build metadata. -/
theorem nextVersion_newer [TransCmp localeCompare] {current latest : List Char} {bump : String}
    (hcurrent : matchVersion (trimmed isSpace current) = some p)
    (hlatest : matchVersion (trimmed isSpace latest) = some q)
    (hp : p.Below (2 ^ 53 - 1)) (hq : q.Below (2 ^ 53 - 1)) (hbump : bump ∈ allowed) :
    ∃ text, nextVersion localeCompare current latest bump = .ok text ∧
      compareTexts localeCompare text latest = .ok (some .gt) ∧
      if bump = "auto" ∧ compareTexts localeCompare current latest = .ok (some .gt) then
        text = p.released.text
      else compareTexts localeCompare text current = .ok (some .gt) := by
  have hpbelow := hp.mono (Nat.sub_le (2 ^ 53) 1)
  have hqbelow := hq.mono (Nat.sub_le (2 ^ 53) 1)
  have hformed := formed_of_matchVersion hcurrent
  have hparse {value : List Char} {r : Parts} (label : String)
      (h : matchVersion (trimmed isSpace value) = some r) : parseVersion value label = .ok r.read := by
    unfold parseVersion
    rw [h]
  have htexts {left right : List Char} {r s : Parts} (hr : r.Below (2 ^ 53)) (hs : s.Below (2 ^ 53))
      (hleft : parseVersion left "Versão" = .ok r.read)
      (hright : parseVersion right "Versão" = .ok s.read) :
      compareTexts localeCompare left right = .ok (some (precedence localeCompare r s)) := by
    unfold compareTexts
    rw [hleft, hright, ← compareVersions_of_below hr hs]
    rfl
  simp only [htexts hpbelow hqbelow (hparse _ hcurrent) (hparse _ hlatest), Except.ok.injEq,
    Option.some.injEq]
  unfold nextVersion
  rw [hparse _ hcurrent, hparse _ hlatest]
  dsimp only [Except.bind, bind]
  simp only [if_neg (not_not.2 hbump), compareVersions_of_below hpbelow hqbelow, Option.some.injEq]
  by_cases hkept : bump = "auto" ∧ precedence localeCompare p q = .gt
  · refine ⟨p.released.text, ?_, ?_, ?_⟩
    · rw [if_pos hkept, ← formatVersion_read hpbelow.reprints]
      rfl
    · have hreleased : p.released.Formed := ⟨hformed.prerelease, nofun⟩
      have hbelow : p.released.Below (2 ^ 53) := { hpbelow with }
      rw [htexts hbelow hqbelow (parseVersion_text hreleased _) (hparse _ hlatest)]
      exact congrArg (Except.ok ∘ some) hkept.2
    · rw [if_pos hkept]
  · have hstep (base : Parts) (hbase : base.Formed) (hbelow : base.Below (2 ^ 53 - 1))
        (hge : ∀ r ∈ [p, q], (precedence localeCompare base r).isGE) :
        ∃ text, formatVersion (increment bump base.read) false = text ∧
          compareTexts localeCompare text latest = .ok (some .gt) ∧
          compareTexts localeCompare text current = .ok (some .gt) := by
      obtain ⟨next, hnext, habove⟩ := @exists_increment localeCompare base _ hbase hbelow bump hbump
      have hgt {r : Parts} (hr : r ∈ [p, q]) : precedence localeCompare next r = .gt :=
        TransCmp.gt_of_gt_of_isGE habove.greater (hge r hr)
      rw [hnext, habove.text_eq]
      refine ⟨_, rfl, ?_, ?_⟩
      · rw [htexts habove.below hqbelow (parseVersion_text habove.formed _) (hparse _ hlatest),
          hgt (by simp)]
      · rw [htexts habove.below hpbelow (parseVersion_text habove.formed _) (hparse _ hcurrent),
          hgt (by simp)]
    simp only [if_neg hkept]
    have hself (r : Parts) : (precedence localeCompare r r).isGE := by
      rw [@ReflCmp.compare_self Parts (precedence localeCompare)]
      rfl
    cases horder : precedence localeCompare p q with
    | lt =>
      obtain ⟨text, htext, hgt⟩ := hstep q (formed_of_matchVersion hlatest) hq (by
        simp [hself, OrientedCmp.gt_of_lt horder])
      exact ⟨text, congrArg Except.ok htext, hgt⟩
    | eq | gt =>
      obtain ⟨text, htext, hgt⟩ := hstep p hformed hp (by simp [hself, horder])
      exact ⟨text, congrArg Except.ok htext, hgt⟩

end

def candidate (build : List (List Char)) : Parts :=
  { major := 2, minor := 0, patch := 0, prerelease := ["rc".toList, ['9']], build := build }

/-- The release after a candidate is above it and above its published build. -/
theorem nextVersion_newer_candidate :
    ∃ text, nextVersion compare "2.0.0-rc.9".toList " 2.0.0-rc.9+linux".toList "auto" = .ok text ∧
      compareTexts compare text " 2.0.0-rc.9+linux".toList = .ok (some .gt) ∧
      compareTexts compare text "2.0.0-rc.9".toList = .ok (some .gt) := by
  have h := @nextVersion_newer compare (candidate []) (candidate ["linux".toList]) _
    "2.0.0-rc.9".toList " 2.0.0-rc.9+linux".toList "auto" (by decide +kernel) (by decide +kernel)
    ⟨by decide, by decide, by decide, by decide⟩ ⟨by decide, by decide, by decide, by decide⟩
    (by decide)
  have hsame :
      ¬ compareTexts compare "2.0.0-rc.9".toList " 2.0.0-rc.9+linux".toList = .ok (some .gt) := by
    decide +kernel
  simpa only [true_and, if_neg hsame] using h

end Tunnara.Release
