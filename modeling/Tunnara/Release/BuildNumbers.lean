/-
# Build numbers of the stores

A build number has two digits each for minor and patch and four for the stage, and a stage three
for the last number of the prerelease. Whether it grows is decided by these fields in turn, after
what does not fit was carried, cut or left out.
-/

import Tunnara.Release.NextRelease

namespace Tunnara.Release

open Lines

variable {v w : Version} {n m s t : ℕ} {a b : Number} {p q : List (List Char)}

theorem le_of_nearest (h : nearest n = some m) (hn : 2 ^ 53 ≤ n) : 2 ^ 53 ≤ m := by
  have hzero : n ≠ 0 := by omega
  have hlog : 53 ≤ n.log2 := (Nat.le_log2 hzero).2 hn
  have hpower : 2 ^ 52 * 2 ^ (n.log2 - 52) = 2 ^ n.log2 := by
    rw [← Nat.pow_add]
    congr 1
    omega
  have hlow : 2 ^ 52 ≤ n / 2 ^ (n.log2 - 52) := by
    rw [Nat.le_div_iff_mul_le (Nat.two_pow_pos _), hpower]
    exact Nat.log2_self_le hzero
  unfold nearest at h
  dsimp only at h
  split_ifs at h <;> cases h
  all_goals
    calc 2 ^ 53 ≤ 2 ^ n.log2 := Nat.pow_le_pow_right Nat.two_pos hlog
      _ = 2 ^ 52 * 2 ^ (n.log2 - 52) := hpower.symm
      _ ≤ _ := Nat.mul_le_mul_right _ (by omega)

theorem eq_of_nearest (h : nearest n = some m) (hm : m < 2 ^ 53) : n = m := by
  by_cases hn : n < 2 ^ 53
  · rw [nearest_of_lt hn] at h
    exact Option.some.inj h
  · exact absurd (le_of_nearest h (not_lt.1 hn)) (not_le.2 hm)

theorem eq_of_plus (h : a.plus b = some m) (hm : m < 2 ^ 53) :
    ∃ x y, a = some x ∧ b = some y ∧ x + y = m := by
  unfold Number.plus at h
  simp only [Option.bind_eq_some_iff] at h
  obtain ⟨x, hx, y, hy, h⟩ := h
  exact ⟨x, y, hx, hy, eq_of_nearest h hm⟩

theorem eq_of_times (h : a.times n = some m) (hm : m < 2 ^ 53) : a.getD 0 * n = m := by
  obtain ⟨x, rfl, h⟩ := Option.bind_eq_some_iff.1 h
  exact eq_of_nearest h hm

/-- The fields of a version in two digits each, whatever they hold. -/
def weight (v : Version) : ℕ := (v.major.getD 0 * 100 + v.minor.getD 0) * 100 + v.patch.getD 0

theorem mobileBuildNumber_eq_ok (h : mobileBuildNumber v = .ok m) :
    ∃ stage, prereleaseStage v.prerelease = some stage ∧ weight v * 10000 + stage = m := by
  unfold mobileBuildNumber at h
  split at h
  · cases h
  next stage hstage =>
    split at h
    · cases h
    next n hsum =>
      split_ifs at h with hlimit
      cases h
      obtain ⟨front, _, hfront, hsame, hsum⟩ := eq_of_plus hsum hlimit.1
      cases hsame
      obtain ⟨high, patch, hhigh, hpatch, hfront⟩ := eq_of_plus hfront (by omega)
      obtain ⟨major, minor, hmajor, hminor, hhigh⟩ := eq_of_plus hhigh (by omega)
      have hmajor := eq_of_times hmajor (by omega)
      have hminor := eq_of_times hminor (by omega)
      have hpatch := eq_of_times hpatch (by omega)
      refine ⟨stage, hstage, ?_⟩
      rw [weight, ← hsum, ← hfront, ← hhigh, ← hmajor, ← hminor, ← hpatch, Nat.add_mul,
        Nat.add_mul, Nat.add_mul, Nat.mul_assoc, Nat.mul_assoc, Nat.mul_assoc]

/-- Where the numbers of a channel begin, with a release as the last channel. -/
def channel : List (List Char) → Option ℕ
  | [] => some 9000
  | identifier :: _ => channelOffset identifier

/-- The number inside the channel. -/
def lastNumber (p : List (List Char)) : ℕ := if p = [] then 999 else ordinal p

/-- An earlier channel, or a smaller last number in the same. -/
def StageBelow (p q : List (List Char)) : Prop :=
  ∃ c d, channel p = some c ∧ channel q = some d ∧ (c < d ∨ (c = d ∧ lastNumber p < lastNumber q))

theorem channel_spec {c : ℕ} (h : channel p = some c) : c % 1000 = 0 ∧ c ≤ 9000 := by
  unfold channel channelOffset at h
  split at h
  · cases h
    decide
  · split at h <;> cases h <;> decide

theorem lastNumber_le (p : List (List Char)) : lastNumber p ≤ 999 := by
  unfold lastNumber ordinal
  split_ifs
  · exact le_rfl
  · split
    · decide
    · rename_i part _
      cases number part with
      | none => exact le_rfl
      | some n => exact min_le_left 999 n

theorem prereleaseStage_eq (p : List (List Char)) :
    prereleaseStage p = (channel p).map (· + lastNumber p) := by
  cases p with
  | nil => rfl
  | cons identifier rest =>
    have hnumber := lastNumber_le (identifier :: rest)
    apply Option.map_congr
    intro offset hoffset
    have hoffset : offset ≤ 7000 := by
      unfold channelOffset at hoffset
      split at hoffset <;> cases hoffset <;> decide
    unfold lastNumber at *
    rw [if_neg (List.cons_ne_nil _ _)] at *
    omega

theorem stage_lt_iff (hs : prereleaseStage p = some s) (ht : prereleaseStage q = some t) :
    s < t ↔ StageBelow p q := by
  rw [prereleaseStage_eq] at hs ht
  obtain ⟨c, hc, rfl⟩ := Option.map_eq_some_iff.1 hs
  obtain ⟨d, hd, rfl⟩ := Option.map_eq_some_iff.1 ht
  have := channel_spec hc
  have := channel_spec hd
  have := lastNumber_le p
  have := lastNumber_le q
  constructor
  · intro h
    exact ⟨c, d, hc, hd, by omega⟩
  · rintro ⟨c', d', hc', hd', h⟩
    rw [hc] at hc'
    rw [hd] at hd'
    cases hc'
    cases hd'
    omega

theorem windowsBundleVersion_eq_ok_iff (hne : v.prerelease ≠ []) :
    windowsBundleVersion v = .ok (baseVersion v ++ '-' :: (toString s).toList) ↔
      prereleaseStage v.prerelease = some s := by
  unfold windowsBundleVersion
  rw [if_neg hne]
  cases hstage : prereleaseStage v.prerelease with
  | none => exact ⟨nofun, nofun⟩
  | some stage =>
    have hlimit : ¬ 65535 < stage := by
      rw [prereleaseStage_eq] at hstage
      obtain ⟨c, hc, rfl⟩ := Option.map_eq_some_iff.1 hstage
      have := channel_spec hc
      have := lastNumber_le v.prerelease
      omega
    dsimp only
    rw [if_neg hlimit]
    constructor
    · intro h
      have htext := List.append_cancel_left (Except.ok.inj h)
      rw [toString_inj (List.cons.inj htext).2]
    · intro h
      cases h
      rfl

/-- Of two accepted versions the later has the greater build number exactly if its fields weigh
more, or they weigh the same and its stage is a later one. The suffix of a Windows bundle grows
exactly with the stage. -/
theorem buildNumbers_grow_iff (localeCompare : List Char → List Char → Ordering) :
    (∀ (v w : Version) (m n : ℕ), compareVersions localeCompare v w = some .lt →
      mobileBuildNumber v = .ok m → mobileBuildNumber w = .ok n →
      (m < n ↔ weight v < weight w ∨
        (weight v = weight w ∧ StageBelow v.prerelease w.prerelease))) ∧
    ∀ v w : Version, baseVersion v = baseVersion w → v.prerelease ≠ [] → w.prerelease ≠ [] →
      compareVersions localeCompare v w = some .lt →
      ((∃ s t : ℕ, windowsBundleVersion v = .ok (baseVersion v ++ '-' :: (toString s).toList) ∧
          windowsBundleVersion w = .ok (baseVersion w ++ '-' :: (toString t).toList) ∧ s < t) ↔
        StageBelow v.prerelease w.prerelease) := by
  constructor
  · intro v w m n _ hm hn
    obtain ⟨s, hs, rfl⟩ := mobileBuildNumber_eq_ok hm
    obtain ⟨t, ht, rfl⟩ := mobileBuildNumber_eq_ok hn
    have hsmall {p : List (List Char)} {stage : ℕ} (h : prereleaseStage p = some stage) :
        stage < 10000 := by
      rw [prereleaseStage_eq] at h
      obtain ⟨c, hc, rfl⟩ := Option.map_eq_some_iff.1 h
      have := channel_spec hc
      have := lastNumber_le p
      omega
    have := hsmall hs
    have := hsmall ht
    rw [← stage_lt_iff hs ht]
    omega
  · intro v w _ hv hw _
    constructor
    · rintro ⟨s, t, hs, ht, hlt⟩
      exact (stage_lt_iff ((windowsBundleVersion_eq_ok_iff hv).1 hs)
        ((windowsBundleVersion_eq_ok_iff hw).1 ht)).1 hlt
    · intro h
      obtain ⟨c, d, hc, hd, -⟩ := id h
      have hs : prereleaseStage v.prerelease = some (c + lastNumber v.prerelease) := by
        rw [prereleaseStage_eq, hc]
        rfl
      have ht : prereleaseStage w.prerelease = some (d + lastNumber w.prerelease) := by
        rw [prereleaseStage_eq, hd]
        rfl
      exact ⟨_, _, (windowsBundleVersion_eq_ok_iff hv).2 hs,
        (windowsBundleVersion_eq_ok_iff hw).2 ht, (stage_lt_iff hs ht).2 h⟩

/-- Numbers past 999 are all one number: two candidates share a build. -/
theorem not_buildNumbers_grow :
    ¬ ∀ (left right : List Char) (v w : Version) (m n : ℕ),
      parseVersion left "Versão" = .ok v → parseVersion right "Versão" = .ok w →
      compareVersions compare v w = some .lt →
      mobileBuildNumber v = .ok m → mobileBuildNumber w = .ok n → m < n := by
  intro h
  let version (number : String) : Version :=
    { major := some 1, minor := some 0, patch := some 0
      prerelease := ["rc".toList, number.toList], build := [] }
  exact absurd (h "1.0.0-rc.1000".toList "1.0.0-rc.1001".toList (version "1000") (version "1001")
    100007999 100007999 (by decide +kernel) (by decide +kernel) (by decide +kernel)
    (by decide +kernel) (by decide +kernel)) (lt_irrefl _)

end Tunnara.Release
