/-
# Precedence

The texts of valid versions, the order the standard gives them, and where `compareVersions`
leaves it: a numeral is compared as the double next to it, and other identifiers as the
environment collates them.
-/

import Tunnara.Release.Version

namespace Tunnara.Release

open Lines Std

/-- The identifiers have the letters of the pattern. -/
structure Parts.Formed (p : Parts) : Prop where
  prerelease : ∀ identifier ∈ p.prerelease, isIdentifier identifier
  build : ∀ identifier ∈ p.build, isIdentifier identifier

/-- A version of the standard, which allows no needless zeros in front of a number. -/
structure Parts.Valid (p : Parts) : Prop extends p.Formed where
  canonical : ∀ identifier ∈ p.prerelease, isDigits identifier → (numeral? identifier).isSome

def Parts.core (p : Parts) : List Char :=
  ['.'].intercalate ([p.major, p.minor, p.patch].map fun n => (toString n).toList)

def Parts.text (p : Parts) : List Char :=
  p.core ++ suffix '-' p.prerelease ++ suffix '+' p.build

section

variable {p : Parts} {c mark : Char} {front raw : List Char} {items : List (List Char)}

theorem numeral?_toString (n : ℕ) : numeral? (toString n).toList = some n := by
  have hne : (toString n).toList ≠ [] := by
    rw [toList_toString]
    exact Nat.toDigits_ne_nil
  unfold numeral? isDigits
  rw [ofDigitChars_toString]
  simp only [ne_eq, hne, not_false_eq_true, decide_true, Bool.true_and, and_true]
  exact if_pos (List.all_eq_true.2 fun c hc => isDigit_of_mem_toString hc)

/-- The letters of a version. -/
def IsLetter (c : Char) : Prop := c.isAlphanum ∨ c = '-' ∨ c = '.' ∨ c = '+'

theorem not_isSpace (h : IsLetter c) : isSpace c = false := by
  rcases h with h | rfl | rfl | rfl
  · have hrange : 48 ≤ c.toNat ∧ c.toNat ≤ 122 := by
      delta Char.isAlphanum Char.isAlpha Char.isUpper Char.isLower Char.isDigit at h
      simp only [Bool.or_eq_true, Bool.and_eq_true, decide_eq_true_eq, UInt32.le_iff_toNat_le,
        ge_iff_le] at h
      have : c.toNat = c.val.toNat := rfl
      simp at h
      omega
    have hval : c.val.toNat = c.toNat := rfl
    simp only [isSpace, List.mem_cons, List.not_mem_nil, or_false, Bool.or_eq_false_iff,
      decide_eq_false_iff_not, Bool.and_eq_false_iff, ← UInt32.toNat_inj,
      UInt32.le_iff_toNat_le, hval]
    simp
    omega
  all_goals decide

theorem isAlphanum_of_mem_toString {n : ℕ} (h : c ∈ (toString n).toList) : c.isAlphanum := by
  simp [Char.isAlphanum, isDigit_of_mem_toString h]

theorem mem_core (h : c ∈ p.core) : c.isAlphanum ∨ c = '.' := by
  rcases mem_of_mem_intercalate h with h | ⟨item, hitem, h⟩
  · exact .inr (List.mem_singleton.1 h)
  · obtain ⟨n, -, rfl⟩ := List.mem_map.1 hitem
    exact .inl (isAlphanum_of_mem_toString h)

theorem mem_identifier {identifier : List Char} (hidentifier : isIdentifier identifier)
    (h : c ∈ identifier) : c.isAlphanum ∨ c = '-' := by
  have hall := (Bool.and_eq_true _ _ ▸ hidentifier).2
  simpa using List.all_eq_true.1 hall c h

theorem mem_suffix (hitems : ∀ item ∈ items, isIdentifier item) (h : c ∈ suffix mark items) :
    c = mark ∨ c = '.' ∨ c.isAlphanum ∨ c = '-' := by
  unfold suffix at h
  split_ifs at h
  · cases h
  · rcases List.mem_cons.1 h with h | h
    · exact .inl h
    · rcases mem_of_mem_intercalate h with h | ⟨item, hitem, h⟩
      · exact .inr (.inl (List.mem_singleton.1 h))
      · exact .inr (.inr (mem_identifier (hitems item hitem) h))

theorem isLetter_of_mem_text (h : p.Formed) (hc : c ∈ p.text) : IsLetter c := by
  unfold IsLetter
  rcases List.mem_append.1 hc with hc | hc
  · rcases List.mem_append.1 hc with hc | hc
    · rcases mem_core hc with hc | hc <;> simp [hc]
    · rcases mem_suffix h.prerelease hc with hc | hc | hc | hc <;> simp [hc]
  · rcases mem_suffix h.build hc with hc | hc | hc | hc <;> simp [hc]

theorem group_suffix (h : mark ∉ front) :
    group mark (front ++ suffix mark items) =
      (front, if items = [] then none else some (['.'].intercalate items)) := by
  unfold group suffix
  split_ifs
  · rw [List.append_nil, cut_eq_none_iff.2 h]
  · rw [cut_append h]

theorem identifiers_intercalate (h : ∀ item ∈ items, isIdentifier item) :
    identifiers (if items = [] then none else some (['.'].intercalate items)) = some items := by
  split_ifs with hempty
  · rw [hempty]
    rfl
  · have hdot : ∀ item ∈ items, '.' ∉ item := by
      intro item hitem hmem
      rcases mem_identifier (h item hitem) hmem with hc | hc
      · exact absurd hc (by decide)
      · exact absurd hc (by decide)
    unfold identifiers
    simp only [List.splitOn_intercalate '.' hdot hempty]
    exact if_pos (List.all_eq_true.2 h)

theorem matchVersion_text (h : p.Formed) : matchVersion p.text = some p := by
  have hdash : '-' ∉ p.core := fun hmem => absurd (mem_core hmem) (by decide)
  have hplus : '+' ∉ p.core ++ suffix '-' p.prerelease := by
    intro hmem
    rcases List.mem_append.1 hmem with hmem | hmem
    · exact absurd (mem_core hmem) (by decide)
    · exact absurd (mem_suffix h.prerelease hmem) (by decide)
  have hcore : p.core.splitOn '.' =
      [p.major, p.minor, p.patch].map fun n => (toString n).toList := by
    apply List.splitOn_intercalate
    · intro item hitem hmem
      obtain ⟨n, -, rfl⟩ := List.mem_map.1 hitem
      exact not_mem_toString (by decide) n hmem
    · simp
  unfold matchVersion Parts.text
  simp only [group_suffix hplus, group_suffix hdash, hcore, List.map_cons, List.map_nil,
    numeral?_toString, identifiers_intercalate h.prerelease, identifiers_intercalate h.build]
  rfl

theorem formed_of_identifiers {text : Option (List Char)} (h : identifiers text = some items) :
    ∀ item ∈ items, isIdentifier item := by
  unfold identifiers at h
  split at h
  · cases h
    exact fun _ hitem => absurd hitem List.not_mem_nil
  · split_ifs at h with hall
    cases h
    exact List.all_eq_true.1 hall

theorem formed_of_matchVersion (h : matchVersion raw = some p) : p.Formed := by
  unfold matchVersion at h
  dsimp only at h
  split at h
  · simp only [Option.bind_eq_bind, Option.bind_eq_some_iff, Option.pure_def] at h
    obtain ⟨_, _, _, _, _, _, prerelease, hprerelease, build, hbuild, heq⟩ := h
    cases heq
    exact ⟨formed_of_identifiers hprerelease, formed_of_identifiers hbuild⟩
  · cases h

theorem parseVersion_text (h : p.Formed) (label : String) :
    parseVersion p.text label = .ok p.read := by
  have htrim : trimmed isSpace p.text = p.text :=
    trimmed_of_tight (tight_of_forall fun c hc => not_isSpace (isLetter_of_mem_text h hc))
  unfold parseVersion
  rw [htrim, matchVersion_text h]

end

section

variable (cmp : List Char → List Char → Ordering)

/-- Identifiers of digits as numbers and below all others, which `cmp` orders. -/
def identifierOrder (l r : List Char) : Ordering :=
  if isDigits l then
    if isDigits r then compareOn (Nat.ofDigitChars 10 · 0) l r else .lt
  else if isDigits r then .gt else cmp l r

/-- A release is above its prereleases. -/
def Parts.stage (p : Parts) : ℕ := if p.prerelease = [] then 1 else 0

/-- The order of the standard, for `cmp` the one of ASCII. -/
def precedence (p q : Parts) : Ordering :=
  (compare p.major q.major).then <| (compare p.minor q.minor).then <|
    (compare p.patch q.patch).then <| (compare p.stage q.stage).then <|
      List.compareLex (identifierOrder cmp) p.prerelease q.prerelease

theorem transCmp_on {α β : Type} (order : β → β → Ordering) [TransCmp order] (f : α → β) :
    TransCmp fun a b => order (f a) (f b) where
  eq_swap := OrientedCmp.eq_swap
  isLE_trans := TransCmp.isLE_trans

instance transCmp_identifierOrder [TransCmp cmp] : TransCmp (identifierOrder cmp) where
  eq_swap {l r} := by
    unfold identifierOrder
    split_ifs
    · exact OrientedCmp.eq_swap
    · rfl
    · rfl
    · exact OrientedCmp.eq_swap
  isLE_trans {a b c} hab hbc := by
    unfold identifierOrder at *
    split_ifs at * with ha hb hc
    · exact TransCmp.isLE_trans hab hbc
    all_goals
      first
      | rfl
      | exact absurd hab (by decide)
      | exact absurd hbc (by decide)
      | exact TransCmp.isLE_trans hab hbc

instance transCmp_precedence [TransCmp cmp] : TransCmp (precedence cmp) :=
  have := transCmp_on (List.compareLex (identifierOrder cmp)) Parts.prerelease
  inferInstanceAs (TransCmp (compareLex (compareOn Parts.major) (compareLex
    (compareOn Parts.minor) (compareLex (compareOn Parts.patch) (compareLex
      (compareOn Parts.stage) fun p q =>
        List.compareLex (identifierOrder cmp) p.prerelease q.prerelease)))))

end

/-- The first reading that is not `0`. -/
def told : List (Option Ordering) → Option Ordering
  | [] => some .eq
  | some .eq :: rest => told rest
  | reading :: _ => reading

/-- At the first place where the versions differ the reading has the right sign, and every place
before it is read. A place that is read as equal may still be made up for: the next place that
is told apart happens to have the sign of the first. -/
def RightlyTold : List (Option Ordering × Ordering) → Prop
  | [] => True
  | (reading, .eq) :: rest => reading = some .eq ∧ RightlyTold rest
  | (reading, order) :: rest =>
    reading = some order ∨ (reading = some .eq ∧ told (rest.map Prod.fst) = some order)

/-- The order at each place decides the whole. -/
def decided (orders : List Ordering) : Ordering := orders.foldr Ordering.then .eq

theorem decided_cons (order : Ordering) (rest : List Ordering) :
    decided (order :: rest) = order.then (decided rest) := rfl

theorem told_iff {places : List (Option Ordering × Ordering)}
    (h : ∀ place ∈ places, place.2 = .eq → place.1 = some .eq ∨ place.1 = none) :
    told (places.map Prod.fst) = some (decided (places.map Prod.snd)) ↔ RightlyTold places := by
  induction places with
  | nil => exact ⟨fun _ => trivial, fun _ => rfl⟩
  | cons place places ih =>
    obtain ⟨reading, order⟩ := place
    have ih := ih fun place hplace => h place (List.mem_cons_of_mem _ hplace)
    cases order with
    | eq =>
      rcases h _ List.mem_cons_self rfl with rfl | rfl
      · exact ih.trans (and_iff_right rfl).symm
      · exact ⟨nofun, nofun⟩
    | lt | gt => rcases reading with _ | _ | _ | _ <;> simp [told, decided, RightlyTold]

section

variable (localeCompare : List Char → List Char → Ordering)

/-- A field as two doubles and as two numbers. -/
def fieldPlace (n m : ℕ) : Option Ordering × Ordering :=
  (if nearest n = nearest m then some .eq else (nearest n).minus (nearest m), compare n m)

def identifierPlaces : List (List Char) → List (List Char) → List (Option Ordering × Ordering)
  | [], [] => []
  | [], _ :: _ => [(some .lt, .lt)]
  | _ :: _, [] => [(some .gt, .gt)]
  | l :: ls, r :: rs =>
    (compareIdentifier localeCompare l r, identifierOrder compare l r) :: identifierPlaces ls rs

/-- The places of two versions in turn, each with what the code reads there and how the standard
orders it: the fields, whether they are prereleases, and then the identifiers. -/
def places (p q : Parts) : List (Option Ordering × Ordering) :=
  [fieldPlace p.major q.major, fieldPlace p.minor q.minor, fieldPlace p.patch q.patch,
    (some (compare p.stage q.stage), compare p.stage q.stage)] ++
    if p.prerelease = [] ∨ q.prerelease = [] then []
    else identifierPlaces localeCompare p.prerelease q.prerelease

variable {localeCompare} {p q : Parts}

theorem told_identifierPlaces (ls rs : List (List Char)) :
    told ((identifierPlaces localeCompare ls rs).map Prod.fst) =
      comparePrerelease localeCompare ls rs := by
  induction ls generalizing rs with
  | nil => cases rs <;> rfl
  | cons l ls ih =>
    cases rs with
    | nil => rfl
    | cons r rs =>
      rw [identifierPlaces, List.map_cons, comparePrerelease]
      split
      · rename_i hread
        rw [hread]
        exact ih rs
      · rename_i hread
        exact told.eq_3 _ _ hread

variable (localeCompare) in
theorem decided_identifierPlaces (ls rs : List (List Char)) :
    decided ((identifierPlaces localeCompare ls rs).map Prod.snd) =
      List.compareLex (identifierOrder compare) ls rs := by
  induction ls generalizing rs with
  | nil => cases rs <;> rfl
  | cons l ls ih =>
    cases rs with
    | nil => rfl
    | cons r rs =>
      rw [List.compareLex_cons_cons, ← ih rs]
      rfl

theorem minus_ne_eq {a b : Number} (h : a ≠ b) : a.minus b ≠ some .eq := by
  rcases a with _ | n <;> rcases b with _ | m
  · exact absurd rfl h
  · nofun
  · nofun
  · intro heq
    exact h (congrArg some (Nat.compare_eq_eq.1 (Option.some.inj heq)))

theorem told_field (n m : ℕ) (rest : List (Option Ordering)) :
    told ((fieldPlace n m).1 :: rest) =
      if nearest n ≠ nearest m then (nearest n).minus (nearest m) else told rest := by
  unfold fieldPlace
  by_cases hsame : nearest n = nearest m
  · rw [if_pos hsame, if_neg (not_not.2 hsame)]
    rfl
  · rw [if_neg hsame, if_pos hsame]
    exact told.eq_3 _ _ (minus_ne_eq hsame)

theorem told_places :
    told ((places localeCompare p q).map Prod.fst) =
      compareVersions localeCompare p.read q.read := by
  unfold compareVersions places
  simp only [List.cons_append, List.nil_append, List.map_cons, told_field, Parts.read]
  have hlower : compare 0 1 = Ordering.lt := rfl
  have hhigher : compare 1 0 = Ordering.gt := rfl
  by_cases hp : p.prerelease = [] <;> by_cases hq : q.prerelease = [] <;>
    simp [hp, hq, Parts.stage, told, told_identifierPlaces, hlower, hhigher]

theorem decided_places :
    decided ((places localeCompare p q).map Prod.snd) = precedence compare p q := by
  unfold places precedence
  simp only [List.cons_append, List.nil_append, List.map_cons, fieldPlace, decided_cons]
  by_cases hp : p.prerelease = [] <;> by_cases hq : q.prerelease = []
  · simp [hp, hq, Parts.stage, decided, List.compareLex_nil_nil]
  · simp [hp, hq, Parts.stage, decided, Nat.compare_eq_gt.2 Nat.one_pos]
  · simp [hp, hq, Parts.stage, decided, Nat.compare_eq_lt.2 Nat.one_pos]
  · simp [hp, hq, Parts.stage, decided_identifierPlaces]

theorem eq_of_identifierOrder {l r : List Char} (hl : isDigits l → (numeral? l).isSome)
    (hr : isDigits r → (numeral? r).isSome) (h : identifierOrder compare l r = .eq) : l = r := by
  have htext {text : List Char} (h : (numeral? text).isSome) :
      (toString (Nat.ofDigitChars 10 text 0)).toList = text := by
    unfold numeral? at h
    dsimp only at h
    split_ifs at h with hsame
    · exact hsame.2
    · cases h
  unfold identifierOrder at h
  split_ifs at h with hleft hright hright
  · have hvalue : Nat.ofDigitChars 10 l 0 = Nat.ofDigitChars 10 r 0 := Nat.compare_eq_eq.1 h
    rw [← htext (hl hleft), ← htext (hr hright), hvalue]
  · exact LawfulEqCmp.eq_of_compare h

theorem compareIdentifier_self [ReflCmp localeCompare] {l : List Char} :
    compareIdentifier localeCompare l l = some .eq ∨ compareIdentifier localeCompare l l = none := by
  unfold compareIdentifier
  by_cases hdigits : isDigits l
  · rw [if_pos ⟨hdigits, hdigits⟩]
    cases number l with
    | none => exact .inr rfl
    | some n => exact .inl (congrArg some (Nat.compare_eq_eq.2 rfl))
  · rw [if_neg fun h => hdigits h.1, if_neg hdigits, if_neg hdigits]
    exact .inl (congrArg some ReflCmp.compare_self)

theorem read_identifierPlaces [ReflCmp localeCompare] {ls rs : List (List Char)}
    (hls : ∀ l ∈ ls, isDigits l → (numeral? l).isSome)
    (hrs : ∀ r ∈ rs, isDigits r → (numeral? r).isSome) :
    ∀ place ∈ identifierPlaces localeCompare ls rs, place.2 = .eq →
      place.1 = some .eq ∨ place.1 = none := by
  induction ls generalizing rs with
  | nil => cases rs <;> simp [identifierPlaces]
  | cons l ls ih =>
    cases rs with
    | nil => simp [identifierPlaces]
    | cons r rs =>
      rw [List.forall_mem_cons] at hls hrs
      apply List.forall_mem_cons.2 ⟨fun heq => ?_, ih hls.2 hrs.2⟩
      rw [eq_of_identifierOrder hls.1 hrs.1 heq]
      exact compareIdentifier_self

theorem read_places [ReflCmp localeCompare] (hp : p.Valid) (hq : q.Valid) :
    ∀ place ∈ places localeCompare p q, place.2 = .eq →
      place.1 = some .eq ∨ place.1 = none := by
  have hfield (n m : ℕ) (h : (fieldPlace n m).2 = .eq) : (fieldPlace n m).1 = some .eq :=
    if_pos (congrArg nearest (Nat.compare_eq_eq.1 h))
  have hrest : ∀ place ∈ (if p.prerelease = [] ∨ q.prerelease = [] then []
      else identifierPlaces localeCompare p.prerelease q.prerelease), place.2 = .eq →
      place.1 = some .eq ∨ place.1 = none := by
    split_ifs
    · exact fun _ hplace => absurd hplace List.not_mem_nil
    · exact read_identifierPlaces hp.canonical hq.canonical
  unfold places
  simp only [List.cons_append, List.nil_append, List.forall_mem_cons]
  exact ⟨fun h => .inl (hfield _ _ h), fun h => .inl (hfield _ _ h), fun h => .inl (hfield _ _ h),
    fun h => .inl (congrArg some h), hrest⟩

theorem compareTexts_text (hp : p.Formed) (hq : q.Formed) :
    compareTexts localeCompare p.text q.text =
      .ok (compareVersions localeCompare p.read q.read) := by
  unfold compareTexts
  rw [parseVersion_text hp, parseVersion_text hq]
  rfl

theorem compareVersions_iff [ReflCmp localeCompare] (hp : p.Valid) (hq : q.Valid) :
    compareVersions localeCompare p.read q.read = some (precedence compare p q) ↔
      RightlyTold (places localeCompare p q) := by
  rw [← told_places, ← @decided_places localeCompare p q]
  exact told_iff (read_places hp hq)

/-- A number that is written as it was read. -/
def Reprints (n : ℕ) : Prop := numberText (nearest n) = (toString n).toList

/-- The text without its build metadata. -/
def Parts.released (p : Parts) : Parts := { p with build := [] }

theorem formatVersion_read (h : Reprints p.major ∧ Reprints p.minor ∧ Reprints p.patch) :
    formatVersion p.read false = p.released.text := by
  obtain ⟨hmajor, hminor, hpatch⟩ := h
  unfold Reprints at hmajor hminor hpatch
  unfold formatVersion baseVersion Parts.read
  simp only [hmajor, hminor, hpatch]
  rfl

variable {values : List Parts}

theorem mapM_parseVersion (h : ∀ p ∈ values, p.Formed) (label : String) :
    (values.map Parts.text).mapM (parseVersion · label) = .ok (values.map Parts.read) := by
  induction values with
  | nil => rfl
  | cons p values ih =>
    rw [List.forall_mem_cons] at h
    rw [List.map_cons, List.mapM_cons, parseVersion_text h.1, ih h.2]
    rfl

theorem filter_texts (h : ∀ p ∈ values, p.Formed) :
    ((values.map Parts.text).map (trimmed isSpace)).filter (· ≠ []) = values.map Parts.text := by
  have htrim : (values.map Parts.text).map (trimmed isSpace) = values.map Parts.text := by
    apply (List.map_congr_left fun text htext => ?_).trans (List.map_id _)
    obtain ⟨p, hp, rfl⟩ := List.mem_map.1 htext
    exact trimmed_of_tight (tight_of_forall fun c hc =>
      not_isSpace (isLetter_of_mem_text (h p hp) hc))
  rw [htrim]
  apply List.filter_eq_self.2
  intro text htext
  obtain ⟨p, -, rfl⟩ := List.mem_map.1 htext
  simp [Parts.text, Parts.core, List.intercalate]

theorem maxVersion_texts [ReflCmp localeCompare] (hne : values ≠ [])
    (hvalid : ∀ p ∈ values, p.Valid)
    (hright : ∀ p ∈ values, ∀ q ∈ values, RightlyTold (places localeCompare p q))
    (hprint : ∀ p ∈ values, Reprints p.major ∧ Reprints p.minor ∧ Reprints p.patch)
    (fallback : List Char) :
    ∃ best ∈ values, (∀ p ∈ values, precedence compare p best ≠ .gt) ∧
      maxVersion localeCompare (values.map Parts.text) fallback = .ok best.released.text := by
  have hformed : ∀ p ∈ values, p.Formed := fun p hp => (hvalid p hp).toFormed
  have hsort : (values.map Parts.read).mergeSort
      (fun left right => compareVersions localeCompare left right ≠ some .gt) =
      (values.mergeSort fun p q => (precedence compare p q).isLE).map Parts.read := by
    symm
    apply List.map_mergeSort
    intro p hp q hq
    rw [(compareVersions_iff (hvalid p hp) (hvalid q hq)).2 (hright p hp q hq)]
    cases precedence compare p q <;> rfl
  have hsorted := @List.pairwise_mergeSort Parts (fun p q => (precedence compare p q).isLE)
    (fun _ _ _ => TransCmp.isLE_trans)
    (fun p q => by
      rw [@OrientedCmp.eq_swap Parts (precedence compare) _ q p]
      cases precedence compare p q <;> rfl) values
  obtain ⟨front, best, hlast⟩ := List.eq_nil_or_concat'
    (values.mergeSort fun p q => (precedence compare p q).isLE) |>.resolve_left fun hnil =>
      hne (by simpa using congrArg List.length hnil)
  have hmem {p : Parts} : p ∈ values ↔ p ∈ front ++ [best] := by
    rw [← hlast, List.mem_mergeSort]
  have hbest : best ∈ values := hmem.2 (by simp)
  refine ⟨best, hbest, fun p hp => ?_, ?_⟩
  · rw [hlast, List.pairwise_append] at hsorted
    rcases List.mem_append.1 (hmem.1 hp) with hp | hp
    · exact Ordering.isLE_iff_ne_gt.1 (hsorted.2.2 p hp best List.mem_cons_self)
    · rw [List.mem_singleton.1 hp, @ReflCmp.compare_self Parts (precedence compare)]
      nofun
  · unfold maxVersion
    rw [filter_texts hformed, mapM_parseVersion hformed]
    show Except.ok _ = _
    simp only [hsort, hlast, List.map_append, List.map_cons, List.map_nil, List.getLast?_append,
      List.getLast?_singleton, Option.some_or]
    rw [formatVersion_read (hprint best hbest)]

/-- For valid versions `compareVersions` has the sign of the standard exactly if the first place
where they differ is told rightly. Among versions for which it is, the order is a total one and
`maxVersion` returns a greatest. -/
theorem compareTexts_precedence (localeCompare : List Char → List Char → Ordering)
    [ReflCmp localeCompare] :
    (∀ p q : Parts, p.Valid → q.Valid →
      (compareTexts localeCompare p.text q.text = .ok (some (precedence compare p q)) ↔
        RightlyTold (places localeCompare p q))) ∧
    TransCmp (precedence compare) ∧
    ∀ values : List Parts, values ≠ [] → (∀ p ∈ values, p.Valid) →
      (∀ p ∈ values, ∀ q ∈ values, RightlyTold (places localeCompare p q)) →
      (∀ p ∈ values, Reprints p.major ∧ Reprints p.minor ∧ Reprints p.patch) →
      ∀ fallback, ∃ best ∈ values, (∀ p ∈ values, precedence compare p best ≠ .gt) ∧
        maxVersion localeCompare (values.map Parts.text) fallback = .ok best.released.text := by
  refine ⟨fun p q hp hq => ?_, inferInstance, fun values hne hvalid hright hprint =>
    maxVersion_texts hne hvalid hright hprint⟩
  rw [compareTexts_text hp.toFormed hq.toFormed, Except.ok.injEq]
  exact compareVersions_iff hp hq

end

def huge (identifier : String) : Parts :=
  { major := 1, minor := 0, patch := 0, prerelease := [identifier.toList], build := [] }

theorem valid_huge {identifier : String} (h : isIdentifier identifier.toList)
    (hnumeral : (numeral? identifier.toList).isSome) : (huge identifier).Valid where
  prerelease := by simpa [huge] using h
  build := by simp [huge]
  canonical := by simpa [huge] using fun _ => hnumeral

/-- The two identifiers are read as one number, though the first is the greater. -/
theorem not_precedence_huge :
    ¬ ∀ (localeCompare : List Char → List Char → Ordering) [TransCmp localeCompare] (p q : Parts),
      p.Valid → q.Valid →
        compareTexts localeCompare p.text q.text = .ok (some (precedence compare p q)) := by
  intro h
  have h := h compare (huge "9007199254740993") (huge "9007199254740992")
    (valid_huge (by decide +kernel) (by decide +kernel))
    (valid_huge (by decide +kernel) (by decide +kernel))
  exact absurd h (by decide +kernel)

/-- Two prereleases of one channel are told apart by their numbers. -/
theorem compareTexts_precedence_candidates :
    compareTexts compare (huge "2").text (huge "10").text = .ok (some .lt) := by
  have hplaces : places compare (huge "2") (huge "10") =
      [(some .eq, .eq), (some .eq, .eq), (some .eq, .eq), (some .eq, .eq), (some .lt, .lt)] := by
    decide +kernel
  have h := (compareTexts_precedence compare).1 (huge "2") (huge "10")
    (valid_huge (by decide +kernel) (by decide +kernel))
    (valid_huge (by decide +kernel) (by decide +kernel))
  exact h.2 (by rw [hplaces]; simp [RightlyTold])

end Tunnara.Release
