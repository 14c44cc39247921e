/-
# Host names

What `normalizeHostname` gives back is a name of a small grammar, and of the names of
this grammar it gives back each one unchanged, whatever the case of the letters and
whether a port follows.

Case mapping is the engine's; all that is used of it is what it does to ASCII texts.
-/

import Tunnara.Edge.Forwarding
import Tunnara.Data.Lines
import Mathlib.Data.List.Chain

namespace Tunnara.Edge

open Policy Lines

/-- On an ASCII text `toLowerCase` maps the letters `A` to `Z` and nothing else. -/
def LowersAscii (host : Host) : Prop :=
  ∀ text : String, (∀ c ∈ text.toList, c.toNat < 128) →
    host.toLowerCase text = String.ofList (text.toList.map Char.toLower)

/-- Two characters in a row that are not both dots. -/
def DotFree (a b : Char) : Prop := ¬(a = '.' ∧ b = '.')

/-- The names the Edge looks up. -/
structure IsHostname (name : List Char) : Prop where
  ne_nil : name ≠ []
  length_le : name.length ≤ 253
  chars : ∀ c ∈ name, isHostChar c = true
  dots : name.IsChain DotFree
  tight : Tight (· = '.') name

/-- The `Host` header names the host, in any case and with a port or without. -/
def Spells (value name : String) : Prop :=
  ∃ letters port, value.toList = letters ++ port ∧ letters.map Char.toLower = name.toList ∧
    (port = [] ∨ ∃ digits, digits ≠ [] ∧ (∀ c ∈ digits, c.isDigit = true) ∧ port = ':' :: digits)

variable {c : Char} {name value : String}

theorem ascii_forall {p : Char → Prop} (h : ∀ n < 128, p (Char.ofNat n)) (hc : c.toNat < 128) :
    p c := by
  have hsame := h c.toNat hc
  rwa [Char.ofNat_toNat] at hsame

theorem toNat_of_isHostChar (h : isHostChar c = true) : c.toNat < 128 := by
  unfold isHostChar at h
  simp only [Bool.or_eq_true, Bool.and_eq_true, decide_eq_true_eq, Char.le_def,
    UInt32.le_iff_toNat_le] at h
  have hnat : c.toNat = c.val.toNat := rfl
  rcases h with ((⟨-, hle⟩ | ⟨-, hle⟩) | rfl) | rfl
  · have hz : 'z'.val.toNat = 122 := rfl
    omega
  · have hnine : '9'.val.toNat = 57 := rfl
    omega
  · decide
  · decide

theorem toLower_of_isHostChar (h : isHostChar c = true) : c.toLower = c :=
  ascii_forall (p := fun c => isHostChar c = true → c.toLower = c) (by decide +kernel)
    (toNat_of_isHostChar h) h

theorem ne_colon_of_isHostChar (h : isHostChar c = true) : c ≠ ':' := by
  rintro rfl
  cases h

theorem toNat_of_toLower (h : c.toLower.toNat < 128) : c.toNat < 128 := by
  by_cases hupper : c.val ≥ 'A'.val ∧ c.val ≤ 'Z'.val
  · have hle := UInt32.le_iff_toNat_le.1 hupper.2
    have hz : 'Z'.val.toNat = 90 := rfl
    have hnat : c.toNat = c.val.toNat := rfl
    omega
  · have hsame : c.toLower = c := dif_neg hupper
    rwa [hsame] at h

theorem isSpace_of_toLower (h : isHostChar c.toLower = true) : isSpace c = false :=
  ascii_forall (p := fun c => isHostChar c.toLower = true → isSpace c = false) (by decide +kernel)
    (toNat_of_toLower (toNat_of_isHostChar h)) h

theorem toNat_of_isDigit (h : c.isDigit = true) : c.toNat < 128 := by
  have hrange := (Char.isDigit_iff_toNat.1 h).2
  have hnine : '9'.toNat = 57 := rfl
  omega

theorem isHostChar_of_isDigit (h : c.isDigit = true) : isHostChar c = true :=
  ascii_forall (p := fun c => c.isDigit = true → isHostChar c = true) (by decide +kernel)
    (toNat_of_isDigit h) h

theorem trim_of_isSpace {text : String} (h : ∀ c ∈ text.toList, isSpace c = false) :
    trim text = text := by
  have htight : Tight isSpace text.toList :=
    ⟨fun c hc => h c (List.mem_of_mem_head? hc), fun c hc => h c (List.mem_of_mem_getLast? hc)⟩
  have htrim : trim text = String.ofList (trimmed isSpace text.toList) := rfl
  rw [htrim, trimmed_of_tight htight, String.ofList_toList]

theorem dropPort_append {name digits : List Char} (hne : digits ≠ [])
    (hdigits : ∀ c ∈ digits, c.isDigit = true) : dropPort (name ++ ':' :: digits) = name := by
  have hreverse : (name ++ ':' :: digits).reverse = digits.reverse ++ ':' :: name.reverse := by
    simp
  have hall : ∀ c ∈ digits.reverse, c.isDigit = true := fun c hc =>
    hdigits c (List.mem_reverse.1 hc)
  unfold dropPort
  rw [hreverse, List.takeWhile_append_of_pos hall, List.dropWhile_append_of_pos hall]
  cases hlast : digits.reverse with
  | nil => exact absurd (List.reverse_eq_nil_iff.1 hlast) hne
  | cons c rest => simp

theorem dropPort_of_notMem {name : List Char} (h : ':' ∉ name) : dropPort name = name := by
  unfold dropPort
  dsimp only
  split
  · rename_i rest hdrop
    have hmem : ':' ∈ name.reverse.dropWhile Char.isDigit := by
      rw [hdrop]
      exact List.mem_cons_self
    exact absurd (List.mem_reverse.1 ((List.dropWhile_suffix _).mem hmem)) h
  · rfl

theorem isInfix_dots_iff {name : List Char} : ['.', '.'] <:+: name ↔ ¬name.IsChain DotFree := by
  rw [List.isChain_iff_forall_rel_of_append_cons_cons]
  constructor
  · rintro ⟨front, back, rfl⟩ hchain
    exact @hchain '.' '.' front back (by simp) ⟨rfl, rfl⟩
  · intro hchain
    push Not at hchain
    obtain ⟨a, b, front, back, rfl, hdots⟩ := hchain
    obtain ⟨rfl, rfl⟩ := not_not.1 hdots
    exact ⟨front, back, by simp⟩

variable {host : Host}

theorem isHostname_iff {name : List Char} (htight : Tight (· = '.') name) :
    IsHostname name ↔
      ¬(name = [] ∨ 253 < name.length ∨ !name.all isHostChar ∨ ['.', '.'] <:+: name) := by
  rw [isInfix_dots_iff]
  constructor
  · intro h hrefused
    rcases hrefused with hnil | hlong | hchars | hdots
    · exact h.ne_nil hnil
    · exact absurd h.length_le (Nat.not_le.2 hlong)
    · rw [List.all_eq_true.2 h.chars] at hchars
      cases hchars
    · exact hdots h.dots
  · intro h
    push Not at h
    obtain ⟨hne, hlength, hchars, hdots⟩ := h
    exact ⟨hne, hlength, List.all_eq_true.1 (by simpa using hchars), hdots, htight⟩

theorem isHostname_of_normalizeHostname {value : Option HeaderValue}
    (h : normalizeHostname host value = some name) : IsHostname name.toList := by
  unfold normalizeHostname at h
  dsimp only at h
  split_ifs at h with hrefused
  cases h
  rw [String.toList_ofList]
  exact (isHostname_iff tight_trimmed).2 hrefused

theorem lowered_port {port : List Char} (h : port = [] ∨
      ∃ digits, digits ≠ [] ∧ (∀ c ∈ digits, c.isDigit = true) ∧ port = ':' :: digits)
    (hc : c ∈ port) : c.toLower = c ∧ isSpace c = false ∧ c.toNat < 128 := by
  rcases h with rfl | ⟨digits, -, hdigits, rfl⟩
  · cases hc
  · rcases List.mem_cons.1 hc with rfl | hc
    · exact ⟨rfl, rfl, by decide⟩
    · have hchar := isHostChar_of_isDigit (hdigits c hc)
      have hsame := toLower_of_isHostChar hchar
      exact ⟨hsame, isSpace_of_toLower (hsame.symm ▸ hchar), toNat_of_isHostChar hchar⟩

theorem Spells.char (hname : IsHostname name.toList) (h : Spells value name)
    (hc : c ∈ value.toList) : isSpace c = false ∧ c.toNat < 128 := by
  obtain ⟨letters, port, hvalue, hletters, hport⟩ := h
  rw [hvalue] at hc
  rcases List.mem_append.1 hc with hc | hc
  · have hchar : isHostChar c.toLower = true :=
      hname.chars _ (hletters ▸ List.mem_map_of_mem hc)
    exact ⟨isSpace_of_toLower hchar, toNat_of_toLower (toNat_of_isHostChar hchar)⟩
  · exact (lowered_port hport hc).2

theorem Spells.dropPort (hlower : LowersAscii host) (hname : IsHostname name.toList)
    (h : Spells value name) : dropPort (host.toLowerCase value).toList = name.toList := by
  have hascii : ∀ c ∈ value.toList, c.toNat < 128 := fun c hc => (h.char hname hc).2
  obtain ⟨letters, port, hvalue, hletters, hport⟩ := h
  have hkept : port.map Char.toLower = port := by
    rw [List.map_congr_left fun c hc => (lowered_port hport hc).1, List.map_id']
  rw [hlower value hascii, String.toList_ofList, hvalue, List.map_append, hletters, hkept]
  rcases hport with rfl | ⟨digits, hne, hdigits, rfl⟩
  · rw [List.append_nil]
    exact dropPort_of_notMem fun hmem => ne_colon_of_isHostChar (hname.chars _ hmem) rfl
  · exact dropPort_append hne hdigits

theorem normalizeHostname_of_spells (hlower : LowersAscii host) (hname : IsHostname name.toList)
    (h : Spells value name) : normalizeHostname host (some (.one value)) = some name := by
  have htrim : trim value = value := trim_of_isSpace fun c hc => (h.char hname hc).1
  have hdots : dropDots name.toList = name.toList := trimmed_of_tight hname.tight
  have hread : dropDots (dropPort (host.toLowerCase (trim value)).toList) = name.toList := by
    rw [htrim, h.dropPort hlower hname, hdots]
  unfold normalizeHostname
  dsimp only [Option.map_some, Option.getD_some, HeaderValue.toJsString]
  rw [hread, if_neg ((isHostname_iff hname.tight).1 hname), String.ofList_toList]

theorem Spells.refl {name : String} (h : IsHostname name.toList) : Spells name name := by
  refine ⟨name.toList, [], (List.append_nil _).symm, ?_, .inl rfl⟩
  rw [List.map_congr_left fun c hc => toLower_of_isHostChar (h.chars c hc), List.map_id']

theorem normalizeHostname_eq_self_iff (hlower : LowersAscii host) :
    normalizeHostname host (some (.one name)) = some name ↔ IsHostname name.toList := by
  constructor
  · exact isHostname_of_normalizeHostname
  · intro h
    exact normalizeHostname_of_spells hlower h (.refl h)

end Tunnara.Edge
