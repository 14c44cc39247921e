/-
# Base64

`buffer.toString('base64')` and `Buffer.from(text, 'base64')`. Decoding skips what
is not a digit, takes the digits of the URL alphabet as well, and stops at the
padding.
-/

import Mathlib.Data.List.Basic

namespace Tunnara.Base64

def alphabet : List Char :=
  "ABCDEFGHIJKLMNOPQRSTUVWXYZabcdefghijklmnopqrstuvwxyz0123456789+/".toList

/-- The digit of a number below 64. -/
def digit (n : ℕ) : Char := alphabet.getD n '='

def value (c : Char) : Option ℕ :=
  if c = '-' then some 62 else if c = '_' then some 63 else alphabet.idxOf? c

/-- The six-bit groups of a sequence of bytes. -/
def sextets : List UInt8 → List ℕ
  | [] => []
  | [a] => [a.toNat / 4, a.toNat % 4 * 16]
  | [a, b] => [a.toNat / 4, a.toNat % 4 * 16 + b.toNat / 16, b.toNat % 16 * 4]
  | a :: b :: c :: rest =>
    (a.toNat / 4) :: (a.toNat % 4 * 16 + b.toNat / 16) :: (b.toNat % 16 * 4 + c.toNat / 64) ::
      (c.toNat % 64) :: sextets rest

/-- The padding that fills the last group of four digits. -/
def padding (length : ℕ) : List Char := List.replicate ((3 - length % 3) % 3) '='

def encode (bytes : List UInt8) : String :=
  String.ofList ((sextets bytes).map digit ++ padding bytes.length)

def urlDigit (n : ℕ) : Char := if n = 62 then '-' else if n = 63 then '_' else digit n

/-- `buffer.toString('base64url')`. -/
def encodeUrl (bytes : List UInt8) : String := String.ofList ((sextets bytes).map urlDigit)

/-- The bytes of a sequence of six-bit groups; a lone last group is dropped. -/
def bytes : List ℕ → List UInt8
  | a :: b :: c :: d :: rest =>
    UInt8.ofNat (a * 4 + b / 16) :: UInt8.ofNat (b % 16 * 16 + c / 4) ::
      UInt8.ofNat (c % 4 * 64 + d) :: bytes rest
  | [a, b, c] => [UInt8.ofNat (a * 4 + b / 16), UInt8.ofNat (b % 16 * 16 + c / 4)]
  | [a, b] => [UInt8.ofNat (a * 4 + b / 16)]
  | _ => []

def decode (text : String) : List UInt8 :=
  bytes ((text.toList.takeWhile (· ≠ '=')).filterMap value)

theorem alphabet_eq : alphabet =
    ['A', 'B', 'C', 'D', 'E', 'F', 'G', 'H', 'I', 'J', 'K', 'L', 'M',
      'N', 'O', 'P', 'Q', 'R', 'S', 'T', 'U', 'V', 'W', 'X', 'Y', 'Z',
      'a', 'b', 'c', 'd', 'e', 'f', 'g', 'h', 'i', 'j', 'k', 'l', 'm',
      'n', 'o', 'p', 'q', 'r', 's', 't', 'u', 'v', 'w', 'x', 'y', 'z',
      '0', '1', '2', '3', '4', '5', '6', '7', '8', '9', '+', '/'] := rfl

theorem value_digit : ∀ n < 64, value (digit n) = some n := by
  unfold digit
  rw [alphabet_eq]
  decide +kernel

theorem digit_ne_padding : ∀ n < 64, digit n ≠ '=' := by
  unfold digit
  rw [alphabet_eq]
  decide +kernel

variable (data : List UInt8) {n : ℕ}

theorem value_urlDigit (h : n < 64) : value (urlDigit n) = some n := by
  unfold urlDigit
  split_ifs with hplus hslash
  · rw [hplus]
    rfl
  · rw [hslash]
    rfl
  · exact value_digit n h

theorem urlDigit_ne_padding (h : n < 64) : urlDigit n ≠ '=' := by
  unfold urlDigit
  split_ifs
  · decide
  · decide
  · exact digit_ne_padding n h

theorem urlDigit_ne_dot (h : n < 64) : urlDigit n ≠ '.' := by
  have hnone : value '.' = none := by
    unfold value
    rw [alphabet_eq]
    decide
  intro hdot
  have hvalue := value_urlDigit h
  rw [hdot, hnone] at hvalue
  cases hvalue

theorem sextets_lt : ∀ n ∈ sextets data, n < 64 := by
  induction data using sextets.induct with
  | case1 => simp [sextets]
  | case2 a =>
    have ha := a.toNat_lt
    simp only [sextets, List.mem_cons, List.not_mem_nil, or_false]
    rintro n (rfl | rfl) <;> omega
  | case3 a b =>
    have ha := a.toNat_lt
    have hb := b.toNat_lt
    simp only [sextets, List.mem_cons, List.not_mem_nil, or_false]
    rintro n (rfl | rfl | rfl) <;> omega
  | case4 a b c rest ih =>
    have ha := a.toNat_lt
    have hb := b.toNat_lt
    have hc := c.toNat_lt
    simp only [sextets, List.mem_cons]
    rintro n (rfl | rfl | rfl | rfl | hn)
    · omega
    · omega
    · omega
    · omega
    · exact ih n hn

theorem length_sextets : (sextets data).length = (4 * data.length + 2) / 3 := by
  induction data using sextets.induct with
  | case1 => rfl
  | case2 a | case3 a b => simp [sextets]
  | case4 a b c rest ih =>
    simp only [sextets, List.length_cons, ih]
    omega

theorem ofNat_eq (byte : UInt8) (h : n = byte.toNat) : UInt8.ofNat n = byte := by
  rw [h]
  exact UInt8.ofNat_toNat

theorem bytes_sextets : bytes (sextets data) = data := by
  induction data using sextets.induct with
  | case1 => rfl
  | case2 a =>
    have ha := a.toNat_lt
    simp only [sextets, bytes]
    rw [ofNat_eq a (by omega)]
  | case3 a b =>
    have ha := a.toNat_lt
    have hb := b.toNat_lt
    simp only [sextets, bytes]
    rw [ofNat_eq a (by omega), ofNat_eq b (by omega)]
  | case4 a b c rest ih =>
    have ha := a.toNat_lt
    have hb := b.toNat_lt
    have hc := c.toNat_lt
    simp only [sextets, bytes]
    rw [ofNat_eq a (by omega), ofNat_eq b (by omega), ofNat_eq c (by omega), ih]

theorem filterMap_value_encode (groups : List ℕ) (h : ∀ n ∈ groups, n < 64) (length : ℕ) :
    (((groups.map digit ++ padding length).takeWhile (· ≠ '=')).filterMap value) = groups := by
  induction groups with
  | nil =>
    unfold padding
    cases (3 - length % 3) % 3 with
    | zero => rfl
    | succ n => simp [List.replicate_succ]
  | cons n rest ih =>
    have hn := h n List.mem_cons_self
    have hrest := ih fun m hm => h m (List.mem_cons_of_mem _ hm)
    rw [List.map_cons, List.cons_append, List.takeWhile_cons_of_pos
      (by simpa using digit_ne_padding n hn), List.filterMap_cons_some (value_digit n hn), hrest]

theorem decode_encode : decode (encode data) = data := by
  unfold decode encode
  rw [String.toList_ofList, filterMap_value_encode _ (sextets_lt data), bytes_sextets]

theorem decode_encodeUrl : decode (encodeUrl data) = data := by
  have hdigits : ∀ groups : List ℕ, (∀ n ∈ groups, n < 64) →
      (((groups.map urlDigit).takeWhile (· ≠ '=')).filterMap value) = groups := by
    intro groups h
    induction groups with
    | nil => rfl
    | cons n rest ih =>
      have hn := h n List.mem_cons_self
      have hrest := ih fun m hm => h m (List.mem_cons_of_mem _ hm)
      rw [List.map_cons, List.takeWhile_cons_of_pos (by simpa using urlDigit_ne_padding hn),
        List.filterMap_cons_some (value_urlDigit hn), hrest]
  unfold decode encodeUrl
  rw [String.toList_ofList, hdigits _ (sextets_lt data), bytes_sextets]

theorem dot_not_mem_encodeUrl : '.' ∉ (encodeUrl data).toList := by
  unfold encodeUrl
  rw [String.toList_ofList]
  intro hdot
  obtain ⟨n, hn, heq⟩ := List.mem_map.1 hdot
  exact urlDigit_ne_dot (sextets_lt data n hn) heq

example : encode [77, 97, 110, 33] = "TWFuIQ==" := by decide +kernel

end Tunnara.Base64
