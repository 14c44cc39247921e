/-
# Strings in the C SDK's JSON

`json_escape` copies a string into a buffer that grows, with a replacement for each byte that may
not stand between the quotes of a JSON string.
-/

import Mathlib.Algebra.Group.Nat.Defs
import Mathlib.Data.List.Basic

namespace Tunnara.Sdk

/-- Arithmetic of `size_t`, which has 64 bits. -/
def sizeT (n : ℕ) : ℕ := n % 2 ^ 64

/-- A block of memory. What nobody has written is indeterminate. -/
abbrev Block := List (Option UInt8)

namespace Block

/-- `memcpy`; `none` when it writes past the end. -/
def copy (block : Block) (start : ℕ) (bytes : List UInt8) : Option Block :=
  if start + bytes.length ≤ block.length then
    some (block.take start ++ bytes.map some ++ block.drop (start + bytes.length))
  else none

def realloc (block : Block) (size : ℕ) : Block :=
  block.take size ++ List.replicate (size - block.length) none

/-- The bytes up to the first NUL. -/
def text : Block → Option (List UInt8)
  | [] | none :: _ => none
  | some byte :: block => if byte = 0 then some [] else (text block).map (byte :: ·)

end Block

/-- A NUL-terminated string in memory, where addresses have 57 bits at most. -/
structure CString where
  bytes : List UInt8
  noNul : 0 ∉ bytes
  fits : bytes.length < 2 ^ 57

def ascii (text : String) : List UInt8 := text.toList.map fun c => c.val.toUInt8

/-- `snprintf(unicode, sizeof(unicode), "\\u%04x", c)`. -/
def unicodeEscape (c : UInt8) : List UInt8 :=
  ascii "\\u00" ++ [c.toNat / 16, c.toNat % 16].map fun digit => (Nat.digitChar digit).val.toUInt8

/-- What is copied for a byte. -/
def replacement (c : UInt8) : List UInt8 :=
  if c = 0x5C then ascii "\\\\"
  else if c = 0x22 then ascii "\\\""
  else if c = 0x0A then ascii "\\n"
  else if c = 0x0D then ascii "\\r"
  else if c = 0x09 then ascii "\\t"
  else if c < 32 then unicodeEscape c
  else [c]

structure Buffer where
  (capacity used : ℕ)
  out : Block

/-- What `json_escape` ends with. -/
inductive Escaped
  /-- `NULL`, where an allocation failed. -/
  | null
  | text (block : Block)
  /-- A byte was written outside of the buffer. -/
  | overrun

def Buffer.append (buffer : Buffer) (added : List UInt8) : Except Escaped Buffer :=
  match buffer.out.copy buffer.used added with
  | none => throw .overrun
  | some out => return { buffer with used := buffer.used + added.length, out }

variable (grants : ℕ → Bool)

/-- One round of the loop; `grants` tells the sizes that `malloc` and `realloc` find room for. -/
def escapeByte (buffer : Buffer) (c : UInt8) : Except Escaped Buffer :=
  let added := replacement c
  let needed := sizeT (buffer.used + added.length + 1)
  if needed > buffer.capacity then
    let capacity := sizeT (needed * 2)
    if grants capacity then
      Buffer.append { buffer with capacity, out := buffer.out.realloc capacity } added
    else throw .null
  else buffer.append added

def jsonEscape (input : Option CString) : Escaped :=
  let value := input.elim [] CString.bytes
  let capacity := sizeT (value.length * 2 + 1)
  if grants capacity then
    match value.foldlM (escapeByte grants) ⟨capacity, 0, List.replicate capacity none⟩ with
    | .error escaped => escaped
    | .ok buffer => match buffer.out.copy buffer.used [0] with
      | none => .overrun
      | some block => .text block
  else .null

/-- The UTF-16 code units of a character. -/
def units (c : Char) : List ℕ :=
  if c.toNat < 0x10000 then [c.toNat]
  else [0xD800 + (c.toNat - 0x10000) / 0x400, 0xDC00 + (c.toNat - 0x10000) % 0x400]

/-- The value of a hexadecimal digit. -/
def hexValue (c : Char) : Option ℕ :=
  if '0' ≤ c ∧ c ≤ '9' then some (c.toNat - 48)
  else if 'a' ≤ c ∧ c ≤ 'f' then some (c.toNat - 87)
  else if 'A' ≤ c ∧ c ≤ 'F' then some (c.toNat - 55)
  else none

def shortEscapes : List (Char × ℕ) :=
  [('"', 0x22), ('\\', 0x5C), ('/', 0x2F), ('b', 8), ('f', 12), ('n', 10), ('r', 13), ('t', 9)]

/-- The code units of a JSON string, from what follows its first quote up to the last one. -/
def stringUnits : List Char → Option (List ℕ)
  | '\\' :: 'u' :: a :: b :: c :: d :: rest => do
    let unit := (← hexValue a) * 4096 + (← hexValue b) * 256 + (← hexValue c) * 16 + (← hexValue d)
    return unit :: (← stringUnits rest)
  | '\\' :: c :: rest => do
    let unit ← shortEscapes.lookup c
    return unit :: (← stringUnits rest)
  | c :: rest =>
    if c = '"' then if rest = [] then some [] else none
    else if c = '\\' ∨ c.toNat < 0x20 then none
    else do return units c ++ (← stringUnits rest)
  | [] => none

def utf8 (text : List Char) : List UInt8 := text.flatMap String.utf8EncodeChar

def escape (bytes : List UInt8) : List UInt8 := bytes.flatMap replacement

theorem length_replacement_le (c : UInt8) : (replacement c).length ≤ 6 := by
  unfold replacement
  split_ifs
  all_goals simp [ascii, unicodeEscape]

theorem length_escape_le (bytes : List UInt8) : (escape bytes).length ≤ 6 * bytes.length := by
  induction bytes with
  | nil => exact Nat.le_refl 0
  | cons c bytes ih =>
    have hfirst := length_replacement_le c
    unfold escape at ih ⊢
    rw [List.flatMap_cons, List.length_append, List.length_cons]
    omega

variable {bytes : List UInt8}

theorem copy_append (before rest : Block) (bytes : List UInt8) (h : bytes.length ≤ rest.length) :
    Block.copy (before ++ rest) before.length bytes =
      some (before ++ bytes.map some ++ rest.drop bytes.length) := by
  rw [Block.copy, if_pos (by simp [h]), List.take_left, List.drop_length_add_append]

/-- The buffer begins with what was copied for these bytes, and has room for the NUL. -/
structure Holds (done : List UInt8) (buffer : Buffer) : Prop where
  capacity : buffer.out.length = buffer.capacity
  used : buffer.used = (escape done).length
  out : ∃ rest : Block, rest ≠ [] ∧ buffer.out = (escape done).map some ++ rest

variable {grants} {done : List UInt8} {buffer : Buffer}

theorem Holds.realloc (h : Holds done buffer) (size : ℕ) (hsize : buffer.capacity < size) :
    Holds done { buffer with capacity := size, out := buffer.out.realloc size } := by
  obtain ⟨rest, hne, hout⟩ := h.out
  have hlength := h.capacity
  have hrealloc : buffer.out.realloc size =
      buffer.out ++ List.replicate (size - buffer.capacity) none := by
    rw [Block.realloc, List.take_of_length_le (by omega), hlength]
  refine ⟨?_, h.used, rest ++ List.replicate (size - buffer.capacity) none, ?_, ?_⟩
  · dsimp only
    rw [hrealloc, List.length_append, List.length_replicate]
    omega
  · exact List.append_ne_nil_of_left_ne_nil hne _
  · dsimp only
    rw [hrealloc, hout, List.append_assoc]

theorem Holds.append (h : Holds done buffer) (c : UInt8)
    (hroom : buffer.used + (replacement c).length < buffer.capacity) :
    ∃ next, buffer.append (replacement c) = .ok next ∧ Holds (done ++ [c]) next := by
  obtain ⟨rest, -, hout⟩ := h.out
  have hescape : escape (done ++ [c]) = escape done ++ replacement c := by simp [escape]
  have hused : buffer.used = ((escape done).map some).length := by rw [h.used, List.length_map]
  have hlength := h.capacity
  rw [hout, List.length_append] at hlength
  have hcopy := copy_append ((escape done).map some) rest (replacement c) (by omega)
  rw [← hused, ← hout] at hcopy
  refine ⟨_, by rw [Buffer.append, hcopy]; rfl, ?_, ?_, rest.drop (replacement c).length, ?_, ?_⟩
  · dsimp only
    simp only [List.length_append, List.length_drop, List.length_map] at hlength hused ⊢
    omega
  · dsimp only
    rw [hescape, List.length_append, h.used]
  · rw [Ne, List.drop_eq_nil_iff]
    omega
  · dsimp only
    rw [hescape, List.map_append]

theorem escapeByte_cases (h : Holds done buffer) (hfits : 6 * done.length + 7 < 2 ^ 63)
    (c : UInt8) :
    (escapeByte grants buffer c = .error .null ∧ ∃ size, grants size = false) ∨
      ∃ next, escapeByte grants buffer c = .ok next ∧ Holds (done ++ [c]) next := by
  have hlength := length_escape_le done
  have hadded := length_replacement_le c
  have hused := h.used
  unfold escapeByte sizeT
  dsimp only
  rw [Nat.mod_eq_of_lt (by omega), Nat.mod_eq_of_lt (by omega)]
  split
  · cases hgrants : grants ((buffer.used + (replacement c).length + 1) * 2) with
    | false => exact .inl ⟨rfl, _, hgrants⟩
    | true => exact .inr ((h.realloc _ (by omega)).append c (by dsimp only; omega))
  · exact .inr (h.append c (by omega))

/-- The loop ends with a failed allocation, or with all that is to be copied in the buffer. -/
theorem foldlM_cases (bytes : List UInt8) (h : Holds done buffer)
    (hfits : 6 * (done ++ bytes).length + 7 < 2 ^ 63) :
    (bytes.foldlM (escapeByte grants) buffer = .error .null ∧ ∃ size, grants size = false) ∨
      ∃ last, bytes.foldlM (escapeByte grants) buffer = .ok last ∧ Holds (done ++ bytes) last := by
  induction bytes generalizing done buffer with
  | nil => exact .inr ⟨buffer, rfl, (List.append_nil done).symm ▸ h⟩
  | cons c bytes ih =>
    have hdone : 6 * done.length + 7 < 2 ^ 63 := by
      rw [List.length_append] at hfits
      omega
    rw [List.append_cons] at hfits ⊢
    rw [List.foldlM_cons]
    rcases escapeByte_cases h hdone c with ⟨hnull, hsize⟩ | ⟨next, hnext, hholds⟩
    · exact .inl ⟨by rw [hnull]; rfl, hsize⟩
    · rw [hnext]
      exact ih hholds hfits

theorem zero_not_mem_escape (h : 0 ∉ bytes) : 0 ∉ escape bytes := by
  intro hmem
  obtain ⟨c, hc, hzero⟩ := List.mem_flatMap.1 hmem
  have hreplaced : ∀ n < 256, UInt8.ofNat n ≠ 0 → 0 ∉ replacement (UInt8.ofNat n) := by
    decide +kernel
  have hne : c ≠ 0 := fun heq => h (heq ▸ hc)
  have := hreplaced c.toNat c.toNat_lt
  rw [UInt8.ofNat_toNat] at this
  exact this hne hzero

theorem text_append (h : 0 ∉ bytes) (rest : Block) :
    Block.text (bytes.map some ++ some 0 :: rest) = some bytes := by
  induction bytes with
  | nil => rfl
  | cons byte bytes ih =>
    rw [List.mem_cons, not_or] at h
    rw [List.map_cons, List.cons_append, Block.text, if_neg (Ne.symm h.1), ih h.2]
    rfl

theorem Holds.finish (h : Holds done buffer) (hzero : 0 ∉ done) :
    ∃ block, buffer.out.copy buffer.used [0] = some block ∧ block.text = some (escape done) := by
  obtain ⟨rest, hne, hout⟩ := h.out
  have hcopy := copy_append ((escape done).map some) rest [0] (List.length_pos_of_ne_nil hne)
  rw [List.length_map, ← h.used, ← hout] at hcopy
  refine ⟨_, hcopy, ?_⟩
  rw [List.append_assoc]
  exact text_append (zero_not_mem_escape hzero) _

/-- What is written for a character. -/
def escapedChar (c : Char) : List Char :=
  if c = '\\' then ['\\', '\\']
  else if c = '"' then ['\\', '"']
  else if c = '\n' then ['\\', 'n']
  else if c = '\r' then ['\\', 'r']
  else if c = '\t' then ['\\', 't']
  else if c.toNat < 32 then
    ['\\', 'u', '0', '0', Nat.digitChar (c.toNat / 16), Nat.digitChar (c.toNat % 16)]
  else [c]

theorem replacement_of_high {byte : UInt8} (h : 128 ≤ byte.toNat) : replacement byte = [byte] := by
  have hall : ∀ n < 256, 128 ≤ n → replacement (UInt8.ofNat n) = [UInt8.ofNat n] := by
    decide +kernel
  have hbyte := hall byte.toNat byte.toNat_lt h
  rwa [UInt8.ofNat_toNat] at hbyte

theorem escape_utf8Char (c : Char) : escape (String.utf8EncodeChar c) = utf8 (escapedChar c) := by
  by_cases hascii : c.toNat < 128
  · have hall : ∀ n < 128, escape (String.utf8EncodeChar (Char.ofNat n)) =
        utf8 (escapedChar (Char.ofNat n)) := by
      decide +kernel
    have hc := hall c.toNat hascii
    rwa [Char.ofNat_toNat] at hc
  · have hne (d : Char) (hd : d.toNat < 128) : c ≠ d := fun heq => hascii (heq ▸ hd)
    have hself : escapedChar c = [c] := by
      unfold escapedChar
      rw [if_neg (hne _ (by decide)), if_neg (hne _ (by decide)), if_neg (hne _ (by decide)),
        if_neg (hne _ (by decide)), if_neg (hne _ (by decide)), if_neg (by omega)]
    have hbytes : ∀ byte ∈ String.utf8EncodeChar c, replacement byte = [byte] := by
      intro byte hmem
      refine replacement_of_high ?_
      change ¬ c.val.toNat < 128 at hascii
      unfold String.utf8EncodeChar at hmem
      simp only [if_neg (show ¬ c.val.toNat ≤ 0x7f by omega)] at hmem
      split_ifs at hmem <;> simp only [List.mem_cons, List.not_mem_nil, or_false] at hmem
      · rcases hmem with rfl | rfl <;> rw [UInt8.toNat_ofNat'] <;> omega
      · rcases hmem with rfl | rfl | rfl <;> rw [UInt8.toNat_ofNat'] <;> omega
      · rcases hmem with rfl | rfl | rfl | rfl <;> rw [UInt8.toNat_ofNat'] <;> omega
    rw [hself, utf8, List.flatMap_singleton, escape, List.flatMap_congr hbytes,
      List.flatMap_singleton']

theorem stringUnits_short {c : Char} {unit : ℕ} (hc : c ≠ 'u')
    (h : shortEscapes.lookup c = some unit) (rest : List Char) :
    stringUnits ('\\' :: c :: rest) = (stringUnits rest).map (unit :: ·) := by
  rw [stringUnits, h]
  · cases stringUnits rest <;> rfl
  · exact fun _ _ _ _ _ heq _ => hc heq

theorem stringUnits_escapedChar (c : Char) (rest : List Char) :
    stringUnits (escapedChar c ++ rest) = (stringUnits rest).map (units c ++ ·) := by
  unfold escapedChar
  split_ifs with hslash hquote hnewline hreturn htab hcontrol
  · subst hslash
    exact stringUnits_short (by decide) rfl rest
  · subst hquote
    exact stringUnits_short (by decide) rfl rest
  · exact hnewline ▸ stringUnits_short (by decide) rfl rest
  · exact hreturn ▸ stringUnits_short (by decide) rfl rest
  · exact htab ▸ stringUnits_short (by decide) rfl rest
  · have hdigits : ∀ n < 32, hexValue (Nat.digitChar (n / 16)) = some (n / 16) ∧
        hexValue (Nat.digitChar (n % 16)) = some (n % 16) := by
      decide
    obtain ⟨hhigh, hlow⟩ := hdigits c.toNat hcontrol
    have hunits : units c = [c.toNat] := if_pos (by omega)
    simp only [List.cons_append, List.nil_append]
    rw [stringUnits, hhigh, hlow, hunits]
    cases stringUnits rest with
    | none => rfl
    | some value =>
      refine congrArg (fun unit => some (unit :: value)) ?_
      change 0 * 4096 + 0 * 256 + c.toNat / 16 * 16 + c.toNat % 16 = c.toNat
      omega
  · change stringUnits (c :: rest) = _
    rw [stringUnits, if_neg hquote, if_neg (not_or.2 ⟨hslash, hcontrol⟩)]
    · cases stringUnits rest <;> rfl
    · exact fun _ _ _ _ _ heq _ => hslash heq
    · exact fun _ _ heq _ => hslash heq

theorem escape_utf8 (text : List Char) : escape (utf8 text) = utf8 (text.flatMap escapedChar) := by
  induction text with
  | nil => rfl
  | cons c text ih =>
    unfold utf8 escape at ih ⊢
    rw [List.flatMap_cons, List.flatMap_append, ih, List.flatMap_cons, List.flatMap_append]
    exact congrArg (· ++ _) (escape_utf8Char c)

theorem stringUnits_escaped (text : List Char) :
    stringUnits (text.flatMap escapedChar ++ ['"']) = some (text.flatMap units) := by
  induction text with
  | nil => rfl
  | cons c text ih =>
    rw [List.flatMap_cons, List.append_assoc, stringUnits_escapedChar, ih, List.flatMap_cons]
    rfl

/-- The string that a call returns, between quotes, is a literal of the string it was given. -/
def Literal (input : Option CString) (block : Block) : Prop :=
  ∃ escaped, block.text = some escaped ∧ ∀ text, input.elim [] CString.bytes = utf8 text →
    ∃ literal, escaped = utf8 literal ∧ stringUnits (literal ++ ['"']) = some (text.flatMap units)

/-- No byte is written outside of the buffer; without a literal an allocation has failed. -/
theorem jsonEscape_literal (grants : ℕ → Bool) (input : Option CString) :
    match jsonEscape grants input with
    | .overrun => False
    | .null => ∃ size, grants size = false
    | .text block => Literal input block := by
  have hzero : 0 ∉ input.elim [] CString.bytes := by
    cases input with
    | none => exact List.not_mem_nil
    | some value => exact value.noNul
  have hfits : (input.elim [] CString.bytes).length < 2 ^ 57 := by
    cases input with
    | none => exact Nat.two_pow_pos 57
    | some value => exact value.fits
  unfold jsonEscape Literal
  generalize input.elim [] CString.bytes = value at hzero hfits ⊢
  have hcapacity : sizeT (value.length * 2 + 1) = value.length * 2 + 1 :=
    Nat.mod_eq_of_lt (by omega)
  dsimp only
  rw [hcapacity]
  cases hgrants : grants (value.length * 2 + 1) with
  | false => exact ⟨_, hgrants⟩
  | true =>
    have hstart : Holds [] ⟨value.length * 2 + 1, 0, List.replicate (value.length * 2 + 1) none⟩ :=
      ⟨List.length_replicate, rfl, _, by simp, rfl⟩
    rw [if_pos rfl]
    rcases @foldlM_cases grants _ _ value hstart (by rw [List.nil_append]; omega) with
      ⟨hnull, hsize⟩ | ⟨last, hlast, hholds⟩
    · rw [hnull]
      exact hsize
    · obtain ⟨block, hblock, htext⟩ := hholds.finish hzero
      rw [hlast]
      dsimp only
      rw [hblock]
      refine ⟨_, htext, fun text hvalue => ⟨_, ?_, stringUnits_escaped text⟩⟩
      rw [List.nil_append, hvalue, escape_utf8]

end Tunnara.Sdk
