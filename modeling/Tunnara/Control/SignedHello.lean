/-
# The message that an agent signs

`agentAuthMessage` joins its fields with line breaks and encodes the text as UTF-8. A string of
JavaScript is a list of UTF-16 code units, and the encoding puts U+FFFD for every surrogate that
is not one of a pair: two timestamps that differ in such surrogates only have one message.
-/

import Tunnara.Data.Lines

namespace Tunnara.Control.SignedHello

abbrev JsText := List UInt16

/-- The code units of a literal, which is ASCII. -/
def literal (text : String) : JsText := text.toList.map fun c => c.val.toUInt16

def isHigh (unit : UInt16) : Bool := 0xD800 ≤ unit && unit < 0xDC00

def isLow (unit : UInt16) : Bool := 0xDC00 ≤ unit && unit < 0xE000

/-- A code unit on its own. -/
def single (unit : UInt16) : Char :=
  if isHigh unit || isLow unit then Char.ofNat 0xFFFD else Char.ofNat unit.toNat

def paired (high low : UInt16) : Char :=
  Char.ofNat (0x10000 + (high.toNat - 0xD800) * 0x400 + (low.toNat - 0xDC00))

/-- What `Buffer.from(text, 'utf8')` encodes. -/
def codePoints : JsText → List Char
  | [] => []
  | [unit] => [single unit]
  | unit :: next :: rest =>
    if isHigh unit && isLow next then paired unit next :: codePoints rest
    else single unit :: codePoints (next :: rest)

/-- `Buffer.from(text, 'utf8')`. -/
def utf8 (text : JsText) : ByteArray := (String.ofList (codePoints text)).toUTF8

/-- `[A-Za-z0-9_-]`. -/
def isWord (unit : UInt16) : Bool :=
  (65 ≤ unit && unit ≤ 90) || (97 ≤ unit && unit ≤ 122) || (48 ≤ unit && unit ≤ 57) ||
    unit = 95 || unit = 45

/-- `/^[A-Za-z0-9_-]{24,128}$/.test(nonce)`. -/
def nonceWellFormed (nonce : JsText) : Bool :=
  24 ≤ nonce.length && nonce.length ≤ 128 && nonce.all isWord

/-- A row of `agents`, with the session token that its registration handed out: `uuid()` and
`randomToken()` write letters, digits, `-` and `_` only. -/
structure StoredAgent where
  (id sessionToken : JsText)
  id_word : id.all isWord = true
  sessionToken_word : sessionToken.all isWord = true

structure Hello where
  (agentId timestamp nonce sessionToken : JsText)
  deriving DecidableEq

/-- What the two verifiers ask of a hello besides its proof and the time it is sent at. -/
structure Accepted (agents : List StoredAgent) (parseDate : JsText → Option ℤ)
    (hello : Hello) : Prop where
  agent : ∃ agent ∈ agents, agent.id = hello.agentId ∧ agent.sessionToken = hello.sessionToken
  timestamp : (parseDate hello.timestamp).isSome = true
  nonce : nonceWellFormed hello.nonce = true

def agentAuthMessage (hello : Hello) : ByteArray :=
  utf8 (literal "TUNNARA_AGENT_AUTH_V1\n" ++ hello.agentId ++ literal "\n" ++ hello.timestamp ++
    literal "\n" ++ hello.nonce ++ literal "\n" ++ hello.sessionToken)

variable {unit : UInt16} {text other : JsText}

/-- No surrogate, so that it stands for itself wherever it stands. -/
def Plain (unit : UInt16) : Prop := isHigh unit = false ∧ isLow unit = false

theorem codePoints_cons (h : isHigh unit = false) (rest : JsText) :
    codePoints (unit :: rest) = single unit :: codePoints rest := by
  cases rest with
  | nil => rfl
  | cons next rest => rw [codePoints, h, Bool.false_and, if_neg Bool.false_ne_true]

theorem codePoints_append (h : Plain unit) (text rest : JsText) :
    codePoints (text ++ unit :: rest) = codePoints text ++ single unit :: codePoints rest := by
  induction text using codePoints.induct with
  | case1 => exact codePoints_cons h.1 rest
  | case2 first =>
    change codePoints (first :: unit :: rest) = single first :: single unit :: codePoints rest
    rw [codePoints, h.2, Bool.and_false, if_neg Bool.false_ne_true, codePoints_cons h.1]
  | case3 first next text hpair ih =>
    rw [List.cons_append, List.cons_append, codePoints, if_pos hpair, ih, codePoints, if_pos hpair]
    rfl
  | case4 first next text hpair ih =>
    rw [List.cons_append, List.cons_append, codePoints, if_neg hpair, codePoints, if_neg hpair]
    exact congrArg _ ih

theorem codePoints_of_plain (h : ∀ unit ∈ text, Plain unit) :
    codePoints text = text.map single := by
  induction text with
  | nil => rfl
  | cons unit rest ih =>
    rw [codePoints_cons (h unit List.mem_cons_self).1,
      ih fun unit hmem => h unit (List.mem_cons_of_mem _ hmem), List.map_cons]

theorem toNat_single (h : Plain unit) : (single unit).toNat = unit.toNat := by
  obtain ⟨hhigh, hlow⟩ := h
  have hvalid : unit.toNat.isValidChar := by
    have hsize := unit.toNat_lt
    simp [isHigh, isLow, UInt16.lt_iff_toNat_lt, UInt16.le_iff_toNat_le] at hhigh hlow
    simp [Nat.isValidChar]
    omega
  unfold single Char.ofNat
  rw [hhigh, hlow, Bool.or_false, if_neg Bool.false_ne_true, dif_pos hvalid]
  rfl

theorem utf8_inj : utf8 text = utf8 other ↔ codePoints text = codePoints other := by
  unfold utf8
  rw [String.toUTF8_eq_toByteArray]
  exact String.toByteArray_inj.trans String.ofList_inj

theorem plain_of_isWord (h : isWord unit = true) : Plain unit := by
  simp [isWord, UInt16.le_iff_toNat_le, ← UInt16.toNat_inj] at h
  simp [Plain, isHigh, isLow, UInt16.lt_iff_toNat_lt, UInt16.le_iff_toNat_le]
  omega

section Word

variable (h : ∀ unit ∈ text, isWord unit = true)
include h

theorem codePoints_word : codePoints text = text.map single :=
  codePoints_of_plain fun unit hmem => plain_of_isWord (h unit hmem)

theorem units_word : (codePoints text).map (fun c => UInt16.ofNat c.toNat) = text := by
  rw [codePoints_word h, List.map_map]
  refine (List.map_congr_left fun unit hmem => ?_).trans (List.map_id text)
  rw [Function.comp, toNat_single (plain_of_isWord (h unit hmem)), UInt16.ofNat_toNat]
  rfl

theorem newline_not_mem_word : single 10 ∉ codePoints text := by
  rw [codePoints_word h]
  intro hmem
  obtain ⟨unit, hunit, heq⟩ := List.mem_map.1 hmem
  have hnat := congrArg Char.toNat heq
  rw [toNat_single (plain_of_isWord (h unit hunit)), toNat_single ⟨rfl, rfl⟩] at hnat
  rw [UInt16.toNat_inj.1 hnat] at hunit
  exact absurd (h 10 hunit) (by decide)

end Word

variable {agents : List StoredAgent} {parseDate : JsText → Option ℤ} {first second : Hello}

theorem Accepted.words (h : Accepted agents parseDate first) :
    (∀ unit ∈ first.agentId, isWord unit = true) ∧ (∀ unit ∈ first.nonce, isWord unit = true) ∧
      ∀ unit ∈ first.sessionToken, isWord unit = true := by
  obtain ⟨agent, -, hid, htoken⟩ := h.agent
  have hnonce := h.nonce
  unfold nonceWellFormed at hnonce
  rw [Bool.and_eq_true] at hnonce
  exact ⟨hid ▸ List.all_eq_true.1 agent.id_word, List.all_eq_true.1 hnonce.2,
    htoken ▸ List.all_eq_true.1 agent.sessionToken_word⟩

/-- The lines of the message. -/
theorem codePoints_message (hello : Hello) :
    codePoints (literal "TUNNARA_AGENT_AUTH_V1\n" ++ hello.agentId ++ literal "\n" ++
        hello.timestamp ++ literal "\n" ++ hello.nonce ++ literal "\n" ++ hello.sessionToken) =
      codePoints (literal "TUNNARA_AGENT_AUTH_V1") ++ single 10 :: (codePoints hello.agentId ++
        single 10 :: (codePoints hello.timestamp ++ single 10 :: codePoints hello.nonce ++
          single 10 :: codePoints hello.sessionToken)) := by
  have hnewline : Plain 10 := ⟨rfl, rfl⟩
  have hheader : literal "TUNNARA_AGENT_AUTH_V1\n" = literal "TUNNARA_AGENT_AUTH_V1" ++ [10] := by
    decide
  have hbreak : literal "\n" = [10] := by decide
  simp only [hheader, hbreak, List.append_assoc, List.nil_append, List.cons_append,
    codePoints_append hnewline]

theorem message_eq_iff (h : Accepted agents parseDate first)
    (h' : Accepted agents parseDate second) :
    agentAuthMessage first = agentAuthMessage second ↔ first.agentId = second.agentId ∧
      codePoints first.timestamp = codePoints second.timestamp ∧ first.nonce = second.nonce ∧
      first.sessionToken = second.sessionToken := by
  obtain ⟨hagent, hnonce, htoken⟩ := h.words
  obtain ⟨hagent', hnonce', htoken'⟩ := h'.words
  unfold agentAuthMessage
  rw [utf8_inj, codePoints_message, codePoints_message, List.append_cancel_left_eq,
    List.cons_eq_cons, and_iff_right rfl]
  constructor
  · intro heq
    obtain ⟨hid, hrest⟩ :=
      Lines.append_cons_inj (newline_not_mem_word hagent) (newline_not_mem_word hagent') heq
    obtain ⟨hfront, hlast⟩ :=
      Lines.append_cons_inj_last (newline_not_mem_word htoken) (newline_not_mem_word htoken') hrest
    obtain ⟨htime, hmiddle⟩ :=
      Lines.append_cons_inj_last (newline_not_mem_word hnonce) (newline_not_mem_word hnonce') hfront
    rw [← units_word hagent, ← units_word hnonce, ← units_word htoken, hid, hmiddle, hlast,
      units_word hagent', units_word hnonce', units_word htoken']
    exact ⟨rfl, htime, rfl, rfl⟩
  · rintro ⟨hid, htime, hmiddle, hlast⟩
    rw [hid, htime, hmiddle, hlast]

/-- Two accepted hellos with one message are the same hello, unless all that tells them apart
are unpaired surrogates in their timestamps. -/
theorem signsOneHello_iff (h : Accepted agents parseDate first)
    (h' : Accepted agents parseDate second) :
    (agentAuthMessage first = agentAuthMessage second → first = second) ↔
      (first.agentId = second.agentId → first.nonce = second.nonce →
        first.sessionToken = second.sessionToken →
        codePoints first.timestamp = codePoints second.timestamp →
        first.timestamp = second.timestamp) := by
  rw [message_eq_iff h h']
  constructor
  · intro hsame hid hnonce htoken htime
    exact congrArg Hello.timestamp (hsame ⟨hid, htime, hnonce, htoken⟩)
  · rintro hsame ⟨hid, htime, hnonce, htoken⟩
    obtain ⟨agentId, timestamp, nonce, sessionToken⟩ := first
    obtain rfl : timestamp = _ := hsame hid hnonce htoken htime
    dsimp only at hid hnonce htoken
    rw [hid, hnonce, htoken]

def printer : StoredAgent where
  id := literal "0b9c2a54-7d1e-4f6a-8c3b-5e2f90a1d7c4"
  sessionToken := literal "tnr_agent_AAAAAAAAAAAAAAAAAAAAAAAAAAAAAAAAAAAAAAAAAAA"
  id_word := by decide
  sessionToken_word := by decide

/-- What stands between parentheses is a comment. -/
def commented (comment : UInt16) : Hello where
  agentId := printer.id
  timestamp := literal "Fri, 20 Nov 2026 00:00:00 GMT (" ++ comment :: literal ")"
  nonce := literal "nnnnnnnnnnnnnnnnnnnnnnnn"
  sessionToken := printer.sessionToken

def uncommentedDate (text : JsText) : Option ℤ :=
  if text.takeWhile (· ≠ 40) = literal "Fri, 20 Nov 2026 00:00:00 GMT " then some 1795132800000
  else none

theorem accepted_commented (comment : UInt16) :
    Accepted [printer] uncommentedDate (commented comment) where
  agent := ⟨printer, List.mem_singleton.2 rfl, rfl, rfl⟩
  timestamp := rfl
  nonce := rfl

theorem signsOneHello_letters :
    commented 65 ≠ commented 66 ∧
      agentAuthMessage (commented 65) ≠ agentAuthMessage (commented 66) := by
  have hne : commented 65 ≠ commented 66 := by decide +kernel
  have hiff := signsOneHello_iff (accepted_commented 65) (accepted_commented 66)
  exact ⟨hne, fun hmsg => hne (hiff.2 (by decide) hmsg)⟩

theorem not_signsOneHello_surrogates :
    Accepted [printer] uncommentedDate (commented 0xD800) ∧
      Accepted [printer] uncommentedDate (commented 0xD801) ∧
      agentAuthMessage (commented 0xD800) = agentAuthMessage (commented 0xD801) ∧
      commented 0xD800 ≠ commented 0xD801 :=
  ⟨accepted_commented _, accepted_commented _, utf8_inj.2 (by decide +kernel), by decide +kernel⟩

end Tunnara.Control.SignedHello
