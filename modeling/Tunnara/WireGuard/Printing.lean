/-
# Reading what was written

A line with a clean value is read as that attribute, a list of items as those items, and the
lines of a peer as a section that carries it.
-/

import Tunnara.WireGuard.Reading

namespace Tunnara.WireGuard

open Lines Control

variable {host : Host} {kit : WireGuardKit} {hooks : List String}

/-- A key as the writer spells it. -/
structure KeyText (key : String) : Prop where
  tight : Tight isSpace key.toList
  nonempty : key.toList ≠ []
  equals : '=' ∉ key.toList
  comment : '#' ∉ key.toList
  newline : ∀ c ∈ key.toList, isNewline c = false
  bracket : ∀ c ∈ key.toList.head?, lowerChar c ≠ '['

variable {c : Char} {key : String} {current : Section} {state : ParserState}

theorem letter_bounds (h : c.isAlpha = true) :
    65 ≤ c.toNat ∧ c.toNat ≤ 90 ∨ 97 ≤ c.toNat ∧ c.toNat ≤ 122 := by
  delta Char.isAlpha Char.isUpper Char.isLower at h
  simp only [Bool.or_eq_true, Bool.and_eq_true, decide_eq_true_eq, UInt32.le_iff_toNat_le,
    ge_iff_le] at h
  exact h

theorem isSpace_letter (h : c.isAlpha = true) : isSpace c = false := by
  have hbounds := letter_bounds h
  simp [isSpace, isNewline]
  omega

theorem lowerChar_letter (h : c.isAlpha = true) : lowerChar c ≠ '[' := by
  have hbounds := letter_bounds h
  intro heq
  have hnat := congrArg Char.toNat heq
  unfold lowerChar Char.toLower at hnat
  split at hnat
  · omega
  · split at hnat
    next hupper =>
      change (c.val + 32).toNat = 91 at hnat
      rw [UInt32.toNat_add] at hnat
      change (c.toNat + 32) % 2 ^ 32 = 91 at hnat
      omega
    next =>
      change c.toNat = 91 at hnat
      omega

theorem keyText (h : key.toList ≠ [] ∧ key.toList.all Char.isAlpha) : KeyText key where
  tight := tight_of_forall fun c hc => isSpace_letter (List.all_eq_true.1 h.2 c hc)
  nonempty := h.1
  equals hmem := absurd (List.all_eq_true.1 h.2 '=' hmem) (by decide)
  comment hmem := absurd (List.all_eq_true.1 h.2 '#' hmem) (by decide)
  newline c hc := by
    have hspace := isSpace_letter (List.all_eq_true.1 h.2 c hc)
    unfold isSpace at hspace
    rw [Bool.or_eq_false_iff, Bool.or_eq_false_iff] at hspace
    exact hspace.1.1
  bracket c hc := lowerChar_letter (List.all_eq_true.1 h.2 c (List.mem_of_mem_head? hc))

/-- What stands behind the sign once the line is trimmed. -/
def behind (value : List Char) : List Char := if value = [] then [] else ' ' :: value

theorem trim_behind {value : List Char} (h : Tight isSpace value) : trim (behind value) = value := by
  unfold behind
  split
  · rename_i hempty
    rw [hempty]
    rfl
  · rw [trim, trimmed_cons (by decide), trimmed_of_tight h]

theorem trim_line {key value : List Char} (hkey : Tight isSpace key) (hne : key ≠ [])
    (hvalue : Tight isSpace value) :
    trim (key ++ ' ' :: '=' :: ' ' :: value) = key ++ ' ' :: '=' :: behind value := by
  unfold behind
  split
  · rename_i hempty
    subst hempty
    have hsign : Tight isSpace (key ++ [' ', '=']) := by
      have happend : Tight isSpace (key ++ [' '] ++ ['=']) :=
        hkey.append (tight_of_forall fun c hc => List.mem_singleton.1 hc ▸ by decide) hne
          (List.cons_ne_nil _ _)
      simpa using happend
    have hhead : (key ++ [' ', '=', ' ']).dropWhile isSpace = key ++ [' ', '=', ' '] := by
      apply dropWhile_of_head?
      intro c hc
      obtain ⟨first, rest, rfl⟩ := List.exists_cons_of_ne_nil hne
      exact hkey.first c hc
    have hlast : key ++ [' ', '=', ' '] = key ++ [' ', '='] ++ [' '] := by simp
    rw [trim, trimmed, hhead, hlast, List.rdropWhile_concat_pos _ _ _ (by decide),
      rdropWhile_of_getLast? hsign.last]
  · rename_i hvalueNe
    have hline : Tight isSpace (key ++ [' ', '=', ' '] ++ value) :=
      hkey.append hvalue hne hvalueNe
    rw [trim, trimmed_of_tight]
    simpa using hline

theorem toList_attributeLine (key value : String) :
    (attributeLine key value).toList = key.toList ++ ' ' :: '=' :: ' ' :: value.toList := by
  simp [attributeLine]

theorem lowercased_ne {key rest : List Char} {name : String} (hne : key ≠ [])
    (hbracket : ∀ c ∈ key.head?, lowerChar c ≠ '[') (hname : name.toList.head? = some '[') :
    lowercased (key ++ rest) ≠ name := by
  intro h
  obtain ⟨first, others, rfl⟩ := List.exists_cons_of_ne_nil hne
  have hlist := congrArg (fun text => text.toList.head?) h
  rw [hname, lowercased, String.toList_ofList] at hlist
  exact hbracket first rfl (Option.some.inj hlist)

theorem parseLine_attribute {value : String} (hkey : KeyText key) (hvalue : Clean value)
    {lineNumber : ℕ} (hsection : state.currentSection = some current)
    (hallowed : (allowedKeys hooks current).contains (lowercased key.toList) = true)
    (hnew : state.attributes.get? (lowercased key.toList) = none) :
    parseLine kit hooks lineNumber (attributeLine key value).toList state = .ok { state with
      attributes := state.attributes.set (lowercased key.toList) value } := by
  have hcomment : '#' ∉ (attributeLine key value).toList := by
    rw [toList_attributeLine]
    simp [hkey.comment, hvalue.comment]
  have hline : trim (withoutComment (attributeLine key value).toList) =
      key.toList ++ ' ' :: '=' :: behind value.toList := by
    rw [withoutComment, cut_eq_none_iff.2 hcomment, toList_attributeLine]
    exact trim_line hkey.tight hkey.nonempty hvalue.tight
  have hcut : cut '=' (key.toList ++ ' ' :: '=' :: behind value.toList) =
      some (key.toList ++ [' '], behind value.toList) := by
    have hbefore : '=' ∉ key.toList ++ [' '] := by simp [hkey.equals]
    have happend := cut_append hbefore (behind value.toList)
    simpa using happend
  have hkeyTrim : trim (key.toList ++ [' ']) = key.toList := by
    rw [trim, trimmed, dropWhile_of_head?, List.rdropWhile_concat_pos _ _ _ (by decide),
      rdropWhile_of_getLast? hkey.tight.last]
    intro c hc
    obtain ⟨first, rest, hlist⟩ := List.exists_cons_of_ne_nil hkey.nonempty
    rw [hlist] at hc
    exact hkey.tight.first c (by rw [hlist]; exact hc)
  unfold parseLine
  rw [hline, if_neg (by simp [hkey.nonempty]),
    if_neg (lowercased_ne hkey.nonempty hkey.bracket (by decide)),
    if_neg (lowercased_ne hkey.nonempty hkey.bracket (by decide)), hsection]
  rw [hcut]
  dsimp only
  rw [hkeyTrim, trim_behind hvalue.tight]
  unfold putAttribute
  rw [if_pos hallowed, hnew, String.ofList_toList, ← hsection]

theorem splitCommaSeparated_intercalate {items : List String} (hne : items ≠ [])
    (hitems : ∀ item ∈ items, Item item) :
    splitCommaSeparated (", ".intercalate items) = items := by
  have hpieces : (((", ".intercalate items).toList.splitOn ',').map trim) =
      items.map String.toList := by
    rw [String.toList_intercalate]
    apply pieces_intercalate (by decide) (by simpa using hne)
    · intro text htext
      obtain ⟨item, hitem, rfl⟩ := List.mem_map.1 htext
      exact (hitems item hitem).comma
    · decide
    · intro text htext
      obtain ⟨item, hitem, rfl⟩ := List.mem_map.1 htext
      exact (hitems item hitem).tight
  unfold splitCommaSeparated
  rw [hpieces]
  have hkeep : (items.map String.toList).filter (· ≠ []) = items.map String.toList := by
    apply List.filter_eq_self.2
    intro text htext
    obtain ⟨item, hitem, rfl⟩ := List.mem_map.1 htext
    have hnonempty := (hitems item hitem).nonempty
    simpa using hnonempty
  rw [hkeep, List.map_map]
  apply (List.map_congr_left ?_).trans (List.map_id items)
  intro item _
  exact String.ofList_toList

theorem clean_intercalate {items : List String} (hne : items ≠ [])
    (hitems : ∀ item ∈ items, Item item) : Clean (", ".intercalate items) := by
  have hchars : ∀ c ∈ (", ".intercalate items).toList,
      c = ',' ∨ c = ' ' ∨ ∃ item ∈ items, c ∈ item.toList := by
    intro c hc
    rw [String.toList_intercalate] at hc
    rcases mem_of_mem_intercalate hc with hc | ⟨text, htext, hc⟩
    · rw [show ", ".toList = [',', ' '] from rfl, List.mem_cons, List.mem_singleton] at hc
      exact hc.imp_right .inl
    · obtain ⟨item, hitem, rfl⟩ := List.mem_map.1 htext
      exact .inr (.inr ⟨item, hitem, hc⟩)
  constructor
  case newline =>
    intro c hc
    rcases hchars c hc with rfl | rfl | ⟨item, hitem, hc⟩
    · decide
    · decide
    · exact (hitems item hitem).newline c hc
  case comment =>
    intro hc
    rcases hchars '#' hc with hsame | hsame | ⟨item, hitem, hc⟩
    · exact absurd hsame (by decide)
    · exact absurd hsame (by decide)
    · exact (hitems item hitem).comment hc
  case tight =>
    rw [String.toList_intercalate]
    refine (tight_intercalate (by simpa using hne) ?_ ?_).2
    · intro text htext
      obtain ⟨item, hitem, rfl⟩ := List.mem_map.1 htext
      have hnonempty := (hitems item hitem).nonempty
      simpa using hnonempty
    · intro text htext
      obtain ⟨item, hitem, rfl⟩ := List.mem_map.1 htext
      exact (hitems item hitem).tight

theorem isSpace_of_isDigit (h : c.isDigit = true) :
    isSpace c = false ∧ isNewline c = false ∧ c ≠ '#' ∧ c ≠ '+' ∧ c ≠ '-' := by
  have hrange : 48 ≤ c.toNat ∧ c.toNat ≤ 57 := by
    unfold Char.isDigit at h
    simp only [Bool.and_eq_true, decide_eq_true_eq] at h
    exact ⟨h.1, h.2⟩
  have hnewline : isNewline c = false := by
    unfold isNewline
    simp only [List.contains_eq_mem, List.mem_cons, List.not_mem_nil, or_false, decide_eq_false_iff_not]
    omega
  refine ⟨?_, hnewline, ?_, ?_, ?_⟩
  · unfold isSpace
    rw [hnewline]
    simp only [List.contains_eq_mem, List.mem_cons, List.not_mem_nil, or_false, Bool.false_or,
      Bool.or_eq_false_iff, decide_eq_false_iff_not, Bool.and_eq_false_iff]
    omega
  all_goals
    rintro rfl
    exact absurd h (by decide)

theorem clean_toString {n : ℕ} : Clean (toString n) := by
  constructor
  case newline => exact fun c hc => (isSpace_of_isDigit (isDigit_of_mem_toString hc)).2.1
  case comment =>
    exact fun hc => (isSpace_of_isDigit (isDigit_of_mem_toString hc)).2.2.1 rfl
  case tight =>
    constructor
    case first =>
      exact fun c hc => (isSpace_of_isDigit (isDigit_of_mem_toString
        (List.mem_of_mem_head? hc))).1
    case last =>
      exact fun c hc => (isSpace_of_isDigit (isDigit_of_mem_toString
        (List.mem_of_mem_getLast? hc))).1

theorem readUInt16_toString {n : ℕ} (h : n ≤ 65535) : readUInt16 (toString n) = some n := by
  have hne : (toString n).toList ≠ [] := by
    rw [toList_toString]
    exact Nat.toDigits_ne_nil
  have hdigits : (toString n).toList.all Char.isDigit = true :=
    List.all_eq_true.2 fun c hc => isDigit_of_mem_toString hc
  unfold readUInt16
  dsimp only
  split
  · rename_i rest hsign
    have hplus := isDigit_of_mem_toString (n := n) (c := '+') (by rw [hsign]; exact List.mem_cons_self)
    exact absurd hplus (by decide)
  · rename_i rest hsign
    have hminus := isDigit_of_mem_toString (n := n) (c := '-') (by rw [hsign]; exact List.mem_cons_self)
    exact absurd hminus (by decide)
  · rw [if_pos ⟨hne, hdigits⟩, ofDigitChars_toString, Option.filter_some, if_pos (decide_eq_true h)]

theorem numberText_natCast {n : ℕ} (h : n ≤ 65535) : numberText host n = toString n := by
  unfold numberText
  rw [if_pos]
  · rfl
  · exact ⟨Rat.den_natCast n, by simp; omega⟩

/-- Wherever the lines stand, they take the parser from one state to the other. -/
def Reads (kit : WireGuardKit) (hooks : List String) (lines : List String)
    (state next : ParserState) : Prop :=
  ∀ lineNumber, parseLines kit hooks lineNumber (lines.map String.toList) state = .ok next

theorem Reads.nil (state : ParserState) : Reads kit hooks [] state state := fun _ => rfl

theorem parseLines_append (first second : List (List Char)) (lineNumber : ℕ) (state : ParserState) :
    parseLines kit hooks lineNumber (first ++ second) state =
      (parseLines kit hooks lineNumber first state).bind
        (parseLines kit hooks (lineNumber + first.length) second) := by
  induction first generalizing lineNumber state with
  | nil => rfl
  | cons line first ih =>
    rw [List.cons_append, parseLines, parseLines, List.length_cons]
    cases parseLine kit hooks lineNumber line state with
    | error error => rfl
    | ok middle =>
      show parseLines kit hooks (lineNumber + 1) (first ++ second) middle = _
      rw [ih, Nat.add_right_comm, Nat.add_assoc]
      rfl

theorem Reads.append {first second : List String} {middle next : ParserState}
    (h : Reads kit hooks first state middle) (h' : Reads kit hooks second middle next) :
    Reads kit hooks (first ++ second) state next := by
  intro lineNumber
  rw [List.map_append, parseLines_append, h lineNumber]
  exact h' _

theorem parseLines_text {lines : List String} (hne : lines ≠ [])
    (hlines : ∀ line ∈ lines, ∀ c ∈ line.toList, isNewline c = false) {next : ParserState}
    (h : Reads kit hooks lines state next) (lineNumber : ℕ) :
    parseLines kit hooks lineNumber
      (("\n".intercalate lines ++ "\n").toList.splitOnP isNewline) state = .ok next := by
  have htext : ("\n".intercalate lines ++ "\n").toList.splitOnP isNewline =
      lines.map String.toList ++ [[]] := by
    rw [String.toList_append, String.toList_intercalate]
    have hjoin := @intercalate_append Char '\n' (lines.map String.toList) (by simpa using hne)
    show (List.intercalate ['\n'] (lines.map String.toList) ++ ['\n']).splitOnP isNewline = _
    rw [hjoin]
    apply splitOnP_lines (by decide)
    intro text htext
    obtain ⟨line, hline, rfl⟩ := List.mem_map.1 htext
    exact hlines line hline
  rw [htext, parseLines_append, h lineNumber]
  rfl

theorem Reads.attribute {value : String} (hkey : KeyText key) (hvalue : Clean value)
    (hsection : state.currentSection = some current)
    (hallowed : (allowedKeys hooks current).contains (lowercased key.toList) = true)
    (hnew : state.attributes.get? (lowercased key.toList) = none) :
    Reads kit hooks [attributeLine key value] state { state with
      attributes := state.attributes.set (lowercased key.toList) value } := by
  intro lineNumber
  show (parseLine kit hooks lineNumber (attributeLine key value).toList state).bind
    (parseLines kit hooks (lineNumber + 1) []) = _
  rw [parseLine_attribute hkey hvalue hsection hallowed hnew]
  rfl

/-- The attributes with one that may be missing. -/
def setOptional (key : String) (value? : Option String) (attributes : Attributes) : Attributes :=
  match value? with
  | none => attributes
  | some value => attributes.set key value

theorem get?_setOptional (key : String) (value? : Option String) (attributes : Attributes)
    (other : String) : (setOptional key value? attributes).get? other =
      if other = key then value?.or (attributes.get? key) else attributes.get? other := by
  cases value? with
  | none =>
    split
    · rename_i hsame
      rw [hsame]
      rfl
    · rfl
  | some value => exact OrdMap.get?_set attributes key other value

theorem Reads.optional (hkey : KeyText key) {value? : Option String}
    (hvalue : ∀ value, value? = some value → Clean value)
    (hsection : state.currentSection = some current)
    (hallowed : (allowedKeys hooks current).contains (lowercased key.toList) = true)
    (hnew : state.attributes.get? (lowercased key.toList) = none) :
    Reads kit hooks (optionalLine key value?) state { state with
      attributes := setOptional (lowercased key.toList) value? state.attributes } := by
  cases value? with
  | none => exact .nil state
  | some value => exact .attribute hkey (hvalue value rfl) hsection hallowed hnew

end Tunnara.WireGuard
