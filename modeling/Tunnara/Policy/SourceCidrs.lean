/-
# Source prefixes

`cidrContains` reads both texts with `Number`, which takes more than decimal digits: an empty
part is zero, and so the entry `10.0.0.0/` is the prefix of length zero. A well-formed prefix is
matched bit by bit; any other text matches the addresses of what its parts happen to convert to.
-/

import Mathlib.Algebra.Order.Ring.Unbundled.Rat
import Mathlib.Data.Rat.Floor
import Tunnara.Data.Lines
import Tunnara.Policy.Matching

namespace Tunnara.Policy

open Lines

/-- Four octets. -/
structure Octets where
  (a b c d : Fin 256)

/-- The 32 bits of the octets. -/
def Octets.value (net : Octets) : ℕ :=
  net.a.val * 2 ^ 24 + net.b.val * 2 ^ 16 + net.c.val * 2 ^ 8 + net.d.val

structure IsDecimal (text : String) (value : ℕ) : Prop where
  nonempty : text.toList ≠ []
  digits : ∀ c ∈ text.toList, c.isDigit = true
  value : Nat.ofDigitChars 10 text.toList 0 = value

/-- `a.b.c.d` in decimal octets. -/
inductive IsDotted : String → Octets → Prop
  | mk {a b c d : String} {net : Octets} (ha : IsDecimal a net.a.val) (hb : IsDecimal b net.b.val)
      (hc : IsDecimal c net.c.val) (hd : IsDecimal d net.d.val) :
      IsDotted (a ++ "." ++ b ++ "." ++ c ++ "." ++ d) net

/-- `a.b.c.d/p` with a decimal length of at most 32. -/
inductive IsPrefix : String → Octets → ℕ → Prop
  | mk {address length : String} {net : Octets} {p : ℕ} (haddress : IsDotted address net)
      (hlength : IsDecimal length p) (hle : p ≤ 32) : IsPrefix (address ++ "/" ++ length) net p

/-- A valid address: four canonical octets, perhaps after the prefix of a mapped address. -/
def addressText (mapped : Bool) (ip : Octets) : String :=
  (if mapped then "::ffff:" else "") ++ (toString ip.a.val ++ "." ++ toString ip.b.val ++ "." ++
    toString ip.c.val ++ "." ++ toString ip.d.val)

/-- The first `p` of 32 bits agree. -/
def FirstBits (p a b : ℕ) : Prop :=
  ∀ i, 32 - p ≤ i → i < 32 → a.testBit i = b.testBit i

/-- The prefix that the text writes contains the address. -/
def Contains (cidr : String) (ip : Octets) : Prop :=
  ∃ net p, IsPrefix cidr net p ∧ FirstBits p net.value ip.value

/-- What the parts of the text convert to contains the address. -/
def Coerced (host : Host) (cidr : String) (ip : Octets) : Prop :=
  ∃ network rawPrefix rest netInt, splitChar '/' cidr = network :: rawPrefix :: rest ∧
    ipv4ToInt host network = some netInt ∧
    sameNetwork (host.stringToNumber rawPrefix) ip.value netInt = true

/-- What the code relies on: `Number` of decimal digits, as far as doubles count exactly, and
`net.isIP` of four canonical octets. -/
structure ReadsAddresses (host : Host) : Prop where
  number : ∀ text value, IsDecimal text value → value < 2 ^ 53 →
    host.stringToNumber text = .fin value
  address : ∀ ip : Octets, host.isIP (addressText false ip) = true

theorem Octets.value_lt (net : Octets) : net.value < 2 ^ 32 := by
  unfold value
  have ha := net.a.isLt
  have hb := net.b.isLt
  have hc := net.c.isLt
  have hd := net.d.isLt
  omega

theorem firstBits_iff {p a b : ℕ} (ha : a < 2 ^ 32) (hb : b < 2 ^ 32) :
    FirstBits p a b ↔ a / 2 ^ (32 - p) = b / 2 ^ (32 - p) := by
  constructor
  · intro h
    apply Nat.eq_of_testBit_eq
    intro i
    rw [Nat.testBit_div_two_pow, Nat.testBit_div_two_pow]
    by_cases hi : 32 - p + i < 32
    · rw [Nat.add_comm]
      exact h _ (by omega) hi
    · have hle : 2 ^ 32 ≤ 2 ^ (i + (32 - p)) := Nat.pow_le_pow_right (by decide) (by omega)
      rw [Nat.testBit_lt_two_pow (by omega), Nat.testBit_lt_two_pow (by omega)]
  · intro h i hi hlt
    have hbit := congrArg (fun n => n.testBit (i - (32 - p))) h
    simp only [Nat.testBit_div_two_pow] at hbit
    rwa [Nat.sub_add_cancel hi] at hbit

theorem sameNetwork_iff {p a b : ℕ} (hp : p ≤ 32) (ha : a < 2 ^ 32) (hb : b < 2 ^ 32) :
    sameNetwork (.fin p) a b = true ↔ FirstBits p b a := by
  rw [firstBits_iff hb ha]
  unfold sameNetwork
  dsimp only
  have hrange : ¬ ((p : ℚ) < 0 ∨ 32 < (p : ℚ)) := by
    push Not
    exact ⟨Nat.cast_nonneg p, by exact_mod_cast hp⟩
  rw [if_neg hrange]
  by_cases hzero : p = 0
  · subst hzero
    rw [if_pos Nat.cast_zero, Nat.div_eq_of_lt (by simpa using hb),
      Nat.div_eq_of_lt (by simpa using ha)]
    exact iff_of_true rfl rfl
  · have hfloor : (32 - (p : ℚ)).floor.toNat = 32 - p := by
      have hcast : (32 - (p : ℚ)) = (((32 - p : ℕ) : ℤ) : ℚ) := by
        push_cast [Nat.cast_sub hp]
        rfl
      rw [hcast, Rat.floor_intCast, Int.toNat_natCast]
    rw [if_neg (by exact_mod_cast hzero), hfloor, decide_eq_true_eq]
    exact eq_comm

variable {host : Host} {text cidr : String} {net ip : Octets} {p value : ℕ}

theorem IsDecimal.not_mem (h : IsDecimal text value) {c : Char} (hc : c.isDigit = false) :
    c ∉ text.toList := by
  intro hmem
  rw [h.digits c hmem] at hc
  cases hc

theorem isDecimal_toString {n : ℕ} : IsDecimal (toString n) n where
  nonempty := by
    rw [toList_toString]
    exact Nat.toDigits_ne_nil
  digits c hc := isDigit_of_mem_toString hc
  value := ofDigitChars_toString n

theorem isDotted_addressText (ip : Octets) : IsDotted (addressText false ip) ip := by
  have htext : addressText false ip = toString ip.a.val ++ "." ++ toString ip.b.val ++ "." ++
      toString ip.c.val ++ "." ++ toString ip.d.val := String.empty_append
  rw [htext]
  exact .mk isDecimal_toString isDecimal_toString isDecimal_toString
    isDecimal_toString

theorem IsDotted.cases_text (h : IsDotted text net) : ∃ a b c d, IsDecimal a net.a.val ∧
    IsDecimal b net.b.val ∧ IsDecimal c net.c.val ∧ IsDecimal d net.d.val ∧
    text.toList = a.toList ++ '.' :: (b.toList ++ '.' :: (c.toList ++ '.' :: d.toList)) := by
  cases h with
  | @mk a b c d _ ha hb hc hd =>
    exact ⟨a, b, c, d, ha, hb, hc, hd, by simp⟩

theorem stripMapped_of_isDotted (h : IsDotted text net) : stripMapped text = text := by
  obtain ⟨a, b, c, d, ha, -, -, -, htext⟩ := h.cases_text
  obtain ⟨first, rest, hfirst⟩ := List.exists_cons_of_ne_nil ha.nonempty
  have hdigit : first ≠ ':' := by
    rintro rfl
    exact ha.not_mem (by decide) (hfirst ▸ List.mem_cons_self)
  have hno : startsWith text "::ffff:" = false := by
    unfold startsWith
    rw [htext, hfirst]
    simp [List.isPrefixOf, hdigit.symm]
  rw [stripMapped, hno]
  rfl

theorem stripMapped_addressText (mapped : Bool) (ip : Octets) :
    stripMapped (addressText mapped ip) = addressText false ip := by
  cases mapped with
  | false => exact stripMapped_of_isDotted (isDotted_addressText ip)
  | true =>
    have htext : (addressText true ip).toList =
        "::ffff:".toList ++ (addressText false ip).toList := by
      simp [addressText]
    have hyes : startsWith (addressText true ip) "::ffff:" = true := by
      unfold startsWith
      rw [htext]
      exact List.isPrefixOf_iff_prefix.2 (List.prefix_append _ _)
    rw [stripMapped, if_pos hyes, htext]
    exact String.ofList_toList

theorem octet_of_isDecimal (hhost : ReadsAddresses host) {octetValue : Fin 256}
    (h : IsDecimal text octetValue.val) : octet host text = some octetValue.val := by
  have hlt := octetValue.isLt
  unfold octet
  rw [hhost.number text _ h (by omega)]
  have hnum : ((octetValue.val : ℚ)).num = octetValue.val := Rat.num_natCast _
  have hden : ((octetValue.val : ℚ)).den = 1 := Rat.den_natCast _
  dsimp only
  rw [hnum, hden, if_pos ⟨rfl, Int.natCast_nonneg _, by omega⟩, Int.toNat_natCast]

theorem IsDotted.split (h : IsDotted text net) : ∃ a b c d, IsDecimal a net.a.val ∧
    IsDecimal b net.b.val ∧ IsDecimal c net.c.val ∧ IsDecimal d net.d.val ∧
    splitChar '.' text = [a, b, c, d] := by
  obtain ⟨a, b, c, d, ha, hb, hc, hd, htext⟩ := h.cases_text
  refine ⟨a, b, c, d, ha, hb, hc, hd, ?_⟩
  unfold splitChar
  rw [htext, List.splitOn_append_cons_self_of_not_mem (ha.not_mem rfl),
    List.splitOn_append_cons_self_of_not_mem (hb.not_mem rfl),
    List.splitOn_append_cons_self_of_not_mem (hc.not_mem rfl),
    List.splitOn_eq_singleton (hd.not_mem rfl)]
  simp

theorem ipv4ToInt_of_isDotted (hhost : ReadsAddresses host) (h : IsDotted text net) :
    ipv4ToInt host text = some net.value := by
  obtain ⟨a, b, c, d, ha, hb, hc, hd, hsplit⟩ := h.split
  unfold ipv4ToInt
  rw [stripMapped_of_isDotted h, hsplit]
  simp only [List.map_cons, List.map_nil, octet_of_isDecimal hhost ha,
    octet_of_isDecimal hhost hb, octet_of_isDecimal hhost hc, octet_of_isDecimal hhost hd]
  rfl

theorem ipv4ToInt_addressText (hhost : ReadsAddresses host) (mapped : Bool) (ip : Octets) :
    ipv4ToInt host (addressText mapped ip) = some ip.value := by
  have hdotted := ipv4ToInt_of_isDotted hhost (isDotted_addressText ip)
  unfold ipv4ToInt at hdotted ⊢
  rw [stripMapped_addressText]
  rwa [stripMapped_of_isDotted (isDotted_addressText ip)] at hdotted

theorem cidrContains_addressText (hhost : ReadsAddresses host) (mapped : Bool) (cidr : String)
    (ip : Octets) : cidrContains host (.str cidr) (addressText mapped ip) =
      match splitChar '/' cidr with
      | network :: rawPrefix :: _ =>
        match some ip.value, ipv4ToInt host network with
        | some ipInt, some netInt => .ok (sameNetwork (host.stringToNumber rawPrefix) ipInt netInt)
        | _, _ => .ok false
      | _ => .ok false := by
  unfold cidrContains
  rw [stripMapped_addressText, hhost.address ip, ipv4ToInt_addressText hhost]
  rfl

theorem cidrContains_iff_coerced (hhost : ReadsAddresses host) (mapped : Bool) (cidr : String)
    (ip : Octets) :
    cidrContains host (.str cidr) (addressText mapped ip) = .ok true ↔ Coerced host cidr ip := by
  unfold Coerced
  rw [cidrContains_addressText hhost]
  cases splitChar '/' cidr with
  | nil => exact iff_of_false (by rintro ⟨⟩) (by rintro ⟨_, _, _, _, ⟨⟩, _⟩)
  | cons network rest =>
    cases rest with
    | nil => exact iff_of_false (by rintro ⟨⟩) (by rintro ⟨_, _, _, _, ⟨⟩, _⟩)
    | cons rawPrefix rest =>
      dsimp only
      cases hnet : ipv4ToInt host network with
      | none =>
        refine iff_of_false (by rintro ⟨⟩) ?_
        rintro ⟨_, _, _, netInt, hsplit, hfound, -⟩
        cases hsplit
        rw [hnet] at hfound
        cases hfound
      | some netInt =>
        constructor
        · intro h
          exact ⟨network, rawPrefix, rest, netInt, rfl, hnet, Except.ok.inj h⟩
        · rintro ⟨_, _, _, found, hsplit, hfound, hsame⟩
          cases hsplit
          rw [hnet] at hfound
          cases hfound
          exact congrArg Except.ok hsame

theorem IsPrefix.parts (hhost : ReadsAddresses host) (h : IsPrefix cidr net p) :
    ∃ address length, splitChar '/' cidr = [address, length] ∧
      ipv4ToInt host address = some net.value ∧ host.stringToNumber length = .fin p ∧ p ≤ 32 := by
  cases h with
  | @mk address length _ _ haddress hlength hle =>
    obtain ⟨a, b, c, d, ha, hb, hc, hd, htext⟩ := haddress.cases_text
    have hslash : '/' ∉ address.toList := by
      rw [htext]
      simp [ha.not_mem (c := '/') rfl, hb.not_mem (c := '/') rfl, hc.not_mem (c := '/') rfl,
        hd.not_mem (c := '/') rfl]
    have hsplit : splitChar '/' (address ++ "/" ++ length) = [address, length] := by
      unfold splitChar
      rw [String.toList_append, String.toList_append, List.append_assoc]
      change List.map String.ofList ((address.toList ++ '/' :: length.toList).splitOn '/') = _
      rw [List.splitOn_append_cons_self_of_not_mem hslash,
        List.splitOn_eq_singleton (hlength.not_mem rfl)]
      simp
    exact ⟨address, length, hsplit, ipv4ToInt_of_isDotted hhost haddress,
      hhost.number length p hlength (by omega), hle⟩

theorem coerced_iff_of_isPrefix (hhost : ReadsAddresses host) (h : IsPrefix cidr net p) :
    Coerced host cidr ip ↔ Contains cidr ip := by
  obtain ⟨address, length, hsplit, haddress, hlength, hle⟩ := h.parts hhost
  have hcoerced : Coerced host cidr ip ↔ FirstBits p net.value ip.value := by
    rw [← sameNetwork_iff hle ip.value_lt net.value_lt]
    constructor
    · rintro ⟨_, _, _, netInt, hfound, hnet, hsame⟩
      rw [hsplit] at hfound
      cases hfound
      rw [haddress] at hnet
      cases hnet
      rwa [hlength] at hsame
    · intro hsame
      exact ⟨address, length, [], net.value, hsplit, haddress, by rw [hlength]; exact hsame⟩
  rw [hcoerced]
  constructor
  · exact fun hbits => ⟨net, p, h, hbits⟩
  · rintro ⟨other, q, hother, hbits⟩
    obtain ⟨address', length', hsplit', haddress', hlength', -⟩ := hother.parts hhost
    rw [hsplit] at hsplit'
    cases hsplit'
    rw [haddress] at haddress'
    rw [hlength] at hlength'
    have hp : p = q := by exact_mod_cast JsNumber.fin.inj hlength'
    rw [hp, Option.some.inj haddress']
    exact hbits

/-- Digits as `Number` reads them, with the empty text. -/
def readDigits (text : String) : JsNumber :=
  if text = "" then .fin 0
  else if text.toList.all Char.isDigit then .fin (Nat.ofDigitChars 10 text.toList 0)
  else .nan

def isOctet (part : String) : Bool :=
  part ≠ "" && part.toList.all Char.isDigit && Nat.ofDigitChars 10 part.toList 0 ≤ 255

def isDotted (text : String) : Bool :=
  (splitChar '.' text).length = 4 && (splitChar '.' text).all isOctet

def addressHost : Host := { Host.plain with stringToNumber := readDigits, isIP := isDotted }

theorem isIP_addressHost : addressHost.isIP = isDotted := rfl

theorem isOctet_of_isDecimal {octetValue : Fin 256} (h : IsDecimal text octetValue.val) :
    isOctet text = true := by
  have hne : text ≠ "" := by
    rintro rfl
    exact h.nonempty rfl
  have hle : octetValue.val ≤ 255 := Nat.le_of_lt_succ octetValue.isLt
  unfold isOctet
  rw [h.value, List.all_eq_true.2 h.digits]
  simp [hne, hle]

theorem readsAddresses_addressHost : ReadsAddresses addressHost where
  number text value h _ := by
    have hne : text ≠ "" := by
      rintro rfl
      exact h.nonempty rfl
    change readDigits text = .fin value
    rw [readDigits, if_neg hne, if_pos (List.all_eq_true.2 h.digits), h.value]
  address ip := by
    obtain ⟨a, b, c, d, ha, hb, hc, hd, hsplit⟩ := (isDotted_addressText ip).split
    rw [isIP_addressHost, isDotted, hsplit]
    simp [isOctet_of_isDecimal ha, isOctet_of_isDecimal hb, isOctet_of_isDecimal hc,
      isOctet_of_isDecimal hd]

def documentationAddress : Octets := ⟨203, 0, 113, 9⟩

end Tunnara.Policy
