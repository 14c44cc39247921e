/-
# What an accepted JWT proves

The code tests some claims by their truthiness and converts others: an `exp` of zero or one that
is not a number is not checked, a configured leeway of zero counts as thirty seconds, and a token
without an identifier is checked with any key. The token proves what it should exactly if nothing
of this kind is in it.
-/

import Tunnara.Edge.Jwt
import Tunnara.Edge.Forwarding

namespace Tunnara.Edge

open Policy

/-- `a <= b`. -/
def lessOrEqual : JsNumber → JsNumber → Bool
  | .nan, _ | _, .nan => false
  | .negInf, _ | _, .posInf => true
  | .posInf, _ | _, .negInf => false
  | .fin a, .fin b => a ≤ b

variable (env : JwtEnv) (clock : Clock) (options : Json) (token : String) (cache : JwksCache)

/-- The leeway as it is configured, and thirty seconds if it is not. -/
def configuredLeeway : Except JsError JsNumber :=
  match options.get? "leewaySeconds" with
  | none => .ok (.fin 30)
  | some v => v.toNumber env.host

/-- The algorithm is in the list that is configured, or in the default list. -/
def InList (name : String) : Prop :=
  match orDefault (options.get? "algorithms") defaultAlgorithms with
  | .arr items => .str name ∈ items
  | configured => configured = .str name

/-- The signature is that of the secret, or of a key with the identifier of the header. -/
def Signed (jwt : Jwt) : Prop :=
  if jwt.symmetric then
    ∃ secret, options.get? "secret" = some secret ∧ secret.truthy = true ∧
      env.hmac secret jwt.signed = .ok jwt.signature
  else ∃ keys key name, (getJwks env clock options cache).1 = .ok keys ∧ key ∈ keys ∧
    key.get? "kid" = jwt.kid ∧ (truthy (key.get? "alg") = true → key.get? "alg" = jwt.alg) ∧
    jwt.alg = some (.str name) ∧ env.verify name key jwt.signed jwt.signature = .ok true

/-- What an accepted token is to prove. -/
structure Genuine (jwt : Jwt) : Prop where
  parts : (splitChar '.' token).length = 3
  alg : ∃ name, jwt.alg = some (.str name) ∧ InList options name
  signed : Signed env clock options cache jwt
  exp : ∀ v, jwt.payload.get? "exp" = some v → ∃ e leeway, v = .num e ∧
    configuredLeeway env options = .ok leeway ∧
    lessOrEqual (.fin clock.seconds) (addNumbers (.fin e) leeway) = true
  nbf : ∀ v, jwt.payload.get? "nbf" = some v → ∃ n leeway, v = .num n ∧
    configuredLeeway env options = .ok leeway ∧
    lessOrEqual (.fin n) (addNumbers (.fin clock.seconds) leeway) = true
  issuer : truthy (options.get? "issuer") = true → ∃ iss text,
    jwt.payload.get? "iss" = some (.str iss) ∧
    stringOf env.host (options.get? "issuer") = .ok text ∧ (iss = text ∨ iss = dropSlash text)
  audience : audienceMatches options jwt.payload = true
  claims : claimsMatch options jwt.payload = true

/-- The leeway is given, but it is falsy or not a number. -/
def LeewayMisread : Prop :=
  ∃ v, options.get? "leewaySeconds" = some v ∧ (v.truthy = false ∨ v.toNumber env.host = .ok .nan)

/-- Nothing in the token or the configuration is of a kind that the code reads otherwise. -/
structure ReadPlainly (jwt : Jwt) : Prop where
  /-- A text in the place of the list is the algorithm itself. -/
  algorithms : ∀ names, orDefault (options.get? "algorithms") defaultAlgorithms = .str names →
    jwt.alg = some (.str names)
  /-- The header has an identifier, or some key has none either. -/
  kid : jwt.symmetric = false → truthy jwt.kid = true ∨
    ∃ keys key, (getJwks env clock options cache).1 = .ok keys ∧ key ∈ keys ∧
      key.get? "kid" = jwt.kid ∧ compatible jwt key = true
  /-- A date is a number; if it is zero, or the leeway is misread, it is met all the same. -/
  exp : ∀ v, jwt.payload.get? "exp" = some v → ∃ e, v = .num e ∧
    (e = 0 ∨ LeewayMisread env options → ∃ leeway, configuredLeeway env options = .ok leeway ∧
      lessOrEqual (.fin clock.seconds) (addNumbers (.fin e) leeway) = true)
  nbf : ∀ v, jwt.payload.get? "nbf" = some v → ∃ n, v = .num n ∧
    (n = 0 ∨ LeewayMisread env options → ∃ leeway, configuredLeeway env options = .ok leeway ∧
      lessOrEqual (.fin n) (addNumbers (.fin clock.seconds) leeway) = true)
  issuer : truthy (options.get? "issuer") = true → ∃ iss, jwt.payload.get? "iss" = some (.str iss)

/-- What is documented of the parameters: a number is not written as the name of an algorithm,
and the keys of an issuer are objects. -/
structure Documented : Prop where
  number : ∀ items q, orDefault (options.get? "algorithms") defaultAlgorithms = .arr items →
    .num q ∈ items → env.host.numberToString q ∉ signatureAlgorithms
  keys : ∀ keys, (getJwks env clock options cache).1 = .ok keys →
    ∀ key ∈ keys, ∃ fields, key = .obj fields

variable {env clock options token cache} {jwt : Jwt}

theorem exceeds_eq_lessThan (n : JsNumber) (count : ℚ) :
    n.exceeds count = lessThan n (.fin count) := by
  cases n <;> rfl

theorem lessOrEqual_of_not_lessThan {a b : JsNumber} (ha : a ≠ .nan) (hb : b ≠ .nan)
    (h : lessThan b a = false) : lessOrEqual a b = true := by
  cases a <;> cases b <;> simp_all [lessThan, lessOrEqual, Rat.not_lt]

theorem addNumbers_fin_ne_nan {q : ℚ} {n : JsNumber} (h : n ≠ .nan) :
    addNumbers (.fin q) n ≠ .nan := by
  cases n <;> simp_all [addNumbers]

theorem leewayOf_of_not_misread (h : ¬ LeewayMisread env options) {leeway : JsNumber}
    (hleeway : leewayOf env options = .ok leeway) :
    configuredLeeway env options = .ok leeway ∧ leeway ≠ .nan := by
  unfold leewayOf numberOr orDefault at hleeway
  unfold configuredLeeway
  cases hgiven : options.get? "leewaySeconds" with
  | none =>
    rw [hgiven] at hleeway
    cases hleeway
    exact ⟨rfl, nofun⟩
  | some v =>
    rw [hgiven] at hleeway
    have htruthy : v.truthy = true := by
      by_contra hfalsy
      exact h ⟨v, hgiven, .inl (Bool.eq_false_iff.2 hfalsy)⟩
    dsimp only at hleeway
    rw [if_pos htruthy] at hleeway
    refine ⟨hleeway, fun hnan => h ⟨v, hgiven, .inr ?_⟩⟩
    rw [hleeway, hnan]

theorem checkTimes_eq_ok {payload : Json} (h : checkTimes env clock options payload = .ok ()) :
    ∃ leeway, leewayOf env options = .ok leeway ∧
      checkClaim env (payload.get? "exp")
        (fun e => (addNumbers e leeway).exceeds clock.seconds) "JWT expirado." = .ok () ∧
      checkClaim env (payload.get? "nbf")
        (fun n => lessThan (addNumbers (.fin clock.seconds) leeway) n)
        "JWT ainda não é válido." = .ok () := by
  obtain ⟨leeway, hleeway, h⟩ := bind_eq_ok.1 h
  obtain ⟨exp, hexp, h⟩ := bind_eq_ok.1 h
  obtain ⟨⟨⟩, hexpired, hnbf⟩ := bind_eq_ok.1 h
  have hread : exp = payload.get? "exp" := by
    cases payload <;> cases hexp <;> rfl
  subst hread
  exact ⟨leeway, hleeway, hexpired, hnbf⟩

theorem not_fails_of_checkClaim {q : ℚ} {fails : JsNumber → Bool} {message : String} (hq : q ≠ 0)
    (h : checkClaim env (some (.num q)) fails message = .ok ()) : fails (.fin q) = false := by
  unfold checkClaim at h
  have htruthy : (Json.num q).truthy = true := by simp [Json.truthy, hq]
  dsimp only at h
  rw [if_pos htruthy] at h
  obtain ⟨n, hn, h⟩ := bind_eq_ok.1 h
  have hnumber : n = .fin q := (Except.ok.inj hn).symm
  subst hnumber
  by_contra hfails
  rw [if_pos (Bool.not_eq_false _ ▸ hfails)] at h
  cases h

theorem eq_of_strictEq {a b : Option Json} (h : strictEq a b = true) : a = b := by
  unfold strictEq at h
  split at h
  · cases h
  · cases h
  · exact of_decide_eq_true h

theorem strictEq_self_of_falsy {v : Option Json} (h : truthy v = false) : strictEq v v = true := by
  unfold strictEq
  split
  · cases h
  · cases h
  · exact decide_eq_true rfl

theorem property_eq_ok {v : Json} {name : String} {read : Option Json}
    (h : property (some v) name = .ok read) : read = v.get? name := by
  cases v <;> cases h <;> rfl

variable {keys : List Json} {key : Json}

theorem designated_eq_some (h : designated jwt keys = .ok (some key)) :
    key ∈ keys ∧ strictEq (key.get? "kid") jwt.kid = true ∧ compatible jwt key = true := by
  induction keys with
  | nil => cases h
  | cons candidate rest ih =>
    obtain ⟨kid, hkid, h⟩ := bind_eq_ok.1 h
    rw [property_eq_ok hkid] at h
    split_ifs at h with hfound
    · cases h
      rw [Bool.and_eq_true] at hfound
      exact ⟨List.mem_cons_self, hfound⟩
    · obtain ⟨hmem, hkey⟩ := ih h
      exact ⟨List.mem_cons_of_mem _ hmem, hkey⟩

theorem designated_eq_none (h : designated jwt keys = .ok none) :
    ∀ key ∈ keys, ¬ (strictEq (key.get? "kid") jwt.kid = true ∧ compatible jwt key = true) := by
  induction keys with
  | nil => exact fun _ hmem => nomatch hmem
  | cons candidate rest ih =>
    obtain ⟨kid, hkid, h⟩ := bind_eq_ok.1 h
    rw [property_eq_ok hkid] at h
    split_ifs at h with hfound
    · cases h
    · rw [Bool.and_eq_true] at hfound
      exact List.forall_mem_cons.2 ⟨hfound, ih h⟩

theorem findKey_of_designated (htruthy : key.truthy = true)
    (h : designated jwt keys = .ok (some key)) : findKey jwt keys = .ok key := by
  unfold findKey
  rw [h]
  have hsome : truthy (some key) = true := htruthy
  dsimp only [bind, Except.bind]
  rw [if_pos hsome, if_pos hsome]
  rfl

theorem findKey_of_not_designated (hnone : designated jwt keys = .ok none)
    (h : findKey jwt keys = .ok key) : truthy jwt.kid = false := by
  unfold findKey at h
  rw [hnone] at h
  by_contra hkid
  have hkid : truthy jwt.kid = true := Bool.not_eq_false _ ▸ hkid
  have hsecond : (keys.find? fun candidate => !truthy jwt.kid && compatible jwt candidate) =
      none := by
    rw [List.find?_eq_none]
    intro candidate _
    simp [hkid]
  rw [hsecond] at h
  cases h

theorem verifiesWithKey_eq_true (h : verifiesWithKey env jwt key = .ok true) :
    ∃ name ∈ signatureAlgorithms, stringOf env.host jwt.alg = .ok name ∧
      (jwt.alg = some (.str name) → env.verify name key jwt.signed jwt.signature = .ok true) := by
  obtain ⟨name, hname, h⟩ := bind_eq_ok.1 h
  by_cases hmem : name ∈ signatureAlgorithms
  · rw [if_pos hmem] at h
    refine ⟨name, hmem, hname, fun halg => ?_⟩
    have hscheme : ¬ (name = "PS256" ∧ jwt.alg ≠ some (.str "PS256")) :=
      fun hboth => hboth.2 (hboth.1 ▸ halg)
    rw [if_neg hscheme] at h
    exact h
  · rw [if_neg hmem] at h
    cases h

theorem algorithm_of_passes (hdocumented : Documented env clock options cache)
    (hpasses : Passes env clock options token cache jwt)
    (halgorithms : ∀ names, orDefault (options.get? "algorithms") defaultAlgorithms = .str names →
      jwt.alg = some (.str names)) : ∃ name, jwt.alg = some (.str name) ∧ InList options name := by
  have hallowed := hpasses.allowed
  unfold allowsAlgorithm at hallowed
  unfold InList
  cases hconfigured : orDefault (options.get? "algorithms") defaultAlgorithms with
  | str names => exact ⟨names, halgorithms names hconfigured, rfl⟩
  | arr items =>
    rw [hconfigured] at hallowed
    obtain ⟨item, hmem, hitem⟩ := List.any_eq_true.1 (Except.ok.inj hallowed)
    have halg : jwt.alg = some item := (eq_of_strictEq hitem).symm
    by_cases hsymmetric : jwt.symmetric = true
    · have hname : jwt.alg = some (.str "HS256") := of_decide_eq_true hsymmetric
      have hsame : item = .str "HS256" := Option.some.inj (halg.symm.trans hname)
      exact ⟨"HS256", hname, hsame ▸ hmem⟩
    · obtain ⟨keys, key, -, -, hvalid⟩ :=
        (signatureValid_asymmetric hsymmetric).1 hpasses.signature
      obtain ⟨name, hname, htext, -⟩ := verifiesWithKey_eq_true hvalid
      rw [halg] at htext
      -- only a text converts to the name of an algorithm
      cases item with
      | str text =>
        have hsame : text = name := Except.ok.inj htext
        exact ⟨name, by rw [halg, hsame], hsame ▸ hmem⟩
      | num q =>
        have hsame : env.host.numberToString q = name := Except.ok.inj htext
        exact absurd (hsame ▸ hname) (hdocumented.number items q hconfigured hmem)
      | null =>
        cases htext
        exact absurd hname (by decide)
      | bool b =>
        cases b <;> cases htext <;> exact absurd hname (by decide)
      | arr | obj => cases hitem
  | null | bool b | num q | obj fields =>
    rw [hconfigured] at hallowed
    cases hallowed

theorem signed_of_passes (hdocumented : Documented env clock options cache)
    (hpasses : Passes env clock options token cache jwt)
    (hplain : ReadPlainly env clock options cache jwt) : Signed env clock options cache jwt := by
  unfold Signed
  by_cases hsymmetric : jwt.symmetric = true
  · rw [if_pos hsymmetric]
    have hvalid := (signatureValid_symmetric hsymmetric).1 hpasses.signature
    unfold verifiesWithSecret at hvalid
    cases hsecret : options.get? "secret" with
    | none =>
      rw [hsecret] at hvalid
      cases hvalid
    | some secret =>
      rw [hsecret] at hvalid
      dsimp only at hvalid
      split_ifs at hvalid with htruthy
      · obtain ⟨digest, hdigest, hsame⟩ := map_eq_ok.1 hvalid
        rw [of_decide_eq_true hsame] at hdigest
        exact ⟨secret, rfl, htruthy, hdigest⟩
      · cases hvalid
  · rw [if_neg hsymmetric]
    obtain ⟨keys, key, hkeys, hkey, hvalid⟩ :=
      (signatureValid_asymmetric hsymmetric).1 hpasses.signature
    obtain ⟨name, halg, -⟩ := algorithm_of_passes hdocumented hpasses hplain.algorithms
    obtain ⟨name', -, hname', hverified⟩ := verifiesWithKey_eq_true hvalid
    have hsame : name = name' := by
      rw [halg] at hname'
      exact Except.ok.inj hname'
    subst hsame
    have hobject := hdocumented.keys keys hkeys
    cases hdesignated : designated jwt keys with
    | error error =>
      unfold findKey at hkey
      rw [hdesignated] at hkey
      cases hkey
    | ok first =>
      cases first with
      | some first =>
        obtain ⟨hmem, hkid, hcompatible⟩ := designated_eq_some hdesignated
        obtain ⟨fields, rfl⟩ := hobject first hmem
        rw [findKey_of_designated rfl hdesignated] at hkey
        cases hkey
        refine ⟨keys, _, name, hkeys, hmem, eq_of_strictEq hkid, fun htruthy => ?_, halg,
          hverified halg⟩
        unfold compatible at hcompatible
        rw [htruthy] at hcompatible
        exact eq_of_strictEq hcompatible
      | none =>
        have hfalsy := findKey_of_not_designated hdesignated hkey
        rcases hplain.kid (Bool.eq_false_iff.2 hsymmetric) with hkid |
          ⟨keys', other, hkeys', hmem, hkid, hcompatible⟩
        · rw [hfalsy] at hkid
          cases hkid
        · rw [hkeys] at hkeys'
          cases hkeys'
          refine absurd ⟨?_, hcompatible⟩ (designated_eq_none hdesignated other hmem)
          rw [hkid]
          exact strictEq_self_of_falsy hfalsy

section

variable (hpasses : Passes env clock options token cache jwt)
include hpasses

section

variable (hplain : ReadPlainly env clock options cache jwt)
include hplain

theorem exp_of_passes (v : Json) (hv : jwt.payload.get? "exp" = some v) : ∃ e leeway, v = .num e ∧
      configuredLeeway env options = .ok leeway ∧
      lessOrEqual (.fin clock.seconds) (addNumbers (.fin e) leeway) = true := by
  obtain ⟨e, rfl, hmet⟩ := hplain.exp v hv
  by_cases hloose : e = 0 ∨ LeewayMisread env options
  · obtain ⟨leeway, hleeway, hle⟩ := hmet hloose
    exact ⟨e, leeway, rfl, hleeway, hle⟩
  · rw [not_or] at hloose
    obtain ⟨leeway, hread, hexp, -⟩ := checkTimes_eq_ok hpasses.times
    obtain ⟨hleeway, hnan⟩ := leewayOf_of_not_misread hloose.2 hread
    rw [hv] at hexp
    have hfails := not_fails_of_checkClaim hloose.1 hexp
    rw [exceeds_eq_lessThan] at hfails
    exact ⟨e, leeway, rfl, hleeway,
      lessOrEqual_of_not_lessThan nofun (addNumbers_fin_ne_nan hnan) hfails⟩

theorem nbf_of_passes (v : Json) (hv : jwt.payload.get? "nbf" = some v) : ∃ n leeway, v = .num n ∧
      configuredLeeway env options = .ok leeway ∧
      lessOrEqual (.fin n) (addNumbers (.fin clock.seconds) leeway) = true := by
  obtain ⟨n, rfl, hmet⟩ := hplain.nbf v hv
  by_cases hloose : n = 0 ∨ LeewayMisread env options
  · obtain ⟨leeway, hleeway, hle⟩ := hmet hloose
    exact ⟨n, leeway, rfl, hleeway, hle⟩
  · rw [not_or] at hloose
    obtain ⟨leeway, hread, -, hnbf⟩ := checkTimes_eq_ok hpasses.times
    obtain ⟨hleeway, hnan⟩ := leewayOf_of_not_misread hloose.2 hread
    rw [hv] at hnbf
    have hfails := not_fails_of_checkClaim hloose.1 hnbf
    exact ⟨n, leeway, rfl, hleeway,
      lessOrEqual_of_not_lessThan nofun (addNumbers_fin_ne_nan hnan) hfails⟩

theorem issuer_of_passes (hissuer : truthy (options.get? "issuer") = true) : ∃ iss text,
      jwt.payload.get? "iss" = some (.str iss) ∧
      stringOf env.host (options.get? "issuer") = .ok text ∧
      (iss = text ∨ iss = dropSlash text) := by
  obtain ⟨iss, hiss⟩ := hplain.issuer hissuer
  have hchecked := hpasses.issuer
  unfold checkIssuer at hchecked
  rw [if_pos hissuer] at hchecked
  obtain ⟨actual, hactual, hchecked⟩ := bind_eq_ok.1 hchecked
  obtain ⟨expected, hexpected, hchecked⟩ := bind_eq_ok.1 hchecked
  obtain ⟨text, htext, rfl⟩ := map_eq_ok.1 hexpected
  split_ifs at hchecked with hsame
  · refine ⟨iss, text, hiss, htext, .inr ?_⟩
    rw [← hsame]
    rw [hiss] at hactual
    unfold textOr orDefault at hactual
    dsimp only at hactual
    split_ifs at hactual with htruthy
    · exact Except.ok.inj hactual
    · have hempty : iss = "" := by simpa [Json.truthy] using htruthy
      rw [hempty]
      exact Except.ok.inj hactual

end

end

theorem genuine_iff_readPlainly (hdocumented : Documented env clock options cache)
    (hpasses : Passes env clock options token cache jwt) :
    Genuine env clock options token cache jwt ↔ ReadPlainly env clock options cache jwt := by
  constructor
  · intro h
    refine ⟨fun names hnames => ?_, fun hsymmetric => ?_, fun v hv => ?_, fun v hv => ?_,
      fun hissuer => ?_⟩
    · obtain ⟨name, halg, hlist⟩ := h.alg
      unfold InList at hlist
      rw [hnames] at hlist
      rw [halg, Json.str.inj hlist]
    · right
      have hsigned := h.signed
      unfold Signed at hsigned
      rw [if_neg (Bool.eq_false_iff.1 hsymmetric)] at hsigned
      obtain ⟨keys, key, name, hkeys, hmem, hkid, hcompatible, halg, -⟩ := hsigned
      refine ⟨keys, key, hkeys, hmem, hkid, ?_⟩
      unfold compatible
      cases htruthy : truthy (key.get? "alg") with
      | false => rfl
      | true =>
        rw [hcompatible htruthy, halg]
        simp [strictEq]
    · obtain ⟨e, leeway, he, hleeway, hle⟩ := h.exp v hv
      exact ⟨e, he, fun _ => ⟨leeway, hleeway, hle⟩⟩
    · obtain ⟨n, leeway, hn, hleeway, hle⟩ := h.nbf v hv
      exact ⟨n, hn, fun _ => ⟨leeway, hleeway, hle⟩⟩
    · obtain ⟨iss, -, hiss, -⟩ := h.issuer hissuer
      exact ⟨iss, hiss⟩
  · intro h
    refine ⟨?_, algorithm_of_passes hdocumented hpasses h.algorithms,
      signed_of_passes hdocumented hpasses h, exp_of_passes hpasses h, nbf_of_passes hpasses h,
      issuer_of_passes hpasses h, hpasses.audience, hpasses.claims⟩
    have hread := hpasses.read
    unfold readToken at hread
    split at hread
    · rename_i first second third hparts
      rw [hparts]
      rfl
    · cases hread

/-- **Acceptance is sound** for a token, a configuration and a cache if and only if a check refuses
the token, or nothing in it or the configuration is of a kind that the code reads otherwise. -/
theorem jwtSound_iff (hdocumented : Documented env clock options cache) :
    (∀ jwt, (verifyJwt env clock options token cache).1 = .ok jwt →
        Genuine env clock options token cache jwt) ↔
      ∀ jwt, Passes env clock options token cache jwt →
        ReadPlainly env clock options cache jwt := by
  apply forall_congr'
  intro jwt
  rw [verifyJwt_eq_ok]
  constructor
  · intro h hpasses
    exact (genuine_iff_readPlainly hdocumented hpasses).1 (h hpasses)
  · intro h hpasses
    exact (genuine_iff_readPlainly hdocumented hpasses).2 (h hpasses)

def sharedHeader : String := "\x7b\"alg\":\"HS256\"\x7d"

def epochClaims : String := "\x7b\"exp\":0\x7d"

/-- Reads the two texts, and signs everything alike. -/
def sharedEnv : JwtEnv where
  host := .plain
  readJson bytes :=
    if bytes = utf8 sharedHeader then some (.obj [("alg", .str "HS256")])
    else if bytes = utf8 epochClaims then some (.obj [("exp", .num 0)])
    else none
  fetchJson _ := .error { message := "Falha ao obter metadados OIDC (404)." }
  hmac _ _ := .ok [1, 2, 3]
  verify _ _ _ _ := .ok false

def sharedOptions : Json := .obj [("algorithms", .arr [.str "HS256"]), ("secret", .str "s3cret")]

def epochToken : String :=
  Base64.encodeUrl (utf8 sharedHeader) ++ "." ++ Base64.encodeUrl (utf8 epochClaims) ++ "." ++
    Base64.encodeUrl [1, 2, 3]

/-- The year 2023. -/
def lateClock : Clock := ⟨1700000000000, 1700000000000, 1700000000000⟩

theorem documented_shared : Documented sharedEnv lateClock sharedOptions .empty where
  number items q hitems hmem := by
    cases hitems
    simp at hmem
  keys keys hkeys := by cases hkeys

def epochJwt : Jwt :=
  ⟨Base64.encodeUrl (utf8 sharedHeader) ++ "." ++ Base64.encodeUrl (utf8 epochClaims),
    .obj [("alg", .str "HS256")], .obj [("exp", .num 0)], [1, 2, 3]⟩

theorem passes_epoch : Passes sharedEnv lateClock sharedOptions epochToken .empty epochJwt where
  read := by
    have hother : utf8 epochClaims ≠ utf8 sharedHeader := by decide +kernel
    have hheader : sharedEnv.readJson (utf8 sharedHeader) = some (.obj [("alg", .str "HS256")]) := by
      unfold sharedEnv
      dsimp only
      rw [if_pos rfl]
    have hpayload : sharedEnv.readJson (utf8 epochClaims) = some (.obj [("exp", .num 0)]) := by
      unfold sharedEnv
      dsimp only
      rw [if_neg hother, if_pos rfl]
    exact readToken_encoded hheader hpayload rfl
  allowed := rfl
  signature := rfl
  times := rfl
  issuer := rfl
  audience := rfl
  claims := rfl

theorem not_genuine_epoch : ¬ ∀ (env : JwtEnv) (clock : Clock) (options : Json) (token : String)
    (cache : JwksCache) (jwt : Jwt), Documented env clock options cache →
    (verifyJwt env clock options token cache).1 = .ok jwt →
    Genuine env clock options token cache jwt := by
  intro h
  have hgenuine := h sharedEnv lateClock sharedOptions epochToken .empty epochJwt
    documented_shared (verifyJwt_eq_ok.2 passes_epoch)
  obtain ⟨e, leeway, he, hleeway, hle⟩ := hgenuine.exp (.num 0) rfl
  cases he
  cases hleeway
  exact absurd hle (by decide +kernel)

/-- A token of one part is refused, so that there is nothing to prove. -/
theorem jwtSound_iff_unsigned : Documented sharedEnv lateClock sharedOptions .empty ∧
    ((∀ jwt, (verifyJwt sharedEnv lateClock sharedOptions "unsigned" .empty).1 = .ok jwt →
        Genuine sharedEnv lateClock sharedOptions "unsigned" .empty jwt) ↔
      ∀ jwt, Passes sharedEnv lateClock sharedOptions "unsigned" .empty jwt →
        ReadPlainly sharedEnv lateClock sharedOptions .empty jwt) :=
  ⟨documented_shared, jwtSound_iff documented_shared⟩

end Tunnara.Edge
