/-
# Which good tokens are accepted

A token that is signed by a current key of the issuer, with an allowed algorithm and claims that
satisfy the configuration, is accepted unless something else is in its way: the issuer is
configured with a slash at its end, which is dropped on one side of a comparison only; the
algorithm is one that the signature check reads in another encoding, or does not know; or keys
are kept from before a rotation.
-/

import Mathlib.Tactic.Linarith
import Tunnara.Edge.JwtSoundness

namespace Tunnara.Edge

open Policy

/-- The algorithms whose signatures `crypto.verify` takes as they stand in a token. For `ES256`
it expects DER, and a token carries the two numbers one after the other. -/
def plainAlgorithms : List String := ["RS256", "PS256", "EdDSA"]

/-- Verification with correct cryptographic primitives. -/
structure SigningEnv extends JwtEnv where
  /-- The bytes are a signature of the text with the private half of the key. -/
  Signs : String → Json → String → List UInt8 → Prop
  verify_of_signs : ∀ name ∈ plainAlgorithms, ∀ key signed signature,
    Signs name key signed signature → verify name key signed signature = .ok true
  /-- `Number('')`. -/
  number_empty : host.stringToNumber "" = .fin 0

variable (env : SigningEnv) (clock : Clock) (options : Json) (token : String) (cache : JwksCache)

/-- A token that the issuer has made for this configuration. -/
structure Legitimate (issuer uri : String) (current : List Json) (key : Json) (name kid : String)
    (jwt : Jwt) : Prop where
  configured : options.get? "issuer" = some (.str issuer)
  nonempty : issuer ≠ ""
  resolved : resolveJwksUri env.toJwtEnv options = .ok (.str uri)
  fetched : ∃ payload, env.fetchJson (.str uri) = .ok payload ∧
    payload.get? "keys" = some (.arr current)
  objects : ∀ other ∈ current, ∃ fields, other = .obj fields
  read : readToken env.toJwtEnv token = .ok jwt
  alg : jwt.alg = some (.str name)
  asymmetric : name ≠ "HS256"
  allowed : InList options name
  mem : key ∈ current
  identified : kid ≠ "" ∧ jwt.kid = some (.str kid) ∧ key.get? "kid" = some (.str kid)
  designates : ∀ other ∈ current, other.get? "kid" = some (.str kid) → other = key
  compatible : compatible jwt key = true
  signed : env.Signs name key jwt.signed jwt.signature
  issuer : jwt.payload.get? "iss" = some (.str issuer)
  exp : ∀ v, jwt.payload.get? "exp" = some v → ∃ e leeway, v = .num e ∧
    configuredLeeway env.toJwtEnv options = .ok leeway ∧
    lessOrEqual (.fin clock.seconds) (addNumbers (.fin e) leeway) = true
  nbf : ∀ v, jwt.payload.get? "nbf" = some v → ∃ n leeway, v = .num n ∧
    configuredLeeway env.toJwtEnv options = .ok leeway ∧
    lessOrEqual (.fin n) (addNumbers (.fin clock.seconds) leeway) = true
  audience : audienceMatches options jwt.payload = true
  claims : claimsMatch options jwt.payload = true

/-- Nothing is in the way of the token. -/
structure Unhindered (issuer uri : String) (key : Json) (name : String) (jwt : Jwt) : Prop where
  /-- The issuer has no slash at its end. -/
  slash : dropSlash issuer = issuer
  /-- The configured leeway can be converted. -/
  leeway : (leewayOf env.toJwtEnv options).isOk = true
  /-- Without keys in the cache the algorithm is one that is read as it stands; keys in the cache
  include one that the signature verifies with. -/
  keys : match cachedKeys clock cache (.str uri) with
    | none => (numberOr env.host (options.get? "cacheTtlMs") 300000).isOk = true ∧
        (name ∈ plainAlgorithms ∨
          name = "ES256" ∧ env.verify name key jwt.signed jwt.signature = .ok true)
    | some keys => ∃ found, findKey jwt keys = .ok found ∧
        verifiesWithKey env.toJwtEnv jwt found = .ok true

variable {env clock options token cache} {issuer uri : String} {current : List Json} {key : Json}
  {name kid : String} {jwt : Jwt}

theorem leeway_cases {used given : JsNumber} (hused : leewayOf env.toJwtEnv options = .ok used)
    (hgiven : configuredLeeway env.toJwtEnv options = .ok given) :
    used = given ∨ given = .fin 0 ∧ used = .fin 30 := by
  unfold leewayOf numberOr orDefault at hused
  unfold configuredLeeway at hgiven
  cases hleeway : options.get? "leewaySeconds" with
  | none =>
    rw [hleeway] at hused hgiven
    cases hused
    cases hgiven
    exact .inl rfl
  | some v =>
    rw [hleeway] at hused hgiven
    dsimp only at hused hgiven
    split_ifs at hused with htruthy
    · exact .inl (Except.ok.inj (hused.symm.trans hgiven))
    · right
      refine ⟨?_, (Except.ok.inj hused).symm⟩
      cases v with
      | null => exact (Except.ok.inj hgiven).symm
      | bool b =>
        cases b with
        | true => exact absurd rfl htruthy
        | false => exact (Except.ok.inj hgiven).symm
      | num q =>
        have hzero : q = 0 := by simpa [Json.truthy] using htruthy
        rw [hzero] at hgiven
        exact (Except.ok.inj hgiven).symm
      | str s =>
        have hempty : s = "" := by simpa [Json.truthy] using htruthy
        rw [hempty] at hgiven
        exact (Except.ok.inj hgiven).symm.trans env.number_empty
      | arr | obj => exact absurd rfl htruthy

theorem not_lessThan_of_lessOrEqual {a b : JsNumber} (h : lessOrEqual a b = true) :
    lessThan b a = false := by
  cases a <;> cases b <;> simp_all [lessThan, lessOrEqual]

theorem met_of_configured {bound q : ℚ} {used given : JsNumber}
    (hcases : used = given ∨ given = .fin 0 ∧ used = .fin 30)
    (h : lessOrEqual (.fin bound) (addNumbers (.fin q) given) = true) :
    lessThan (addNumbers (.fin q) used) (.fin bound) = false := by
  apply not_lessThan_of_lessOrEqual
  rcases hcases with rfl | ⟨rfl, rfl⟩
  · exact h
  · have hle : bound ≤ q + 0 := of_decide_eq_true h
    exact decide_eq_true (by linarith)

theorem checkClaim_of_met {claim : Option Json} {fails : JsNumber → Bool} {message : String}
    (h : ∀ v, claim = some v → ∃ q, v = .num q ∧ fails (.fin q) = false) :
    checkClaim env.toJwtEnv claim fails message = .ok () := by
  unfold checkClaim
  cases claim with
  | none => rfl
  | some v =>
    obtain ⟨q, rfl, hmet⟩ := h v rfl
    dsimp only
    split_ifs
    · have hnumber : (Json.num q).toNumber env.host = .ok (.fin q) := rfl
      rw [hnumber]
      dsimp only [bind, Except.bind]
      rw [hmet]
      rfl
    · rfl

namespace Legitimate

variable (h : Legitimate env clock options token issuer uri current key name kid jwt)

include h

theorem payload_obj : ∃ fields, jwt.payload = .obj fields := by
  have hissuer := h.issuer
  cases hpayload : jwt.payload with
  | obj fields => exact ⟨fields, rfl⟩
  | null | bool | num | str | arr => rw [hpayload] at hissuer; cases hissuer

theorem checkTimes {used : JsNumber} (hused : leewayOf env.toJwtEnv options = .ok used) :
    Edge.checkTimes env.toJwtEnv clock options jwt.payload = .ok () := by
  obtain ⟨fields, hpayload⟩ := h.payload_obj
  unfold Edge.checkTimes
  have hexp : property (some jwt.payload) "exp" = .ok (jwt.payload.get? "exp") := by
    rw [hpayload]
    rfl
  rw [hused, hexp]
  have hexpired : checkClaim env.toJwtEnv (jwt.payload.get? "exp")
      (fun e => (addNumbers e used).exceeds clock.seconds) "JWT expirado." = .ok () := by
    apply checkClaim_of_met
    intro v hv
    obtain ⟨e, given, rfl, hgiven, hle⟩ := h.exp v hv
    refine ⟨e, rfl, ?_⟩
    rw [exceeds_eq_lessThan]
    exact met_of_configured (leeway_cases hused hgiven) hle
  dsimp only [bind, Except.bind]
  rw [hexpired]
  apply checkClaim_of_met
  intro v hv
  obtain ⟨n, given, rfl, hgiven, hle⟩ := h.nbf v hv
  refine ⟨n, rfl, not_lessThan_of_lessOrEqual ?_⟩
  rcases leeway_cases hused hgiven with rfl | ⟨rfl, rfl⟩
  · exact hle
  · have hle : n ≤ clock.seconds + 0 := of_decide_eq_true hle
    exact decide_eq_true (by linarith)

theorem issuerText_eq : issuerText env.toJwtEnv options = .ok (dropSlash issuer) := by
  unfold issuerText
  rw [h.configured]
  rfl

theorem checkIssuer_iff : checkIssuer env.toJwtEnv options jwt.payload = .ok () ↔
    dropSlash issuer = issuer := by
  unfold checkIssuer
  have htruthy : (Json.str issuer).truthy = true := by simp [Json.truthy, h.nonempty]
  have hgiven : truthy (options.get? "issuer") = true := by
    rw [h.configured]
    exact htruthy
  have hactual : textOr env.host (jwt.payload.get? "iss") "" = .ok issuer := by
    unfold textOr orDefault
    rw [h.issuer]
    dsimp only
    rw [if_pos htruthy]
    rfl
  rw [if_pos hgiven, hactual, h.issuerText_eq]
  dsimp only [bind, Except.bind]
  by_cases hsame : issuer = dropSlash issuer
  · rw [if_pos hsame]
    exact iff_of_true rfl hsame.symm
  · rw [if_neg hsame]
    exact iff_of_false (by rintro ⟨⟩) fun heq => hsame heq.symm

theorem allowsAlgorithm : Edge.allowsAlgorithm env.toJwtEnv options jwt.alg = .ok true := by
  have hlist := h.allowed
  unfold InList at hlist
  unfold Edge.allowsAlgorithm
  rw [h.alg]
  cases hconfigured : orDefault (options.get? "algorithms") defaultAlgorithms with
  | arr items =>
    rw [hconfigured] at hlist
    have hany : (items.any fun item => strictEq (some item) (some (.str name))) = true :=
      List.any_eq_true.2 ⟨.str name, hlist, by simp [strictEq]⟩
    exact congrArg Except.ok hany
  | str names =>
    rw [hconfigured] at hlist
    have hsame : names = name := Json.str.inj hlist
    subst hsame
    have hincludes : includes names names = true := decide_eq_true List.infix_rfl
    exact congrArg Except.ok hincludes
  | null | bool | num | obj => rw [hconfigured] at hlist; cases hlist

theorem not_symmetric : ¬ jwt.symmetric = true := by
  intro hsymmetric
  have halg : jwt.alg = some (.str "HS256") := of_decide_eq_true hsymmetric
  rw [h.alg] at halg
  exact h.asymmetric (Json.str.inj (Option.some.inj halg))

theorem findKey_current : findKey jwt current = .ok key := by
  have hdesignated : ∀ keys, keys ⊆ current → key ∈ keys →
      designated jwt keys = .ok (some key) := by
    intro keys hkeys hmem
    induction keys with
    | nil => cases hmem
    | cons candidate rest ih =>
      obtain ⟨fields, hfields⟩ := h.objects candidate (hkeys List.mem_cons_self)
      have hread : property (some candidate) "kid" = .ok (candidate.get? "kid") := by
        rw [hfields]
        rfl
      unfold designated
      rw [hread]
      dsimp only [bind, Except.bind]
      by_cases hkid : candidate.get? "kid" = some (.str kid)
      · have hsame := h.designates candidate (hkeys List.mem_cons_self) hkid
        have hfound : (strictEq (candidate.get? "kid") jwt.kid &&
            Edge.compatible jwt candidate) = true := by
          rw [hkid, h.identified.2.1, hsame, h.compatible]
          simp [strictEq]
        rw [if_pos hfound, hsame]
        rfl
      · have hother : strictEq (candidate.get? "kid") jwt.kid = false := by
          by_contra heq
          have hsame := eq_of_strictEq (Bool.eq_true_of_not_eq_false heq)
          exact hkid (hsame.trans h.identified.2.1)
        rw [hother, Bool.false_and]
        refine ih (fun _ hrest => hkeys (List.mem_cons_of_mem _ hrest)) ?_
        rcases List.mem_cons.1 hmem with heq | hrest
        · exact absurd (heq ▸ h.identified.2.2) hkid
        · exact hrest
  have htruthy : key.truthy = true := by
    obtain ⟨fields, hfields⟩ := h.objects key h.mem
    rw [hfields]
    rfl
  exact findKey_of_designated htruthy (hdesignated current (List.Subset.refl _) h.mem)

theorem verifiesWithKey_iff {found : Json} : verifiesWithKey env.toJwtEnv jwt found = .ok true ↔
    name ∈ signatureAlgorithms ∧ env.verify name found jwt.signed jwt.signature = .ok true := by
  unfold verifiesWithKey
  have hname : stringOf env.host jwt.alg = .ok name := by
    rw [h.alg]
    rfl
  rw [hname]
  dsimp only [bind, Except.bind]
  have hscheme : ¬ (name = "PS256" ∧ jwt.alg ≠ some (.str "PS256")) := by
    rintro ⟨hpss, hother⟩
    rw [h.alg, hpss] at hother
    exact hother rfl
  rw [if_neg hscheme]
  by_cases hmem : name ∈ signatureAlgorithms
  · rw [if_pos hmem]
    exact ⟨fun hvalid => ⟨hmem, hvalid⟩, fun hvalid => hvalid.2⟩
  · rw [if_neg hmem]
    exact iff_of_false nofun fun hvalid => hmem hvalid.1

theorem verifies_key_iff : verifiesWithKey env.toJwtEnv jwt key = .ok true ↔
    name ∈ plainAlgorithms ∨
      name = "ES256" ∧ env.verify name key jwt.signed jwt.signature = .ok true := by
  rw [h.verifiesWithKey_iff]
  constructor
  · rintro ⟨hmem, hvalid⟩
    by_cases hplain : name ∈ plainAlgorithms
    · exact .inl hplain
    · refine .inr ⟨?_, hvalid⟩
      simp only [signatureAlgorithms, plainAlgorithms, List.mem_cons, List.not_mem_nil, or_false,
        not_or] at hmem hplain
      tauto
  · rintro (hplain | ⟨rfl, hvalid⟩)
    · refine ⟨?_, env.verify_of_signs name hplain key _ _ h.signed⟩
      simp only [signatureAlgorithms, plainAlgorithms, List.mem_cons, List.not_mem_nil,
        or_false] at hplain ⊢
      tauto
    · exact ⟨by decide, hvalid⟩

theorem signatureValid_iff : SignatureValid env.toJwtEnv clock options cache jwt ↔
    match cachedKeys clock cache (.str uri) with
    | none => (numberOr env.host (options.get? "cacheTtlMs") 300000).isOk = true ∧
        (name ∈ plainAlgorithms ∨
          name = "ES256" ∧ env.verify name key jwt.signed jwt.signature = .ok true)
    | some keys => ∃ found, findKey jwt keys = .ok found ∧
        verifiesWithKey env.toJwtEnv jwt found = .ok true := by
  rw [signatureValid_asymmetric h.not_symmetric]
  unfold getJwks
  rw [h.resolved]
  dsimp only
  cases hcached : cachedKeys clock cache (.str uri) with
  | some keys =>
    constructor
    · rintro ⟨keys', found, hkeys, hfound⟩
      cases hkeys
      exact ⟨found, hfound⟩
    · rintro ⟨found, hfound⟩
      exact ⟨keys, found, rfl, hfound⟩
  | none =>
    obtain ⟨payload, hfetched, hkeys⟩ := h.fetched
    have hread : property (some payload) "keys" = .ok (some (.arr current)) := by
      cases payload with
      | null => cases hkeys
      | _ => exact congrArg Except.ok hkeys
    unfold fetchKeys
    rw [hfetched]
    dsimp only [bind, Except.bind]
    rw [hread]
    cases numberOr env.host (options.get? "cacheTtlMs") 300000 with
    | error error =>
      refine iff_of_false ?_ fun hok => nomatch hok.1
      rintro ⟨keys, found, hkeys, -⟩
      cases hkeys
    | ok ttl =>
      rw [← h.verifies_key_iff]
      constructor
      · rintro ⟨keys, found, hkeys', hfound, hvalid⟩
        cases hkeys'
        cases h.findKey_current.symm.trans hfound
        exact ⟨rfl, hvalid⟩
      · rintro ⟨-, hvalid⟩
        exact ⟨current, key, rfl, h.findKey_current, hvalid⟩

/-- **Acceptance is complete** for a token of the issuer if and only if nothing is in its way. -/
theorem accepted_iff : (verifyJwt env.toJwtEnv clock options token cache).1 = .ok jwt ↔
    Unhindered env clock options cache issuer uri key name jwt := by
  rw [verifyJwt_eq_ok]
  constructor
  · intro hpasses
    obtain ⟨used, hused, -⟩ := checkTimes_eq_ok hpasses.times
    refine ⟨h.checkIssuer_iff.1 hpasses.issuer, ?_, h.signatureValid_iff.1 hpasses.signature⟩
    rw [hused]
    rfl
  · intro hfree
    have hleeway := hfree.leeway
    cases hused : leewayOf env.toJwtEnv options with
    | error error =>
      rw [hused] at hleeway
      cases hleeway
    | ok used =>
      exact ⟨h.read, h.allowsAlgorithm, h.signatureValid_iff.2 hfree.keys, h.checkTimes hused,
        h.checkIssuer_iff.2 hfree.slash, h.audience, h.claims⟩

end Legitimate

def idHeader : String := "\x7b\"alg\":\"RS256\",\"kid\":\"k1\"\x7d"

def idClaims (issuer : String) : String := "\x7b\"iss\":\"" ++ issuer ++ "\"\x7d"

def idKey : Json := .obj [("kid", .str "k1"), ("kty", .str "RSA")]

/-- The identity provider of a host, which signs with three bytes. -/
def idEnv : SigningEnv where
  host := .plain
  readJson bytes :=
    if bytes = utf8 idHeader then some (.obj [("alg", .str "RS256"), ("kid", .str "k1")])
    else if bytes = utf8 (idClaims "https://id.test/") then
      some (.obj [("iss", .str "https://id.test/")])
    else if bytes = utf8 (idClaims "https://id.test") then
      some (.obj [("iss", .str "https://id.test")])
    else none
  fetchJson uri :=
    if uri = .str "https://id.test/.well-known/openid-configuration" then
      .ok (.obj [("jwks_uri", .str "https://id.test/jwks")])
    else if uri = .str "https://id.test/jwks" then .ok (.obj [("keys", .arr [idKey])])
    else .error { message := "Falha ao obter metadados OIDC (404)." }
  hmac _ _ := .ok [0]
  verify _ _ _ signature := .ok (signature = [1, 2, 3])
  Signs _ _ _ signature := signature = [1, 2, 3]
  verify_of_signs _ _ _ _ _ hsigns := congrArg Except.ok (decide_eq_true hsigns)
  number_empty := rfl

def idToken (issuer : String) : String :=
  Base64.encodeUrl (utf8 idHeader) ++ "." ++ Base64.encodeUrl (utf8 (idClaims issuer)) ++ "." ++
    Base64.encodeUrl [1, 2, 3]

def idOptions (issuer : String) : Json := .obj [("type", .str "oidc"), ("issuer", .str issuer)]

/-- The token of an issuer, taken apart. -/
def idJwt (issuer : String) : Jwt :=
  ⟨Base64.encodeUrl (utf8 idHeader) ++ "." ++ Base64.encodeUrl (utf8 (idClaims issuer)),
    .obj [("alg", .str "RS256"), ("kid", .str "k1")], .obj [("iss", .str issuer)], [1, 2, 3]⟩

theorem readToken_id {issuer : String} (h : issuer = "https://id.test/" ∨ issuer = "https://id.test") :
    readToken idEnv.toJwtEnv (idToken issuer) = .ok (idJwt issuer) := by
  have hheader : idEnv.readJson (utf8 idHeader) =
      some (.obj [("alg", .str "RS256"), ("kid", .str "k1")]) := by
    unfold idEnv
    dsimp only
    rw [if_pos rfl]
  have hslash : utf8 (idClaims "https://id.test/") ≠ utf8 idHeader := by decide +kernel
  have hplain : utf8 (idClaims "https://id.test") ≠ utf8 idHeader := by decide +kernel
  have hother : utf8 (idClaims "https://id.test") ≠ utf8 (idClaims "https://id.test/") := by
    decide +kernel
  have hpayload : idEnv.readJson (utf8 (idClaims issuer)) = some (.obj [("iss", .str issuer)]) := by
    unfold idEnv
    dsimp only
    rcases h with rfl | rfl
    · rw [if_neg hslash, if_pos rfl]
    · rw [if_neg hplain, if_neg hother, if_pos rfl]
  exact readToken_encoded hheader hpayload rfl

theorem legitimate_id {issuer : String} (hnonempty : issuer ≠ "")
    (hresolved : resolveJwksUri idEnv.toJwtEnv (idOptions issuer) =
      .ok (.str "https://id.test/jwks"))
    (h : issuer = "https://id.test/" ∨ issuer = "https://id.test") :
    Legitimate idEnv lateClock (idOptions issuer) (idToken issuer) issuer "https://id.test/jwks"
      [idKey] idKey "RS256" "k1" (idJwt issuer) where
  configured := rfl
  nonempty := hnonempty
  resolved := hresolved
  fetched := ⟨.obj [("keys", .arr [idKey])], rfl, rfl⟩
  objects other hmem := ⟨_, List.mem_singleton.1 hmem⟩
  read := readToken_id h
  alg := rfl
  asymmetric := by decide
  allowed := List.mem_cons_self
  mem := List.mem_singleton_self _
  identified := ⟨by decide, rfl, rfl⟩
  designates other hmem _ := List.mem_singleton.1 hmem
  compatible := rfl
  signed := rfl
  issuer := rfl
  exp := nofun
  nbf := nofun
  audience := rfl
  claims := rfl

theorem not_accepted_slash : ¬ ∀ (env : SigningEnv) (clock : Clock) (options : Json)
    (token : String) (cache : JwksCache) (issuer uri : String) (current : List Json) (key : Json)
    (name kid : String) (jwt : Jwt),
    Legitimate env clock options token issuer uri current key name kid jwt →
    (verifyJwt env.toJwtEnv clock options token cache).1 = .ok jwt := by
  intro h
  have hlegitimate := @legitimate_id "https://id.test/" (by decide) (by rfl) (.inl rfl)
  have hpasses := verifyJwt_eq_ok.1 (h idEnv lateClock _ _ .empty _ _ _ _ _ _ _ hlegitimate)
  have hrefused : (checkIssuer idEnv.toJwtEnv (idOptions "https://id.test/")
      (idJwt "https://id.test/").payload).isOk = false := by decide +kernel
  rw [hpasses.issuer] at hrefused
  cases hrefused

/-- The token of the issuer without one is accepted. -/
theorem accepted_plain : Legitimate idEnv lateClock (idOptions "https://id.test")
      (idToken "https://id.test") "https://id.test" "https://id.test/jwks" [idKey] idKey "RS256"
      "k1" (idJwt "https://id.test") ∧
    (verifyJwt idEnv.toJwtEnv lateClock (idOptions "https://id.test") (idToken "https://id.test")
      .empty).1 = .ok (idJwt "https://id.test") := by
  have hlegitimate := @legitimate_id "https://id.test" (by decide) (by rfl) (.inr rfl)
  refine ⟨hlegitimate, hlegitimate.accepted_iff.2 ⟨by rfl, by rfl, ?_⟩⟩
  exact ⟨by rfl, .inl (by decide)⟩

end Tunnara.Edge
