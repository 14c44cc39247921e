/-
# Verification of a JWT

`verifyJwt` with the keys of an issuer, which are fetched and kept for a while. Fetching, HMAC, the
signature check of Node's crypto module and the decoding of a segment into JSON are parameters.
`alg in algorithms` also finds what every object inherits; `crypto.verify` throws on such an
algorithm, and the token is refused here without asking it.
-/

import Tunnara.Edge.PolicyDecision
import Tunnara.Js.Base64

namespace Tunnara.Edge

open Policy

/-- What verification runs with. -/
structure JwtEnv where
  host : Host
  /-- `JSON.parse(buffer.toString('utf8'))`; `none` when it throws. -/
  readJson : List UInt8 → Option Json
  /-- `fetchJson`. -/
  fetchJson : Json → Except JsError Json
  /-- `crypto.createHmac('sha256', secret).update(text).digest()`. -/
  hmac : Json → String → Except JsError (List UInt8)
  /-- `crypto.verify` with the digest and the padding of an algorithm, for a key in JWK form. -/
  verify : String → Json → String → List UInt8 → Except JsError Bool

/-- What `Date.now()` gives when the cache is read, when it is written and when the claims are
checked. -/
structure Clock where
  (looked stored checked : ℚ)

/-- An entry of `caches`. -/
structure JwksEntry where
  keys : List Json
  expiresAt : JsNumber

abbrev JwksCache := OrdMap Json JwksEntry

/-- `a === b`; two arrays or objects of different documents are never the same. -/
def strictEq (a b : Option Json) : Bool :=
  match a with
  | some (.arr _) | some (.obj _) => false
  | _ => a = b

/-- `Array.isArray(v) ? v : [v]`. -/
def valuesOf : Option Json → List (Option Json)
  | some (.arr items) => items.map some
  | v => [v]

/-- `expected.some((value) => actual.includes(value))`. -/
def sharesValue (actual expected : Option Json) : Bool :=
  (valuesOf expected).any fun value => (valuesOf actual).any fun other => strictEq value other

/-- `payload[name]`; what is inherited is a function and equals no value. -/
def memberOf (payload : Json) (name : String) : Option Json :=
  match payload with
  | .obj fields => Json.lookup fields name
  | .arr items =>
    if name = "length" then some (.num items.length) else Json.lookup (ownFields payload) name
  | .str s =>
    if name = "length" then some (.num (jsLength s)) else Json.lookup (ownFields payload) name
  | _ => none

/-- `a + b`. -/
def addNumbers : JsNumber → JsNumber → JsNumber
  | .nan, _ | _, .nan => .nan
  | .posInf, .negInf | .negInf, .posInf => .nan
  | .posInf, _ | _, .posInf => .posInf
  | .negInf, _ | _, .negInf => .negInf
  | .fin a, .fin b => .fin (a + b)

/-- `n > bound`. -/
def above (bound : ℚ) : JsNumber → Bool
  | .nan => false
  | .posInf => true
  | .negInf => false
  | .fin q => bound < q

/-- `a < b`. -/
def lessThan : JsNumber → JsNumber → Bool
  | .nan, _ | _, .nan => false
  | .posInf, _ | _, .negInf => false
  | .negInf, _ | _, .posInf => true
  | .fin a, .fin b => a < b

/-- `text.replace(/\/$/, '')`. -/
def dropSlash (text : String) : String :=
  match text.toList.reverse with
  | '/' :: rest => String.ofList rest.reverse
  | _ => text

variable (env : JwtEnv) (clock : Clock) (options : Json)

/-- `String(options.issuer).replace(/\/$/, '')`. -/
def issuerText : Except JsError String :=
  (stringOf env.host (options.get? "issuer")).map dropSlash

def resolveJwksUri : Except JsError Json :=
  if truthy (options.get? "jwksUri") then .ok ((options.get? "jwksUri").getD .null)
  else if truthy (options.get? "issuer") = false then
    .error { message := "issuer ou jwksUri é obrigatório para validação OIDC." }
  else do
    let issuer ← issuerText env options
    let discovery ← env.fetchJson (.str (issuer ++ "/.well-known/openid-configuration"))
    let uri ← property (some discovery) "jwks_uri"
    if truthy uri then return uri.getD .null
    else .error { message := "Provedor OIDC não informou jwks_uri." }

/-- The keys that are kept and have not expired. -/
def cachedKeys (cache : JwksCache) (uri : Json) : Option (List Json) :=
  match uri with
  | .arr _ | .obj _ => none
  | uri =>
    match cache.get? uri with
    | some entry => if above clock.looked entry.expiresAt then some entry.keys else none
    | none => none

/-- The keys that are fetched, and the time that they are kept. -/
def fetchKeys (uri : Json) : Except JsError (List Json × JsNumber) := do
  let payload ← env.fetchJson uri
  let keys ← property (some payload) "keys"
  let ttl ← numberOr env.host (options.get? "cacheTtlMs") 300000
  return (list keys, ttl)

def getJwks (cache : JwksCache) : Except JsError (List Json) × JwksCache :=
  match resolveJwksUri env options with
  | .error error => (.error error, cache)
  | .ok uri =>
    match cachedKeys clock cache uri with
    | some keys => (.ok keys, cache)
    | none =>
      match fetchKeys env options uri with
      | .error error => (.error error, cache)
      | .ok (keys, ttl) => (.ok keys, cache.set uri ⟨keys, ttl.map (clock.stored + ·)⟩)

/-- A token, taken apart. -/
structure Jwt where
  signed : String
  (header payload : Json)
  signature : List UInt8

def Jwt.alg (jwt : Jwt) : Option Json := jwt.header.get? "alg"

def Jwt.kid (jwt : Jwt) : Option Json := jwt.header.get? "kid"

/-- `parseJson(base64url(segment))`. -/
def readSegment (segment : String) : Except JsError Json :=
  match env.readJson (Base64.decode segment) with
  | some v => .ok v
  | none => .error { message := "Unexpected token in JSON" }

/-- The parts of the token; reading `header.alg` throws on `null`. -/
def readToken (token : String) : Except JsError Jwt :=
  match splitChar '.' token with
  | [first, second, third] => do
    let header ← readSegment env first
    let payload ← readSegment env second
    let _ ← property (some header) "alg"
    return ⟨first ++ "." ++ second, header, payload, Base64.decode third⟩
  | _ => .error { message := "JWT inválido." }

def defaultAlgorithms : Json :=
  .arr [.str "RS256", .str "PS256", .str "ES256", .str "EdDSA"]

/-- `allowedAlgorithms.includes(header.alg)`. -/
def allowsAlgorithm (alg : Option Json) : Except JsError Bool :=
  match orDefault (options.get? "algorithms") defaultAlgorithms with
  | .arr items => .ok (items.any fun item => strictEq (some item) alg)
  | .str names => (stringOf env.host alg).map fun name => includes names name
  | _ => .error (typeError "allowedAlgorithms.includes is not a function")

/-- `!candidate.alg || candidate.alg === header.alg`. -/
def compatible (jwt : Jwt) (candidate : Json) : Bool :=
  !truthy (candidate.get? "alg") || strictEq (candidate.get? "alg") jwt.alg

/-- `keys.find(...)` by the identifier in the header; it throws on `null`. -/
def designated (jwt : Jwt) : List Json → Except JsError (Option Json)
  | [] => .ok none
  | candidate :: rest => do
    let kid ← property (some candidate) "kid"
    if strictEq kid jwt.kid && compatible jwt candidate then return some candidate
    else designated jwt rest

/-- The key that the signature is checked with. -/
def findKey (jwt : Jwt) (keys : List Json) : Except JsError Json := do
  let first ← designated jwt keys
  let second := keys.find? fun candidate => !truthy jwt.kid && compatible jwt candidate
  let key := if truthy first then first else second
  if truthy key then return key.getD .null
  else .error { message := "Chave pública JWT não encontrada." }

def signatureAlgorithms : List String := ["RS256", "PS256", "ES256", "EdDSA"]

/-- `verifySignature` with a key. -/
def verifiesWithKey (jwt : Jwt) (key : Json) : Except JsError Bool := do
  let name ← stringOf env.host jwt.alg
  if name ∈ signatureAlgorithms then
    -- an algorithm that only converts to the name gets the digest, without the padding of PSS
    let scheme := if name = "PS256" ∧ jwt.alg ≠ some (.str "PS256") then "RS256" else name
    env.verify scheme key jwt.signed jwt.signature
  else return false

/-- `verifySignature` with the secret. -/
def verifiesWithSecret (jwt : Jwt) : Except JsError Bool :=
  match options.get? "secret" with
  | none => .ok false
  | some secret =>
    if secret.truthy then (env.hmac secret jwt.signed).map fun digest => digest = jwt.signature
    else .ok false

/-- `Math.floor(Date.now() / 1000)`. -/
def Clock.seconds (clock : Clock) : ℚ := (clock.checked / 1000).floor

/-- `Number(options.leewaySeconds || 30)`. -/
def leewayOf : Except JsError JsNumber := numberOr env.host (options.get? "leewaySeconds") 30

def checkClaim (claim : Option Json) (fails : JsNumber → Bool) (message : String) :
    Except JsError Unit :=
  match claim with
  | none => .ok ()
  | some v =>
    if v.truthy then do
      let n ← v.toNumber env.host
      if fails n then .error { message := message } else return ()
    else .ok ()

def checkTimes (payload : Json) : Except JsError Unit := do
  let leeway ← leewayOf env options
  let exp ← property (some payload) "exp"
  checkClaim env exp (fun e => (addNumbers e leeway).exceeds clock.seconds) "JWT expirado."
  checkClaim env (payload.get? "nbf")
    (fun n => lessThan (addNumbers (.fin clock.seconds) leeway) n) "JWT ainda não é válido."

def checkIssuer (payload : Json) : Except JsError Unit :=
  if truthy (options.get? "issuer") then do
    let actual ← textOr env.host (payload.get? "iss") ""
    let expected ← issuerText env options
    if actual = expected then return () else .error { message := "Issuer JWT inválido." }
  else .ok ()

def audienceMatches (payload : Json) : Bool :=
  !truthy (options.get? "audience") || sharesValue (payload.get? "aud") (options.get? "audience")

/-- `options.requiredClaims`, as its entries. -/
def requiredClaims : List (String × Json) :=
  match options.get? "requiredClaims" with
  | some claims => if claims.truthy then ownFields claims else []
  | none => []

def claimsMatch (payload : Json) : Bool :=
  (requiredClaims options).all fun required =>
    sharesValue (memberOf payload required.1) (some required.2)

/-- The checks after the signature. -/
def checkClaims (payload : Json) : Except JsError Unit := do
  checkTimes env clock options payload
  checkIssuer env options payload
  if audienceMatches options payload then
    if claimsMatch options payload then return ()
    else .error { message := "Claim JWT obrigatório ausente." }
  else .error { message := "Audience JWT inválida." }

/-- What follows once the key is known. -/
def decideJwt (jwt : Jwt) (valid : Except JsError Bool) : Except JsError Jwt := do
  if ← valid then
    checkClaims env clock options jwt.payload
    return jwt
  else .error { message := "Assinatura JWT inválida." }

/-- `header.alg === 'HS256'`. -/
def Jwt.symmetric (jwt : Jwt) : Bool := jwt.alg = some (.str "HS256")

def verifyJwt (token : String) (cache : JwksCache) : Except JsError Jwt × JwksCache :=
  match readToken env token with
  | .error error => (.error error, cache)
  | .ok jwt =>
    match allowsAlgorithm env options jwt.alg with
    | .error error => (.error error, cache)
    | .ok false => (.error { message := "Algoritmo JWT não permitido." }, cache)
    | .ok true =>
      if jwt.symmetric then
        (decideJwt env clock options jwt (verifiesWithSecret env options jwt), cache)
      else
        match getJwks env clock options cache with
        | (.error error, next) => (.error error, next)
        | (.ok keys, next) =>
          (do
            let key ← findKey jwt keys
            decideJwt env clock options jwt (verifiesWithKey env jwt key), next)

variable {env clock options} {jwt : Jwt} {token : String} {cache : JwksCache}

variable (env clock options cache) in
/-- The signature is that of the secret, or that of the key that is found. -/
def SignatureValid (jwt : Jwt) : Prop :=
  if jwt.symmetric then verifiesWithSecret env options jwt = .ok true
  else ∃ keys key, (getJwks env clock options cache).1 = .ok keys ∧ findKey jwt keys = .ok key ∧
    verifiesWithKey env jwt key = .ok true

variable (env clock options cache token) in
/-- The checks, one by one. -/
structure Passes (jwt : Jwt) : Prop where
  read : readToken env token = .ok jwt
  allowed : allowsAlgorithm env options jwt.alg = .ok true
  signature : SignatureValid env clock options cache jwt
  times : checkTimes env clock options jwt.payload = .ok ()
  issuer : checkIssuer env options jwt.payload = .ok ()
  audience : audienceMatches options jwt.payload = true
  claims : claimsMatch options jwt.payload = true

theorem readToken_encoded {header payload signature : List UInt8} {read claims : Json}
    {alg : Option Json} (hheader : env.readJson header = some read)
    (hpayload : env.readJson payload = some claims) (halg : property (some read) "alg" = .ok alg) :
    readToken env (Base64.encodeUrl header ++ "." ++ Base64.encodeUrl payload ++ "." ++
        Base64.encodeUrl signature) =
      .ok ⟨Base64.encodeUrl header ++ "." ++ Base64.encodeUrl payload, read, claims, signature⟩ := by
  have hparts : splitChar '.' (Base64.encodeUrl header ++ "." ++ Base64.encodeUrl payload ++ "." ++
      Base64.encodeUrl signature) =
      [Base64.encodeUrl header, Base64.encodeUrl payload, Base64.encodeUrl signature] := by
    have htext : Base64.encodeUrl header ++ "." ++ Base64.encodeUrl payload ++ "." ++
        Base64.encodeUrl signature = Base64.encodeUrl header ++ "." ++
          (Base64.encodeUrl payload ++ "." ++ Base64.encodeUrl signature) := by
      simp only [String.append_assoc]
    have hdot : ".".toList = ['.'] := rfl
    rw [htext, splitChar_append hdot (Base64.dot_not_mem_encodeUrl header),
      splitChar_append hdot (Base64.dot_not_mem_encodeUrl payload),
      splitChar_of_not_mem (Base64.dot_not_mem_encodeUrl signature)]
  unfold readToken
  rw [hparts]
  dsimp only
  rw [readSegment, readSegment, Base64.decode_encodeUrl, Base64.decode_encodeUrl, hheader, hpayload]
  dsimp only [bind, Except.bind]
  rw [halg, Base64.decode_encodeUrl]
  rfl

theorem checkClaims_eq_ok {payload : Json} : checkClaims env clock options payload = .ok () ↔
    checkTimes env clock options payload = .ok () ∧ checkIssuer env options payload = .ok () ∧
      audienceMatches options payload = true ∧ claimsMatch options payload = true := by
  unfold checkClaims
  cases checkTimes env clock options payload with
  | error error => exact iff_of_false nofun fun h => nomatch h.1
  | ok =>
    cases checkIssuer env options payload with
    | error error => exact iff_of_false nofun fun h => nomatch h.2.1
    | ok =>
      split_ifs with haudience hclaims
      · exact iff_of_true rfl ⟨rfl, rfl, haudience, hclaims⟩
      · exact iff_of_false nofun fun h => hclaims h.2.2.2
      · exact iff_of_false nofun fun h => haudience h.2.2.1

theorem decideJwt_eq_ok {valid : Except JsError Bool} {decided : Jwt} :
    decideJwt env clock options jwt valid = .ok decided ↔
      valid = .ok true ∧ checkClaims env clock options jwt.payload = .ok () ∧ jwt = decided := by
  unfold decideJwt
  cases valid with
  | error error => exact iff_of_false nofun fun h => nomatch h.1
  | ok valid =>
    cases valid with
    | false => exact iff_of_false nofun fun h => nomatch h.1
    | true =>
      cases checkClaims env clock options jwt.payload with
      | error error => exact iff_of_false nofun fun h => nomatch h.2.1
      | ok =>
        refine ⟨fun h => ⟨rfl, rfl, Except.ok.inj h⟩, fun h => ?_⟩
        rw [h.2.2]
        rfl

theorem signatureValid_symmetric (h : jwt.symmetric = true) :
    SignatureValid env clock options cache jwt ↔ verifiesWithSecret env options jwt = .ok true :=
  iff_of_eq (if_pos h)

theorem signatureValid_asymmetric (h : ¬ jwt.symmetric = true) :
    SignatureValid env clock options cache jwt ↔ ∃ keys key,
      (getJwks env clock options cache).1 = .ok keys ∧ findKey jwt keys = .ok key ∧
        verifiesWithKey env jwt key = .ok true :=
  iff_of_eq (if_neg h)

theorem verifyJwt_eq_ok : (verifyJwt env clock options token cache).1 = .ok jwt ↔
    Passes env clock options token cache jwt := by
  have hpasses : Passes env clock options token cache jwt ↔ readToken env token = .ok jwt ∧
      allowsAlgorithm env options jwt.alg = .ok true ∧ SignatureValid env clock options cache jwt ∧
      checkClaims env clock options jwt.payload = .ok () := by
    rw [checkClaims_eq_ok]
    exact ⟨fun h => ⟨h.read, h.allowed, h.signature, h.times, h.issuer, h.audience, h.claims⟩,
      fun ⟨hread, hallowed, hsignature, htimes, hissuer, haudience, hclaims⟩ =>
        ⟨hread, hallowed, hsignature, htimes, hissuer, haudience, hclaims⟩⟩
  rw [hpasses]
  unfold verifyJwt
  cases hread : readToken env token with
  | error error => exact iff_of_false nofun fun h => nomatch h.1
  | ok found =>
    dsimp only
    cases hallowed : allowsAlgorithm env options found.alg with
    | error error =>
      refine iff_of_false nofun fun h => ?_
      cases h.1
      rw [hallowed] at h
      cases h.2.1
    | ok allowed =>
      cases allowed with
      | false =>
        refine iff_of_false nofun fun h => ?_
        cases h.1
        rw [hallowed] at h
        cases h.2.1
      | true =>
        by_cases hsymmetric : found.symmetric = true
        · rw [if_pos hsymmetric, decideJwt_eq_ok]
          constructor
          · rintro ⟨hvalid, hclaims, rfl⟩
            exact ⟨rfl, hallowed, (signatureValid_symmetric hsymmetric).2 hvalid, hclaims⟩
          · rintro ⟨hsame, -, hvalid, hclaims⟩
            cases hsame
            exact ⟨(signatureValid_symmetric hsymmetric).1 hvalid, hclaims, rfl⟩
        rw [if_neg hsymmetric]
        have hvalid_iff := @signatureValid_asymmetric env clock options found cache hsymmetric
        cases hkeys : getJwks env clock options cache with
        | mk ended next =>
          rw [hkeys] at hvalid_iff
          cases ended with
          | error error =>
            refine iff_of_false nofun fun ⟨hsame, _, hvalid, _⟩ => ?_
            cases hsame
            obtain ⟨keys, key, hkeys', -⟩ := hvalid_iff.1 hvalid
            cases hkeys'
          | ok keys =>
            constructor
            · intro h
              obtain ⟨key, hkey, h⟩ := bind_eq_ok.1 h
              obtain ⟨hvalid, hclaims, rfl⟩ := decideJwt_eq_ok.1 h
              exact ⟨rfl, hallowed, hvalid_iff.2 ⟨keys, key, rfl, hkey, hvalid⟩, hclaims⟩
            · rintro ⟨hsame, -, hvalid, hclaims⟩
              cases hsame
              obtain ⟨keys', key, hkeys', hkey, hvalid⟩ := hvalid_iff.1 hvalid
              cases hkeys'
              exact bind_eq_ok.2 ⟨key, hkey, decideJwt_eq_ok.2 ⟨hvalid, hclaims, rfl⟩⟩

end Tunnara.Edge
