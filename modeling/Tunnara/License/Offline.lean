/-
# The offline cache of license decisions

`check` keeps what the server answered in a file for each document and falls back to it when
the server fails. A stored answer is evaluated again, for a device without a key; a stored
decision is handed out as it is. Only its age in whole days is tested: a file from the future, a
license that ran out since, the `cache_allowed_until` of the server and a check of another device
all pass.
-/

import Mathlib.Logic.Equiv.Basic
import Tunnara.Data.Transition
import Tunnara.License.Decision

namespace Tunnara.License

open Console Transition

/-! ## Decisions of the server -/

structure OfflineDecision where
  cacheAllowedUntil : Option ℤ := none

/-- A decision as `check` returns and stores it. -/
structure CheckedDecision extends LicenseDecision where
  offline : Option OfflineDecision

inductive LicenseError
  | config (message : String)
  | http (message : String)
  | invalid (message : String)
  | serde (message : String)
  | io (message : String)
  | endpointUnavailable (message : String)
  | registrationFile (message : String)
  | structured (step reasonCode message : String)

def LicenseError.toText : LicenseError → String
  | .config message => "configuração inválida: " ++ message
  | .http message => "erro HTTP: " ++ message
  | .invalid message => "licença inválida: " ++ message
  | .serde message => "erro de serialização: " ++ message
  | .io message => "erro de IO: " ++ message
  | .endpointUnavailable message => "endpoint indisponível: " ++ message
  | .registrationFile message => "erro no arquivo de registro: " ++ message
  | .structured step reasonCode message =>
    "falha na etapa " ++ step ++ " (" ++ reasonCode ++ "): " ++ message

section Normalize

variable (chrono : Chrono) (numberText : Number → String)

def normalizeOffline (value : Value) : OfflineDecision :=
  match value.asObject with
  | none => {}
  | some fields =>
    { cacheAllowedUntil := (getField fields "cache_allowed_until").bind chrono.parseDatetime }

def normalizeCompany (value : Value) : CompanyRecord :=
  match value.asObject with
  | none => ⟨none, none, none, none, false⟩
  | some fields =>
    { id := (getField fields "id").map (stringifyValue numberText)
      document := textOf (getFirst fields ["document", "CNPJ"])
      legalName := textOf (getFirst fields ["legal_name", "RAZAOSOCIAL", "RAZAO"])
      email := textOf (getFirst fields ["email", "EMP_EMAIL"])
      reusedExisting := flagOf chrono fields ["reused_existing"] false }

def normalizeApplicationLicense (value : Value) : ApplicationLicenseRecord :=
  match value.asObject with
  | none => ⟨none, none, none, none, none, none⟩
  | some fields =>
    let count := fun name => ((getField fields name).bind Value.asU64).map asU32
    { applicationSlug := textOf (getFirst fields ["application_slug", "slug"])
      status := textOf (getField fields "status")
      maxDevices := count "max_devices"
      devicesInUse := count "devices_in_use"
      devicesAvailable := count "devices_available"
      expiresAt := (getField fields "expires_at").bind chrono.parseDatetime }

def normalizeActivationDecision (value : Value) : Except LicenseError CheckedDecision :=
  match value.asObject with
  | none => .error (.serde "resposta inválida da API de ativação")
  | some fields =>
    let flag := fun name => (getField fields name).map chrono.parseBool
    let text := fun name => textOf (getField fields name)
    let allows := (flag "allowed").getD false
    .ok {
      allowed := (flag "success").getD allows
      decision := (text "decision").getD (if allows then "allowed" else "denied")
      reasonCode := text "reason_code"
      step := text "step"
      message := (text "message").getD "resposta recebida da API de ativação"
      usedOfflineCache := false
      warning := text "warning"
      license := (getField fields "license").map (normalizeLicense chrono numberText)
      applicationLicense := (getField fields "application_license").map
        (normalizeApplicationLicense chrono)
      company := (getField fields "company").map (normalizeCompany chrono numberText)
      device := (getField fields "device").map (normalizeDevice chrono numberText)
      offline := (getField fields "offline").map (normalizeOffline chrono)
      diagnostics := []
      source := "online" }

end Normalize

/-! ## Checks -/

/-- What the service depends on of `LicenseConfig`. -/
structure ServiceConfig extends LicenseConfig where
  offlineMaxAgeDays : ℤ
  (preferResolveActivation allowLegacyFallback : Bool)

/-- What `enrich_input` takes from the machine. -/
structure Machine where
  stationName : String
  /-- `generate_device_key`. -/
  deviceKey : String

/-- A call of `check`, with what the server, the disk and the clock do during it. -/
structure Check where
  companyDocument : String
  input : LicenseCheckInput
  machine : Machine
  /-- The document in the registration file, if one is looked up and found. -/
  registration : Except LicenseError (Option String)
  /-- The body of a successful `resolve_activation`. -/
  activation : Except LicenseError Value
  /-- The body of a successful `company_status`. -/
  status : Except LicenseError Value
  /-- The passes of `evaluate_legacy`. -/
  rounds : List Round
  /-- `Utc::now()` at the writes of the cache: the answer, the answers that are read again, and the
  decision. A write that fails has none. -/
  putPayload : Option ℤ
  putRegistered : List (Option ℤ)
  putDecision : Option ℤ
  /-- A file that is there can be read. -/
  readable : Except LicenseError Unit
  /-- `Utc::now()` at the test of the age. -/
  now : ℤ

def onlyDigits (value : String) : String := String.ofList (value.toList.filter Char.isDigit)

/-- A field of the input, from the machine where it is missing or empty. -/
def orCollected (field : Option String) (collected : String) : Option String :=
  if field.getD "" = "" then some collected else field

def enrichInput (machine : Machine) (input : LicenseCheckInput) : LicenseCheckInput :=
  { input with
    stationName := orCollected input.stationName machine.stationName
    deviceName := orCollected input.deviceName machine.stationName
    deviceKey := orCollected input.deviceKey machine.deviceKey }

/-- The input that `try_offline_cache_or_fail` evaluates an answer for. -/
def anonymousInput : LicenseCheckInput := ⟨none, none, none, none, none, none⟩

namespace Check

variable (check : Check)

def enriched : LicenseCheckInput := enrichInput check.machine check.input

def deviceKey : String := check.enriched.deviceKey.getD ""

/-- The document after the registration file. -/
def document : String :=
  let digits := onlyDigits check.companyDocument
  match check.registration with
  | .ok (some found) => if isBlank digits then found else digits
  | _ => digits

end Check

/-! ## The cache -/

structure CachedLicenseFile where
  cachedAt : ℤ
  decision : Option CheckedDecision
  payload : Option LicenseApiResponse

/-- A file, with the check that wrote it. -/
structure Stored where
  file : CachedLicenseFile
  writer : Check

abbrev Files := String → Option Stored

section Cache

variable (shaFileName : String → String)

/-- `OfflineCache::write`; without a time it fails. -/
def Files.write (files : Files) (writer : Check) (time : Option ℤ)
    (decision : Option CheckedDecision) (payload : Option LicenseApiResponse) : Files :=
  match time with
  | none => files
  | some now => Function.update files (shaFileName writer.document)
      (some ⟨⟨now, decision, payload⟩, writer⟩)

def Files.putPayload (files : Files) (writer : Check) (time : Option ℤ)
    (payload : LicenseApiResponse) : Files := files.write shaFileName writer time none (some payload)

def Files.putDecision (files : Files) (writer : Check) (time : Option ℤ)
    (decision : CheckedDecision) : Files := files.write shaFileName writer time (some decision) none

/-- The writes of `evaluate_legacy`. -/
def Files.putRegistered (files : Files) (writer : Check) (payloads : List LicenseApiResponse) :
    Files :=
  (writer.putRegistered.zip payloads).foldl
    (fun files write => files.putPayload shaFileName writer write.1 write.2) files

end Cache

/-! ## The service -/

/-- What `check` knows before it looks into the cache. -/
inductive Asked
  | refused (err : LicenseError)
  | resolved (decision : CheckedDecision)
  | answered (payload : LicenseApiResponse)
  | failed (err : LicenseError)

section Service

variable (chrono : Chrono) (numberText : Number → String) (shaFileName : String → String)
  (config : ServiceConfig)

def Check.resolveActivation (check : Check) : Except LicenseError CheckedDecision :=
  check.activation.bind (normalizeActivationDecision chrono numberText)

def Check.companyStatus (check : Check) : Except LicenseError LicenseApiResponse :=
  check.status.bind fun answer => match normalizeResponse chrono numberText answer with
    | some payload => .ok payload
    | none => .error (.serde "resposta inválida da API de licença")

/-- The second question of `check`. -/
def Check.askStatus (check : Check) : Asked :=
  match check.companyStatus chrono numberText with
  | .ok payload => .answered payload
  | .error err => .failed err

def Check.ask (check : Check) : Asked :=
  match check.registration with
  | .error err => .refused err
  | .ok _ =>
    if check.document = "" then .refused (.invalid "documento da empresa não informado")
    else if config.preferResolveActivation then
      match check.resolveActivation chrono numberText with
      | .ok decision => .resolved decision
      | .error err =>
        if config.allowLegacyFallback then check.askStatus chrono numberText else .failed err
    else check.askStatus chrono numberText

/-- The answers that `evaluate_legacy` reads and stores again. -/
def registeredPayloads (input : LicenseCheckInput) :
    List Round → LicenseApiResponse → List LicenseApiResponse
  | [], _ => []
  | round :: rounds, payload =>
    match round.rereads chrono numberText config.toLicenseConfig input payload with
    | some (_, registered) => registered :: registeredPayloads input rounds registered
    | none => []

/-- `evaluate_legacy`; the decision has no end of its own. -/
def evaluate (input : LicenseCheckInput) (usedOfflineCache : Bool) (rounds : List Round)
    (payload : LicenseApiResponse) : Option CheckedDecision :=
  (evaluateLegacy chrono numberText config.toLicenseConfig input usedOfflineCache rounds .null
    payload).map fun judged => { judged.decision with offline := some {} }

/-- `signed_duration_since(..).num_days()`. -/
def ageDays (file : CachedLicenseFile) (now : ℤ) : ℤ :=
  Int.tdiv (now - file.cachedAt) (86400 * 10 ^ 9)

/-- A result, `none` while `evaluate_legacy` is at work, and the files then. -/
abbrev Answer := Option (Except LicenseError CheckedDecision) × Files

def tryOfflineCacheOrFail (files : Files) (check : Check) (err : LicenseError) : Answer :=
  match check.readable with
  | .error failure => (some (.error failure), files)
  | .ok () =>
    match files (shaFileName check.document) with
    | none => (some (.error (.structured "offline_cache" "ONLINE_VALIDATION_FAILED_NO_CACHE"
        ("falha online (" ++ err.toText ++
          ") e não existe cache offline para esta licença"))), files)
    | some cached =>
      if config.offlineMaxAgeDays < ageDays cached.file check.now then
        (some (.error (.structured "offline_cache" "OFFLINE_CACHE_EXPIRED"
          "falha online e o cache offline expirou")), files)
      else
        match cached.file.decision with
        | some decision =>
          (some (.ok { decision with
            usedOfflineCache := true
            source := "offline"
            reasonCode := decision.reasonCode.or
              (some "ONLINE_VALIDATION_FAILED_USING_CACHE") }), files)
        | none =>
          match cached.file.payload with
          | some payload =>
            ((evaluate chrono numberText config anonymousInput true check.rounds payload).map
              fun decision => .ok { decision with
                reasonCode := some "ONLINE_VALIDATION_FAILED_USING_CACHE"
                source := "offline" },
              files.putRegistered shaFileName check
                (registeredPayloads chrono numberText config anonymousInput check.rounds payload))
          | none => (some (.error err), files)

def check (files : Files) (check : Check) : Answer :=
  match check.ask chrono numberText config with
  | .refused err => (some (.error err), files)
  | .resolved decision =>
    (some (.ok decision), files.putDecision shaFileName check check.putDecision decision)
  | .answered payload =>
    let files := (files.putPayload shaFileName check check.putPayload payload).putRegistered
      shaFileName check
      (registeredPayloads chrono numberText config check.enriched check.rounds payload)
    match evaluate chrono numberText config check.enriched false check.rounds payload with
    | none => (none, files)
    | some decision =>
      (some (.ok decision), files.putDecision shaFileName check check.putDecision decision)
  | .failed err => tryOfflineCacheOrFail chrono numberText shaFileName config files check err

/-- The files, and the checks so far. -/
structure History where
  files : Files
  past : List Check

def History.empty : History := ⟨fun _ => none, []⟩

def step (history : History) (next : Check) : History :=
  ⟨(check chrono numberText shaFileName config history.files next).2, next :: history.past⟩

end Service

/-! ## What the claim asks of an offline decision -/

def CachedLicenseFile.license (file : CachedLicenseFile) : Option LicenseRecord :=
  match file.decision with
  | some decision => decision.license
  | none => file.payload.map LicenseApiResponse.license

/-- The limit that the server sent. -/
def CachedLicenseFile.cacheAllowedUntil (file : CachedLicenseFile) : Option ℤ :=
  (file.decision.bind CheckedDecision.offline).bind OfflineDecision.cacheAllowedUntil

/-- The device that a stored decision is for; a stored answer is evaluated for one without a key. -/
def Stored.deviceKey (stored : Stored) : String :=
  if stored.file.decision.isSome then stored.writer.deviceKey else ""

/-- The file was written by an earlier check, for the document and the device, and is in force. -/
structure SoundUse (config : ServiceConfig) (past : List Check) (stored : Stored) (check : Check) :
    Prop where
  earlier : stored.writer ∈ past
  elapsed : 0 ≤ check.now - stored.file.cachedAt
  young : ageDays stored.file check.now ≤ config.offlineMaxAgeDays
  unexpired : config.blockOnExpired = true → ∀ license t, stored.file.license = some license →
    license.expiresAt = some t → ¬ t < check.now
  permitted : ∀ t, stored.file.cacheAllowedUntil = some t → ¬ t < check.now
  document : stored.writer.document = check.document
  device : stored.deviceKey = check.deviceKey

section Claim

variable (chrono : Chrono) (numberText : Number → String) (shaFileName : String → String)
  (config : ServiceConfig)

/-- What an allowed decision from the cache rests on is sound. -/
def SoundCheck (history : History) (next : Check) : Prop :=
  ∀ decision, (check chrono numberText shaFileName config history.files next).1 =
      some (.ok decision) → decision.allowed = true → decision.usedOfflineCache = true →
    ∃ stored, history.files (shaFileName next.document) = some stored ∧
      SoundUse config history.past stored next

/-! ## What the code tests -/

/-- The answer that the passes come to rest on, and the pass that decides. -/
def restsOn (input : LicenseCheckInput) :
    List Round → LicenseApiResponse → Option (LicenseApiResponse × Round)
  | [], _ => none
  | round :: rounds, payload =>
    match round.rereads chrono numberText config.toLicenseConfig input payload with
    | some (_, registered) => restsOn input rounds registered
    | none => some (payload, round)

structure FallsBack (files : Files) (next : Check) (stored : Stored) : Prop where
  asked : ∃ err, next.ask chrono numberText config = .failed err
  readable : next.readable = .ok ()
  found : files (shaFileName next.document) = some stored
  young : ageDays stored.file next.now ≤ config.offlineMaxAgeDays

/-- A stored decision allows, or a stored answer passes for a device without a key. -/
def Permits (stored : Stored) (next : Check) : Prop :=
  match stored.file.decision with
  | some decision => decision.allowed = true
  | none => ∃ payload last round, stored.file.payload = some payload ∧
      restsOn chrono numberText config anonymousInput next.rounds payload = some (last, round) ∧
      Passes config.toLicenseConfig anonymousInput last round.now

/-- The clock is not behind the decision, nor past its dates, and the device is the one of then. -/
structure StillGood (config : ServiceConfig) (stored : Stored) (decision : CheckedDecision)
    (next : Check) : Prop where
  before : stored.file.cachedAt ≤ next.now
  expiry : config.blockOnExpired = true → ∀ license ∈ decision.license,
    ∀ t ∈ license.expiresAt, next.now ≤ t
  limit : ∀ offline ∈ decision.offline, ∀ t ∈ offline.cacheAllowedUntil, next.now ≤ t
  device : stored.writer.deviceKey = next.deviceKey

/-- The same for an answer, which is evaluated for a device without a key. -/
structure KeylessGood (config : ServiceConfig) (stored : Stored) (payload : LicenseApiResponse)
    (next : Check) : Prop where
  before : stored.file.cachedAt ≤ next.now
  expiry : config.blockOnExpired = true → ∀ t ∈ payload.license.expiresAt, next.now ≤ t
  device : next.deviceKey = ""

/-- **The condition**: where the check turns to a file, an allowed decision in it is still good, and
an answer that passes is good for a device without a key. -/
structure Careful (history : History) (next : Check) : Prop where
  decision : ∀ stored decision,
    FallsBack chrono numberText shaFileName config history.files next stored →
    stored.file.decision = some decision → decision.allowed = true →
    StillGood config stored decision next
  answer : ∀ stored payload last round,
    FallsBack chrono numberText shaFileName config history.files next stored →
    stored.file.decision = none → stored.file.payload = some payload →
    restsOn chrono numberText config anonymousInput next.rounds payload = some (last, round) →
    Passes config.toLicenseConfig anonymousInput last round.now →
    KeylessGood config stored payload next

/-- Every file was written by a check, under the name of its document. -/
def Filed (history : History) : Prop :=
  ∀ name stored, history.files name = some stored →
    stored.writer ∈ history.past ∧ shaFileName stored.writer.document = name

end Claim

/-! ## Evaluations -/

section Evaluations

variable {chrono : Chrono} {numberText : Number → String} {shaFileName : String → String}
  {config : ServiceConfig} {input : LicenseCheckInput} {usedOfflineCache : Bool}

theorem evaluateLegacy_restsOn (config : ServiceConfig) (usedOfflineCache : Bool)
    (rounds : List Round) (answer : Value) (payload : LicenseApiResponse) :
    (restsOn chrono numberText config input rounds payload = none ∧
      evaluateLegacy chrono numberText config.toLicenseConfig input usedOfflineCache rounds answer
        payload = none) ∨
    ∃ decision last found round,
      restsOn chrono numberText config input rounds payload = some (last, round) ∧
      evaluateLegacy chrono numberText config.toLicenseConfig input usedOfflineCache rounds answer
        payload = some ⟨decision, found, last, round⟩ ∧
      Decides config.toLicenseConfig input usedOfflineCache last round.now decision := by
  induction rounds generalizing answer payload with
  | nil => exact .inl ⟨rfl, rfl⟩
  | cons round rounds ih =>
    rw [restsOn]
    have hpass := @evaluateLegacy_cons chrono numberText config.toLicenseConfig input
      usedOfflineCache round rounds answer payload
    rcases hpass with
      ⟨next, registered, hreread, heq⟩ | ⟨hreread, decision, heq, hdecides⟩
    · rw [hreread, heq]
      exact ih next registered
    · rw [hreread, heq]
      exact .inr ⟨decision, payload, answer, round, rfl, rfl, hdecides⟩

variable {payload : LicenseApiResponse} {decision : CheckedDecision} {next : Check}

theorem evaluate_eq_some {rounds : List Round}
    (h : evaluate chrono numberText config input usedOfflineCache rounds payload = some decision) :
    ∃ last round, restsOn chrono numberText config input rounds payload = some (last, round) ∧
      Decides config.toLicenseConfig input usedOfflineCache last round.now
        decision.toLicenseDecision := by
  unfold evaluate at h
  rcases evaluateLegacy_restsOn config usedOfflineCache rounds .null payload with
    ⟨-, heq⟩ | ⟨judged, last, found, round, hrests, heq, hdecides⟩
  · rw [heq] at h
    cases h
  · rw [heq] at h
    cases h
    exact ⟨last, round, hrests, hdecides⟩

theorem evaluate_of_restsOn {usedOfflineCache : Bool} {rounds : List Round}
    {last : LicenseApiResponse} {round : Round}
    (h : restsOn chrono numberText config input rounds payload = some (last, round)) :
    ∃ decision, evaluate chrono numberText config input usedOfflineCache rounds payload =
        some decision ∧
      Decides config.toLicenseConfig input usedOfflineCache last round.now
        decision.toLicenseDecision := by
  unfold evaluate
  rcases evaluateLegacy_restsOn config usedOfflineCache rounds .null payload with
    ⟨hnone, -⟩ | ⟨judged, rested, found, other, hrests, heq, hdecides⟩
  · rw [hnone] at h
    cases h
  · rw [hrests] at h
    cases h
    rw [heq]
    exact ⟨_, rfl, hdecides⟩

/-! ## Decisions from the cache -/

theorem usedOfflineCache_of_activation {value : Value}
    (h : normalizeActivationDecision chrono numberText value = .ok decision) :
    decision.usedOfflineCache = false := by
  unfold normalizeActivationDecision at h
  split at h
  · cases h
  · cases h
    rfl

theorem usedOfflineCache_of_resolved (h : next.ask chrono numberText config = .resolved decision) :
    decision.usedOfflineCache = false := by
  have hstatus : next.askStatus chrono numberText ≠ .resolved decision := by
    unfold Check.askStatus
    split <;> exact nofun
  unfold Check.ask at h
  split at h
  · cases h
  · split at h
    · cases h
    · split at h
      · split at h
        next found hfound =>
          cases h
          unfold Check.resolveActivation at hfound
          cases hbody : next.activation with
          | error err =>
            rw [hbody] at hfound
            cases hfound
          | ok value =>
            rw [hbody] at hfound
            exact usedOfflineCache_of_activation hfound
        · split at h
          · exact absurd h hstatus
          · cases h
      · exact absurd h hstatus

theorem tryOfflineCacheOrFail_iff {files : Files} {err : LicenseError} :
    (∃ decision, (tryOfflineCacheOrFail chrono numberText shaFileName config files next err).1 =
        some (.ok decision) ∧ decision.allowed = true ∧ decision.usedOfflineCache = true) ↔
    ∃ stored, next.readable = .ok () ∧ files (shaFileName next.document) = some stored ∧
      ageDays stored.file next.now ≤ config.offlineMaxAgeDays ∧
      Permits chrono numberText config stored next := by
  unfold tryOfflineCacheOrFail Permits
  constructor
  · rintro ⟨decision, h, hallowed, hused⟩
    split at h
    · cases h
    next hreadable =>
      split at h
      · cases h
      next stored hfound =>
        split at h
        · cases h
        next hyoung =>
          refine ⟨stored, hreadable, hfound, Int.not_lt.1 hyoung, ?_⟩
          split at h
          next kept hkept =>
            cases h
            exact hallowed
          next hkept =>
            split at h
            next payload hpayload =>
              obtain ⟨found, hfound, heq⟩ := Option.map_eq_some_iff.1 h
              cases heq
              obtain ⟨last, round, hrests, hdecides⟩ := evaluate_eq_some hfound
              exact ⟨payload, last, round, hpayload, hrests, hdecides.allowed.1 hallowed⟩
            · cases h
  · rintro ⟨stored, hreadable, hfound, hyoung, hpermits⟩
    rw [hreadable, hfound]
    dsimp only
    rw [if_neg (Int.not_lt.2 hyoung)]
    cases hkept : stored.file.decision with
    | some kept =>
      rw [hkept] at hpermits
      exact ⟨_, rfl, hpermits, rfl⟩
    | none =>
      rw [hkept] at hpermits
      obtain ⟨payload, last, round, hpayload, hrests, hpasses⟩ := hpermits
      obtain ⟨decision, hdecision, hdecides⟩ := evaluate_of_restsOn hrests
      rw [hpayload]
      dsimp only
      rw [hdecision]
      exact ⟨_, rfl, hdecides.allowed.2 hpasses, hdecides.flag⟩

theorem check_offline_iff {files : Files} :
    (∃ decision, (check chrono numberText shaFileName config files next).1 = some (.ok decision) ∧
      decision.allowed = true ∧ decision.usedOfflineCache = true) ↔
    ∃ stored, FallsBack chrono numberText shaFileName config files next stored ∧
      Permits chrono numberText config stored next := by
  have honline : (∀ err, next.ask chrono numberText config ≠ .failed err) →
      ¬ ∃ stored, FallsBack chrono numberText shaFileName config files next stored ∧
        Permits chrono numberText config stored next := by
    rintro hask ⟨stored, hfalls, -⟩
    obtain ⟨err, herr⟩ := hfalls.asked
    exact hask err herr
  unfold check
  cases hask : next.ask chrono numberText config with
  | refused err =>
    apply iff_of_false _ (honline (by simp [hask]))
    rintro ⟨decision, h, -⟩
    cases h
  | resolved decision =>
    apply iff_of_false _ (honline (by simp [hask]))
    rintro ⟨found, h, -, hused⟩
    cases h
    rw [usedOfflineCache_of_resolved hask] at hused
    cases hused
  | answered payload =>
    apply iff_of_false _ (honline (by simp [hask]))
    rintro ⟨found, h, -, hused⟩
    dsimp only at h
    split at h
    · cases h
    next decision hdecision =>
      cases h
      obtain ⟨last, round, -, hdecides⟩ := evaluate_eq_some hdecision
      rw [hdecides.flag] at hused
      cases hused
  | failed err =>
    apply tryOfflineCacheOrFail_iff.trans
    constructor
    · rintro ⟨stored, hreadable, hfound, hyoung, hpermits⟩
      exact ⟨stored, ⟨⟨err, hask⟩, hreadable, hfound, hyoung⟩, hpermits⟩
    · rintro ⟨stored, hfalls, hpermits⟩
      exact ⟨stored, hfalls.readable, hfalls.found, hfalls.young, hpermits⟩

/-! ## Histories -/

/-- The files are the old ones, but for those that the check writes. -/
def Files.WrittenBy (shaFileName : String → String) (writer : Check) (old files : Files) : Prop :=
  ∀ name stored, files name = some stored →
    old name = some stored ∨ stored.writer = writer ∧ shaFileName writer.document = name

theorem Files.WrittenBy.refl (writer : Check) (files : Files) :
    files.WrittenBy shaFileName writer files := fun _ _ h => .inl h

theorem Files.WrittenBy.trans {writer : Check} {first second third : Files}
    (h : first.WrittenBy shaFileName writer second)
    (hnext : second.WrittenBy shaFileName writer third) :
    first.WrittenBy shaFileName writer third := by
  intro name stored hstored
  rcases hnext name stored hstored with hold | hnew
  · exact h name stored hold
  · exact .inr hnew

theorem Files.writtenBy_write (files : Files) (writer : Check) (time : Option ℤ)
    (decision : Option CheckedDecision) (payload : Option LicenseApiResponse) :
    files.WrittenBy shaFileName writer (files.write shaFileName writer time decision payload) := by
  intro name stored h
  cases time with
  | none => exact .inl h
  | some now =>
    change Function.update files _ _ name = some stored at h
    by_cases hname : name = shaFileName writer.document
    · subst hname
      rw [Function.update_self] at h
      cases h
      exact .inr ⟨rfl, rfl⟩
    · rw [Function.update_of_ne hname] at h
      exact .inl h

theorem Files.writtenBy_putRegistered (shaFileName : String → String) (files : Files) (writer : Check)
    (payloads : List LicenseApiResponse) :
    files.WrittenBy shaFileName writer (files.putRegistered shaFileName writer payloads) := by
  unfold Files.putRegistered
  generalize writer.putRegistered.zip payloads = writes
  induction writes generalizing files with
  | nil => exact .refl writer files
  | cons write writes ih => exact (files.writtenBy_write writer _ _ _).trans (ih _)

theorem writtenBy_tryOfflineCacheOrFail (files : Files) (next : Check) (err : LicenseError) :
    files.WrittenBy shaFileName next
      (tryOfflineCacheOrFail chrono numberText shaFileName config files next err).2 := by
  unfold tryOfflineCacheOrFail
  split
  · exact .refl next files
  · split
    · exact .refl next files
    · split
      · exact .refl next files
      · split
        · exact .refl next files
        · split
          · exact Files.writtenBy_putRegistered shaFileName files next _
          · exact .refl next files

theorem writtenBy_check {files : Files} {next : Check} :
    files.WrittenBy shaFileName next
      (check chrono numberText shaFileName config files next).2 := by
  unfold check
  split
  · exact .refl next files
  · exact files.writtenBy_write next _ _ _
  next payload _ =>
    have hanswers := (files.writtenBy_write next next.putPayload none (some payload)).trans
      (Files.writtenBy_putRegistered shaFileName _ next
        (registeredPayloads chrono numberText config next.enriched next.rounds payload))
    split
    · exact hanswers
    · exact hanswers.trans (Files.writtenBy_write _ next _ _ _)
  · exact writtenBy_tryOfflineCacheOrFail files next _

theorem filed_empty : Filed shaFileName History.empty := by
  intro name stored h
  cases h

theorem filed_step {history : History} (h : Filed shaFileName history) {next : Check} :
    Filed shaFileName (step chrono numberText shaFileName config history next) := by
  intro name stored hstored
  rcases writtenBy_check name stored hstored with hold | ⟨hwriter, hname⟩
  · obtain ⟨hpast, hfiled⟩ := h name stored hold
    exact ⟨List.mem_cons_of_mem next hpast, hfiled⟩
  · rw [hwriter]
    exact ⟨List.mem_cons_self, hname⟩

theorem soundUse_decision_iff {past : List Check} {stored : Stored}
    (hdecision : stored.file.decision = some decision) (hpast : stored.writer ∈ past)
    (hdocument : stored.writer.document = next.document)
    (hyoung : ageDays stored.file next.now ≤ config.offlineMaxAgeDays) :
    SoundUse config past stored next ↔ StillGood config stored decision next := by
  have hlicense : stored.file.license = decision.license := by
    simp [CachedLicenseFile.license, hdecision]
  have huntil : stored.file.cacheAllowedUntil =
      decision.offline.bind OfflineDecision.cacheAllowedUntil := by
    simp [CachedLicenseFile.cacheAllowedUntil, hdecision]
  have hkey : stored.deviceKey = stored.writer.deviceKey := by simp [Stored.deviceKey, hdecision]
  constructor
  · intro h
    exact {
      before := Int.sub_nonneg.1 h.elapsed
      expiry := fun hblock license hmem t ht =>
        Int.not_lt.1 (h.unexpired hblock license t (hlicense.trans hmem) ht)
      limit := by
        intro offline hmem t ht
        apply Int.not_lt.1 (h.permitted t _)
        rw [huntil, Option.mem_def.1 hmem]
        exact ht
      device := hkey.symm.trans h.device }
  · intro h
    exact {
      earlier := hpast
      elapsed := Int.sub_nonneg.2 h.before
      young := hyoung
      unexpired := fun hblock license t hmem ht =>
        Int.not_lt.2 (h.expiry hblock license (hlicense.symm.trans hmem) t ht)
      permitted := by
        intro t ht
        rw [huntil, Option.bind_eq_some_iff] at ht
        obtain ⟨offline, hmem, ht⟩ := ht
        exact Int.not_lt.2 (h.limit offline hmem t ht)
      document := hdocument
      device := hkey.trans h.device }

theorem soundUse_answer_iff {past : List Check} {stored : Stored}
    (hdecision : stored.file.decision = none) (hpayload : stored.file.payload = some payload)
    (hpast : stored.writer ∈ past) (hdocument : stored.writer.document = next.document)
    (hyoung : ageDays stored.file next.now ≤ config.offlineMaxAgeDays) :
    SoundUse config past stored next ↔ KeylessGood config stored payload next := by
  have hlicense : stored.file.license = some payload.license := by
    simp [CachedLicenseFile.license, hdecision, hpayload]
  have hkey : stored.deviceKey = "" := by simp [Stored.deviceKey, hdecision]
  constructor
  · intro h
    exact {
      before := Int.sub_nonneg.1 h.elapsed
      expiry := fun hblock t ht => Int.not_lt.1 (h.unexpired hblock payload.license t hlicense ht)
      device := h.device.symm.trans hkey }
  · intro h
    exact {
      earlier := hpast
      elapsed := Int.sub_nonneg.2 h.before
      young := hyoung
      unexpired := by
        intro hblock license t hmem ht
        rw [hlicense, Option.some.injEq] at hmem
        subst hmem
        exact Int.not_lt.2 (h.expiry hblock t ht)
      permitted := by
        intro t ht
        simp [CachedLicenseFile.cacheAllowedUntil, hdecision] at ht
      document := hdocument
      device := hkey.trans h.device.symm }

theorem soundCheck_iff {history : History} (hname : Function.Injective shaFileName)
    (hfiled : Filed shaFileName history) :
    SoundCheck chrono numberText shaFileName config history next ↔
      Careful chrono numberText shaFileName config history next := by
  constructor
  · intro hsound
    have huse : ∀ stored, FallsBack chrono numberText shaFileName config history.files next stored →
        Permits chrono numberText config stored next →
        SoundUse config history.past stored next := by
      intro stored hfalls hpermits
      obtain ⟨decision, hdecision, hallowed, hused⟩ := check_offline_iff.2 ⟨stored, hfalls, hpermits⟩
      obtain ⟨found, hfound, huse⟩ := hsound decision hdecision hallowed hused
      rw [hfalls.found] at hfound
      cases hfound
      exact huse
    constructor
    · intro stored decision hfalls hdecision hallowed
      have hsound := huse stored hfalls (by simp [Permits, hdecision, hallowed])
      exact (soundUse_decision_iff hdecision hsound.earlier hsound.document hfalls.young).1 hsound
    · intro stored payload last round hfalls hdecision hpayload hrests hpasses
      have hpermits : Permits chrono numberText config stored next := by
        unfold Permits
        rw [hdecision]
        exact ⟨payload, last, round, hpayload, hrests, hpasses⟩
      have hsound := huse stored hfalls hpermits
      exact (soundUse_answer_iff hdecision hpayload hsound.earlier hsound.document hfalls.young).1
        hsound
  · intro hcareful decision hdecision hallowed hused
    obtain ⟨stored, hfalls, hpermits⟩ :=
      check_offline_iff.1 ⟨decision, hdecision, hallowed, hused⟩
    obtain ⟨hpast, hdocument⟩ := hfiled _ stored hfalls.found
    refine ⟨stored, hfalls.found, ?_⟩
    unfold Permits at hpermits
    cases hkept : stored.file.decision with
    | some kept =>
      rw [hkept] at hpermits
      apply (soundUse_decision_iff hkept hpast (hname hdocument) hfalls.young).2
      exact hcareful.decision stored kept hfalls hkept hpermits
    | none =>
      rw [hkept] at hpermits
      obtain ⟨payload, last, round, hpayload, hrests, hpasses⟩ := hpermits
      apply (soundUse_answer_iff hkept hpayload hpast (hname hdocument) hfalls.young).2
      exact hcareful.answer stored payload last round hfalls hkept hpayload hrests hpasses

end Evaluations

/-- **When offline decisions are sound**: in a history each check is, exactly if each is careful. -/
theorem soundChecks_iff (chrono : Chrono) (numberText : Number → String)
    (shaFileName : String → String) (hname : Function.Injective shaFileName)
    (config : ServiceConfig) (checks : List Check) :
    Along (step chrono numberText shaFileName config)
        (SoundCheck chrono numberText shaFileName config) History.empty checks ↔
      Along (step chrono numberText shaFileName config)
        (Careful chrono numberText shaFileName config) History.empty checks := by
  constructor
  · intro h
    apply h.mono_of_invariant (fun _ _ hfiled => (soundCheck_iff hname hfiled).1)
    · exact fun _ next hfiled => filed_step hfiled
    · exact filed_empty
  · intro h
    apply h.mono_of_invariant (fun _ _ hfiled => (soundCheck_iff hname hfiled).2)
    · exact fun _ next hfiled => filed_step hfiled
    · exact filed_empty

/-! ## A shop without its server -/

/-- `sha256` on the document of the shop. -/
def shopFileName : String → String :=
  Equiv.swap "12345678000195" "ae9351af0d397d503ea2ec21addc17e364b940411cfa37d8e8874c06b550a40b"

def shopConfig : ServiceConfig := { plainConfig with
  offlineMaxAgeDays := 15
  preferResolveActivation := true
  allowLegacyFallback := true }

/-- A check of the shop on the device, at the time; the server answers, or fails. -/
def shopCheck (key : String) (answer : Except LicenseError Value) (now : ℤ) : Check where
  companyDocument := "12.345.678/0001-95"
  input := station key
  machine := ⟨"PDV-01", "k0"⟩
  registration := .ok none
  activation := answer
  status := .error (.http "offline")
  rounds := []
  putPayload := none
  putRegistered := []
  putDecision := some now
  readable := .ok ()
  now

/-- The server allows, with a license and a limit that run to the new year, if at all. -/
def allowing (license offline : List (String × Value)) : Except LicenseError Value :=
  .ok (.object [("success", .bool true), ("license", .object license), ("offline", .object offline)])

def toNewYear (name : String) : List (String × Value) := [(name, .string "2027-01-01T00:00:00Z")]

/-- 28 December 2026, the day after, and 5 January 2027. -/
def december : ℤ := 1798416000000000000

def nextDay : ℤ := 1798502400000000000

def january : ℤ := 1799107200000000000

def fails : Except LicenseError Value := .error (.http "offline")

/-- The shop asks the server, which allows, and asks again when it fails. -/
def twoChecks (license offline : List (String × Value)) (first second : ℤ) (key : String) :
    List Check :=
  [shopCheck "k1" (allowing license offline) first, shopCheck key fails second]

/-- On the next day the license, the limit and the device are as they were. -/
theorem soundChecks_shop :
    Along (step plainChrono numberText shopFileName shopConfig)
      (SoundCheck plainChrono numberText shopFileName shopConfig) History.empty
      (twoChecks (toNewYear "expires_at") (toNewYear "cache_allowed_until") december nextDay
        "k1") := by
  apply (soundChecks_iff plainChrono numberText shopFileName (Equiv.injective _) shopConfig _).2
  refine ⟨⟨?_, ?_⟩, ⟨?_, ?_⟩, trivial⟩
  · intro stored decision hfalls
    cases hfalls.found
  · intro stored payload last round hfalls
    cases hfalls.found
  · intro stored decision hfalls hdecision _
    cases hfalls.found
    cases hdecision
    exact {
      before := by decide
      expiry := by
        intro _ license hlicense t ht
        cases hlicense
        cases ht
        decide
      limit := by
        intro offline hoffline t ht
        cases hoffline
        cases ht
        decide
      device := rfl }
  · intro stored payload last round hfalls hdecision
    cases hfalls.found
    cases hdecision

/-- A decision of December is handed out in January, when its license or the limit is over; with the
clock set back; and to another device. -/
theorem not_soundChecks :
    ¬ Along (step plainChrono numberText shopFileName shopConfig)
      (SoundCheck plainChrono numberText shopFileName shopConfig) History.empty
      (twoChecks (toNewYear "expires_at") [] december january "k1") ∧
    ¬ Along (step plainChrono numberText shopFileName shopConfig)
      (SoundCheck plainChrono numberText shopFileName shopConfig) History.empty
      (twoChecks [] (toNewYear "cache_allowed_until") december january "k1") ∧
    ¬ Along (step plainChrono numberText shopFileName shopConfig)
      (SoundCheck plainChrono numberText shopFileName shopConfig) History.empty
      (twoChecks [] [] january december "k1") ∧
    ¬ Along (step plainChrono numberText shopFileName shopConfig)
      (SoundCheck plainChrono numberText shopFileName shopConfig) History.empty
      (twoChecks [] [] december nextDay "k2") := by
  refine ⟨fun h => ?_, fun h => ?_, fun h => ?_, fun h => ?_⟩
  · obtain ⟨stored, hstored, huse⟩ := h.2.1 _ rfl rfl rfl
    cases hstored
    have hlate : ¬ (1798761600000000000 < january) := huse.unexpired rfl _ _ rfl rfl
    exact hlate (by decide)
  · obtain ⟨stored, hstored, huse⟩ := h.2.1 _ rfl rfl rfl
    cases hstored
    have hlate : ¬ (1798761600000000000 < january) := huse.permitted _ rfl
    exact hlate (by decide)
  · obtain ⟨stored, hstored, huse⟩ := h.2.1 _ rfl rfl rfl
    cases hstored
    have hback : 0 ≤ december - january := huse.elapsed
    exact absurd hback (by decide)
  · obtain ⟨stored, hstored, huse⟩ := h.2.1 _ rfl rfl rfl
    cases hstored
    have hkeys : "k1" = "k2" := huse.device
    exact absurd hkeys (by decide)

end Tunnara.License
