/-
# When a license is allowed

`evaluate_legacy` asks the server again after it has registered a company or a device, and
judges the last answer. It denies for a status of 0, a blocked company, a past expiry, a
missing or a blocked device; it does not ask whether the license is active, and takes a
device without a key for one with the empty key.
-/

import Tunnara.License.Answer

namespace Tunnara.License

open Console

/-! ## Decisions -/

/-- What the decision depends on of `LicenseConfig`. -/
structure LicenseConfig where
  warnBeforeExpirationInDays : ℤ
  (autoRegisterCompanyOnMissing autoRegisterDeviceOnMissing autoUpdateDeviceName : Bool)
  (blockOnCompanyBlocked blockOnDeviceBlocked blockOnDeviceMissing blockOnExpired : Bool)

/-- What it depends on of `LicenseCheckInput`. -/
structure LicenseCheckInput where
  (deviceKey deviceName stationName : Option String)
  (allowCompanyAutoCreate allowDeviceAutoCreate allowDeviceAutoUpdate : Option Bool)

structure ApplicationLicenseRecord where
  (applicationSlug status : Option String)
  (maxDevices devicesInUse devicesAvailable : Option ℕ)
  expiresAt : Option ℤ

structure CompanyRecord where
  (id document legalName email : Option String)
  reusedExisting : Bool

structure DiagnosticItem where
  (step code message : String)

structure LicenseDecision where
  allowed : Bool
  decision : String
  (reasonCode step : Option String)
  message : String
  usedOfflineCache : Bool
  warning : Option String
  license : Option LicenseRecord
  applicationLicense : Option ApplicationLicenseRecord
  company : Option CompanyRecord
  device : Option DeviceRecord
  diagnostics : List DiagnosticItem
  source : String

def applicationFromLegacy (license : LicenseRecord) : ApplicationLicenseRecord where
  applicationSlug := license.applicationSlug
  status := some (if license.blocked then "blocked" else if license.active then "active"
    else "inactive")
  maxDevices := license.maxDevices
  devicesInUse := license.devicesInUse
  devicesAvailable := license.devicesAvailable
  expiresAt := license.expiresAt

def companyFromLegacy (license : LicenseRecord) : CompanyRecord where
  id := none
  document := license.document
  legalName := license.companyName
  email := license.companyEmail
  reusedExisting := false

def sourceLabel (usedOfflineCache : Bool) : String := if usedOfflineCache then "offline" else "online"

def deny (message reasonCode step : String) (usedOfflineCache : Bool) (license : LicenseRecord)
    (device : Option DeviceRecord) (diagnostics : List DiagnosticItem) : LicenseDecision where
  allowed := false
  decision := "denied"
  reasonCode := some reasonCode
  step := some step
  message
  usedOfflineCache
  warning := none
  license := some license
  applicationLicense := some (applicationFromLegacy license)
  company := some (companyFromLegacy license)
  device
  diagnostics
  source := sourceLabel usedOfflineCache

def findDevice (license : LicenseRecord) (deviceKey : String) : Option DeviceRecord :=
  license.devices.find? fun device => device.deviceKey.getD "" = deviceKey

/-! ## The evaluation -/

/-- What the server and the clock do in one pass of `evaluate_legacy`. -/
structure Round where
  /-- The registration of the company or of the device. -/
  registered : Except String Unit
  /-- The answer to the `company_status` after it, if there is one. -/
  status : Option Value
  /-- `Utc::now()` at the check of the expiry. -/
  now : ℤ
  renamed : Except String Unit
  /-- `Utc::now()` at the warning. -/
  later : ℤ

/-- A decision, with the answer and the round it rests on. -/
structure Judged where
  decision : LicenseDecision
  answer : Value
  payload : LicenseApiResponse
  round : Round

/-- What a failed call adds to the diagnostics. -/
def diagnose (step code : String) : Except String Unit → List DiagnosticItem
  | .ok () => []
  | .error message => [⟨step, code, message⟩]

section Evaluate

variable (chrono : Chrono) (numberText : Number → String) (config : LicenseConfig)
  (input : LicenseCheckInput) (usedOfflineCache : Bool)

/-- The answer after a registration that went through. -/
def Round.reread (round : Round) : Option (Value × LicenseApiResponse) :=
  match round.registered, round.status with
  | .ok (), some answer => (normalizeResponse chrono numberText answer).map fun payload =>
    (answer, payload)
  | _, _ => none

def denyMissingCompany (payload : LicenseApiResponse) (diagnostics : List DiagnosticItem) :
    LicenseDecision :=
  let message := payload.message.getD "empresa não cadastrada no serviço de licenciamento"
  deny message "COMPANY_NOT_FOUND" "resolve_company" usedOfflineCache payload.license none diagnostics

def expirationWarning (license : LicenseRecord) (later : ℤ) : Option String :=
  license.expiresAt.bind fun expiresAt =>
    let daysLeft := Int.tdiv (expiresAt - later) (86400 * 10 ^ 9)
    if 0 ≤ daysLeft ∧ daysLeft ≤ config.warnBeforeExpirationInDays then
      some ("A licença vence em " ++ toString daysLeft ++ " dia(s).")
    else none

def allow (license : LicenseRecord) (device : Option DeviceRecord) (later : ℤ)
    (diagnostics : List DiagnosticItem) : LicenseDecision where
  allowed := true
  decision := "allowed"
  reasonCode := some (if usedOfflineCache then "ONLINE_VALIDATION_FAILED_USING_CACHE"
    else "LICENSE_VALID")
  step := some "validate_license"
  message := if usedOfflineCache then "licença validada com cache offline"
    else "licença validada com sucesso"
  usedOfflineCache
  warning := expirationWarning config license later
  license := some license
  applicationLicense := some (applicationFromLegacy license)
  company := some (companyFromLegacy license)
  device
  diagnostics
  source := sourceLabel usedOfflineCache

/-- What follows when the device is known or need not be. -/
def decideDevice (round : Round) (license : LicenseRecord) (device : Option DeviceRecord)
    (diagnostics : List DiagnosticItem) : LicenseDecision :=
  match device with
  | none => allow config usedOfflineCache license none round.later diagnostics
  | some current =>
    if current.blocked && config.blockOnDeviceBlocked then
      deny "dispositivo bloqueado para esta licença" "DEVICE_BLOCKED" "validate_device"
        usedOfflineCache license (some current) diagnostics
    else
      let deviceName := (input.stationName.or input.deviceName).getD ""
      let renames := input.allowDeviceAutoUpdate.getD config.autoUpdateDeviceName &&
        current.id.isSome && current.deviceName.any (· ≠ deviceName)
      allow config usedOfflineCache license (some current) round.later (diagnostics ++
        if renames then diagnose "update_device" "DEVICE_AUTO_UPDATE_FAILED" round.renamed else [])

/-- `evaluate_legacy`, a round for each call of it; `none` while the rounds do not reach a
decision. -/
def evaluateLegacy : List Round → Value → LicenseApiResponse → Option Judged
  | [], _, _ => none
  | round :: rounds, answer, payload =>
    let judge := fun decision => some (⟨decision, answer, payload, round⟩ : Judged)
    if payload.status = 0 then
      if input.allowCompanyAutoCreate.getD config.autoRegisterCompanyOnMissing then
        match round.reread chrono numberText with
        | some (next, registered) => evaluateLegacy rounds next registered
        | none => judge (denyMissingCompany usedOfflineCache payload
            (diagnose "register_company" "COMPANY_AUTO_CREATE_FAILED" round.registered))
      else judge (denyMissingCompany usedOfflineCache payload [])
    else if payload.license.blocked && config.blockOnCompanyBlocked then
      judge (deny "empresa bloqueada no serviço de licenciamento" "COMPANY_BLOCKED"
        "validate_company" usedOfflineCache payload.license none [])
    else if payload.license.expiresAt.any (· < round.now) && config.blockOnExpired then
      judge (deny "licença expirada" "LICENSE_EXPIRED" "validate_license" usedOfflineCache
        payload.license none [])
    else
      let device := findDevice payload.license (input.deviceKey.getD "")
      let creates := device.isNone &&
        input.allowDeviceAutoCreate.getD config.autoRegisterDeviceOnMissing
      match (if creates then round.reread chrono numberText else none) with
      | some (next, registered) => evaluateLegacy rounds next registered
      | none =>
        let diagnostics :=
          if creates then diagnose "register_device" "DEVICE_AUTO_CREATE_FAILED" round.registered
          else []
        if device.isNone && config.blockOnDeviceMissing then
          judge (deny "dispositivo não autorizado para esta licença" "DEVICE_NOT_FOUND"
            "resolve_device" usedOfflineCache payload.license none diagnostics)
        else judge (decideDevice config input usedOfflineCache round payload.license device
          diagnostics)

/-- What a pass reads again before it decides. -/
def Round.rereads (round : Round) (payload : LicenseApiResponse) :
    Option (Value × LicenseApiResponse) :=
  if payload.status = 0 then
    if input.allowCompanyAutoCreate.getD config.autoRegisterCompanyOnMissing then
      round.reread chrono numberText
    else none
  else if payload.license.blocked && config.blockOnCompanyBlocked then none
  else if payload.license.expiresAt.any (· < round.now) && config.blockOnExpired then none
  else if (findDevice payload.license (input.deviceKey.getD "")).isNone &&
      input.allowDeviceAutoCreate.getD config.autoRegisterDeviceOnMissing then
    round.reread chrono numberText
  else none

end Evaluate

/-! ## What the claim asks of an answer -/

/-- An expiry date as one of the formats that the parser names. -/
inductive Expiry
  | instant (t : ℤ)
  /-- A reading of the local clock. -/
  | reading (n : ℤ)
  | date (d : ℤ)

def Expiry.Past (chrono : Chrono) (now : ℤ) : Expiry → Prop
  | .instant t => t < now
  | .reading n => chrono.naivePast n now
  | .date d => chrono.datePast d now

/-- The date in the first format that fits. -/
def Chrono.readExpiry (chrono : Chrono) (value : Value) : Option Expiry := do
  let raw ← value.asStr
  ((chrono.rfc3339 raw).map .instant).or
    (((chrono.withOffset raw "%Y-%m-%d %H:%M:%S%:z").map .instant).or
      (((chrono.naive raw "%Y-%m-%d %H:%M:%S").map .reading).or
        (((chrono.naive raw "%d/%m/%Y %H:%M:%S").map .reading).or
          ((chrono.date raw "%Y-%m-%d").map .date))))

def licenseFields (answer : Value) : List (String × Value) :=
  ((answer.asObject.map fun fields => (readSchema fields).2.2).bind Value.asObject).getD []

/-- The date under `expires_at`, else the one under `DATA_VAL_LIC`. -/
def carriedExpiry (chrono : Chrono) (answer : Value) : Option Expiry :=
  ((getField (licenseFields answer) "expires_at").bind chrono.readExpiry).or
    ((getField (licenseFields answer) "DATA_VAL_LIC").bind chrono.readExpiry)

/-- The number under `status` or `STATUS`. -/
def answerStatus (answer : Value) : ℤ := ((answer.asObject.map readSchema).map Prod.fst).getD 0

structure Valid (chrono : Chrono) (config : LicenseConfig) (input : LicenseCheckInput)
    (answer : Value) (license : LicenseRecord) (now : ℤ) : Prop where
  status : answerStatus answer ≠ 0
  active : license.active = true
  unblocked : config.blockOnCompanyBlocked = true → license.blocked = false
  current : config.blockOnExpired = true → ∀ expiry, carriedExpiry chrono answer = some expiry →
    ¬ expiry.Past chrono now
  listed : config.blockOnDeviceMissing = true → ∃ device ∈ license.devices, ∃ key ≠ "",
    device.deviceKey = some key ∧ input.deviceKey = some key
  deviceUnblocked : config.blockOnDeviceBlocked = true → ∀ device key, key ≠ "" →
    input.deviceKey = some key → findDevice license key = some device → device.blocked = false

/-! ## What the code checks -/

/-- The checks of `evaluate_legacy`. -/
structure Passes (config : LicenseConfig) (input : LicenseCheckInput)
    (payload : LicenseApiResponse) (now : ℤ) : Prop where
  status : payload.status ≠ 0
  company : config.blockOnCompanyBlocked = true → payload.license.blocked = false
  expiry : config.blockOnExpired = true → ∀ t, payload.license.expiresAt = some t → now ≤ t
  device : config.blockOnDeviceMissing = true →
    (findDevice payload.license (input.deviceKey.getD "")).isSome
  deviceBlocked : config.blockOnDeviceBlocked = true → ∀ device,
    findDevice payload.license (input.deviceKey.getD "") = some device → device.blocked = false

/-- How a date gets lost: it has no time of day, it is a local time that the clock skips or
repeats, or `expires_at` stands before it and cannot be read. -/
inductive Lost (chrono : Chrono) (answer : Value) : Expiry → Prop
  | date (d : ℤ) : Lost chrono answer (.date d)
  | reading (n : ℤ) (h : ∀ t, chrono.fromLocal n ≠ .single t) : Lost chrono answer (.reading n)
  | shadowed (expiry : Expiry) (v : Value)
      (hfield : getField (licenseFields answer) "expires_at" = some v)
      (h : chrono.readExpiry v = none) : Lost chrono answer expiry

/-- **The condition**: where the checks pass, the license is active, no past date got lost, and
a device that must be listed has a key. -/
structure Sufficient (chrono : Chrono) (config : LicenseConfig) (input : LicenseCheckInput)
    (answer : Value) (license : LicenseRecord) (now : ℤ) : Prop where
  active : license.active = true
  kept : config.blockOnExpired = true → ∀ expiry, carriedExpiry chrono answer = some expiry →
    Lost chrono answer expiry → ¬ expiry.Past chrono now
  keyed : config.blockOnDeviceMissing = true → input.deviceKey.getD "" ≠ ""

/-! ## The checks decide -/

variable {round : Round} {payload final : LicenseApiResponse} {license : LicenseRecord}
  {diagnostics : List DiagnosticItem}

section Checks

variable {chrono : Chrono} {numberText : Number → String} {config : LicenseConfig}
  {input : LicenseCheckInput} {usedOfflineCache : Bool}

theorem reread_eq_some {next : Value} (h : round.reread chrono numberText = some (next, payload)) :
    normalizeResponse chrono numberText next = some payload := by
  unfold Round.reread at h
  split at h
  next answer _ _ =>
    obtain ⟨found, hfound, heq⟩ := Option.map_eq_some_iff.1 h
    cases heq
    exact hfound
  · cases h

theorem decideDevice_allowed {device : Option DeviceRecord} :
    (decideDevice config input usedOfflineCache round license device diagnostics).allowed = true ↔
      (config.blockOnDeviceBlocked = true → ∀ found, device = some found →
        found.blocked = false) := by
  cases device with
  | none => simp [decideDevice, allow]
  | some found =>
    unfold decideDevice
    cases hblocked : found.blocked with
    | false => simp [allow, hblocked]
    | true =>
      cases hblock : config.blockOnDeviceBlocked with
      | false => simp [allow]
      | true => simp [deny, hblocked]

theorem decideDevice_usedOfflineCache {device : Option DeviceRecord} :
    (decideDevice config input usedOfflineCache round license device diagnostics).usedOfflineCache =
      usedOfflineCache := by
  unfold decideDevice
  split
  · rfl
  · split <;> rfl

/-- A pass that decides: the decision carries the flag, and allows exactly when the checks pass. -/
structure Decides (config : LicenseConfig) (input : LicenseCheckInput) (usedOfflineCache : Bool)
    (payload : LicenseApiResponse) (now : ℤ) (decision : LicenseDecision) : Prop where
  flag : decision.usedOfflineCache = usedOfflineCache
  allowed : decision.allowed = true ↔ Passes config input payload now

/-- The checks before the one of the device do not deny. -/
structure Unexpired (config : LicenseConfig) (payload : LicenseApiResponse) (now : ℤ) : Prop where
  status : payload.status ≠ 0
  company : ¬ (payload.license.blocked && config.blockOnCompanyBlocked) = true
  expiry : ¬ (payload.license.expiresAt.any (· < now) && config.blockOnExpired) = true

theorem decides_device {answer : Value} (h : Unexpired config payload round.now) :
    ∃ decision,
      (if (findDevice payload.license (input.deviceKey.getD "")).isNone &&
          config.blockOnDeviceMissing then
        some (⟨deny "dispositivo não autorizado para esta licença" "DEVICE_NOT_FOUND"
          "resolve_device" usedOfflineCache payload.license none diagnostics, answer, payload, round⟩ :
            Judged)
      else some ⟨decideDevice config input usedOfflineCache round payload.license
        (findDevice payload.license (input.deviceKey.getD "")) diagnostics, answer, payload, round⟩) =
          some ⟨decision, answer, payload, round⟩ ∧
      Decides config input usedOfflineCache payload round.now decision := by
  split
  next hmissing =>
    simp only [Bool.and_eq_true, Option.isNone_iff_eq_none] at hmissing
    refine ⟨_, rfl, rfl, iff_of_false (by simp [deny]) fun hpasses => ?_⟩
    have hfound := hpasses.device hmissing.2
    rw [hmissing.1] at hfound
    cases hfound
  next hmissing =>
    refine ⟨_, rfl, decideDevice_usedOfflineCache, ?_⟩
    rw [decideDevice_allowed]
    constructor
    · intro hdevice
      exact {
        status := h.status
        company := by
          intro hblock
          have hblocked := h.company
          rw [hblock, Bool.and_true] at hblocked
          exact eq_false_of_ne_true hblocked
        expiry := by
          intro hblock t ht
          have hexpired := h.expiry
          rw [hblock, Bool.and_true, ht, Option.any_some, decide_eq_true_eq] at hexpired
          exact Int.not_lt.1 hexpired
        device := by
          intro hblock
          by_contra hnone
          exact hmissing (by simpa [hblock] using hnone)
        deviceBlocked := hdevice }
    · exact fun hpasses => hpasses.deviceBlocked

theorem evaluateLegacy_cons (round : Round) (rounds : List Round) (answer : Value)
    (payload : LicenseApiResponse) :
    (∃ next registered, round.rereads chrono numberText config input payload =
        some (next, registered) ∧
      evaluateLegacy chrono numberText config input usedOfflineCache (round :: rounds) answer payload =
        evaluateLegacy chrono numberText config input usedOfflineCache rounds next registered) ∨
    (round.rereads chrono numberText config input payload = none ∧
      ∃ decision, evaluateLegacy chrono numberText config input usedOfflineCache (round :: rounds)
          answer payload = some ⟨decision, answer, payload, round⟩ ∧
        Decides config input usedOfflineCache payload round.now decision) := by
  rw [evaluateLegacy]
  unfold Round.rereads
  dsimp only
  split
  next hstatus =>
    have hdenied : ∀ diagnostics, Decides config input usedOfflineCache payload round.now
        (denyMissingCompany usedOfflineCache payload diagnostics) := fun diagnostics =>
      ⟨rfl, iff_of_false (by simp [denyMissingCompany, deny])
        fun hpasses => hpasses.status hstatus⟩
    split
    · split
      next next registered hreread => exact .inl ⟨next, registered, hreread, rfl⟩
      next hreread => exact .inr ⟨hreread, _, rfl, hdenied _⟩
    · exact .inr ⟨rfl, _, rfl, hdenied _⟩
  next hstatus =>
    split
    next hblocked =>
      simp only [Bool.and_eq_true] at hblocked
      refine .inr ⟨rfl, _, rfl, rfl, iff_of_false (by simp [deny]) fun hpasses => ?_⟩
      have hfree := hpasses.company hblocked.2
      rw [hblocked.1] at hfree
      cases hfree
    next hblocked =>
      split
      next hexpired =>
        simp only [Bool.and_eq_true, Option.any_eq_true, decide_eq_true_eq] at hexpired
        obtain ⟨⟨t, ht, hpast⟩, hblock⟩ := hexpired
        refine .inr ⟨rfl, _, rfl, rfl, iff_of_false (by simp [deny]) fun hpasses => ?_⟩
        have hnow : round.now ≤ t := hpasses.expiry hblock t ht
        exact absurd hpast (Int.not_lt.2 hnow)
      next hexpired =>
        have hbefore : Unexpired config payload round.now := ⟨hstatus, hblocked, hexpired⟩
        split
        next hcreates =>
          split
          next next registered hreread => exact .inl ⟨next, registered, hreread, rfl⟩
          next hreread => exact .inr ⟨hreread, decides_device hbefore⟩
        next hcreates => exact .inr ⟨rfl, decides_device hbefore⟩

theorem rereads_eq_some {registered : LicenseApiResponse} {next : Value}
    (h : round.rereads chrono numberText config input payload = some (next, registered)) :
    normalizeResponse chrono numberText next = some registered := by
  unfold Round.rereads at h
  split at h
  · split at h
    · exact reread_eq_some h
    · cases h
  · split at h
    · cases h
    · split at h
      · cases h
      · split at h
        · exact reread_eq_some h
        · cases h

theorem evaluateLegacy_allowed {rounds : List Round} {answer : Value} {judged : Judged}
    (hanswer : normalizeResponse chrono numberText answer = some payload)
    (h : evaluateLegacy chrono numberText config input usedOfflineCache rounds answer payload =
      some judged) :
    normalizeResponse chrono numberText judged.answer = some judged.payload ∧
      (judged.decision.allowed = true ↔
        Passes config input judged.payload judged.round.now) := by
  induction rounds generalizing answer payload with
  | nil => cases h
  | cons round rounds ih =>
    rcases evaluateLegacy_cons round rounds answer payload with
      ⟨next, registered, hreread, heq⟩ | ⟨-, decision, heq, hdecides⟩
    · rw [heq] at h
      exact ih (rereads_eq_some hreread) h
    · rw [heq] at h
      cases h
      exact ⟨hanswer, hdecides.allowed⟩

end Checks

/-! ## What the parser keeps -/

section Expiry

variable {chrono : Chrono} {answer : Value} {expiry : Expiry}

theorem parseDatetime_of_readExpiry {v : Value} (h : chrono.readExpiry v = some expiry)
    (hdate : ∀ d, expiry ≠ .date d)
    (hreading : ∀ n, expiry = .reading n → ∃ t, chrono.fromLocal n = .single t) :
    ∃ t, chrono.parseDatetime v = some t ∧ ∀ now, expiry.Past chrono now ↔ t < now := by
  unfold Chrono.readExpiry at h
  unfold Chrono.parseDatetime
  simp only [Option.bind_eq_bind, Option.bind_eq_some_iff] at h
  obtain ⟨raw, hraw, h⟩ := h
  rw [hraw, Option.bind_eq_bind, Option.bind_some]
  have hnaive : ∀ format n, chrono.naive raw format = some n → expiry = .reading n →
      ∃ t, chrono.parseNaive raw format = some t ∧ ∀ now, expiry.Past chrono now ↔ t < now := by
    intro format n hn heq
    obtain ⟨t, ht⟩ := hreading n heq
    refine ⟨t, by simp [Chrono.parseNaive, hn, ht], fun now => ?_⟩
    rw [heq]
    exact chrono.naivePast_single n t now ht
  cases hfirst : chrono.rfc3339 raw with
  | some t =>
    rw [hfirst] at h
    cases h
    exact ⟨t, rfl, fun _ => Iff.rfl⟩
  | none =>
    rw [hfirst, Option.map_none, Option.none_or] at h
    rw [Option.none_or]
    cases hoffset : chrono.withOffset raw "%Y-%m-%d %H:%M:%S%:z" with
    | some t =>
      rw [hoffset] at h
      cases h
      exact ⟨t, rfl, fun _ => Iff.rfl⟩
    | none =>
      rw [hoffset, Option.map_none, Option.none_or] at h
      rw [Option.none_or]
      cases hiso : chrono.naive raw "%Y-%m-%d %H:%M:%S" with
      | some n =>
        rw [hiso] at h
        obtain ⟨t, ht, hpast⟩ := hnaive _ n hiso (Option.some.inj h).symm
        exact ⟨t, by rw [ht, Option.some_or], hpast⟩
      | none =>
        rw [hiso, Option.map_none, Option.none_or] at h
        have hnone : chrono.parseNaive raw "%Y-%m-%d %H:%M:%S" = none := by
          simp [Chrono.parseNaive, hiso]
        rw [hnone, Option.none_or]
        cases hslashes : chrono.naive raw "%d/%m/%Y %H:%M:%S" with
        | some n =>
          rw [hslashes] at h
          obtain ⟨t, ht, hpast⟩ := hnaive _ n hslashes (Option.some.inj h).symm
          exact ⟨t, by rw [ht, Option.some_or], hpast⟩
        | none =>
          rw [hslashes, Option.map_none, Option.none_or, Option.map_eq_some_iff] at h
          obtain ⟨d, -, heq⟩ := h
          exact absurd heq.symm (hdate d)

variable {numberText : Number → String}

section

variable (h : normalizeResponse chrono numberText answer = some final)
include h

theorem expiresAt_eq :
    final.license.expiresAt = (getFirst (licenseFields answer) ["expires_at", "DATA_VAL_LIC"]).bind
      chrono.parseDatetime := by
  obtain ⟨fields, hfields, heq⟩ := Option.map_eq_some_iff.1 h
  subst heq
  unfold licenseFields
  rw [hfields, Option.map_some, Option.bind_some]
  dsimp only
  unfold normalizeLicense
  cases hobject : (readSchema fields).2.2.asObject with
  | none | some license => rfl

theorem status_eq : final.status = asI32 (answerStatus answer) := by
  obtain ⟨fields, hfields, heq⟩ := Option.map_eq_some_iff.1 h
  subst heq
  unfold answerStatus
  rw [hfields]
  rfl

end

theorem expiresAt_of_carried (hanswer : normalizeResponse chrono numberText answer = some final)
    (hcarried : carriedExpiry chrono answer = some expiry) (hlost : ¬ Lost chrono answer expiry) :
    ∃ t, final.license.expiresAt = some t ∧ ∀ now, expiry.Past chrono now ↔ t < now := by
  have hdate : ∀ d, expiry ≠ .date d := by
    rintro d rfl
    exact hlost (.date d)
  have hreading : ∀ n, expiry = .reading n → ∃ t, chrono.fromLocal n = .single t := by
    rintro n rfl
    by_contra hnone
    exact hlost (.reading n fun t ht => hnone ⟨t, ht⟩)
  rw [expiresAt_eq hanswer]
  unfold carriedExpiry at hcarried
  cases hfield : getField (licenseFields answer) "expires_at" with
  | some v =>
    rw [hfield, Option.bind_some] at hcarried
    have hfirst : getFirst (licenseFields answer) ["expires_at", "DATA_VAL_LIC"] = some v := by
      simp [getFirst, hfield]
    rw [hfirst, Option.bind_some]
    cases hread : chrono.readExpiry v with
    | none => exact absurd (.shadowed expiry v hfield hread) hlost
    | some found =>
      rw [hread, Option.some_or] at hcarried
      cases hcarried
      exact parseDatetime_of_readExpiry hread hdate hreading
  | none =>
    rw [hfield, Option.bind_none, Option.none_or, Option.bind_eq_some_iff] at hcarried
    obtain ⟨v, hv, hread⟩ := hcarried
    have hfirst : getFirst (licenseFields answer) ["expires_at", "DATA_VAL_LIC"] = some v := by
      simp [getFirst, hfield, hv]
    rw [hfirst, Option.bind_some]
    exact parseDatetime_of_readExpiry hread hdate hreading

end Expiry

/-! ## Allowed and valid -/

theorem findDevice_keyed {key : String} {device : DeviceRecord} (hkey : key ≠ "")
    (h : findDevice license key = some device) :
    device ∈ license.devices ∧ device.deviceKey = some key := by
  refine ⟨List.mem_of_find?_eq_some h, ?_⟩
  have htest := List.find?_some h
  rw [decide_eq_true_eq] at htest
  cases hdevice : device.deviceKey with
  | none =>
    rw [hdevice] at htest
    exact absurd htest.symm hkey
  | some found =>
    rw [hdevice] at htest
    exact congrArg some htest

/-- **When an allowed license is valid**: exactly if the answer that passes the checks is
sufficient beyond them. -/
theorem valid_of_allowed_iff (chrono : Chrono) (numberText : Number → String)
    (config : LicenseConfig) (input : LicenseCheckInput) (usedOfflineCache : Bool)
    (rounds : List Round) {answer : Value} {payload : LicenseApiResponse} {judged : Judged}
    (hanswer : normalizeResponse chrono numberText answer = some payload)
    (hjudged : evaluateLegacy chrono numberText config input usedOfflineCache rounds answer payload =
      some judged) :
    (judged.decision.allowed = true →
        Valid chrono config input judged.answer judged.payload.license judged.round.now) ↔
      (Passes config input judged.payload judged.round.now →
        Sufficient chrono config input judged.answer judged.payload.license judged.round.now) := by
  obtain ⟨hfinal, hallowed⟩ := evaluateLegacy_allowed hanswer hjudged
  rw [hallowed]
  refine forall_congr' fun hpasses => ?_
  constructor
  · intro hvalid
    exact {
      active := hvalid.active
      kept := fun hblock expiry hcarried _ => hvalid.current hblock expiry hcarried
      keyed := by
        intro hblock hempty
        obtain ⟨device, -, key, hkey, -, hinput⟩ := hvalid.listed hblock
        rw [hinput] at hempty
        exact hkey hempty }
  · intro hsufficient
    exact {
      status := by
        intro hzero
        apply hpasses.status
        rw [status_eq hfinal, hzero]
        rfl
      active := hsufficient.active
      unblocked := hpasses.company
      current := by
        intro hblock expiry hcarried
        by_cases hlost : Lost chrono judged.answer expiry
        · exact hsufficient.kept hblock expiry hcarried hlost
        · obtain ⟨t, ht, hpast⟩ := expiresAt_of_carried hfinal hcarried hlost
          rw [hpast]
          exact Int.not_lt.2 (hpasses.expiry hblock t ht)
      listed := by
        intro hblock
        have hkey := hsufficient.keyed hblock
        obtain ⟨device, hdevice⟩ := Option.isSome_iff_exists.1 (hpasses.device hblock)
        obtain ⟨hmem, hsame⟩ := findDevice_keyed hkey hdevice
        refine ⟨device, hmem, input.deviceKey.getD "", hkey, hsame, ?_⟩
        cases hinput : input.deviceKey with
        | none =>
          rw [hinput] at hkey
          exact absurd rfl hkey
        | some key => rfl
      deviceUnblocked := by
        intro hblock device key _ hinput hdevice
        apply hpasses.deviceBlocked hblock
        rw [hinput]
        exact hdevice }

/-! ## A license of a shop -/

/-- A machine on UTC, for the texts used here. -/
def plainChrono : Chrono where
  rfc3339 raw := if raw = "2027-01-01T00:00:00Z" then some 1798761600000000000 else none
  withOffset _ _ := none
  naive _ _ := none
  naive_date _ := rfl
  date raw _ := if raw = "2020-01-01" then some 1577836800000000000 else none
  fromLocal reading := .single reading
  naivePast reading now := reading < now
  naivePast_single _ _ _ h := by
    cases h
    exact Iff.rfl
  datePast day now := day < now
  toUppercase s := s.map Char.toUpper

def plainConfig : LicenseConfig := ⟨5, false, false, true, true, true, true, true⟩

def station (key : String) : LicenseCheckInput := ⟨some key, none, some "PDV-01", none, none, none⟩

/-- An answer of the new schema with one device. -/
def shopAnswer (active : Bool) (expiresAt : String) (device : List (String × Value)) : Value :=
  .object [("status", .number (.int 1)), ("license", .object
    [("active", .bool active), ("expires_at", .string expiresAt),
      ("devices", .array [.object device])])]

def numberText : Number → String
  | .int n => toString n
  | .float q => toString q.num

/-- On 6 July 2026, and a moment later. -/
def july : Round := ⟨.ok (), none, 1783296000000000000, .ok (), 1783296000000000001⟩

def judgeShop (answer : Value) (key : String) : Option Judged :=
  (normalizeResponse plainChrono numberText answer).bind fun payload =>
    evaluateLegacy plainChrono numberText plainConfig (station key) false [july] answer payload

def goodAnswer : Value :=
  shopAnswer true "2027-01-01T00:00:00Z" [("device_key", .string "k1")]

def goodPayload : LicenseApiResponse :=
  (normalizeResponse plainChrono numberText goodAnswer).get rfl

theorem valid_of_allowed_shop : ∃ judged,
    evaluateLegacy plainChrono numberText plainConfig (station "k1") false [july] goodAnswer
      goodPayload = some judged ∧
    judged.decision.allowed = true ∧
    Valid plainChrono plainConfig (station "k1") judged.answer judged.payload.license
      judged.round.now := by
  have hpayload : normalizeResponse plainChrono numberText goodAnswer = some goodPayload :=
    (Option.some_get _).symm
  refine ⟨_, rfl, rfl, ?_⟩
  apply (valid_of_allowed_iff plainChrono numberText plainConfig (station "k1") false [july]
    hpayload rfl).2
  · intro _
    exact {
      active := by decide +kernel
      kept := by
        intro _ expiry hcarried hlost
        cases hcarried
        cases hlost with
        | shadowed _ v hfield h =>
          cases hfield
          cases h
      keyed := fun _ => by decide }
  · rfl

/-- Allowed although inactive; although the date (without a time of day) is over; and for a device
without a key. -/
theorem not_valid_of_allowed :
    (∃ judged, judgeShop (shopAnswer false "2027-01-01T00:00:00Z" [("device_key", .string "k1")]) "k1" =
      some judged ∧ judged.decision.allowed = true ∧
      ¬ Valid plainChrono plainConfig (station "k1") judged.answer judged.payload.license
        judged.round.now) ∧
    (∃ judged, judgeShop (shopAnswer true "2020-01-01" [("device_key", .string "k1")]) "k1" =
      some judged ∧ judged.decision.allowed = true ∧
      ¬ Valid plainChrono plainConfig (station "k1") judged.answer judged.payload.license
        judged.round.now) ∧
    (∃ judged, judgeShop (shopAnswer true "2027-01-01T00:00:00Z" []) "" =
      some judged ∧ judged.decision.allowed = true ∧
      ¬ Valid plainChrono plainConfig (station "") judged.answer judged.payload.license
        judged.round.now) := by
  refine ⟨⟨_, rfl, rfl, fun h => ?_⟩, ⟨_, rfl, rfl, fun h => ?_⟩, ⟨_, rfl, rfl, fun h => ?_⟩⟩
  · exact absurd h.active (by decide +kernel)
  · have hlate : (1577836800000000000 : ℤ) < 1783296000000000000 := by decide
    exact h.current rfl (.date 1577836800000000000) rfl hlate
  · obtain ⟨device, -, key, hkey, -, hinput⟩ := h.listed rfl
    exact hkey (Option.some.inj hinput).symm

end Tunnara.License
