/-
# What the client makes of an answer of the license server

`normalize_response` knows two schemas. What it cannot read becomes a default: a license
without a flag is active, an expiry date in no format it can parse is none at all. The
parser names `%Y-%m-%d`, but asks for a date with a time of day.
-/

import Tunnara.Console.Http
import Tunnara.Console.Value

namespace Tunnara.License

open Console

/-- What a reading of the local clock stands for. -/
inductive LocalResult
  | none
  | single (instant : ℤ)
  | ambiguous (first second : ℤ)

/-- The functions of `chrono` and of the zone of the machine. Instants and readings of the local
clock are counted in nanoseconds. -/
structure Chrono where
  /-- `DateTime::parse_from_rfc3339`. -/
  rfc3339 : String → Option ℤ
  /-- `DateTime::parse_from_str`. -/
  withOffset : String → String → Option ℤ
  /-- `NaiveDateTime::parse_from_str`, from the text and the format. -/
  naive : String → String → Option ℤ
  /-- It fails when the format has no time of day. -/
  naive_date : ∀ raw, naive raw "%Y-%m-%d" = none
  /-- The date of a text in a format without a time of day. -/
  date : String → String → Option ℤ
  /-- `Local.from_local_datetime`. -/
  fromLocal : ℤ → LocalResult
  /-- The reading of the local clock lies behind the instant. -/
  naivePast : ℤ → ℤ → Prop
  naivePast_single : ∀ reading instant now, fromLocal reading = .single instant →
    (naivePast reading now ↔ instant < now)
  /-- The date lies behind the instant. -/
  datePast : ℤ → ℤ → Prop
  /-- `str::to_uppercase`. -/
  toUppercase : String → String

namespace Chrono

variable (chrono : Chrono)

/-- One format of the loop. -/
def parseNaive (raw format : String) : Option ℤ :=
  match (chrono.naive raw format).map chrono.fromLocal with
  | some (.single instant) => some instant
  | _ => none

def parseDatetime (value : Value) : Option ℤ := do
  let raw ← value.asStr
  (chrono.rfc3339 raw).or ((chrono.withOffset raw "%Y-%m-%d %H:%M:%S%:z").or
    ((chrono.parseNaive raw "%Y-%m-%d %H:%M:%S").or
      ((chrono.parseNaive raw "%d/%m/%Y %H:%M:%S").or (chrono.parseNaive raw "%Y-%m-%d"))))

def parseBool : Value → Bool
  | .bool b => b
  | .number n => n.asI64.getD 0 ≠ 0
  | .string s => chrono.toUppercase (trimText s) ∈
      ["1", "TRUE", "T", "Y", "YES", "S", "SIM", "ALLOWED"]
  | _ => false

end Chrono

structure DeviceRecord where
  id : Option String := none
  deviceKey : Option String := none
  deviceName : Option String := none
  stationName : Option String := none
  hostname : Option String := none
  computerName : Option String := none
  serialNumber : Option String := none
  machineGuid : Option String := none
  biosSerial : Option String := none
  motherboardSerial : Option String := none
  loggedUser : Option String := none
  osName : Option String := none
  osVersion : Option String := none
  osArch : Option String := none
  domainName : Option String := none
  macAddresses : List String := []
  installMode : Option String := none
  blocked : Bool := false
  reusedExisting : Bool := false
  bound : Bool := false

structure LicenseRecord where
  document : Option String := none
  companyName : Option String := none
  companyEmail : Option String := none
  blocked : Bool := false
  active : Bool := false
  expiresAt : Option ℤ := none
  maxDevices : Option ℕ := none
  devicesInUse : Option ℕ := none
  devicesAvailable : Option ℕ := none
  applicationSlug : Option String := none
  devices : List DeviceRecord := []

structure LicenseApiResponse where
  status : ℤ
  message : Option String
  license : LicenseRecord

/-- `v.and_then(|v| v.as_str())`. -/
def textOf (v : Option Value) : Option String := v.bind Value.asStr

/-- `as u32`. -/
def asU32 (n : ℕ) : ℕ := n % 2 ^ 32

/-- `as i32`. -/
def asI32 (n : ℤ) : ℤ := Int.bmod n (2 ^ 32)

section Normalize

variable (chrono : Chrono) (numberText : Number → String)

/-- `stringify_value`; the text of a number is its `to_string`. -/
def stringifyValue : Value → String
  | .string s => s
  | .number n => numberText n
  | .bool b => if b then "true" else "false"
  | _ => ""

/-- `get(name).map(parse_bool).or_else(|| get(old).map(parse_bool)).unwrap_or(default)`. -/
def flagOf (fields : List (String × Value)) (names : List String) (default : Bool) : Bool :=
  ((getFirst fields names).map chrono.parseBool).getD default

def normalizeDevice (value : Value) : DeviceRecord :=
  match value.asObject with
  | none => {}
  | some fields =>
    let text := fun name => textOf (getField fields name)
    { id := (getFirst fields ["id", "IDMAQ", "IDMAQUINA", "idmaquina"]).map
        (stringifyValue numberText)
      deviceKey := textOf (getFirst fields ["device_key", "fingerprint", "key", "chave", "CHAVE"])
      deviceName := textOf (getFirst fields ["device_name", "NOME", "NOMEMAQ", "nome_compu"])
      stationName := text "station_name"
      hostname := text "hostname"
      computerName := text "computer_name"
      serialNumber := text "serial_number"
      machineGuid := text "machine_guid"
      biosSerial := text "bios_serial"
      motherboardSerial := text "motherboard_serial"
      loggedUser := text "logged_user"
      osName := text "os_name"
      osVersion := text "os_version"
      osArch := text "os_arch"
      domainName := text "domain_name"
      macAddresses := (((getField fields "mac_addresses").bind Value.asArray).getD []).filterMap
        Value.asStr
      installMode := text "install_mode"
      blocked := flagOf chrono fields ["blocked", "BLOQUEADO"] false
      reusedExisting := flagOf chrono fields ["reused_existing"] false
      bound := flagOf chrono fields ["bound"] false }

/-- `expires_at` is read where it stands, also when it cannot be parsed. -/
def normalizeLicense (value : Value) : LicenseRecord :=
  match value.asObject with
  | none => {}
  | some fields =>
    let devices := (((getFirst fields
      ["devices", "computers", "COMPUTADORES", "maquinas", "MAQUINAS"]).bind
        Value.asArray).getD []).map (normalizeDevice chrono numberText)
    let count := fun name => ((getField fields name).bind Value.asU64).map asU32
    let maxDevices := (count "max_devices").or ((count "QTD_MAQ").or (count "n_maquinas"))
    let devicesInUse := (count "devices_in_use").or (some (asU32 devices.length))
    { document := textOf (getFirst fields ["document", "CNPJ"])
      companyName := textOf (getFirst fields ["company_name", "RAZAO", "RAZAOSOCIAL"])
      companyEmail := textOf (getFirst fields ["company_email", "EMP_EMAIL"])
      blocked := flagOf chrono fields ["blocked", "BLOQUEADO"] false
      active := flagOf chrono fields ["active", "ATIVO"] true
      expiresAt := (getFirst fields ["expires_at", "DATA_VAL_LIC"]).bind chrono.parseDatetime
      maxDevices
      devicesInUse
      devicesAvailable := match maxDevices, devicesInUse with
        | some max, some used => if used ≤ max then some (max - used) else none
        | _, _ => none
      applicationSlug := textOf (getFirst fields ["application_slug", "app_slug"])
      devices }

/-- The number under `status` or `STATUS`, and the object that describes the license. -/
def readSchema (fields : List (String × Value)) : ℤ × Option Value × Value :=
  let whole := Value.object fields
  if (getField fields "license").isSome || (getField fields "status").isSome then
    (((getField fields "status").bind Value.asI64).getD 0, getField fields "message",
      (getField fields "license").getD whole)
  else
    (((getField fields "STATUS").bind Value.asI64).getD 0, getField fields "MESSAGE", whole)

/-- `normalize_response`; `none` is its error. -/
def normalizeResponse (value : Value) : Option LicenseApiResponse :=
  value.asObject.map fun fields =>
    let (status, message, license) := readSchema fields
    { status := asI32 status
      message := textOf message
      license := normalizeLicense chrono numberText license }

end Normalize

end Tunnara.License
