/-
# Commands on the Console's databases

A command reads and writes the database file and, where another driver is configured, the
database of a server; what it has written before an error stays. The clock, the password
hashes, the texts of JSON values and what the databases make of numbers and texts are the
host's.
-/

import Tunnara.Console.Http
import Tunnara.Console.Schema
import Tunnara.Console.Value
import Tunnara.Data.Attempt

namespace Tunnara.Console

open Sql

/-- Where a connection leads. -/
inductive Place
  /-- The file at `state.db_path`. -/
  | file
  /-- The server that `DatabaseConfig` names. -/
  | server
  deriving DecidableEq

/-- The tables on a server have no foreign keys. -/
def catalogAt : Place → Catalog Table
  | .file => catalog
  | .server => { catalog with references := fun _ => [] }

abbrev Store := Place → Database Table

/-- A command under way. -/
abbrev Action (α : Type) := Attempt Store String α

inductive DatabaseDriver
  | sqlite
  | mysql
  | postgres
  | firebirdUnsupported

/-- A service that runs next to the API. -/
inductive ServiceCall
  | webServerStatus
  | webhookStatus
  | webhookStop
  | webhookEvents
  | webhookClear
  | websocketStatus
  | websocketStop
  | websocketClients
  | websocketBroadcast (text : String)

/-- What a command takes from its process. -/
structure Host where
  /-- `Utc::now().to_rfc3339()`. -/
  now : String
  /-- The same in seven days. -/
  inSevenDays : String
  /-- `datetime('now')` of the database. -/
  sqlNow : String
  /-- `Uuid::new_v4()`. -/
  uuid : String
  dialect : Place → Dialect
  /-- `hash_password`, with the salt of this call. -/
  hashPassword : String → Except String String
  /-- `verify_password`, from the password and the hash. -/
  verifyPassword : String → String → Except String Bool
  /-- `Value::to_string`. -/
  jsonText : Value → String
  /-- `serde_json::from_str`. -/
  parseJson : String → Option Value
  /-- The float next to an integer that is no `i64`. -/
  toFloat : ℤ → ℚ
  /-- `str::to_lowercase`. -/
  toLowercase : String → String
  /-- `std::env::var`. -/
  env : String → Option String
  /-- The features `mysql-db` and `postgres-db` are compiled in. -/
  compiled : DatabaseDriver → Bool
  /-- A connection to the server. -/
  connect : DatabaseDriver → Except String Unit
  /-- What the driver of a server makes of the value of a column. -/
  serverJson : String → SqlValue → Value
  /-- The line of `app.log` could be written. -/
  appendLog : Except String Unit
  /-- `env!("CARGO_PKG_VERSION")`. -/
  packageVersion : String
  /-- `default_env_template`. -/
  envTemplate : String
  services : ServiceCall → Except String Value

/-- A computation that does not touch the databases. -/
def ofExcept {α : Type} (result : Except String α) : Action α := ExceptT.mk (pure result)

def tableRows (place : Place) (table : Table) : Action (List Row) := do
  return ((← get) place).rows table

/-- A statement; its failure is reported under the label. -/
def statement {α : Type} (place : Place) (label : String)
    (run : Database Table → Except Breach (α × Database Table)) : Action α := do
  let store ← get
  match run (store place) with
  | .error breach => throw (label ++ ": " ++ breach.text)
  | .ok (a, after) =>
    set (Function.update store place after)
    return a

variable (host : Host)

/-- `last_insert_rowid` of the connection that has inserted. -/
def insertRow (place : Place) (table : Table) (fields : List (String × SqlValue))
    (label : String) : Action ℤ :=
  statement place label fun db => db.insert (catalogAt place) (host.dialect place) table fields

def updateRows (place : Place) (table : Table) (key : String) (value : SqlValue)
    (fields : List (String × SqlValue)) (label : String) : Action ℕ :=
  statement place label fun db =>
    db.update (catalogAt place) (host.dialect place) table key value fields

def deleteRows (place : Place) (table : Table) (hit : Row → Bool) (label : String) : Action ℕ :=
  statement place label fun db => db.delete (catalogAt place) table hit

/-- An update of the existing record or an insert of a new one. -/
def upsertRecord (place : Place) (table : Table) (id : Option ℤ)
    (updated inserted : List (String × SqlValue)) (updateLabel insertLabel : String) : Action ℤ :=
  match id with
  | some existing => do
    let _ ← updateRows host place table "id" (.integer existing) updated updateLabel
    return existing
  | none => insertRow host place table inserted insertLabel

def sqlTypeName : SqlValue → String
  | .null => "Null"
  | .integer _ => "Integer"
  | .real _ => "Real"
  | .text _ => "Text"
  | .blob _ => "Blob"

/-- The text of `rusqlite::Error::InvalidColumnType`. -/
def invalidColumnType (row : Row) (index : ℕ) (column : String) : String :=
  "Invalid column type " ++ sqlTypeName (row column) ++ " at index: " ++ toString index ++
    ", name: " ++ column

/-- `row.get::<_, i64>(index)`. -/
def readInt (row : Row) (index : ℕ) (column : String) : Except String ℤ :=
  match (row column).asInteger with
  | some n => .ok n
  | none => .error (invalidColumnType row index column)

/-- `row.get::<_, String>(index)`. -/
def readText (row : Row) (index : ℕ) (column : String) : Except String String :=
  match (row column).asText with
  | some s => .ok s
  | none => .error (invalidColumnType row index column)

/-- `row.get::<_, Option<String>>(index)`. -/
def readOptionalText (row : Row) (index : ℕ) (column : String) : Except String (Option String) :=
  if row column = .null then .ok none else (readText row index column).map some

/-- An error under the label of its query. -/
def labelled {α : Type} (label : String) : Except String α → Except String α
  | .ok a => .ok a
  | .error error => .error (label ++ ": " ++ error)

/-- The value of a column in a `serde_json::Map`. -/
def sqlToJson : SqlValue → Value
  | .null => .null
  | .integer n => .ofInt n
  | .real q => .number (.float q)
  | .text s => .string s
  | .blob length => .string ("<blob:" ++ toString length ++ " bytes>")

/-- `row_to_json_map`, of a row with these columns. -/
def rowToJsonMap (columns : List String) (row : Row) : List (String × Value) :=
  columns.map fun column => (column, sqlToJson (row column))

def jsonToSqlValue : Value → SqlValue
  | .null => .null
  | .bool b => .integer (if b then 1 else 0)
  | .number (.int n) => if n < 2 ^ 63 then .integer n else .real (host.toFloat n)
  | .number (.float q) => .real q
  | .string s => if isBlank s then .null else .text s
  | value => .text (host.jsonText value)

/-- `Option<String>` among the parameters of a statement. -/
def optionalText : Option String → SqlValue
  | none => .null
  | some s => .text s

/-- `str::parse::<i64>`. -/
def parseI64 (s : String) : Option ℤ :=
  let digits := fun ds : List Char =>
    if ds ≠ [] && ds.all Char.isDigit then
      some (ds.foldl (fun n d => 10 * n + (d.toNat - 48)) 0)
    else none
  let value : Option ℤ := match s.toList with
    | '-' :: ds => (digits ds).map fun n : ℕ => -(n : ℤ)
    | '+' :: ds => (digits ds).map fun n : ℕ => (n : ℤ)
    | ds => (digits ds).map fun n : ℕ => (n : ℤ)
  value.filter fun n => -2 ^ 63 ≤ n && n < 2 ^ 63

/-- `as_i64().or_else(|| as_str()?.parse::<i64>().ok())`. -/
def asI64OrParsed (value : Value) : Option ℤ := value.asI64.or (value.asStr.bind parseI64)

/-- `Number::to_string`. -/
def numberText : Number → String
  | .int n => toString n
  | .float q => host.jsonText (.number (.float q))

def enqueueSync (entity action : String) (recordId : Option ℤ) (payload : Value) :
    Action Unit := do
  let _ ← insertRow host .file .syncQueue
    [("entity_name", .text entity), ("action_name", .text action),
      ("record_id", recordId.elim .null .integer), ("payload_json", .text (host.jsonText payload)),
      ("status", .text "pending"), ("created_at", .text host.sqlNow),
      ("updated_at", .text host.sqlNow)]
    "Falha ao enfileirar sincronização"
  return ()

def writeAudit (entity action : String) (recordId : Option ℤ) (payload : Value) :
    Action Unit := do
  let _ ← insertRow host .file .auditLogs
    [("entity_name", .text entity), ("action_name", .text action),
      ("record_id", recordId.elim .null .integer), ("payload_json", .text (host.jsonText payload)),
      ("created_at", .text host.sqlNow)]
    "Falha ao gravar auditoria"
  return ()

def isSensitiveKey (key : String) : Bool :=
  ["senha", "password", "confirm_password", "password_confirmation", "token", "secret", "api_key",
    "apikey", "authorization"].any fun item => includes (host.toLowercase (trimText key)) item

mutual

def sanitizeLogValue : Value → Value
  | .object fields => .object (sanitizeFields fields)
  | .array items => .array (sanitizeItems items)
  | value => value

def sanitizeFields : List (String × Value) → List (String × Value)
  | [] => []
  | (key, value) :: fields =>
    (key, if isSensitiveKey host key then .string "***" else sanitizeLogValue value) ::
      sanitizeFields fields

def sanitizeItems : List Value → List Value
  | [] => []
  | item :: items => sanitizeLogValue item :: sanitizeItems items

end

structure AppLogInput where
  (level category message : String)
  (source route : Option String)
  details : Option Value

def writeAppLog (input : AppLogInput) : Action Unit := do
  let _ ← insertRow host .file .appLogs
    [("level", .text input.level), ("category", .text input.category),
      ("message", .text input.message), ("source", optionalText input.source),
      ("route", optionalText input.route),
      ("details_json", optionalText
        (input.details.map fun details => host.jsonText (sanitizeLogValue host details))),
      ("created_at", .text host.now)]
    "Falha ao gravar log da aplicação"
  ofExcept host.appendLog

/-- `let _ = write_app_log(…)`. -/
def noteAppLog (input : AppLogInput) : Action Unit :=
  tryCatch (writeAppLog host input) fun _ => pure ()

end Tunnara.Console
