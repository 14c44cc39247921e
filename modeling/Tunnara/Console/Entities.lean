/-
# The generic commands on entities

Each entity names a table and the columns that its commands read and write. The commands
`entity_*` of the desktop work on the file; the others go through the provider of the
configured driver, which opens a connection of its own for every statement.
-/

import Tunnara.Console.Store

namespace Tunnara.Console

open Sql

structure EntityDefinition where
  table : Table
  (fields searchable required : List String)
  labelColumn : String

/-- The definition that customers and suppliers share. -/
def partnerDefinition (table : Table) : EntityDefinition :=
  { table
    fields := ["nome", "documento", "telefone", "email", "endereco", "cidade", "estado",
      "observacoes", "ativo"]
    searchable := ["nome", "documento", "email"]
    required := ["nome"]
    labelColumn := "nome" }

/-- The definition that departments and functions share. -/
def descriptionDefinition (table : Table) : EntityDefinition :=
  { table
    fields := ["descricao", "ativo"]
    searchable := ["descricao"]
    required := ["descricao"]
    labelColumn := "descricao" }

def entityDefinition (entity : String) : Option EntityDefinition :=
  if entity = "empresas" ∨ entity = "companies" then some
    { table := .empresas
      fields := ["nome", "nome_fantasia", "documento", "cidade", "estado", "ativo"]
      searchable := ["nome", "nome_fantasia", "documento", "cidade"]
      required := ["nome"]
      labelColumn := "nome" }
  else if entity = "perfis" ∨ entity = "perfis_acesso" ∨ entity = "profiles" then some
    { table := .perfisAcesso
      fields := ["nome", "descricao", "perfil_master", "ativo"]
      searchable := ["nome", "descricao"]
      required := ["nome"]
      labelColumn := "nome" }
  else if entity = "usuarios" ∨ entity = "users" then some
    { table := .usuarios
      fields := ["nome", "login", "email", "telefone", "cargo", "observacoes", "master_user",
        "administrador", "senha_provisoria", "ativo"]
      searchable := ["nome", "login", "email"]
      required := ["nome", "login"]
      labelColumn := "nome" }
  else if entity = "departamentos" then some (descriptionDefinition .departamentos)
  else if entity = "funcoes" then some (descriptionDefinition .funcoes)
  else if entity = "centro_custos" then some
    { table := .centroCustos
      fields := ["codigo", "descricao", "ativo"]
      searchable := ["codigo", "descricao"]
      required := ["descricao"]
      labelColumn := "descricao" }
  else if entity = "clientes" then some (partnerDefinition .clientes)
  else if entity = "fornecedores" then some (partnerDefinition .fornecedores)
  else if entity = "produtos" then some
    { table := .produtos
      fields := ["codigo", "descricao", "tipo", "unidade", "valor", "ativo"]
      searchable := ["codigo", "descricao", "tipo"]
      required := ["descricao"]
      labelColumn := "descricao" }
  else none

/-- `entity_definition(entity).ok_or_else(…)`. -/
def requireDefinition (entity : String) : Action EntityDefinition :=
  match entityDefinition entity with
  | none => throw "Entidade não permitida."
  | some definition => pure definition

/-- `id, field, …`. -/
def selectColumns (definition : EntityDefinition) : List String := "id" :: definition.fields

/-- The fields that `normalize_value` reads numbers from. -/
def numericFields : List String :=
  ["empresa_id", "departamento_id", "funcao_id", "centro_custo_id", "horario_id", "escala_id",
    "numero", "porta", "carga_horaria_minutos", "tolerancia_minutos", "ativo", "administrador",
    "impacta_banco_horas", "abono", "banco_horas_ativo", "permite_hora_extra",
    "compensa_atraso_com_extra", "usa_banco_para_excedente"]

def normalizeValue (payload : List (String × Value)) (field : String) : Value :=
  let value := (getField payload field).getD .null
  if field ∈ numericFields then
    match value with
    | .string s => if isBlank s then .null else (parseI64 s).elim .null .ofInt
    | other => other
  else value

/-- The `id` of a payload. -/
def payloadId (payload : List (String × Value)) : Option ℤ :=
  (getField payload "id").bind asI64OrParsed

/-- The first required field that is missing or blank. -/
def missingField (definition : EntityDefinition) (payload : List (String × Value)) :
    Option String :=
  definition.required.find? fun field =>
    isBlank (((getField payload field).bind Value.asStr).getD "")

/-- What is reported about it. -/
def checkRequired (definition : EntityDefinition) (payload : List (String × Value)) :
    Action Unit :=
  match missingField definition payload with
  | some field => throw ("O campo " ++ field ++ " é obrigatório.")
  | none => pure ()

variable (host : Host)

/-- `%search%`. -/
def wildcard (search : String) : String := "%" ++ trimText search ++ "%"

/-- The rows whose searchable columns match, by descending id. -/
def searchRows (place : Place) (definition : EntityDefinition) (search : String)
    (rows : List Row) : List Row :=
  let dialect := host.dialect place
  let matching :=
    if isBlank search then rows
    else rows.filter (Database.anyLike dialect definition.searchable (wildcard search))
  (Database.sorted dialect "id" matching).reverse

def entityList (entity search : String) : Action (List (List (String × Value))) := do
  let definition ← requireDefinition entity
  let rows ← tableRows .file definition.table
  return (searchRows host .file definition search rows).map
    (rowToJsonMap (selectColumns definition))

structure ComboOption where
  id : ℤ
  label : String

def comboList (entity : String) : Action (List ComboOption) := do
  let definition ← requireDefinition entity
  let rows ← tableRows .file definition.table
  let labels := rows.map fun row : Row => fun column =>
    if column = "label" then (row definition.labelColumn).orElse (.text "[sem descrição]")
    else row column
  ofExcept (labelled ("Falha ao mapear combo de " ++ definition.table.name)
    ((Database.sorted (host.dialect .file) "label" labels).mapM fun row => do
      let id ← readInt row 0 "id"
      let label ← readText row 1 "label"
      return ⟨id, label⟩))

/-- The values that `entity_save` writes. -/
def entityFields (definition : EntityDefinition) (payload : List (String × Value)) :
    List (String × SqlValue) :=
  definition.fields.map fun field => (field, jsonToSqlValue host (normalizeValue payload field))

/-- `entity_save`. The branch for the field `senha_hash` is left out: no entity has it. -/
def entitySave (entity : String) (payload : List (String × Value)) :
    Action (List (String × Value)) := do
  let definition ← requireDefinition entity
  let id := payloadId payload
  checkRequired definition payload
  let fields := entityFields host definition payload
  let recordId ← upsertRecord host .file definition.table id
    (fields ++ [("updated_at", .text host.now)])
    (fields ++ [("created_at", .text host.now), ("updated_at", .text host.now)])
    ("Falha ao atualizar " ++ definition.table.name)
    ("Falha ao inserir em " ++ definition.table.name)
  let rows ← tableRows .file definition.table
  match rows.find? fun row => row "id" = .integer recordId with
  | none => throw "Registro salvo não encontrado."
  | some row => do
    let saved := rowToJsonMap (selectColumns definition) row
    let action := if id.isSome then "update" else "create"
    writeAudit host entity action (some recordId) (.object saved)
    enqueueSync host entity action (some recordId) (.object saved)
    return saved

/-- `{ "id": id, "entity": entity }`. -/
def deletedPayload (entity : String) (id : ℤ) : Value :=
  .object [("entity", .string entity), ("id", .ofInt id)]

def entityDelete (entity : String) (id : ℤ) : Action Bool := do
  let definition ← requireDefinition entity
  let affected ← deleteRows .file definition.table (fun row => row "id" = .integer id)
    ("Falha ao excluir de " ++ definition.table.name)
  if 0 < affected then do
    writeAudit host entity "delete" (some id) (deletedPayload entity id)
    enqueueSync host entity "delete" (some id) (deletedPayload entity id)
    return true
  else return false

namespace DatabaseDriver

/-- `DatabaseDriver::from_str`. -/
def ofText (text : String) : DatabaseDriver :=
  let name := (trimText text).map Char.toLower
  if name = "mysql" ∨ name = "mariadb" then mysql
  else if name = "postgres" ∨ name = "postgresql" then postgres
  else if name = "firebird" ∨ name = "fb" then firebirdUnsupported
  else sqlite

def place : DatabaseDriver → Place
  | mysql | postgres => .server
  | _ => .file

def executeLabel : DatabaseDriver → String
  | mysql => "Falha ao executar SQL MySQL"
  | postgres => "Falha ao executar SQL PostgreSQL"
  | _ => "Falha ao executar SQL SQLite pelo provider"

/-- What a driver reports that is not compiled in. -/
def missingFeature : DatabaseDriver → String
  | mysql => "CRUD provider MySQL exige compilação com --features mysql-db."
  | postgres => "CRUD provider PostgreSQL exige compilação com --features postgres-db."
  | _ => ""

end DatabaseDriver

/-- `provider_for_state` and `active_provider`. -/
def providerForState : Action DatabaseDriver :=
  let driver := ((host.env "TUNNARA_CONSOLE_DATABASE_DRIVER").or
    (host.env "TUNNARA_CONSOLE_DB_DRIVER")).getD "sqlite"
  match DatabaseDriver.ofText driver with
  | .firebirdUnsupported =>
    throw "Firebird permanece fora do escopo funcional por compatibilidade."
  | driver => pure driver

/-- The connection that a provider opens for a statement. -/
def providerConnect (driver : DatabaseDriver) : Action Unit :=
  match driver.place with
  | .file => pure ()
  | .server =>
    if host.compiled driver then ofExcept (host.connect driver)
    else throw driver.missingFeature

def providerRow (driver : DatabaseDriver) (columns : List String) (row : Row) :
    List (String × Value) :=
  match driver.place with
  | .file => rowToJsonMap columns row
  | .server => columns.map fun column => (column, host.serverJson column (row column))

/-- `DbValue::from` and what the driver binds for it; blank texts stay. -/
def dbValue : Value → SqlValue
  | .string s => .text s
  | value => jsonToSqlValue host value

/-- `provider_list_with_database`. -/
def providerList (driver : DatabaseDriver) (entity search : String) :
    Action (List (List (String × Value))) := do
  let definition ← requireDefinition entity
  providerConnect host driver
  let rows ← tableRows driver.place definition.table
  return (searchRows host driver.place definition search rows).map
    (providerRow host driver (selectColumns definition))

/-- `provider_get_with_database`. -/
def providerGet (driver : DatabaseDriver) (entity : String) (id : ℤ) :
    Action (Option (List (String × Value))) := do
  let definition ← requireDefinition entity
  providerConnect host driver
  let rows ← tableRows driver.place definition.table
  return (rows.find? fun row => row "id" = .integer id).map
    (providerRow host driver (selectColumns definition))

def providerInsertAudit (driver : DatabaseDriver) (entity action : String) (recordId : ℤ)
    (payload : Value) : Action Unit := do
  providerConnect host driver
  let _ ← insertRow host driver.place .auditLogs
    [("entity_name", .text entity), ("action_name", .text action),
      ("record_id", .integer recordId), ("payload_json", .text (host.jsonText payload)),
      ("created_at", .text host.now)]
    driver.executeLabel
  return ()

def providerEnqueueSync (driver : DatabaseDriver) (entity action : String) (recordId : ℤ)
    (payload : Value) : Action Unit := do
  providerConnect host driver
  let _ ← insertRow host driver.place .syncQueue
    [("entity_name", .text entity), ("action_name", .text action),
      ("record_id", .integer recordId), ("payload_json", .text (host.jsonText payload)),
      ("status", .text "pending"), ("created_at", .text host.now),
      ("updated_at", .text host.now)]
    driver.executeLabel
  return ()

/-- The id of a saved record. PostgreSQL returns that of an insert; the others ask for it on a
new connection, which has inserted nothing and answers 0. -/
def providerRecordId (driver : DatabaseDriver) (id : Option ℤ) (written : ℤ) : ℤ :=
  match driver, id with
  | _, some existing => existing
  | .postgres, none => written
  | _, none => 0

/-- `provider_save_with_database`. -/
def providerSave (driver : DatabaseDriver) (entity : String) (payload : List (String × Value)) :
    Action (List (String × Value)) := do
  let definition ← requireDefinition entity
  let id := payloadId payload
  checkRequired definition payload
  let fields := definition.fields.map fun field => (field, dbValue host (normalizeValue payload field))
  providerConnect host driver
  let written ← upsertRecord host driver.place definition.table id
    (fields ++ [("updated_at", .text host.now)])
    (fields ++ [("created_at", .text host.now), ("updated_at", .text host.now)])
    driver.executeLabel driver.executeLabel
  let recordId := providerRecordId driver id written
  match ← providerGet host driver entity recordId with
  | none => throw "Registro salvo não encontrado pelo provider."
  | some saved => do
    let action := if id.isSome then "update" else "create"
    providerInsertAudit host driver entity action recordId (.object saved)
    providerEnqueueSync host driver entity action recordId (.object saved)
    return saved

/-- `provider_delete_with_database`. -/
def providerDelete (driver : DatabaseDriver) (entity : String) (id : ℤ) : Action Bool := do
  let definition ← requireDefinition entity
  providerConnect host driver
  let affected ← deleteRows driver.place definition.table (fun row => row "id" = .integer id)
    driver.executeLabel
  if 0 < affected then do
    providerInsertAudit host driver entity "delete" id (deletedPayload entity id)
    providerEnqueueSync host driver entity "delete" id (deletedPayload entity id)
    return true
  else return false

/-- `entity_provider_list` and `provider_entity_list`. -/
def entityProviderList (entity search : String) : Action (List (List (String × Value))) := do
  providerList host (← providerForState host) entity search

def providerEntityGet (entity : String) (id : ℤ) : Action (Option (List (String × Value))) := do
  providerGet host (← providerForState host) entity id

def providerEntityCreate (entity : String) (payload : List (String × Value)) :
    Action (List (String × Value)) := do
  providerSave host (← providerForState host) entity payload

def providerEntityUpdate (entity : String) (payload : List (String × Value)) :
    Action (List (String × Value)) := do
  if (getField payload "id").isNone then
    throw "Campo id é obrigatório para atualização via provider_entity_update."
  else providerSave host (← providerForState host) entity payload

def providerEntityDelete (entity : String) (id : ℤ) : Action Bool := do
  providerDelete host (← providerForState host) entity id

end Tunnara.Console
