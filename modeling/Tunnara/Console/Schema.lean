/-
# The tables of the Console

What `migrate` creates, as far as a command of this development reads or writes it. A default
that calls a function is left out: every insert gives such a column a value.
-/

import Tunnara.Sql.Database

namespace Tunnara.Console

open Sql

inductive Table
  | empresas
  | usuarios
  | perfisAcesso
  | perfisPermissoes
  | usuariosPerfis
  | usuariosEmpresas
  | userSessions
  | departamentos
  | funcoes
  | centroCustos
  | clientes
  | fornecedores
  | produtos
  | auditLogs
  | syncQueue
  | appSettings
  | appLogs
  | adminUnlockSessions
  | localLicenses
  | integrationConfigs
  | integrationLogs
  deriving DecidableEq

namespace Table

def all : List Table :=
  [empresas, usuarios, perfisAcesso, perfisPermissoes, usuariosPerfis, usuariosEmpresas,
    userSessions, departamentos, funcoes, centroCustos, clientes, fornecedores, produtos,
    auditLogs, syncQueue, appSettings, appLogs, adminUnlockSessions, localLicenses,
    integrationConfigs, integrationLogs]

def name : Table → String
  | empresas => "empresas"
  | usuarios => "usuarios"
  | perfisAcesso => "perfis_acesso"
  | perfisPermissoes => "perfis_permissoes"
  | usuariosPerfis => "usuarios_perfis"
  | usuariosEmpresas => "usuarios_empresas"
  | userSessions => "user_sessions"
  | departamentos => "departamentos"
  | funcoes => "funcoes"
  | centroCustos => "centro_custos"
  | clientes => "clientes"
  | fornecedores => "fornecedores"
  | produtos => "produtos"
  | auditLogs => "audit_logs"
  | syncQueue => "sync_queue"
  | appSettings => "app_settings"
  | appLogs => "app_logs"
  | adminUnlockSessions => "admin_unlock_sessions"
  | localLicenses => "local_licenses"
  | integrationConfigs => "integration_configs"
  | integrationLogs => "integration_logs"

/-- `id INTEGER PRIMARY KEY AUTOINCREMENT`. -/
def idColumn : Column := ⟨"id", .integer, false, .null⟩

/-- `name TEXT`. -/
def textColumn (name : String) : Column := ⟨name, .text, false, .null⟩

/-- `name TEXT NOT NULL`. -/
def requiredText (name : String) : Column := ⟨name, .text, true, .null⟩

/-- `name TEXT NOT NULL DEFAULT 'value'`. -/
def defaultText (name value : String) : Column := ⟨name, .text, true, .text value⟩

/-- `name INTEGER`. -/
def integerColumn (name : String) : Column := ⟨name, .integer, false, .null⟩

/-- `name INTEGER NOT NULL`. -/
def requiredInteger (name : String) : Column := ⟨name, .integer, true, .null⟩

/-- `name INTEGER NOT NULL DEFAULT value`. -/
def flag (name : String) (value : ℤ) : Column := ⟨name, .integer, true, .integer value⟩

/-- `created_at TEXT NOT NULL, updated_at TEXT NOT NULL`. -/
def stamps : List Column := [requiredText "created_at", requiredText "updated_at"]

/-- The columns that customers and suppliers have alike. -/
def partnerColumns : List Column :=
  [idColumn, requiredText "nome"] ++
    ["documento", "telefone", "email", "endereco", "cidade", "estado", "observacoes"].map
      textColumn ++ [flag "ativo" 1] ++ stamps

/-- The columns that departments and functions have alike. -/
def descriptionColumns : List Column :=
  [idColumn, requiredText "descricao", flag "ativo" 1] ++ stamps

def columns : Table → List Column
  | empresas =>
    [idColumn, requiredText "nome"] ++
      ["nome_fantasia", "documento", "inscricao_estadual", "inscricao_municipal", "telefone",
        "email", "responsavel_nome", "responsavel_telefone", "cep", "endereco", "numero",
        "complemento", "bairro", "cidade", "estado", "observacoes"].map textColumn ++
      [flag "ativo" 1] ++ stamps
  | usuarios =>
    [idColumn, requiredText "nome", requiredText "login"] ++
      ["email", "telefone", "cargo", "observacoes", "photo_url"].map textColumn ++
      [requiredText "senha_hash", flag "master_user" 0, flag "administrador" 0,
        flag "senha_provisoria" 0, textColumn "ultimo_login_em", flag "ativo" 1] ++ stamps
  | perfisAcesso =>
    [idColumn, requiredText "nome", textColumn "descricao", flag "perfil_master" 0,
      flag "ativo" 1] ++ stamps
  | perfisPermissoes =>
    [idColumn, requiredInteger "perfil_id", requiredText "permissao_chave",
      requiredText "created_at"]
  | usuariosPerfis =>
    [idColumn, requiredInteger "usuario_id", requiredInteger "perfil_id", requiredText "created_at"]
  | usuariosEmpresas =>
    [idColumn, requiredInteger "usuario_id", requiredInteger "empresa_id",
      requiredText "created_at"]
  | userSessions =>
    [idColumn, requiredInteger "usuario_id"] ++
      ["session_token", "created_at", "expires_at", "last_activity_at"].map requiredText
  | departamentos => descriptionColumns
  | funcoes => descriptionColumns
  | centroCustos =>
    [idColumn, textColumn "codigo", requiredText "descricao", flag "ativo" 1] ++ stamps
  | clientes => partnerColumns
  | fornecedores => partnerColumns
  | produtos =>
    [idColumn, textColumn "codigo", requiredText "descricao", textColumn "tipo",
      textColumn "unidade", ⟨"valor", .real, true, .integer 0⟩, flag "ativo" 1] ++ stamps
  | auditLogs =>
    [idColumn, requiredText "entity_name", requiredText "action_name",
      integerColumn "record_id", textColumn "payload_json", requiredText "created_at"]
  | syncQueue =>
    [idColumn, requiredText "entity_name", requiredText "action_name",
      integerColumn "record_id", textColumn "payload_json", defaultText "status" "pending"] ++
      stamps
  | appSettings => [textColumn "chave", textColumn "valor"] ++ stamps
  | appLogs =>
    [idColumn] ++ ["level", "category", "message"].map requiredText ++
      ["source", "route", "details_json"].map textColumn ++ [requiredText "created_at"]
  | adminUnlockSessions =>
    [idColumn, requiredInteger "usuario_id"] ++
      ["scope", "unlock_token", "expires_at", "created_at"].map requiredText ++
      [textColumn "last_used_at"]
  | localLicenses =>
    [idColumn, requiredInteger "empresa_id", requiredText "cnpj", requiredText "license_kind",
      defaultText "status" "active", requiredText "issued_at", requiredText "expires_at"] ++
      ["fingerprint", "payload_encrypted", "integrity_hash"].map textColumn ++ stamps
  | integrationConfigs =>
    [idColumn, requiredText "nome", defaultText "tipo" "rest", requiredText "base_url",
      defaultText "metodo_padrao" "GET", textColumn "headers_json",
      textColumn "token_encrypted", defaultText "ambiente" "production",
      defaultText "status" "inactive", flag "timeout_seconds" 30, flag "retry_attempts" 0,
      textColumn "ultimo_erro", textColumn "ultima_execucao_em", flag "ativo" 1] ++ stamps
  | integrationLogs =>
    [idColumn, integerColumn "integration_id", textColumn "method", textColumn "url",
      textColumn "request_headers_json", integerColumn "status_code", flag "success" 0,
      integerColumn "duration_ms", textColumn "error_message", requiredText "created_at"]

/-- The `UNIQUE` columns and the unique indexes of `ensure_indexes`. -/
def unique : Table → List (List String)
  | usuarios => [["login"]]
  | perfisAcesso => [["nome"]]
  | perfisPermissoes => [["perfil_id", "permissao_chave"]]
  | usuariosPerfis => [["usuario_id", "perfil_id"]]
  | usuariosEmpresas => [["usuario_id", "empresa_id"]]
  | userSessions => [["session_token"]]
  | appSettings => [["chave"]]
  | adminUnlockSessions => [["unlock_token"]]
  | localLicenses => [["empresa_id"]]
  | _ => []

/-- The foreign keys. -/
def references : Table → List (Reference Table)
  | perfisPermissoes => [⟨"perfil_id", perfisAcesso, .cascade⟩]
  | usuariosPerfis => [⟨"usuario_id", usuarios, .cascade⟩, ⟨"perfil_id", perfisAcesso, .cascade⟩]
  | usuariosEmpresas => [⟨"usuario_id", usuarios, .cascade⟩, ⟨"empresa_id", empresas, .cascade⟩]
  | userSessions => [⟨"usuario_id", usuarios, .cascade⟩]
  | adminUnlockSessions => [⟨"usuario_id", usuarios, .cascade⟩]
  | localLicenses => [⟨"empresa_id", empresas, .restrict⟩]
  | integrationLogs => [⟨"integration_id", integrationConfigs, .setNull⟩]
  | _ => []

end Table

/-- The database of the Console. -/
def catalog : Catalog Table where
  tables := Table.all
  name := Table.name
  numbered := fun table => table ≠ .appSettings
  columns := Table.columns
  unique := Table.unique
  references := Table.references

end Tunnara.Console
