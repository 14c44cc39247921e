/-
# The commands of the desktop

The commands on entities, users, profiles and sessions that the window calls, with their
arguments and the answers as JSON.
-/

import Tunnara.Console.Access
import Tunnara.Console.Dispatch

namespace Tunnara.Console

open Sql

inductive DesktopCommand
  | authLogin (login senha : String)
  | authRestore (sessionToken : String)
  | authLogout (sessionToken : String)
  | authChangePassword (sessionToken currentPassword newPassword : String)
  | permissionCatalog (sessionToken : String)
  | profileList (sessionToken : String) (filters : List (String × Value))
  | profileGet (sessionToken : String) (id : ℤ)
  | profileSave (sessionToken : String) (payload : List (String × Value))
  | profileDelete (sessionToken : String) (id : ℤ)
  | userList (sessionToken : String) (filters : List (String × Value))
  | userGet (sessionToken : String) (id : ℤ)
  | userPolicyGet (sessionToken : String)
  | userPolicySave (sessionToken : String) (payload : List (String × Value))
  | userSave (sessionToken : String) (payload : List (String × Value))
  | userDelete (sessionToken : String) (id : ℤ)
  | entityList (entity search : String)
  | entitySave (entity : String) (payload : List (String × Value))
  | entityDelete (entity : String) (id : ℤ)
  | comboList (entity : String)
  | entityProviderList (entity search : String)
  | providerEntityGet (entity : String) (id : ℤ)
  | providerEntityCreate (entity : String) (payload : List (String × Value))
  | providerEntityUpdate (entity : String) (payload : List (String × Value))
  | providerEntityDelete (entity : String) (id : ℤ)

def recordsValue (records : List (List (String × Value))) : Value :=
  .array (records.map .object)

def ComboOption.toValue (option : ComboOption) : Value :=
  .object [("id", .ofInt option.id), ("label", .string option.label)]

variable (host : Host)

/-- What the window gets back. -/
def desktopAnswer : DesktopCommand → Action Value
  | .authLogin login senha => LoginResponse.toValue <$> authLogin host login senha
  | .authRestore token => LoginResponse.toValue <$> authRestore host token
  | .authLogout token => .bool <$> authLogout host token
  | .authChangePassword token current new => .bool <$> authChangePassword host token current new
  | .permissionCatalog token => recordsValue <$> Access.permissionCatalog host token
  | .profileList token filters => recordsValue <$> Access.profileList host token filters
  | .profileGet token id => .object <$> Access.profileGet host token id
  | .profileSave token payload => .object <$> Access.profileSave host token payload
  | .profileDelete token id => .bool <$> Access.profileDelete host token id
  | .userList token filters => recordsValue <$> Access.userList host token filters
  | .userGet token id => .object <$> Access.userGet host token id
  | .userPolicyGet token => .object <$> Access.userPolicyGet host token
  | .userPolicySave token payload => .object <$> Access.userPolicySave host token payload
  | .userSave token payload => .object <$> Access.userSave host token payload
  | .userDelete token id => .bool <$> Access.userDelete host token id
  | .entityList entity search => recordsValue <$> entityList host entity search
  | .entitySave entity payload => .object <$> entitySave host entity payload
  | .entityDelete entity id => .bool <$> entityDelete host entity id
  | .comboList entity =>
    (fun options => .array (options.map ComboOption.toValue)) <$> comboList host entity
  | .entityProviderList entity search => recordsValue <$> entityProviderList host entity search
  | .providerEntityGet entity id => Value.ofOption .object <$> providerEntityGet host entity id
  | .providerEntityCreate entity payload => .object <$> providerEntityCreate host entity payload
  | .providerEntityUpdate entity payload => .object <$> providerEntityUpdate host entity payload
  | .providerEntityDelete entity id => .bool <$> providerEntityDelete host entity id

/-- A process whose database takes every text for a match, and whose hashes
are a salt and the password behind it. -/
def plainHost : Host where
  now := "2026-01-01T00:00:00Z"
  inSevenDays := "2026-01-08T00:00:00Z"
  sqlNow := "2026-01-01 00:00:00"
  uuid := "7f3c"
  dialect _ :=
    { readNumber := fun s => (parseI64 s).map .integer
      textOf := fun value => match value with
        | .integer n => toString n
        | .text s => s
        | _ => ""
      lower := fun value => match value with
        | .text s => .text (s.map Char.toLower)
        | other => other
      like := fun _ _ => true
      sorts := fun _ _ => true }
  hashPassword password := .ok ("salt$" ++ password)
  verifyPassword password hash :=
    .ok ((hash.toList.dropWhile (· ≠ '$')).drop 1 = password.toList)
  jsonText _ := "{}"
  parseJson _ := none
  toFloat n := n
  toLowercase s := s.map Char.toLower
  env _ := none
  compiled _ := false
  connect _ := .ok ()
  serverJson _ value := sqlToJson value
  appendLog := .ok ()
  packageVersion := "1.0.0"
  envTemplate := ""
  services _ := .ok .null

def rowOf (fields : List (String × SqlValue)) : Row := fun name => (fields.lookup name).getD .null

/-- A file with these rows, and no server. -/
def fileWith (rows : Table → List Row) : Store
  | .file => ⟨rows, fun _ => 0, fun _ => 0⟩
  | .server => ⟨fun _ => [], fun _ => 0, fun _ => 0⟩

def ana : Row := rowOf
  [("id", .integer 1), ("nome", .text "Ana"), ("login", .text "ana"),
    ("senha_hash", .text "salt$segredo"), ("master_user", .integer 1), ("ativo", .integer 1)]

def oneUser : Store := fileWith fun table => if table = .usuarios then [ana] else []

def plainApi : AppCommands.ApiState := ⟨"127.0.0.1", 61001, true, false, false, "X-Token", true, true, "/docs"⟩

end Tunnara.Console
