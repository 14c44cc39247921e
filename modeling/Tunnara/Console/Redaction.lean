/-
# What the logs of the application keep

`write_app_log` replaces the values under sensitive keys and hands what is left to two sinks: a
row of `app_logs` and a line of `app.log`.
-/

import Tunnara.Console.Desktop
import Tunnara.Console.Writes

namespace Tunnara.Console.Redaction

open Sql Attempt

inductive Step
  | key (name : String)
  | index (i : ℕ)

/-- The value at the end of a path. -/
inductive At : List Step → Value → Value → Prop
  | here {value : Value} : At [] value value
  | field {fields : List (String × Value)} {key : String} {value target : Value}
    {path : List Step} : (key, value) ∈ fields → At path value target →
      At (.key key :: path) (.object fields) target
  | item {items : List Value} {i : ℕ} {value target : Value} {path : List Step} :
    items[i]? = some value → At path value target → At (.index i :: path) (.array items) target

/-- Two values are alike but for what is in their fields and items. -/
def SameNode : Value → Value → Prop
  | .object fields, .object others => fields.map Prod.fst = others.map Prod.fst
  | .array items, .array others => items.length = others.length
  | value, other => value = other

def sensitiveWords : List String :=
  ["senha", "password", "confirm_password", "password_confirmation", "token", "secret", "api_key",
    "apikey", "authorization"]

variable (host : Host)

/-- The key in small letters contains one of the words. -/
def Sensitive (key : String) : Prop :=
  ∃ word ∈ sensitiveWords, includes (host.toLowercase key) word = true

/-- Under sensitive keys there is a mark in place of the value, and elsewhere nothing changed. -/
structure Redacted (details sanitized : Value) : Prop where
  hidden : ∀ path key rest target, Sensitive host key →
    At (path ++ .key key :: rest) sanitized target → target = .string "***"
  kept : ∀ path, (∀ key, .key key ∈ path → ¬ Sensitive host key) →
    (∀ target, At path details target → ∃ target', At path sanitized target' ∧ SameNode target target') ∧
      ∀ target', At path sanitized target' → ∃ target, At path details target ∧ SameNode target target'

/-- The object of a line of the log; a `Map` has its keys in order. -/
def logRecord (input : AppLogInput) (details : Value) : Value :=
  .object [("category", .string input.category), ("created_at", .string host.now),
    ("details", details), ("level", .string input.level), ("message", .string input.message),
    ("route", .ofOption .string input.route), ("source", .ofOption .string input.source)]

/-- `write_app_log` with the text of `app.log`, to which it appends a line. -/
def writeLog (input : AppLogInput) (s : Store) (file : String) :
    Except String Unit × Store × String :=
  let (result, after) := exec (writeAppLog host input) s
  let details := (input.details.map (sanitizeLogValue host)).getD .null
  (result, after,
    if result.isOk then file ++ (host.jsonText (logRecord host input details) ++ "\n") else file)

/-- `to_lowercase` leaves white space at the ends alone, and it leaves the rest as it is without. -/
def KeepsMargins (lower : String → String) : Prop :=
  ∀ before key after : List Char, before.all isWhitespace → after.all isWhitespace →
    (lower (String.ofList (before ++ key ++ after))).toList =
      before ++ (lower (String.ofList key)).toList ++ after

theorem infix_of_append {word before text : List Char} (hne : word ≠ [])
    (hword : ∀ c ∈ word, isWhitespace c = false) (hbefore : before.all isWhitespace)
    (h : word <:+: before ++ text) : word <:+: text := by
  induction before with
  | nil => exact h
  | cons c before ih =>
    rw [List.all_cons, Bool.and_eq_true] at hbefore
    rcases List.infix_cons_iff.1 h with hprefix | hinfix
    · obtain ⟨first, word, rfl⟩ := List.exists_cons_of_ne_nil hne
      obtain rfl := (List.cons_prefix_cons.1 hprefix).1
      rw [hword _ List.mem_cons_self] at hbefore
      cases hbefore.1
    · exact ih hbefore.2 hinfix

theorem infix_of_margins {word before text after : List Char} (hne : word ≠ [])
    (hword : ∀ c ∈ word, isWhitespace c = false) (hbefore : before.all isWhitespace)
    (hafter : after.all isWhitespace) (h : word <:+: before ++ text ++ after) : word <:+: text := by
  rw [List.append_assoc] at h
  have hright := List.reverse_infix.2 (infix_of_append hne hword hbefore h)
  rw [List.reverse_append] at hright
  refine List.reverse_infix.1 (infix_of_append ?_ ?_ ?_ hright)
  · rwa [Ne, List.reverse_eq_nil_iff]
  · exact fun c hmem => hword c (List.mem_reverse.1 hmem)
  · rwa [List.all_reverse]

theorem exists_margins (key : List Char) : ∃ before after : List Char,
    before.all isWhitespace ∧ after.all isWhitespace ∧
      key = before ++ Lines.trimmed isWhitespace key ++ after := by
  refine ⟨key.takeWhile isWhitespace, (key.dropWhile isWhitespace).rtakeWhile isWhitespace,
    List.all_takeWhile, ?_, ?_⟩
  · exact List.all_eq_true.2 fun c => List.mem_rtakeWhile_imp
  · rw [List.append_assoc, Lines.trimmed, List.rdropWhile_append_rtakeWhile,
      List.takeWhile_append_dropWhile]

variable {host}

theorem isSensitiveKey_iff (hlower : KeepsMargins host.toLowercase) {key : String} :
    isSensitiveKey host key = true ↔ Sensitive host key := by
  obtain ⟨before, after, hbefore, hafter, hkey⟩ := exists_margins key.toList
  have hlowered := hlower before (Lines.trimmed isWhitespace key.toList) after hbefore hafter
  rw [← hkey, String.ofList_toList] at hlowered
  have hwords : (sensitiveWords.all fun word =>
      !word.toList.isEmpty && word.toList.all fun c => !isWhitespace c) = true := by
    decide
  refine (List.any_eq_true (l := sensitiveWords)).trans (exists_congr fun word =>
    and_congr_right fun hmem => ?_)
  have hboth := List.all_eq_true.1 hwords word hmem
  simp only [Bool.and_eq_true, Bool.not_eq_true', List.all_eq_true, List.isEmpty_eq_false_iff]
    at hboth
  obtain ⟨hne, hword⟩ := hboth
  unfold includes trimText
  rw [decide_eq_true_iff, decide_eq_true_iff, hlowered]
  exact ⟨fun h => h.trans ⟨before, after, rfl⟩, infix_of_margins hne hword hbefore hafter⟩

theorem sanitizeFields_eq_map (fields : List (String × Value)) :
    sanitizeFields host fields = fields.map fun field => (field.1,
      if isSensitiveKey host field.1 then .string "***" else sanitizeLogValue host field.2) := by
  induction fields with
  | nil => rfl
  | cons field fields ih => rw [sanitizeFields, ih, List.map_cons]

theorem sanitizeItems_eq_map (items : List Value) :
    sanitizeItems host items = items.map (sanitizeLogValue host) := by
  induction items with
  | nil => rfl
  | cons item items ih => rw [sanitizeItems, ih, List.map_cons]

theorem sameNode_sanitize (value : Value) : SameNode value (sanitizeLogValue host value) := by
  cases value with
  | object fields =>
    rw [sanitizeLogValue, sanitizeFields_eq_map]
    dsimp only [SameNode]
    rw [List.map_map]
    rfl
  | array items =>
    rw [sanitizeLogValue, sanitizeItems_eq_map]
    exact (List.length_map _).symm
  | null | bool _ | number _ | string _ => rfl

variable {path : List Step} {key : String} {value target : Value}

theorem at_key (h : At (.key key :: path) (sanitizeLogValue host value) target) :
    ∃ fields inner, value = .object fields ∧ (key, inner) ∈ fields ∧
      At path (if isSensitiveKey host key then .string "***" else sanitizeLogValue host inner) target := by
  cases value with
  | object fields =>
    rw [sanitizeLogValue, sanitizeFields_eq_map] at h
    cases h with
    | field hmem hinner =>
      obtain ⟨field, hfield, heq⟩ := List.mem_map.1 hmem
      cases heq
      exact ⟨fields, field.2, rfl, hfield, hinner⟩
  | array items => cases h
  | null | bool _ | number _ | string _ => cases h

theorem at_index {i : ℕ} (h : At (.index i :: path) (sanitizeLogValue host value) target) :
    ∃ items inner, value = .array items ∧ items[i]? = some inner ∧
      At path (sanitizeLogValue host inner) target := by
  cases value with
  | array items =>
    rw [sanitizeLogValue, sanitizeItems_eq_map] at h
    cases h with
    | item hget hinner =>
      rw [List.getElem?_map] at hget
      obtain ⟨inner, hitem, rfl⟩ := Option.map_eq_some_iff.1 hget
      exact ⟨items, inner, rfl, hitem, hinner⟩
  | object fields => cases h
  | null | bool _ | number _ | string _ => cases h

theorem at_string {text : String} (h : At path (.string text) target) :
    path = [] ∧ target = .string text := by
  cases h
  exact ⟨rfl, rfl⟩

theorem hidden_sanitize {rest : List Step} (hkey : isSensitiveKey host key = true)
    (h : At (path ++ .key key :: rest) (sanitizeLogValue host value) target) :
    target = .string "***" := by
  induction path generalizing value with
  | nil =>
    obtain ⟨fields, inner, -, -, hinner⟩ := at_key h
    rw [if_pos hkey] at hinner
    exact (at_string hinner).2
  | cons step path ih =>
    cases step with
    | key name =>
      obtain ⟨fields, inner, -, -, hinner⟩ := at_key h
      split at hinner
      · exact (at_string hinner).2
      · exact ih hinner
    | index i =>
      obtain ⟨items, inner, -, -, hinner⟩ := at_index h
      exact ih hinner

theorem at_sanitize (h : At path value target)
    (hclear : ∀ key, .key key ∈ path → ¬ isSensitiveKey host key = true) :
    At path (sanitizeLogValue host value) (sanitizeLogValue host target) := by
  induction h with
  | here => exact .here
  | @field fields key inner target path hmem _ ih =>
    rw [sanitizeLogValue, sanitizeFields_eq_map]
    refine .field (List.mem_map.2 ⟨_, hmem, ?_⟩) (ih fun key h => hclear key (.tail _ h))
    rw [if_neg (hclear key (.head _))]
  | item hget _ ih =>
    rw [sanitizeLogValue, sanitizeItems_eq_map]
    refine .item ?_ (ih fun key h => hclear key (.tail _ h))
    rw [List.getElem?_map, hget, Option.map_some]

theorem exists_of_at_sanitize (h : At path (sanitizeLogValue host value) target)
    (hclear : ∀ key, .key key ∈ path → ¬ isSensitiveKey host key = true) :
    ∃ source, At path value source ∧ target = sanitizeLogValue host source := by
  induction path generalizing value with
  | nil =>
    cases h
    exact ⟨value, .here, rfl⟩
  | cons step path ih =>
    have hrest := fun key h => hclear key (.tail _ h)
    cases step with
    | key name =>
      obtain ⟨fields, inner, rfl, hmem, hinner⟩ := at_key h
      rw [if_neg (hclear name (.head _))] at hinner
      obtain ⟨source, hsource, htarget⟩ := ih hinner hrest
      exact ⟨source, .field hmem hsource, htarget⟩
    | index i =>
      obtain ⟨items, inner, rfl, hget, hinner⟩ := at_index h
      obtain ⟨source, hsource, htarget⟩ := ih hinner hrest
      exact ⟨source, .item hget hsource, htarget⟩

theorem redacted_sanitize (hlower : KeepsMargins host.toLowercase) (value : Value) :
    Redacted host value (sanitizeLogValue host value) where
  hidden path key rest target hkey h := hidden_sanitize ((isSensitiveKey_iff hlower).2 hkey) h
  kept path hclear := by
    have hkeys : ∀ key, .key key ∈ path → ¬ isSensitiveKey host key = true :=
      fun key hmem => mt (isSensitiveKey_iff hlower).1 (hclear key hmem)
    constructor
    · exact fun target h => ⟨_, at_sanitize h hkeys, sameNode_sanitize target⟩
    · intro target' h
      obtain ⟨source, hsource, rfl⟩ := exists_of_at_sanitize h hkeys
      exact ⟨source, hsource, sameNode_sanitize source⟩

/-- The call has added a row with these details to `app_logs`. -/
def AddsRow (host : Host) (details : Option Value) (s after : Store) : Prop :=
  ∃ row, (after .file).rows .appLogs = (s .file).rows .appLogs ++ [row] ∧
    row "details_json" = optionalText (details.map host.jsonText)

variable {s : Store} {input : AppLogInput}

theorem exec_writeAppLog_cases (input : AppLogInput) (s : Store) :
    ((exec (writeAppLog host input) s).1.isOk = false ∧ (exec (writeAppLog host input) s).2 = s) ∨
      AddsRow host (input.details.map (sanitizeLogValue host)) s
        (exec (writeAppLog host input) s).2 := by
  unfold writeAppLog insertRow
  rw [exec_bind, exec_statement]
  unfold Database.insert
  dsimp only [catalogAt]
  split_ifs with hfull
  · exact .inl ⟨rfl, rfl⟩
  · cases catalog.breach .appLogs (fun _ => true) ((s .file).rows .appLogs) (s .file).rows _ with
    | some breach => exact .inl ⟨rfl, rfl⟩
    | none =>
      right
      dsimp only
      rw [exec_ofExcept]
      unfold AddsRow
      dsimp only
      rw [Function.update_self]
      refine ⟨_, rfl, ?_⟩
      cases input.details <;> rfl

/-- Both sinks have the details in a redacted form or nothing, and after a success they have
them. -/
def Redacts (host : Host) (input : AppLogInput) (s : Store) (file : String) : Prop :=
  ∃ sanitized, Option.Rel (Redacted host) input.details sanitized ∧
    let (result, after, file') := writeLog host input s file
    let line := host.jsonText (logRecord host input (sanitized.getD .null)) ++ "\n"
    (after = s ∨ AddsRow host sanitized s after) ∧ (file' = file ∨ file' = file ++ line) ∧
      (result = .ok () → AddsRow host sanitized s after ∧ file' = file ++ line)

theorem writeLog_redacts (hlower : KeepsMargins host.toLowercase) (input : AppLogInput) (s : Store)
    (file : String) : Redacts host input s file := by
  refine ⟨input.details.map (sanitizeLogValue host), ?_, ?_⟩
  · cases input.details with
    | none => exact .none
    | some details => exact .some (redacted_sanitize hlower details)
  · unfold writeLog
    have hcases := @exec_writeAppLog_cases host input s
    generalize exec (writeAppLog host input) s = run at hcases
    obtain ⟨result, after⟩ := run
    dsimp only at hcases ⊢
    cases result with
    | error error =>
      refine ⟨hcases.imp_left And.right, .inl (if_neg Bool.false_ne_true), nofun⟩
    | ok u =>
      rcases hcases with ⟨hfalse, -⟩ | hadds
      · cases hfalse
      · exact ⟨.inr hadds, .inr (if_pos rfl), fun _ => ⟨hadds, if_pos rfl⟩⟩

theorem keepsMargins_toLower : KeepsMargins plainHost.toLowercase := by
  intro before key after hbefore hafter
  have hspace (text : List Char) (h : text.all isWhitespace) : text.map Char.toLower = text := by
    refine (List.map_congr_left fun c hmem => ?_).trans (List.map_id text)
    have hc := List.all_eq_true.1 h c hmem
    unfold Char.toLower
    apply dif_neg
    rintro ⟨hfrom, hto⟩
    simp [isWhitespace, UInt32.le_iff_toNat_le, ← UInt32.toNat_inj] at hc hfrom hto
    omega
  change (String.map Char.toLower _).toList = before ++ (String.map Char.toLower _).toList ++ after
  rw [String.toList_map, String.toList_map, String.toList_ofList, String.toList_ofList,
    List.map_append, List.map_append, hspace before hbefore, hspace after hafter]

theorem writeLog_redacts_login :
    Redacts plainHost ⟨"info", "auth", "Login", none, none,
      some (.object [("user", .string "ana"), (" Token ", .array [.string "t1"])])⟩ oneUser "" :=
  writeLog_redacts keepsMargins_toLower _ _ _

end Tunnara.Console.Redaction
