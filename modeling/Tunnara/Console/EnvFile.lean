/-
# The `.env` file of the settings

`write_env_file` writes the settings as they are, a variable to a line; `load_env_file` trims,
strips quotes and sets what is not set yet. Nothing is quoted in between, so the texts that come
back are those that no step of the loader changes.
-/

import Mathlib.Data.List.Nodup
import Tunnara.Console.SettingsRow

namespace Tunnara.Console

open Lines

/-- The variables of `write_env_file` after their prefix, with the texts of their fields. -/
def envTexts (s : StoredSettings) : List (String × String) :=
  [("API_HOST", s.internalApiHost), ("API_PORT", toString s.internalApiPort),
    ("API_BASE_URL", s.internalApiBaseUrl), ("API_AUTO_START", toString s.internalApiAutoStart),
    ("API_RESTART_ON_CONFIG_CHANGE", toString s.internalApiRestartOnConfigChange),
    ("API_REQUIRE_TOKEN", toString s.internalApiRequireToken),
    ("API_ALLOW_PUBLIC_NETWORK", toString s.internalApiAllowPublicNetwork),
    ("API_CORS", toString s.internalApiCorsEnabled),
    ("API_TOKEN_HEADER", s.internalApiTokenHeader), ("API_TOKEN", s.internalApiToken),
    ("API_DOCS_PUBLIC_LOCAL", toString s.internalApiDocsPublicLocal),
    ("API_OPEN_SCALAR_AFTER_START", toString s.internalApiOpenScalarAfterStart),
    ("API_TIMEOUT_MS", toString s.internalApiTimeoutMs), ("API_LOG_MODE", s.internalApiLogMode),
    ("API_SCALAR_ENABLED", toString s.internalApiDocsEnabled),
    ("API_SCALAR_URL", s.internalApiDocsUrl), ("API_DOCS_PATH", s.internalApiDocsPath),
    ("WEB_ENABLED", toString s.localWebEnabled), ("WEB_HOST", s.localWebHost),
    ("WEB_PORT", toString s.localWebPort), ("WEB_AUTO_START", toString s.localWebAutoStart),
    ("WEB_BIND_LAN", toString (isPublicBindHost s.localWebHost)), ("AUX_HOST", s.auxiliaryHost),
    ("AUX_PORT", toString s.auxiliaryPort), ("BRIDGE_HOST", s.bridgeCoreHost),
    ("BRIDGE_PORT", toString s.bridgeCorePort), ("WEBHOOK_ENABLED", toString s.webhookEnabled),
    ("WEBHOOK_AUTO_START", toString s.webhookAutoStart), ("WEBHOOK_HOST", s.webhookHost),
    ("WEBHOOK_PORT", toString s.webhookPort), ("WEBHOOK_BASE_PATH", s.webhookBasePath),
    ("WEBHOOK_TOKEN_REQUIRED", toString s.webhookTokenRequired),
    ("WEBHOOK_TOKEN_HEADER", s.webhookTokenHeader), ("WEBHOOK_TOKEN", s.webhookToken),
    ("WEBHOOK_ALLOW_LAN", toString s.webhookAllowLan),
    ("WEBHOOK_ALLOW_EXTERNAL", toString s.webhookAllowExternal),
    ("WEBSOCKET_ENABLED", toString s.websocketEnabled),
    ("WEBSOCKET_AUTO_START", toString s.websocketAutoStart), ("WEBSOCKET_HOST", s.websocketHost),
    ("WEBSOCKET_PORT", toString s.websocketPort), ("WEBSOCKET_PATH", s.websocketPath),
    ("WEBSOCKET_TOKEN_REQUIRED", toString s.websocketTokenRequired),
    ("WEBSOCKET_TOKEN_QUERY", s.websocketTokenQuery),
    ("WEBSOCKET_TOKEN_HEADER", s.websocketTokenHeader), ("WEBSOCKET_TOKEN", s.websocketToken),
    ("WEBSOCKET_ALLOW_LAN", toString s.websocketAllowLan),
    ("WEBSOCKET_ALLOW_EXTERNAL", toString s.websocketAllowExternal),
    ("WEBSOCKET_HEARTBEAT_SECONDS", toString s.websocketHeartbeatSeconds),
    ("TRAY_ENABLED", toString s.trayEnabled),
    ("TRAY_MINIMIZE_TO_TRAY", toString s.minimizeToTray),
    ("TRAY_CLOSE_TO_TRAY", toString s.closeToTray),
    ("START_WITH_WINDOWS", toString s.startWithWindows),
    ("SERVICES_AUTO_START", toString s.servicesAutoStart), ("SERVICE_NAME", s.appServiceName)]

def envVariables (s : StoredSettings) : List (String × String) :=
  (envTexts s).map fun v => ("TUNNARA_CONSOLE_" ++ v.1, v.2)

def envHeader : String := "# Tunnara Console - gerado pela tela Sistema e parâmetros"

def envFooter : String :=
  "# Informe TUNNARA_CONSOLE_API_TOKEN via secret/env real em produção; não commite tokens."

/-- The lines of the variables, and what follows them. -/
def printVariables (rest : List Char) : List (String × String) → List Char
  | [] => rest
  | (key, value) :: vars =>
    (key.toList ++ '=' :: value.toList) ++ '\n' :: printVariables rest vars

/-- The text that `write_env_file` writes. -/
def writeEnvFile (s : StoredSettings) : List Char :=
  envHeader.toList ++ '\n' :: printVariables (envFooter.toList ++ ['\n']) (envVariables s)

/-- The environment of a process. -/
abbrev Environment := List Char → Option (List Char)

/-- `trim`, `trim_matches('"')` and `trim_matches('\'')`. -/
def unquote (text : List Char) : List Char :=
  trimmed (· = '\'') (trimmed (· = '"') (trimmed isWhitespace text))

/-- The loop body of `load_env_file`. `env::set_var` panics on a NUL, and nothing is left. -/
def loadLine (env : Environment) (line : List Char) : Option Environment :=
  let line := trimmed isWhitespace line
  match cut '=' line with
  | none => some env
  | some (key, value) =>
    let key := trimmed isWhitespace key
    if line.head? = some '#' ∨ key = [] ∨ (env key).isSome then some env
    else if '\x00' ∈ key ∨ '\x00' ∈ unquote value then none
    else some (Function.update env key (some (unquote value)))

/-- `load_env_file`. That `str::lines` takes a `\r` off the end of a line, and counts no empty
line at the end of the text, makes no difference to what is trimmed and skipped. -/
def loadEnvFile (raw : List Char) (env : Environment) : Option Environment :=
  (raw.splitOn '\n').foldlM loadLine env

/-- No step of the loader changes the text. -/
structure Plain (text : List Char) : Prop where
  oneLine : '\n' ∉ text
  noNul : '\x00' ∉ text
  unquoted : unquote text = text

/-- The variables have the texts, and all others are as before. -/
def Loaded (vars : List (String × String)) (env result : Environment) : Prop :=
  (∀ v ∈ vars, result v.1.toList = some v.2.toList) ∧
    ∀ key, (∀ v ∈ vars, key ≠ v.1.toList) → result key = env key

/-- A process in which none of the variables is set loads the file as it was written. -/
def FileReturns (s : StoredSettings) : Prop :=
  ∀ env, (∀ v ∈ envVariables s, env v.1.toList = none) →
    ∃ result, loadEnvFile (writeEnvFile s) env = some result ∧ Loaded (envVariables s) env result

/-- The characters in the names of the variables. -/
def keyLetters : List Char := "ABCDEFGHIJKLMNOPQRSTUVWXYZ_".toList

structure IsKey (key : List Char) : Prop where
  nonempty : key ≠ []
  letters : key ⊆ keyLetters

theorem IsKey.not_mem {key : List Char} (h : IsKey key) {c : Char} (hc : c ∉ keyLetters) :
    c ∉ key := fun hmem => hc (h.letters hmem)

theorem IsKey.tight {key : List Char} (h : IsKey key) : Tight isWhitespace key := by
  have hletters : keyLetters.all (! isWhitespace ·) := by decide
  refine tight_of_forall fun c hc => ?_
  simpa using List.all_eq_true.1 hletters c (h.letters hc)

variable {env result : Environment} {key text rest : List Char}

theorem loadLine_variable (hkey : IsKey key) (henv : env key = none) (text : List Char) :
    loadLine env (key ++ '=' :: text) = if '\x00' ∈ unquote text then none
      else some (Function.update env key (some (unquote text))) := by
  obtain ⟨first, others, rfl⟩ := List.exists_cons_of_ne_nil hkey.nonempty
  have hsharp : first ≠ '#' := by
    rintro rfl
    exact hkey.not_mem (by decide) List.mem_cons_self
  have htrim : trimmed isWhitespace (first :: others ++ '=' :: text) =
      first :: others ++ '=' :: text.rdropWhile isWhitespace := by
    rw [trimmed, dropWhile_of_head? (by simp [hkey.tight.first first rfl]),
      rdropWhile_append_cons (by decide)]
  have hvalue : unquote (text.rdropWhile isWhitespace) = unquote text := by
    unfold unquote
    rw [trimmed_rdropWhile]
  unfold loadLine
  dsimp only
  rw [htrim, cut_append (hkey.not_mem (by decide))]
  dsimp only
  rw [trimmed_of_tight hkey.tight, hvalue, if_neg (by simp [hsharp, henv])]
  simp only [hkey.not_mem (show '\x00' ∉ keyLetters by decide), false_or]

theorem loadEnvFile_line {line : List Char} (h : '\n' ∉ line) (rest : List Char) :
    loadEnvFile (line ++ '\n' :: rest) env = (loadLine env line).bind (loadEnvFile rest) := by
  unfold loadEnvFile List.splitOn
  rw [List.splitOnP_append_cons_of_forall_mem
    (fun c hc => by simp [ne_of_mem_of_not_mem hc h]) _ (by simp)]
  rfl

theorem kept_loadEnvFile {value : List Char} (henv : env key = some value)
    (h : loadEnvFile text env = some result) : result key = some value := by
  unfold loadEnvFile at h
  generalize text.splitOn '\n' = lines at h
  induction lines generalizing env with
  | nil =>
    cases h
    exact henv
  | cons line lines ih =>
    obtain ⟨next, hline, hlines⟩ := Option.bind_eq_some_iff.1 h
    refine ih ?_ hlines
    unfold loadLine at hline
    dsimp only at hline
    split at hline
    · cases hline
      exact henv
    · split_ifs at hline with hskip
      · cases hline
        exact henv
      · cases hline
        rw [Function.update_of_ne, henv]
        rintro rfl
        exact hskip (.inr (.inr (by rw [henv]; rfl)))

theorem loadEnvFile_variable (hkey : IsKey key) (henv : env key = none) (hline : '\n' ∉ text)
    (rest : List Char) : loadEnvFile ((key ++ '=' :: text) ++ '\n' :: rest) env =
      if '\x00' ∈ unquote text then none
      else loadEnvFile rest (Function.update env key (some (unquote text))) := by
  have hnot : '\n' ∉ key ++ '=' :: text := by
    simp only [List.mem_append, List.mem_cons, not_or]
    exact ⟨hkey.not_mem (by decide), by decide, hline⟩
  rw [loadEnvFile_line hnot, loadLine_variable hkey henv]
  split_ifs <;> rfl

theorem set_of_loadEnvFile (hkey : IsKey key) (henv : env key = none) (hline : '\n' ∉ text)
    (h : loadEnvFile ((key ++ '=' :: text) ++ '\n' :: rest) env = some result) :
    '\x00' ∉ unquote text ∧ result key = some (unquote text) := by
  rw [loadEnvFile_variable hkey henv hline] at h
  split_ifs at h with hnul
  exact ⟨hnul, kept_loadEnvFile (Function.update_self ..) h⟩

theorem mem_of_mem_unquote {c : Char} (h : c ∈ unquote text) : c ∈ text :=
  mem_of_mem_trimmed (mem_of_mem_trimmed (mem_of_mem_trimmed h))

theorem plain_of_loaded {value : List Char} (hkey : IsKey key) (henv : env key = none)
    (h : loadEnvFile ((key ++ '=' :: value) ++ '\n' :: rest) env = some result)
    (hresult : result key = some value) : Plain value := by
  have hline : '\n' ∉ value := by
    intro hmem
    obtain ⟨before, after, rfl, hnot⟩ := List.eq_append_cons_of_mem hmem
    have hsplit : (key ++ '=' :: (before ++ '\n' :: after)) ++ '\n' :: rest =
        (key ++ '=' :: before) ++ '\n' :: (after ++ '\n' :: rest) := by simp
    rw [hsplit] at h
    rw [(set_of_loadEnvFile hkey henv hnot h).2] at hresult
    exact hnot (mem_of_mem_unquote (Option.some.inj hresult ▸ hmem))
  obtain ⟨hnul, hset⟩ := set_of_loadEnvFile hkey henv hline h
  have hsame : unquote value = value := Option.some.inj (hset.symm.trans hresult)
  exact ⟨hline, hsame ▸ hnul, hsame⟩

/-- Of variables with other names the texts come back exactly if the loader changes none. -/
theorem loaded_iff (hrest : ∀ env, loadEnvFile rest env = some env)
    (vars : List (String × String)) (hkeys : ∀ v ∈ vars, IsKey v.1.toList)
    (hnodup : (vars.map Prod.fst).Nodup) (hunset : ∀ v ∈ vars, env v.1.toList = none) :
    (∃ result, loadEnvFile (printVariables rest vars) env = some result ∧
      Loaded vars env result) ↔ ∀ v ∈ vars, Plain v.2.toList := by
  induction vars generalizing env with
  | nil => exact iff_of_true ⟨env, hrest env, nofun, fun _ _ => rfl⟩ nofun
  | cons v vars ih =>
    rw [List.forall_mem_cons] at hkeys hunset ⊢
    rw [List.map_cons, List.nodup_cons] at hnodup
    have hother : ∀ w ∈ vars, w.1.toList ≠ v.1.toList := fun w hw heq =>
      hnodup.1 (List.mem_map.2 ⟨w, hw, String.toList_inj.1 heq⟩)
    have hnext := @ih (Function.update env v.1.toList (some v.2.toList)) hkeys.2 hnodup.2
      fun w hw => (Function.update_of_ne (hother w hw) ..).trans (hunset.2 w hw)
    have hstep (hplain : Plain v.2.toList) :
        loadEnvFile (printVariables rest (v :: vars)) env =
          loadEnvFile (printVariables rest vars)
            (Function.update env v.1.toList (some v.2.toList)) := by
      refine (loadEnvFile_variable hkeys.1 hunset.1 hplain.oneLine _).trans ?_
      rw [hplain.unquoted, if_neg hplain.noNul]
    constructor
    · rintro ⟨result, hload, hset, hothers⟩
      rw [List.forall_mem_cons] at hset
      have hplain := plain_of_loaded hkeys.1 hunset.1 hload hset.1
      rw [hstep hplain] at hload
      refine ⟨hplain, hnext.1 ⟨result, hload, hset.2, fun key hkey => ?_⟩⟩
      by_cases heq : key = v.1.toList
      · rw [heq, hset.1, Function.update_self]
      · rw [Function.update_of_ne heq]
        exact hothers key (List.forall_mem_cons.2 ⟨heq, hkey⟩)
    · rintro ⟨hplain, hplains⟩
      obtain ⟨result, hload, hset, hothers⟩ := hnext.2 hplains
      refine ⟨result, (hstep hplain).trans hload, List.forall_mem_cons.2 ⟨?_, hset⟩, ?_⟩
      · exact kept_loadEnvFile (Function.update_self ..) hload
      · intro key hkey
        rw [List.forall_mem_cons] at hkey
        rw [hothers key hkey.2, Function.update_of_ne hkey.1]

theorem isKey_envVariables (s : StoredSettings) : ∀ v ∈ envVariables s, IsKey v.1.toList := by
  have hnames : ∀ name ∈ (envTexts s).map Prod.fst, name.toList ⊆ keyLetters := by
    simp only [envTexts, List.map_cons, List.map_nil]
    decide +kernel
  refine List.forall_mem_map.2 fun v hv => ?_
  have hstart : "TUNNARA_CONSOLE_".toList ⊆ keyLetters := by decide
  rw [String.toList_append]
  exact ⟨by simp, List.append_subset.2 ⟨hstart, hnames _ (List.mem_map_of_mem hv)⟩⟩

theorem nodup_envVariables (s : StoredSettings) : ((envVariables s).map Prod.fst).Nodup := by
  have hnames : ((envTexts s).map Prod.fst).Nodup := by
    simp only [envTexts, List.map_cons, List.map_nil]
    decide +kernel
  have hinj : Function.Injective ("TUNNARA_CONSOLE_" ++ ·) := by
    intro name other h
    simpa using h
  unfold envVariables
  rw [List.map_map]
  simpa only [List.map_map, Function.comp_def] using List.Nodup.map hinj hnames

theorem loadEnvFile_comment {line : List Char} (h : '\n' ∉ line)
    (hcut : cut '=' (trimmed isWhitespace line) = none) (rest : List Char) :
    loadEnvFile (line ++ '\n' :: rest) env = loadEnvFile rest env := by
  rw [loadEnvFile_line h]
  unfold loadLine
  dsimp only
  rw [hcut]
  rfl

theorem loadEnvFile_footer (env : Environment) :
    loadEnvFile (envFooter.toList ++ ['\n']) env = some env := by
  rw [loadEnvFile_comment (by decide +kernel) (by decide +kernel)]
  rfl

/-- **When the `.env` file round-trips**, for all settings: exactly when every text that is
written has one line and no NUL, and neither blanks nor quotes at its ends that are taken off. -/
theorem fileReturns_iff (s : StoredSettings) :
    FileReturns s ↔ ∀ v ∈ envVariables s, Plain v.2.toList := by
  have hfile (env : Environment) : loadEnvFile (writeEnvFile s) env =
      loadEnvFile (printVariables (envFooter.toList ++ ['\n']) (envVariables s)) env :=
    loadEnvFile_comment (by decide +kernel) (by decide +kernel) _
  unfold FileReturns
  simp only [hfile]
  refine ⟨fun h => ?_, fun h env hunset => ?_⟩
  · exact (loaded_iff loadEnvFile_footer _ (isKey_envVariables s) (nodup_envVariables s)
      fun _ _ => rfl).1 (h (fun _ => none) fun _ _ => rfl)
  · exact (loaded_iff loadEnvFile_footer _ (isKey_envVariables s) (nodup_envVariables s)
      hunset).2 h

def quotedHost : StoredSettings :=
  StoredSettings.normalize { templateStored with internalApiHost := "\"tunnara\"" }

theorem not_fileReturns_quoted : ¬ ∀ s : StoredSettings, s.normalize = s → FileReturns s := by
  intro h
  obtain ⟨result, hload, hset, -⟩ :=
    h quotedHost (StoredSettings.normalize_normalize _) (fun _ => none) fun _ _ => rfl
  unfold writeEnvFile at hload
  rw [loadEnvFile_comment (by decide +kernel) (by decide +kernel)] at hload
  have hhost := @set_of_loadEnvFile (fun _ => none) result "TUNNARA_CONSOLE_API_HOST".toList
    quotedHost.internalApiHost.toList _ ⟨by simp, by decide⟩ rfl (by decide +kernel) hload
  have hwritten : result "TUNNARA_CONSOLE_API_HOST".toList =
      some quotedHost.internalApiHost.toList :=
    hset ("TUNNARA_CONSOLE_API_HOST", _) List.mem_cons_self
  rw [hwritten] at hhost
  exact absurd hhost.2 (by decide +kernel)

end Tunnara.Console
