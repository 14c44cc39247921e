/-
# The stored settings

The row `runtime.settings` of `app_settings` has two writers. `save_settings` normalises and
checks what the dialog sends; the command `runtime_settings_save` of the internal API stores any
JSON it is given. `load_settings` reads the row, whoever wrote it.
-/

import Tunnara.Console.Settings
import Tunnara.Console.Value
import Tunnara.Data.Transition

namespace Tunnara.Console

open Transition

theorem orText_orText (value default : String) :
    orText (orText value default) default = orText value default := by
  unfold orText
  split_ifs <;> rfl

theorem orNumber_orNumber (value default : ℕ) :
    orNumber (orNumber value default) default = orNumber value default := by
  unfold orNumber
  split_ifs <;> rfl

theorem derivedUrl_derivedUrl (value derived : String) :
    derivedUrl (derivedUrl value derived) derived = derivedUrl value derived := by
  unfold derivedUrl
  split_ifs <;> rfl

theorem startsWith_rooted (path : String) : startsWith (rooted path) "/" = true := by
  unfold rooted
  split_ifs with h
  · exact h
  · simp [startsWith]

theorem orText_of_startsWith {path : String} (h : startsWith path "/" = true) (default : String) :
    orText path default = path := by
  obtain ⟨rest, hpath⟩ := List.isPrefixOf_iff_prefix.1 h
  refine if_neg fun hblank => ?_
  have hnil : Lines.trimmed isWhitespace path.toList = [] :=
    String.ofList_eq_empty_iff.1 (of_decide_eq_true hblank)
  rw [← hpath] at hnil
  have hspace := List.rdropWhile_eq_nil_iff.1 hnil '/' (by simp [isWhitespace])
  exact absurd hspace (by decide)

theorem rooted_rooted (path default : String) :
    rooted (orText (rooted path) default) = rooted path := by
  have h := startsWith_rooted path
  rw [orText_of_startsWith h]
  unfold rooted at h ⊢
  rw [if_pos h]

namespace RuntimeSettings

theorem normalize_normalize (settings : RuntimeSettings) :
    settings.normalize.normalize = settings.normalize := by
  simp only [normalize, internalApiUrl, orText_orText, orNumber_orNumber, derivedUrl_derivedUrl,
    rooted_rooted, max_assoc, max_self, ← Bool.or_assoc, Bool.or_self]

/-- The ports that `validate_port_range` checks. -/
def ports (settings : RuntimeSettings) : List ℕ :=
  [settings.internalApiPort, settings.localWebPort, settings.webhookPort, settings.websocketPort]

theorem zero_notMem_ports (settings : RuntimeSettings) : 0 ∉ settings.normalize.ports := by
  have hport : ∀ value {default : ℕ}, default ≠ 0 → 0 ≠ orNumber value default := by
    intro value default h
    unfold orNumber
    split_ifs <;> omega
  simp [ports, normalize, hport]

end RuntimeSettings

/-- The settings with the fields that only the desktop shell reads. -/
structure StoredSettings extends RuntimeSettings where
  (internalApiAutoStart internalApiRestartOnConfigChange internalApiDocsPublicLocal : Bool)
  (internalApiOpenScalarAfterStart localWebAutoStart webhookAutoStart : Bool)
  (websocketAutoStart trayEnabled minimizeToTray closeToTray startWithWindows : Bool)
  servicesAutoStart : Bool

/-- What `serde_json` writes into the row and reads from it; a field that the text leaves out has
the value of the default. -/
structure Serde (Text : Type) where
  toText : StoredSettings → Text
  print : Value → Text
  isBlank : Text → Bool
  fromText (default : StoredSettings) : Text → Except String StoredSettings
  fromText_toText : ∀ default settings, fromText default (toText settings) = .ok settings
  isBlank_toText : ∀ settings, isBlank (toText settings) = false
  isBlank_print : ∀ value, isBlank (print value) = false

namespace StoredSettings

def normalize (settings : StoredSettings) : StoredSettings :=
  { settings with toRuntimeSettings := settings.toRuntimeSettings.normalize }

def save (settings : StoredSettings) : Except String StoredSettings :=
  settings.toRuntimeSettings.save.map fun stored => { settings with toRuntimeSettings := stored }

theorem normalize_normalize (settings : StoredSettings) :
    settings.normalize.normalize = settings.normalize := by
  unfold normalize
  rw [RuntimeSettings.normalize_normalize]

theorem save_cases (settings : StoredSettings) :
    settings.save = .ok settings.normalize ∨ ∃ error, settings.save = .error error := by
  unfold save RuntimeSettings.save
  split_ifs
  · exact .inl rfl
  · exact .inr ⟨_, rfl⟩

end StoredSettings

inductive SettingsEvent
  /-- The `.env` file is written after the row. -/
  | saveSettings (settings : StoredSettings) (envWritten : Bool)
  | runtimeSettingsSave (value : Value)

/-- The command returns without an error. -/
def SettingsEvent.accepted : SettingsEvent → Bool
  | .saveSettings settings envWritten => settings.save.isOk && envWritten
  | .runtimeSettingsSave _ => true

variable {Text : Type} (serde : Serde Text)

/-- The row after a save. -/
def storeSettings (row : Option Text) : SettingsEvent → Option Text
  | .saveSettings settings _ =>
    match settings.save with
    | .ok stored => some (serde.toText stored)
    | .error _ => row
  | .runtimeSettingsSave value => some (serde.print value)

/-- `load_settings`, where `default` is `RuntimeSettings::default()` in the environment of the
process. -/
def loadSettings (default : StoredSettings) (row : Option Text) : Except String StoredSettings :=
  match row with
  | none => .ok default.normalize
  | some text =>
    if serde.isBlank text then .ok default.normalize
    else match serde.fromText default text with
      | .ok settings => .ok settings.normalize
      | .error error => .error ("Configuração runtime inválida no banco: " ++ error)

/-- The settings that a save stands for. -/
def SettingsEvent.settings (default : StoredSettings) : SettingsEvent → Except String StoredSettings
  | .saveSettings settings _ => .ok settings
  | .runtimeSettingsSave value => serde.fromText default (serde.print value)

/-- The settings load after the saves, in every environment, as those last accepted. -/
def LoadsLast (events : List SettingsEvent) : Prop :=
  ∀ default, ∃ loaded,
    loadSettings serde default (run (storeSettings serde) none events) = .ok loaded ∧
      loaded.normalize = loaded ∧ 0 ∉ loaded.ports ∧
      ∀ event, (events.filter SettingsEvent.accepted).getLast? = some event →
        (event.settings serde default).map StoredSettings.normalize = .ok loaded

/-- The save stores settings that load again, or it is refused before it stores any. -/
def SettingsEvent.Readable : SettingsEvent → Prop
  | .saveSettings settings envWritten => settings.save.isOk → envWritten
  | .runtimeSettingsSave value =>
    ∀ default, ∃ settings, serde.fromText default (serde.print value) = .ok settings

/-- What the row holds after a last accepted save. -/
def Holds (row : Option Text) : Option SettingsEvent → Prop
  | none => row = none
  | some event => ∃ text, row = some text ∧ serde.isBlank text = false ∧
      ∀ default, ∃ settings stored, event.settings serde default = .ok settings ∧
        serde.fromText default text = .ok stored ∧ stored.normalize = settings.normalize

variable {serde}

theorem holds_store {event : SettingsEvent} (h : event.Readable serde) {row : Option Text}
    {last : Option SettingsEvent} (hrow : Holds serde row last) :
    Holds serde (storeSettings serde row event) (if event.accepted then some event else last) := by
  cases event with
  | saveSettings settings envWritten =>
    rcases settings.save_cases with hsave | ⟨error, hsave⟩
    · have hwritten : envWritten = true := h (by rw [hsave]; rfl)
      have haccepted : (SettingsEvent.saveSettings settings envWritten).accepted = true := by
        simp [SettingsEvent.accepted, hsave, hwritten, Except.isOk, Except.toBool]
      rw [if_pos haccepted]
      refine ⟨serde.toText settings.normalize, ?_, serde.isBlank_toText _, fun default => ?_⟩
      · simp [storeSettings, hsave]
      · exact ⟨settings, settings.normalize, rfl, serde.fromText_toText _ _,
          settings.normalize_normalize⟩
    · simpa [storeSettings, SettingsEvent.accepted, hsave, Except.isOk, Except.toBool] using hrow
  | runtimeSettingsSave value =>
    refine ⟨serde.print value, rfl, serde.isBlank_print value, fun default => ?_⟩
    obtain ⟨settings, hread⟩ := h default
    exact ⟨settings, settings, hread, hread, rfl⟩

theorem holds_run {events : List SettingsEvent} (h : ∀ event ∈ events, event.Readable serde) :
    Holds serde (run (storeSettings serde) none events)
      (events.filter SettingsEvent.accepted).getLast? := by
  induction events using List.reverseRecOn with
  | nil => rfl
  | append_singleton events event ih =>
    rw [List.forall_mem_append, List.forall_mem_singleton] at h
    have hstep := holds_store h.2 (ih h.1)
    rw [run_append]
    cases haccepted : event.accepted <;> simpa [haccepted] using hstep

/-- `serde_json` on the settings it wrote, on `{}` and on `null`. -/
def sampleSerde : Serde (StoredSettings ⊕ Value) where
  toText := .inl
  print := .inr
  isBlank _ := false
  fromText default
    | .inl settings => .ok settings
    | .inr (.object []) => .ok default
    | .inr _ => .error "invalid type: null, expected struct RuntimeSettings at line 1 column 4"
  fromText_toText _ _ := rfl
  isBlank_toText _ := rfl
  isBlank_print _ := rfl

def templateStored : StoredSettings :=
  ⟨templateSettings, true, true, true, false, true, false, false, true, true, false, false, false⟩

end Tunnara.Console
