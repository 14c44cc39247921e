/-
# Bodies that come back from a capture

`decodeInspectionBody` makes bytes of a preview again. Base64 keeps every byte. Text has gone
through a decoder that replaces what is not UTF-8, and JSON through `JSON.parse` and
`JSON.stringify`, where a number above every double becomes `null`.

A value of the model keeps such a number as it was written; it stands for the infinity that the
engine reads.
-/

import Tunnara.Edge.BodyLimit

namespace Tunnara.Edge

/-- `Buffer.from(text, 'utf8')`. -/
def utf8Bytes (text : String) : List UInt8 := text.toUTF8.data.toList

def decodeInspectionBody (preview : Preview) : List UInt8 :=
  if preview.value = "" then []
  else match preview.encoding with
    | .base64 => Base64.decode preview.value
    | .json | .utf8 => utf8Bytes preview.value

/-- `Number.MAX_VALUE`. -/
def largestNumber : ℚ := 2 ^ 1024 - 2 ^ 971

mutual

/-- No number of the value is read as infinite. -/
def finite : Json → Bool
  | .num q => -largestNumber ≤ q && q ≤ largestNumber
  | .arr items => finiteItems items
  | .obj entries => finiteEntries entries
  | .null | .bool _ | .str _ => true

def finiteItems : List Json → Bool
  | [] => true
  | item :: rest => finite item && finiteItems rest

def finiteEntries : List (String × Json) → Bool
  | [] => true
  | (_, entry) :: rest => finite entry && finiteEntries rest

end

/-- The engine, with what is documented of its decoders. -/
structure TextEngine extends InspectorEnv where
  /-- Well-formed UTF-8 is decoded to the text that it encodes. -/
  utf8Text_utf8Bytes : ∀ text, utf8Text (utf8Bytes text) = text
  parseJson_empty : host.parseJson "" = none
  /-- A parsed value is written so that it is parsed again, unless there is an infinity in it. -/
  parseJson_stringify : ∀ text v, host.parseJson text = some v →
    (host.parseJson (stringify v) = some v ↔ finite v = true)

namespace TextEngine

variable (engine : TextEngine)

/-- The value of a body that is sent as JSON and is JSON. -/
def jsonOf (contentType : String) (body : List UInt8) : Option Json :=
  if includes contentType "application/json" then engine.host.parseJson (engine.utf8Text body)
  else none

/-- JSON comes back as the same value, and everything else as the same bytes. -/
def Faithful (contentType : String) (body : List UInt8) (preview : Preview) : Prop :=
  match engine.jsonOf contentType body with
  | some v => engine.host.parseJson (engine.utf8Text (decodeInspectionBody preview)) = some v
  | none => decodeInspectionBody preview = body

/-- Nothing in the body is taken for a secret. -/
def NothingRedacted (contentType : String) (body : List UInt8) : Prop :=
  ∀ v, engine.jsonOf contentType body = some v → engine.redactJson defaultSensitiveFields v = v

/-- JSON without an infinity, or so deep that its bytes are kept, and text that is UTF-8. -/
def Recoverable (contentType : String) (body : List UInt8) : Prop :=
  match engine.jsonOf contentType body with
  | some v => finite v = true ∨ engine.exceedsStack v = true
  | none => InspectorEnv.isTextual contentType = true → ∃ text, utf8Bytes text = body

variable {engine : TextEngine} {contentType : String} {body : List UInt8} {preview : Preview}
  {headers : List (String × Json)} {limit : Json}

theorem decode_base64 {truncated : Bool} :
    decodeInspectionBody ⟨.base64, Base64.encode body, truncated⟩ = body := by
  unfold decodeInspectionBody
  dsimp only
  rw [Base64.decode_encode]
  split_ifs with hempty
  · rw [← Base64.decode_encode body, hempty]
    rfl
  · rfl

theorem decode_text {encoding : PreviewEncoding} (hencoding : encoding ≠ .base64) (text : String)
    (truncated : Bool) : decodeInspectionBody ⟨encoding, text, truncated⟩ = utf8Bytes text := by
  unfold decodeInspectionBody
  dsimp only
  split_ifs with hempty
  · rw [hempty]
    rfl
  · cases encoding with
    | base64 => exact absurd rfl hencoding
    | json | utf8 => rfl

theorem preview_eq (hbody : body ≠ []) (hcontent : engine.contentType headers = .ok contentType)
    (h : engine.bodyPreview body headers (captureOptions limit) = .ok preview)
    (hwhole : preview.truncated = false) :
    preview = match (if includes contentType "application/json" then
        engine.redactedBody (captureOptions limit) body else none) with
      | some value => ⟨.json, value, false⟩
      | none => engine.rawPreview contentType body false := by
  unfold InspectorEnv.bodyPreview at h
  rw [if_neg hbody] at h
  obtain ⟨maxBytes, -, h⟩ := bind_eq_ok.1 h
  rw [hcontent] at h
  obtain ⟨_, hsame, h⟩ := bind_eq_ok.1 h
  cases hsame
  dsimp only at h
  generalize hslice : body.take (sliceLength body.length maxBytes) = slice at h
  have hcut : preview.truncated = decide (slice.length < body.length) := by
    split at h
    · cases h
      rfl
    · cases h
      unfold InspectorEnv.rawPreview
      split <;> rfl
  rw [hwhole] at hcut
  have hlength : body.length ≤ slice.length := not_lt.1 (of_decide_eq_false hcut.symm)
  have hall : slice = body := by
    rw [← hslice] at hlength ⊢
    exact (List.take_prefix _ body).eq_of_length_le hlength
  rw [hall] at h
  rw [show decide (body.length < body.length) = false by simp] at h
  generalize (if includes contentType "application/json" then
    engine.redactedBody (captureOptions limit) body else none) = redacted at h ⊢
  cases redacted with
  | some value | none =>
    cases h
    rfl

theorem redactedBody_eq {v : Json} (hparse : engine.host.parseJson (engine.utf8Text body) = some v)
    (hredacted : engine.redactJson defaultSensitiveFields v = v) :
    engine.redactedBody (captureOptions limit) body =
      if engine.exceedsStack v then none else some (engine.stringify v) := by
  have hfields : engine.redactJson (defaultSensitiveFields ++ []) v = v := by
    rw [List.append_nil, hredacted]
  change (engine.host.parseJson (engine.utf8Text body) >>= fun parsed =>
    if engine.exceedsStack (engine.redactJson (defaultSensitiveFields ++ []) parsed) then none
    else some (engine.stringify (engine.redactJson (defaultSensitiveFields ++ []) parsed))) = _
  rw [hparse]
  change (if engine.exceedsStack (engine.redactJson (defaultSensitiveFields ++ []) v) then none
    else some (engine.stringify (engine.redactJson (defaultSensitiveFields ++ []) v))) = _
  rw [hfields]

theorem redactedBody_eq_none (hparse : engine.host.parseJson (engine.utf8Text body) = none) :
    engine.redactedBody (captureOptions limit) body = none := by
  unfold InspectorEnv.redactedBody
  rw [hparse]
  rfl

theorem decode_rawPreview : decodeInspectionBody (engine.rawPreview contentType body false) =
    if InspectorEnv.isTextual contentType then utf8Bytes (engine.utf8Text body) else body := by
  unfold InspectorEnv.rawPreview
  split
  · exact @decode_text .utf8 nofun _ _
  · exact decode_base64

theorem utf8Bytes_utf8Text_iff :
    utf8Bytes (engine.utf8Text body) = body ↔ ∃ text, utf8Bytes text = body := by
  constructor
  · intro h
    exact ⟨_, h⟩
  · rintro ⟨text, rfl⟩
    rw [engine.utf8Text_utf8Bytes]

/-- **When a body comes back from its capture**, whatever its bytes are. -/
theorem faithful_iff (engine : TextEngine) {contentType : String} {body : List UInt8}
    {headers : List (String × Json)} {limit : Json} {preview : Preview}
    (hcontent : engine.contentType headers = .ok contentType)
    (hcapture : engine.bodyPreview body headers (captureOptions limit) = .ok preview)
    (hwhole : preview.truncated = false) (hredacted : engine.NothingRedacted contentType body) :
    engine.Faithful contentType body preview ↔ engine.Recoverable contentType body := by
  by_cases hbody : body = []
  · subst hbody
    have hpreview : preview = ⟨.utf8, "", false⟩ := (Except.ok.inj hcapture).symm
    have hempty : engine.utf8Text [] = "" := engine.utf8Text_utf8Bytes ""
    have hjson : engine.jsonOf contentType [] = none := by
      unfold jsonOf
      rw [hempty, engine.parseJson_empty, ite_self]
    unfold Faithful Recoverable
    rw [hjson, hpreview]
    exact iff_of_true rfl fun _ => ⟨"", rfl⟩
  · have hpreview := preview_eq hbody hcontent hcapture hwhole
    unfold Faithful Recoverable
    cases hjson : engine.jsonOf contentType body with
    | none =>
      have hraw : preview = engine.rawPreview contentType body false := by
        rw [hpreview]
        unfold jsonOf at hjson
        split_ifs at hjson ⊢ with hincludes
        · rw [redactedBody_eq_none hjson]
        · rfl
      rw [hraw, decode_rawPreview]
      split_ifs with htextual
      · rw [utf8Bytes_utf8Text_iff]
        exact ⟨fun h _ => h, fun h => h htextual⟩
      · exact iff_of_true rfl fun h => absurd h htextual
    | some v =>
      have hsame := hredacted v hjson
      unfold jsonOf at hjson
      split_ifs at hjson with hincludes
      rw [if_pos hincludes, redactedBody_eq hjson hsame] at hpreview
      dsimp only
      by_cases hdeep : engine.exceedsStack v = true
      · rw [if_pos hdeep] at hpreview
        rw [hpreview, decode_rawPreview]
        refine iff_of_true ?_ (.inr hdeep)
        split_ifs
        · rw [engine.utf8Text_utf8Bytes]
          exact hjson
        · exact hjson
      · rw [if_neg hdeep] at hpreview
        rw [hpreview, @decode_text .json nofun, engine.utf8Text_utf8Bytes,
          engine.parseJson_stringify _ v hjson]
        exact ⟨.inl, fun h => h.resolve_right hdeep⟩

end TextEngine

theorem fromUTF8?_utf8Bytes (text : String) :
    String.fromUTF8? ⟨(utf8Bytes text).toArray⟩ = some text := by
  rw [Array.toArray_toList]
  exact dif_pos text.isValidUTF8

/-- Bytes that are not UTF-8 become one replacement character; of JSON it knows `null` and one
large number. -/
def smallEngine : TextEngine where
  host := { Host.plain with
    parseJson := fun text =>
      if text = "null" then some .null else if text = "1e400" then some (.num (10 ^ 400)) else none }
  utf8Text bytes := (String.fromUTF8? ⟨bytes.toArray⟩).getD "\uFFFD"
  stringify _ := "null"
  exceedsStack _ := false
  utf8Text_utf8Bytes text := by
    rw [fromUTF8?_utf8Bytes]
    rfl
  parseJson_empty := rfl
  parseJson_stringify text v h := by
    dsimp only at h
    split_ifs at h
    · cases h
      exact iff_of_true rfl rfl
    · cases h
      refine iff_of_false nofun ?_
      decide +kernel

def textHeaders : List (String × Json) := [("content-type", .str "text/plain")]

def jsonHeaders : List (String × Json) := [("content-type", .str "application/json")]

theorem jsonOf_text (body : List UInt8) : smallEngine.jsonOf "text/plain" body = none :=
  if_neg (by decide +kernel)

theorem faithful_utf8 :
    smallEngine.Faithful "text/plain" (utf8Bytes "ação") ⟨.utf8, "ação", false⟩ := by
  have hcapture : smallEngine.bodyPreview (utf8Bytes "ação") textHeaders
      (captureOptions (.num 65536)) = .ok ⟨.utf8, "ação", false⟩ := by decide +kernel
  refine (TextEngine.faithful_iff smallEngine rfl hcapture rfl ?_).2 ?_
  · intro v hv
    rw [jsonOf_text] at hv
    cases hv
  · unfold TextEngine.Recoverable
    rw [jsonOf_text]
    exact fun _ => ⟨"ação", rfl⟩

/-- One byte of Latin-1 comes back as three, and a large number as `null`. -/
theorem not_faithful_latin1 :
    (smallEngine.bodyPreview [0xE7] textHeaders (captureOptions (.num 65536)) =
        .ok ⟨.utf8, "\uFFFD", false⟩ ∧
      decodeInspectionBody ⟨.utf8, "\uFFFD", false⟩ = [0xEF, 0xBF, 0xBD] ∧
      ¬ smallEngine.Faithful "text/plain" [0xE7] ⟨.utf8, "\uFFFD", false⟩) ∧
    smallEngine.bodyPreview (utf8Bytes "1e400") jsonHeaders (captureOptions (.num 65536)) =
        .ok ⟨.json, "null", false⟩ ∧
      ¬ smallEngine.Faithful "application/json" (utf8Bytes "1e400") ⟨.json, "null", false⟩ := by
  refine ⟨⟨by decide +kernel, by decide +kernel, ?_⟩, by decide +kernel, ?_⟩
  · intro h
    unfold TextEngine.Faithful at h
    rw [jsonOf_text] at h
    exact absurd h (by decide +kernel)
  · intro h
    unfold TextEngine.Faithful at h
    have hjson : smallEngine.jsonOf "application/json" (utf8Bytes "1e400") =
        some (.num (10 ^ 400)) := by decide +kernel
    rw [hjson] at h
    exact absurd h (by decide +kernel)

end Tunnara.Edge
