/-
# The limit of the inspector on its way to a preview

`inspectorBodyLimit` passes the clamp of `POST /tunnels` and the insert, or the unchecked update of
`PATCH /tunnels/:id`, and is read by `bodyPreview`. A limit of zero is falsy in all of them: what
means that no body is kept becomes the default of 64 KiB.
-/

import Tunnara.Control.Tunnels
import Tunnara.Edge.Inspector

namespace Tunnara.Edge

open Control

inductive LimitRoute
  | post
  | patch

/-- The store as far as the limit goes through it. -/
structure LimitEnv where
  host : Host
  /-- The number that SQLite makes of a text in an INTEGER column. -/
  numericText : String → Option ℚ
  /-- `node:sqlite` gives the stored number back. -/
  readable : ℚ → Bool

/-- `Math.min(n, bound)`. -/
def minNumber (bound : ℚ) : JsNumber → JsNumber
  | .nan => .nan
  | .posInf => .fin bound
  | .negInf => .negInf
  | .fin q => .fin (min q bound)

/-- What the column gives back. -/
def readLimit (env : LimitEnv) (q : ℚ) : Except JsError Json :=
  if env.readable q then .ok (.num q)
  else .error { message := "The value is too large to be represented as a JavaScript number"
                code := some "ERR_OUT_OF_RANGE" }

/-- What the insert of `createTunnel` stores of its argument. -/
def insertLimit (env : LimitEnv) (inspectorBodyLimit : JsNumber) : Except JsError Json := do
  let stored ← storeNumber "tunnels.inspector_body_limit" ((orNumber inspectorBodyLimit 65536).max 0)
  match stored.value with
  | .fin q => readLimit env q
  -- the clamp leaves no infinity
  | _ => .error bindError

/-- `Math.min(Math.max(Number(body.inspectorBodyLimit || 65536), 0), 1024 * 1024)`, and the insert. -/
def postLimit (env : LimitEnv) (v : Option Json) : Except JsError Json := do
  let n ← (orDefault v (.num 65536)).toNumber env.host
  insertLimit env (minNumber 1048576 (n.max 0))

/-- `inspector_body_limit=?` with the value of the body. -/
def patchLimit (env : LimitEnv) : Json → Except JsError Json
  | .null => .error (notNullFailed "tunnels.inspector_body_limit")
  | .num q => readLimit env q
  | .str s => match env.numericText s with
      | some q => readLimit env q
      | none => .ok (.str s)
  | .bool _ | .arr _ | .obj _ => .error bindError

/-- The column `inspector_body_limit` after a request that was accepted. -/
def storedLimit (env : LimitEnv) (route : LimitRoute) (v : Json) : Except JsError Json :=
  match route with
  | .post => postLimit env (some v)
  | .patch => patchLimit env v

/-- `{ maxBodyBytes: tunnel.inspector_body_limit }`. -/
def captureOptions (limit : Json) : InspectorOptions where
  maxBodyBytes := some limit

/-- The same is kept of both; the encoding of an empty text does not matter. -/
def SameContent (preview preview' : Preview) : Prop :=
  preview.value = preview'.value ∧ (preview.value ≠ "" → preview.encoding = preview'.encoding)

/-- A preview of such a body keeps what comes from the first bytes up to the limit, and says if
there are more. -/
structure KeepsLimit (env : InspectorEnv) (options : InspectorOptions) (limit : ℚ) : Prop where
  truncated : ∀ body headers preview, env.bodyPreview body headers options = .ok preview →
    (preview.truncated = true ↔ limit < body.length)
  content : ∀ body body' headers preview preview', body.take ⌊limit⌋₊ = body'.take ⌊limit⌋₊ →
    env.bodyPreview body headers options = .ok preview →
    env.bodyPreview body' headers options = .ok preview' → SameContent preview preview'

variable {env : InspectorEnv} {body : List UInt8} {headers : List (String × Json)}
  {options : InspectorOptions}

variable {bound : ℚ} {preview : Preview}

theorem bodyPreview_eq (hbound : bound ≠ 0) (hmax : options.maxBodyBytes = some (.num bound))
    (hbody : body ≠ []) :
    env.bodyPreview body headers options = (env.contentType headers).map fun contentType =>
      let slice := body.take ⌊bound⌋₊
      let redacted :=
        if includes contentType "application/json" then env.redactedBody options slice else none
      match redacted with
      | some value => ⟨.json, value, decide (⌊bound⌋₊ < body.length)⟩
      | none => env.rawPreview contentType slice (decide (⌊bound⌋₊ < body.length)) := by
  have hmaxBytes : orDefault (some (.num bound)) (.num 65536) = .num bound := by
    apply if_pos
    simpa [Json.truthy] using hbound
  have hslice : body.take (sliceLength body.length (.fin bound)) = body.take ⌊bound⌋₊ := by
    change body.take (min ⌊bound⌋₊ body.length) = _
    rcases le_total ⌊bound⌋₊ body.length with hle | hle
    · rw [min_eq_left hle]
    · rw [min_eq_right hle, List.take_length, List.take_of_length_le hle]
  have hlength : decide ((body.take ⌊bound⌋₊).length < body.length) =
      decide (⌊bound⌋₊ < body.length) := by
    rw [List.length_take]
    apply decide_eq_decide.2
    omega
  unfold InspectorEnv.bodyPreview
  rw [if_neg hbody, hmax, hmaxBytes]
  change (env.contentType headers >>= _) = _
  cases env.contentType headers with
  | error error => rfl
  | ok contentType =>
    dsimp only [bind, Except.bind, Except.map]
    rw [hslice, hlength]
    generalize (if includes contentType "application/json" = true then
      env.redactedBody options (body.take ⌊bound⌋₊) else none) = redacted
    cases redacted <;> rfl

theorem truncated_iff (hpos : 0 < bound) (hmax : options.maxBodyBytes = some (.num bound))
    (h : env.bodyPreview body headers options = .ok preview) :
    preview.truncated = true ↔ bound < body.length := by
  rw [← Nat.floor_lt hpos.le]
  by_cases hbody : body = []
  · subst hbody
    unfold InspectorEnv.bodyPreview at h
    rw [if_pos rfl] at h
    cases h
    exact iff_of_false nofun (Nat.not_lt_zero _)
  · rw [bodyPreview_eq hpos.ne' hmax hbody] at h
    obtain ⟨contentType, -, rfl⟩ := map_eq_ok.1 h
    dsimp only
    split
    · exact decide_eq_true_iff
    · unfold InspectorEnv.rawPreview
      split <;> exact decide_eq_true_iff

theorem sameContent_of_take (hbound : bound ≠ 0) (hmax : options.maxBodyBytes = some (.num bound))
    {body' : List UInt8} {preview' : Preview} (hbody : body ≠ []) (hbody' : body' ≠ [])
    (htake : body.take ⌊bound⌋₊ = body'.take ⌊bound⌋₊)
    (h : env.bodyPreview body headers options = .ok preview)
    (h' : env.bodyPreview body' headers options = .ok preview') : SameContent preview preview' := by
  rw [bodyPreview_eq hbound hmax hbody] at h
  rw [bodyPreview_eq hbound hmax hbody'] at h'
  obtain ⟨contentType, hcontent, rfl⟩ := map_eq_ok.1 h
  obtain ⟨contentType', hcontent', rfl⟩ := map_eq_ok.1 h'
  rw [hcontent] at hcontent'
  cases hcontent'
  rw [htake]
  dsimp only
  split
  · exact ⟨rfl, fun _ => rfl⟩
  · unfold InspectorEnv.rawPreview
    split <;> exact ⟨rfl, fun _ => rfl⟩

theorem value_of_take_nil (hbound : bound ≠ 0) (hmax : options.maxBodyBytes = some (.num bound))
    (hdecode : env.utf8Text [] = "") (hparse : env.host.parseJson "" = none)
    (htake : body.take ⌊bound⌋₊ = []) (h : env.bodyPreview body headers options = .ok preview) :
    preview.value = "" := by
  by_cases hbody : body = []
  · subst hbody
    unfold InspectorEnv.bodyPreview at h
    rw [if_pos rfl] at h
    cases h
    rfl
  · have hnone : env.redactedBody options [] = none := by
      unfold InspectorEnv.redactedBody
      rw [hdecode, hparse]
      cases (env.lowerNames options.sensitiveJsonFields).toOption <;> rfl
    rw [bodyPreview_eq hbound hmax hbody] at h
    obtain ⟨contentType, -, rfl⟩ := map_eq_ok.1 h
    dsimp only
    rw [htake, hnone, ite_self]
    dsimp only
    unfold InspectorEnv.rawPreview
    split
    · exact hdecode
    · rfl

theorem keepsLimit_of_pos (hpos : 0 < bound) (hmax : options.maxBodyBytes = some (.num bound))
    (hdecode : env.utf8Text [] = "") (hparse : env.host.parseJson "" = none) :
    KeepsLimit env options bound where
  truncated _ _ _ h := truncated_iff hpos hmax h
  content body body' headers preview preview' htake h h' := by
    by_cases hbodies : body ≠ [] ∧ body' ≠ []
    · exact sameContent_of_take hpos.ne' hmax hbodies.1 hbodies.2 htake h h'
    · have hnil : body.take ⌊bound⌋₊ = [] := by
        rw [not_and_or, not_not, not_not] at hbodies
        rcases hbodies with rfl | rfl
        · exact List.take_nil
        · rw [htake, List.take_nil]
      have hvalue := value_of_take_nil hpos.ne' hmax hdecode hparse hnil h
      have hvalue' := value_of_take_nil hpos.ne' hmax hdecode hparse (htake ▸ hnil) h'
      exact ⟨hvalue.trans hvalue'.symm, absurd hvalue⟩

variable {limit : ℚ}

theorem KeepsLimit.of_floor {limit' : ℚ} (hpos : 0 ≤ limit) (hpos' : 0 ≤ limit')
    (hfloor : ⌊limit⌋₊ = ⌊limit'⌋₊) (h : KeepsLimit env options limit) :
    KeepsLimit env options limit' where
  truncated body headers preview hpreview := by
    rw [h.truncated body headers preview hpreview, ← Nat.floor_lt hpos, ← Nat.floor_lt hpos', hfloor]
  content body body' headers preview preview' htake :=
    h.content body body' headers preview preview' (hfloor ▸ htake)

def storedNumber (route : LimitRoute) (limit : ℚ) : ℚ :=
  match route with
  | .post => min (if limit = 0 then 65536 else limit) 1048576
  | .patch => limit

theorem storedLimit_eq {limits : LimitEnv} {route : LimitRoute} (hlimit : 0 ≤ limit)
    {column : Json} (h : storedLimit limits route (.num limit) = .ok column) :
    column = .num (storedNumber route limit) := by
  have hread {q : ℚ} (hq : readLimit limits q = .ok column) : column = .num q := by
    unfold readLimit at hq
    split at hq <;> cases hq
    rfl
  cases route with
  | patch => exact hread h
  | post =>
    have hdefault : orDefault (some (.num limit)) (.num 65536) =
        .num (if limit = 0 then 65536 else limit) := by
      by_cases hzero : limit = 0
      · subst hzero
        rfl
      · rw [if_neg hzero]
        apply if_pos
        simpa [Json.truthy] using hzero
    have hpos : 0 < (if limit = 0 then 65536 else limit) := by
      split_ifs with hzero
      · norm_num
      · exact lt_of_le_of_ne hlimit (Ne.symm hzero)
    unfold storedLimit postLimit at h
    rw [hdefault] at h
    change column = .num (min (if limit = 0 then 65536 else limit) 1048576)
    generalize (if limit = 0 then 65536 else limit) = n at h hpos ⊢
    have hmin : 0 < min n 1048576 := lt_min hpos (by norm_num)
    have hclamp : minNumber 1048576 ((JsNumber.fin n).max 0) = .fin (min n 1048576) := by
      change JsNumber.fin (min (max 0 n) 1048576) = _
      rw [max_eq_right hpos.le]
    have hnumber : (orNumber (.fin (min n 1048576)) 65536).max 0 = .fin (min n 1048576) := by
      unfold orNumber
      rw [if_neg (by simp [hmin.ne'])]
      change JsNumber.fin (max 0 (min n 1048576)) = _
      rw [max_eq_right hmin.le]
    have hstored : (Json.num n).toNumber limits.host = .ok (.fin n) := rfl
    rw [hstored] at h
    change insertLimit limits (minNumber 1048576 ((JsNumber.fin n).max 0)) = .ok column at h
    unfold insertLimit at h
    rw [hclamp, hnumber] at h
    unfold storeNumber at h
    rw [dif_neg nofun] at h
    exact hread h

theorem exists_preview {env : InspectorEnv} (hbound : bound ≠ 0)
    (hmax : options.maxBodyBytes = some (.num bound)) (hbody : body ≠ []) :
    ∃ preview, env.bodyPreview body [] options = .ok preview := by
  rw [bodyPreview_eq hbound hmax hbody]
  exact ⟨_, rfl⟩

theorem not_keepsLimit (hpos : 0 < bound) (hmax : options.maxBodyBytes = some (.num bound))
    (hbody : body ≠ []) (hdiffer : ¬ (bound < body.length ↔ limit < body.length)) :
    ¬ KeepsLimit env options limit := by
  intro hkeeps
  obtain ⟨preview, hpreview⟩ := exists_preview hpos.ne' hmax hbody
  exact hdiffer ((truncated_iff hpos hmax hpreview).symm.trans
    (hkeeps.truncated body [] preview hpreview))

theorem keepsLimit_zero : KeepsLimit env (captureOptions (.num 0)) limit ↔
    KeepsLimit env (captureOptions (.num 65536)) limit := by
  have hsame (body : List UInt8) (headers : List (String × Json)) :
      env.bodyPreview body headers (captureOptions (.num 0)) =
        env.bodyPreview body headers (captureOptions (.num 65536)) := rfl
  constructor
  · rintro ⟨htruncated, hcontent⟩
    exact ⟨htruncated, hcontent⟩
  · rintro ⟨htruncated, hcontent⟩
    exact ⟨htruncated, hcontent⟩

/-- The record of an exchange keeps the limit on both sides. -/
structure RecordsKeepLimit (env : InspectorEnv) (options : InspectorOptions) (limit : ℚ) : Prop where
  request : ∀ id organizationId tunnelId request response durationMs record,
    createInspectionRecord env id organizationId tunnelId request response durationMs options =
      .ok record → (record.requestBody.truncated = true ↔ limit < request.body.length) ∧
    ∀ body' record', request.body.take ⌊limit⌋₊ = body'.take ⌊limit⌋₊ →
      createInspectionRecord env id organizationId tunnelId { request with body := body' } response
        durationMs options = .ok record' → SameContent record.requestBody record'.requestBody
  response : ∀ id organizationId tunnelId request response durationMs record,
    createInspectionRecord env id organizationId tunnelId request (some response) durationMs
      options = .ok record → (record.responseBody.truncated = true ↔ limit < response.body.length) ∧
    ∀ body' record', response.body.take ⌊limit⌋₊ = body'.take ⌊limit⌋₊ →
      createInspectionRecord env id organizationId tunnelId request
        (some { response with body := body' }) durationMs options = .ok record' →
      SameContent record.responseBody record'.responseBody

theorem previews_of_record {id organizationId tunnelId : String} {request : InspectedRequest}
    {response : Option InspectedResponse} {durationMs : JsNumber} {record : InspectionRecord}
    (h : createInspectionRecord env id organizationId tunnelId request response durationMs options =
      .ok record) :
    env.bodyPreview request.body request.headers options = .ok record.requestBody ∧
      env.bodyPreview ((response.map InspectedResponse.body).getD [])
        ((response.map InspectedResponse.headers).getD []) options = .ok record.responseBody := by
  obtain ⟨requestHeaders, -, h⟩ := bind_eq_ok.1 h
  obtain ⟨responseHeaders, -, h⟩ := bind_eq_ok.1 h
  obtain ⟨requestBody, hrequest, h⟩ := bind_eq_ok.1 h
  obtain ⟨responseBody, hresponse, h⟩ := bind_eq_ok.1 h
  obtain ⟨status, -, h⟩ := bind_eq_ok.1 h
  cases h
  exact ⟨hrequest, hresponse⟩

theorem exists_record (hsensitive : options.sensitiveHeaders = [])
    (h : env.bodyPreview body headers options = .ok preview) :
    ∃ record, createInspectionRecord env "" "" "" ⟨"", "", "", "", headers, body⟩ none .nan options =
      .ok record ∧ record.requestBody = preview := by
  unfold createInspectionRecord
  rw [hsensitive]
  rw [h]
  exact ⟨_, rfl, rfl⟩

theorem recordsKeepLimit_iff (hsensitive : options.sensitiveHeaders = []) :
    RecordsKeepLimit env options limit ↔ KeepsLimit env options limit := by
  constructor
  · rintro ⟨hrequest, -⟩
    constructor
    · intro body headers preview hpreview
      obtain ⟨record, hrecord, rfl⟩ := exists_record hsensitive hpreview
      exact (hrequest _ _ _ _ _ _ _ hrecord).1
    · intro body body' headers preview preview' htake hpreview hpreview'
      obtain ⟨record, hrecord, rfl⟩ := exists_record hsensitive hpreview
      obtain ⟨record', hrecord', rfl⟩ := exists_record hsensitive hpreview'
      exact (hrequest _ _ _ _ _ _ _ hrecord).2 body' record' htake hrecord'
  · rintro ⟨htruncated, hcontent⟩
    constructor
    · intro id organizationId tunnelId request response durationMs record hrecord
      have hpreview := (previews_of_record hrecord).1
      exact ⟨htruncated _ _ _ hpreview, fun body' record' htake hrecord' =>
        hcontent _ _ _ _ _ htake hpreview (previews_of_record hrecord').1⟩
    · intro id organizationId tunnelId request response durationMs record hrecord
      have hpreview := (previews_of_record hrecord).2
      exact ⟨htruncated _ _ _ hpreview, fun body' record' htake hrecord' =>
        hcontent _ _ _ _ _ htake hpreview (previews_of_record hrecord').2⟩

variable {limits : LimitEnv} {route : LimitRoute} {column : Json}

theorem keepsLimit_iff (hdecode : env.utf8Text [] = "") (hparse : env.host.parseJson "" = none)
    (hlimit : 0 ≤ limit) (haccepted : storedLimit limits route (.num limit) = .ok column) :
    KeepsLimit env (captureOptions column) limit ↔
      limit ≠ 0 ∧ (route = .post → ⌊limit⌋₊ ≤ 1048576) := by
  have hcolumn := storedLimit_eq hlimit haccepted
  subst hcolumn
  constructor
  · intro hkeeps
    refine ⟨?_, ?_⟩
    · rintro rfl
      have hdefault : KeepsLimit env (captureOptions (.num 65536)) 0 := by
        cases route with
        | post =>
          have hstored : storedNumber .post 0 = 65536 := by
            unfold storedNumber
            norm_num
          rwa [hstored] at hkeeps
        | patch => exact keepsLimit_zero.1 hkeeps
      refine not_keepsLimit (by norm_num) rfl (List.cons_ne_nil 0 []) ?_ hdefault
      norm_num
    · rintro rfl
      by_contra hclamp
      rw [not_le, Nat.lt_iff_add_one_le, Nat.le_floor_iff hlimit] at hclamp
      have hlarge : (1048576 : ℚ) ≤ limit := le_trans (by norm_num) hclamp
      have hstored : storedNumber .post limit = 1048576 := by
        unfold storedNumber
        rw [if_neg (by rintro rfl; norm_num at hlarge), min_eq_right hlarge]
      rw [hstored] at hkeeps
      have hlength : (List.replicate (1048576 + 1) (0 : UInt8)).length = 1048576 + 1 :=
        List.length_replicate
      refine not_keepsLimit (by norm_num) rfl (List.ne_nil_of_length_eq_add_one hlength) ?_ hkeeps
      rw [hlength]
      exact fun h => absurd (h.1 (by norm_num)) (not_lt.2 hclamp)
  · rintro ⟨hne, hclamp⟩
    have hpos : 0 < limit := lt_of_le_of_ne hlimit hne.symm
    cases route with
    | patch => exact keepsLimit_of_pos hpos rfl hdecode hparse
    | post =>
      have hstored : storedNumber .post limit = min limit 1048576 := by
        unfold storedNumber
        rw [if_neg hne]
      rw [hstored]
      have hmin : 0 < min limit 1048576 := lt_min hpos (by norm_num)
      refine (keepsLimit_of_pos hmin rfl hdecode hparse).of_floor hmin.le hlimit ?_
      have hfloor := hclamp rfl
      rcases le_total limit 1048576 with hle | hle
      · rw [min_eq_left hle]
      · rw [min_eq_right hle]
        have hge : 1048576 ≤ ⌊limit⌋₊ := Nat.le_floor (by exact_mod_cast hle)
        have hconst : ⌊(1048576 : ℚ)⌋₊ = 1048576 := by
          exact_mod_cast Nat.floor_natCast (R := ℚ) 1048576
        rw [hconst]
        omega

/-- **When the limit of the inspector is kept**: unless it is zero, or above the clamp of
`POST /tunnels`. -/
theorem recordsKeepLimit_iff_limit (env : InspectorEnv) (limits : LimitEnv) (route : LimitRoute)
    (hdecode : env.utf8Text [] = "") (hparse : env.host.parseJson "" = none) {limit : ℚ}
    (hlimit : 0 ≤ limit) {column : Json}
    (haccepted : storedLimit limits route (.num limit) = .ok column) :
    RecordsKeepLimit env (captureOptions column) limit ↔
      limit ≠ 0 ∧ (route = .post → ⌊limit⌋₊ ≤ 1048576) :=
  (recordsKeepLimit_iff rfl).trans (keepsLimit_iff hdecode hparse hlimit haccepted)

def limitInspector : InspectorEnv where
  host := .plain
  utf8Text bytes := String.ofList (bytes.map fun byte => Char.ofNat byte.toNat)
  stringify _ := "null"
  exceedsStack _ := false

def limitStore : LimitEnv where
  host := .plain
  numericText _ := none
  readable _ := true

theorem recordsKeepLimit_kibibyte :
    RecordsKeepLimit limitInspector (captureOptions (.num 1024)) 1024 := by
  have haccepted : storedLimit limitStore .patch (.num 1024) = .ok (.num 1024) := rfl
  exact (recordsKeepLimit_iff_limit limitInspector limitStore .patch (by decide) rfl (by norm_num)
    haccepted).2 ⟨by norm_num, nofun⟩

/-- Both routes accept a limit of zero, and a body of one byte is kept nevertheless. -/
theorem not_recordsKeepLimit_zero :
    storedLimit limitStore .post (.num 0) = .ok (.num 65536) ∧
      storedLimit limitStore .patch (.num 0) = .ok (.num 0) ∧
      ¬ RecordsKeepLimit limitInspector (captureOptions (.num 65536)) 0 ∧
      ¬ RecordsKeepLimit limitInspector (captureOptions (.num 0)) 0 := by
  have hpost : storedLimit limitStore .post (.num 0) = .ok (.num 65536) := by decide +kernel
  have hpatch : storedLimit limitStore .patch (.num 0) = .ok (.num 0) := rfl
  have hdecode : limitInspector.utf8Text [] = "" := by decide
  refine ⟨hpost, hpatch, ?_, ?_⟩
  · intro hkeeps
    have h := (keepsLimit_iff hdecode rfl le_rfl hpost).1 ((recordsKeepLimit_iff rfl).1 hkeeps)
    exact h.1 rfl
  · intro hkeeps
    have h := (keepsLimit_iff hdecode rfl le_rfl hpatch).1 ((recordsKeepLimit_iff rfl).1 hkeeps)
    exact h.1 rfl

end Tunnara.Edge
