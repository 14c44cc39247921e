/-
# The replay of an inspection

`POST /api/v1/inspections/:id/replay` sends the stored headers with the decoded body. The redaction
marker is taken out under five names, while the redaction puts it under others; a stored
`content-length` is that of the original body, whatever the preview has kept and the method lets
through.
-/

import Tunnara.Edge.Fidelity
import Tunnara.Planes.Inspections

namespace Tunnara.Edge

open Control Planes

/-- What the replay hands to `http.request`, and the bytes that it writes. -/
structure ReplayRequest where
  (method path : String)
  headers : List (String × Json)
  written : List UInt8

/-- The names under which the marker is taken out. -/
def removableNames : List String :=
  ["authorization", "cookie", "content-length", "connection", "host"]

/-- `[0-9a-f-]+` without regard to case, as the route has it. -/
def isReplayId (id : String) : Bool :=
  id ≠ "" && id.toList.all fun c => c.isDigit || "abcdefABCDEF-".toList.contains c

/-- The rows of `request_inspections`, and the tunnels they refer to. -/
structure ReplayStore where
  inspections : List NodeInspection
  tunnels : OrdMap String TunnelRow

namespace ReplayStore

variable (store : ReplayStore)

/-- `SELECT * FROM request_inspections WHERE organization_id=? AND id=?`. -/
def getInspection (organizationId id : String) : Option NodeInspection :=
  store.inspections.find? fun row => row.organizationId = organizationId ∧ row.id = id

/-- `{ ...request_headers, host, 'x-tunnara-replay-id' }`, without the markers that are removed. -/
def replayHeaders (hostname : String) (inspection : NodeInspection) : List (String × Json) :=
  (Json.setField (Json.setField inspection.requestHeaders "host" (.str hostname))
      "x-tunnara-replay-id" (.str inspection.id)).filter fun header =>
    ¬ (header.1 ∈ removableNames ∧ header.2 = redactedText)

/-- `GET` and `HEAD` have no body. -/
def writtenBody (inspection : NodeInspection) : List UInt8 :=
  if inspection.method = "GET" ∨ inspection.method = "HEAD" then []
  else decodeInspectionBody inspection.requestBody

/-- The request that is issued; `none` is the answer 404. -/
def replay (organizationId id : String) : Option ReplayRequest :=
  if isReplayId id then do
    let inspection ← store.getInspection organizationId id
    let tunnel ← (store.tunnels.get? inspection.tunnelId).filter fun tunnel =>
      tunnel.organizationId = organizationId
    return {
      method := inspection.method
      path := inspection.path
      headers := replayHeaders tunnel.hostname inspection
      written := writtenBody inspection }
  else none

end ReplayStore

/-- The length that a value of `Content-Length` declares. -/
def declaredLength : Json → Option ℕ
  | .str text =>
    if text ≠ "" ∧ text.toList.all Char.isDigit then some (Nat.ofDigitChars 10 text.toList 0)
    else none
  | .num q => if q.den = 1 ∧ 0 ≤ q then some q.num.toNat else none
  | _ => none

/-- Names of headers have no case. -/
def isContentLength (name : String) : Bool := name.toLower = "content-length"

/-- No header is the redaction marker, and a declared length is that of the body. -/
structure ReplayRequest.WellFormed (request : ReplayRequest) : Prop where
  unmarked : ∀ header ∈ request.headers, header.2 ≠ redactedText
  length : ∀ header ∈ request.headers, isContentLength header.1 = true →
    declaredLength header.2 = some request.written.length

/-- The stored headers have the marker only where it is taken out, and the length of what is
decoded from the stored body. -/
structure Replayable (inspection : NodeInspection) : Prop where
  marked : ∀ header ∈ inspection.requestHeaders, header.2 = redactedText →
    header.1 ∈ removableNames ∨ header.1 = "x-tunnara-replay-id"
  length : ∀ header ∈ inspection.requestHeaders, isContentLength header.1 = true →
    (header.1 = "content-length" ∧ header.2 = redactedText) ∨
      declaredLength header.2 = some
        (if inspection.method = "GET" ∨ inspection.method = "HEAD" then 0
          else (decodeInspectionBody inspection.requestBody).length)

theorem mem_setField {fields : List (String × Json)} {name : String} {value : Json}
    {header : String × Json} : header ∈ Json.setField fields name value ↔
      header = (name, value) ∨ (header ∈ fields ∧ header.1 ≠ name) := by
  unfold Json.setField
  split_ifs with hany
  · rw [List.mem_map]
    constructor
    · rintro ⟨field, hfield, rfl⟩
      split_ifs with hname
      · exact .inl rfl
      · exact .inr ⟨hfield, hname⟩
    · rintro (rfl | ⟨hfield, hname⟩)
      · obtain ⟨field, hfield, hsame⟩ := List.any_eq_true.1 hany
        exact ⟨field, hfield, if_pos (of_decide_eq_true hsame)⟩
      · exact ⟨header, hfield, if_neg hname⟩
  · rw [List.mem_append, List.mem_singleton]
    constructor
    · rintro (hfield | rfl)
      · refine .inr ⟨hfield, ?_⟩
        intro hname
        exact hany (List.any_eq_true.2 ⟨header, hfield, decide_eq_true hname⟩)
      · exact .inl rfl
    · rintro (rfl | ⟨hfield, -⟩)
      · exact .inr rfl
      · exact .inl hfield

theorem mem_replayHeaders {hostname : String} {inspection : NodeInspection}
    {header : String × Json} : header ∈ ReplayStore.replayHeaders hostname inspection ↔
      (header = ("x-tunnara-replay-id", .str inspection.id) ∨
        (header = ("host", .str hostname) ∨
            (header ∈ inspection.requestHeaders ∧ header.1 ≠ "host")) ∧
          header.1 ≠ "x-tunnara-replay-id") ∧
      ¬ (header.1 ∈ removableNames ∧ header.2 = redactedText) := by
  unfold ReplayStore.replayHeaders
  rw [List.mem_filter, mem_setField, mem_setField, decide_eq_true_iff]

theorem host_removable : "host" ∈ removableNames := by decide

theorem isContentLength_set : isContentLength "x-tunnara-replay-id" = false ∧
    isContentLength "host" = false := by decide +kernel

theorem ne_redactedText {id : String} (h : isReplayId id = true) : Json.str id ≠ redactedText := by
  intro hsame
  have htext : id = "[REDACTED]" := Json.str.inj hsame
  rw [htext] at h
  exact absurd h (by decide +kernel)

theorem getInspection_eq_some {store : ReplayStore} {organizationId id : String}
    {inspection : NodeInspection} (h : store.getInspection organizationId id = some inspection) :
    inspection.organizationId = organizationId ∧ inspection.id = id := by
  have hfound := List.find?_some h
  exact of_decide_eq_true hfound

theorem replay_eq_some {store : ReplayStore} {organizationId id : String} {request : ReplayRequest}
    (h : store.replay organizationId id = some request) :
    isReplayId id = true ∧ ∃ inspection hostname,
      store.getInspection organizationId id = some inspection ∧ inspection.id = id ∧
      request = ⟨inspection.method, inspection.path,
        ReplayStore.replayHeaders hostname inspection, ReplayStore.writtenBody inspection⟩ := by
  unfold ReplayStore.replay at h
  split_ifs at h with hid
  obtain ⟨inspection, hinspection, h⟩ := Option.bind_eq_some_iff.1 h
  obtain ⟨tunnel, -, h⟩ := Option.bind_eq_some_iff.1 h
  cases h
  obtain ⟨-, hname⟩ := getInspection_eq_some hinspection
  exact ⟨hid, inspection, tunnel.hostname, hinspection, hname, rfl⟩

theorem length_writtenBody (inspection : NodeInspection) :
    (ReplayStore.writtenBody inspection).length =
      if inspection.method = "GET" ∨ inspection.method = "HEAD" then 0
      else (decodeInspectionBody inspection.requestBody).length := by
  unfold ReplayStore.writtenBody
  split_ifs <;> rfl

/-- **When a replay is well formed**: whenever the record has the marker under no other name than
the five, and no length but that of the bytes that are written. -/
theorem wellFormed_iff (store : ReplayStore) {organizationId id : String}
    {inspection : NodeInspection} {request : ReplayRequest}
    (hstored : store.getInspection organizationId id = some inspection)
    (hreplay : store.replay organizationId id = some request) :
    request.WellFormed ↔ Replayable inspection := by
  obtain ⟨hid, found, hostname, hfound, hname, rfl⟩ := replay_eq_some hreplay
  rw [hstored] at hfound
  cases hfound
  have hid' : Json.str inspection.id ≠ redactedText := by
    rw [hname]
    exact ne_redactedText hid
  constructor
  · rintro ⟨hunmarked, hlength⟩
    constructor
    · intro header hheader hmarked
      by_contra hleft
      obtain ⟨hremovable, hset⟩ := not_or.1 hleft
      have hhost : header.1 ≠ "host" := by
        intro hhost
        apply hremovable
        rw [hhost]
        exact host_removable
      apply hunmarked header _ hmarked
      rw [mem_replayHeaders]
      exact ⟨.inr ⟨.inr ⟨hheader, hhost⟩, hset⟩, fun h => hremovable h.1⟩
    · intro header hheader hcontent
      by_cases hremoved : header.1 ∈ removableNames ∧ header.2 = redactedText
      · left
        refine ⟨?_, hremoved.2⟩
        have hnames : ∀ name ∈ removableNames, isContentLength name = true →
            name = "content-length" := by decide +kernel
        exact hnames header.1 hremoved.1 hcontent
      · right
        rw [← length_writtenBody]
        apply hlength header _ hcontent
        rw [mem_replayHeaders]
        have hhost : header.1 ≠ "host" := by
          intro hhost
          rw [hhost, isContentLength_set.2] at hcontent
          cases hcontent
        have hset : header.1 ≠ "x-tunnara-replay-id" := by
          intro hset
          rw [hset, isContentLength_set.1] at hcontent
          cases hcontent
        exact ⟨.inr ⟨.inr ⟨hheader, hhost⟩, hset⟩, hremoved⟩
  · rintro ⟨hmarked, hlength⟩
    constructor
    · intro header hheader hvalue
      obtain ⟨hsource, hkept⟩ := mem_replayHeaders.1 hheader
      rcases hsource with rfl | ⟨rfl | ⟨hrecord, -⟩, hset⟩
      · exact hid' hvalue
      · exact hkept ⟨host_removable, hvalue⟩
      · rcases hmarked header hrecord hvalue with hremovable | hsame
        · exact hkept ⟨hremovable, hvalue⟩
        · exact hset hsame
    · intro header hheader hcontent
      rw [length_writtenBody]
      obtain ⟨hsource, hkept⟩ := mem_replayHeaders.1 hheader
      rcases hsource with rfl | ⟨rfl | ⟨hrecord, -⟩, -⟩
      · cases isContentLength_set.1.symm.trans hcontent
      · cases isContentLength_set.2.symm.trans hcontent
      · rcases hlength header hrecord hcontent with ⟨hname, hvalue⟩ | hdeclared
        · refine absurd ⟨?_, hvalue⟩ hkept
          rw [hname]
          decide
        · exact hdeclared

/-- The record of a request that a policy has denied: the headers are those of the client, and
the body is left out. -/
def storedInspection (method : String) (requestHeaders : List (String × Json))
    (requestBody : Preview) : NodeInspection :=
  ⟨"1a", "o1", "t1", method, "app.tunnara.test", "/upload", "", requestHeaders, requestBody,
    .fin 403, [], ⟨.utf8, "", false⟩, .fin 1, .null, ""⟩

def replayStore (inspection : NodeInspection) : ReplayStore where
  inspections := [inspection]
  tunnels := OrdMap.empty.set "t1"
    ⟨"t1", "o1", "a1", none, "app", "http", "app.tunnara.test", "active", true⟩

def savedUpload : NodeInspection :=
  storedInspection "POST" [("content-length", .str "2"), ("cookie", redactedText)]
    ⟨.utf8, "ok", false⟩

theorem wellFormed_saved : ∃ request,
    (replayStore savedUpload).replay "o1" "1a" = some request ∧ request.WellFormed := by
  refine ⟨_, rfl,
    (@wellFormed_iff (replayStore savedUpload) "o1" "1a" savedUpload _ rfl rfl).2 ⟨?_, ?_⟩⟩
  · decide +kernel
  · decide +kernel

/-- A declared length of five with no body, and a marker under `x-api-key`. -/
theorem not_wellFormed_denied :
    (∃ request, (replayStore (storedInspection "POST" [("content-length", .str "5")]
        ⟨.utf8, "", false⟩)).replay "o1" "1a" = some request ∧ ¬ request.WellFormed) ∧
    ∃ request, (replayStore (storedInspection "POST" [("x-api-key", redactedText)]
        ⟨.utf8, "", false⟩)).replay "o1" "1a" = some request ∧ ¬ request.WellFormed := by
  constructor
  · refine ⟨_, rfl, ?_⟩
    rintro ⟨-, hlength⟩
    have hdeclared := hlength ("content-length", .str "5") (by decide +kernel) (by decide +kernel)
    exact absurd hdeclared (by decide +kernel)
  · refine ⟨_, rfl, ?_⟩
    rintro ⟨hunmarked, -⟩
    exact hunmarked ("x-api-key", redactedText) (by decide +kernel) rfl

end Tunnara.Edge
