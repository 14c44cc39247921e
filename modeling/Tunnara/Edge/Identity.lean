/-
# Who the upstream is told the client is

`#handle` and `#upgrade` copy the headers of the client, less those the policy removes, and add
those it adds. `#handle` then sets the two that name the identity the policy has found, if it has
found one; `#upgrade` sets none. What the upstream reads there is otherwise the client's word.
-/

import Tunnara.Edge.Server

namespace Tunnara.Edge

open Policy Relay

/-- The last value that a list of headers assigns to a name. -/
def assigned (entries : List (String × String)) (name : String) : Option Json :=
  (entries.reverse.find? fun entry => entry.1 = name).map fun entry => .str entry.2

/-- What a request says under a name once the policy has removed and added headers. -/
def given (host : Host) (request : Request) (decision : PolicyResult) (name : String) :
    Option Json :=
  (assigned decision.requestHeaders name).or
    (if name ∈ decision.removeRequestHeaders then none else requestHeader host request name)

section Lookup

variable {host : Host} {request : Request} {decision : PolicyResult} {name : String}

theorem assigned_eq_none_iff {entries : List (String × String)} :
    assigned entries name = none ↔ name ∉ headerKeys entries := by
  unfold assigned headerKeys
  rw [Option.map_eq_none_iff, List.find?_eq_none, List.mem_map, not_exists]
  exact ⟨fun h entry hentry => h entry (List.mem_reverse.2 hentry.1) (decide_eq_true hentry.2),
    fun h entry hmem heq => h entry ⟨List.mem_reverse.1 hmem, of_decide_eq_true heq⟩⟩

theorem mem_of_assigned {entries : List (String × String)} {value : Json}
    (h : assigned entries name = some value) :
    ∃ entry ∈ entries, entry.1 = name ∧ value = .str entry.2 := by
  obtain ⟨entry, hfound, rfl⟩ := Option.map_eq_some_iff.1 h
  have hname := List.find?_some hfound
  exact ⟨entry, List.mem_reverse.1 (List.mem_of_find?_eq_some hfound), of_decide_eq_true hname, rfl⟩

theorem lookup_assign (entries : List (String × String)) (hproto : name ≠ "__proto__")
    (headers : FrameHeaders) :
    Json.lookup (entries.foldl (fun headers h => setHeader headers h.1 (.str h.2)) headers) name =
      (assigned entries name).or (Json.lookup headers name) := by
  unfold assigned
  induction entries using List.reverseRecOn with
  | nil => rfl
  | append_singleton entries entry ih =>
    rw [List.foldl_append, List.foldl_cons, List.foldl_nil, lookup_setHeader,
      List.reverse_append, List.reverse_singleton, List.singleton_append, List.find?_cons]
    by_cases hname : entry.1 = name
    · rw [if_pos ⟨hname.symm, hname ▸ hproto⟩, decide_eq_true hname]
      rfl
    · rw [if_neg (fun h => hname h.1.symm), decide_eq_false hname]
      exact ih

theorem lookup_decided {dropped : List String} (hproto : name ≠ "__proto__")
    (hdropped : name ∉ dropped) :
    Json.lookup (assignDecided decision (keptHeaders host dropped request decision)) name =
      given host request decision name := by
  unfold assignDecided
  rw [lookup_assign _ hproto, lookup_keptHeaders]
  congr 1
  by_cases hremoved : name ∈ decision.removeRequestHeaders
  · rw [if_pos (.inr (.inl hremoved)), if_pos hremoved]
  · rw [if_neg (by tauto), if_neg hremoved]

theorem lookup_upgradeHeaders (hproto : name ≠ "__proto__") :
    Json.lookup (upgradeHeaders host request decision) name = given host request decision name :=
  lookup_decided hproto List.not_mem_nil

theorem lookup_forwardedHeaders {secure : Bool} {hostname freshId : String}
    {headers : FrameHeaders} (hproto : name ≠ "__proto__") (hhop : name ∉ hopByHop)
    (h : forwardedHeaders host secure request hostname freshId decision = .ok headers) :
    ∃ own, ownHeaders host secure request hostname freshId decision = .ok own ∧
      Json.lookup headers name = (assigned own name).or (given host request decision name) := by
  obtain ⟨own, hown, h⟩ := bind_eq_ok.1 h
  cases h
  refine ⟨own, hown, ?_⟩
  rw [lookup_assign _ hproto, lookup_decided hproto hhop]

end Lookup

/-- The name starts with `x-tunnara-identity-`. -/
def identityNamed (host : Host) (name : String) : Bool :=
  "x-tunnara-identity-".toList.isPrefixOf (host.toLowerCase name).toList

/-- The two names that the Edge itself sets. -/
def identityNames : List String := ["x-tunnara-identity-subject", "x-tunnara-identity-type"]

/-- The requests differ only in headers named `x-tunnara-identity-*`. -/
structure Variant (host : Host) (request other : Request) : Prop where
  method : other.method = request.method
  url : other.url = request.url
  remoteAddress : other.remoteAddress = request.remoteAddress
  now : other.now = request.now
  headers : (other.headers.filter fun h => !identityNamed host h.1) =
    request.headers.filter fun h => !identityNamed host h.1

/-- The two ways a request is forwarded. -/
inductive Way
  | handle
  | upgrade

/-- A call of `#handle` or `#upgrade`, but for the request. -/
structure Call where
  config : Config
  route : Json
  (hostname freshId : String)
  buckets : RateBuckets

namespace Call

variable (call : Call)

def decision (request : Request) : Except JsError PolicyResult :=
  call.config.decision call.route request call.hostname call.buckets

/-- The headers that reach the upstream. -/
def forwarded (request : Request) (decision : PolicyResult) : Way → Except JsError FrameHeaders
  | .handle => forwardedHeaders call.config.host call.config.secure request call.hostname
      call.freshId decision
  | .upgrade => .ok (upgradeHeaders call.config.host request decision)

/-- The headers that name the identity: `#upgrade` has none. -/
def names (decision : PolicyResult) : Way → Except JsError (List (String × String))
  | .handle => identityHeaders call.config.host decision
  | .upgrade => .ok []

structure Forwards (request : Request) (way : Way) (decision : PolicyResult)
    (headers : FrameHeaders) : Prop where
  decided : call.decision request = .ok decision
  allowed : decision.allowed = true
  headers : call.forwarded request decision way = .ok headers

/-- What the client says of its identity does not reach the upstream: another request that
differs only in it has the same forwarded, and something only if the policy has an identity. -/
structure Unforgeable (request other : Request) : Prop where
  same : ∀ way decision headers decision' headers', call.Forwards request way decision headers →
    call.Forwards other way decision' headers' → ∀ name ∈ identityNames,
      Json.lookup headers' name = Json.lookup headers name
  identified : ∀ way decision headers, call.Forwards other way decision headers →
    ∀ name ∈ identityNames, Json.lookup headers name ≠ none → decision.identity ≠ none

end Call

/-- The policy removes the two headers, or replaces them and has found an identity. -/
def Shields (decision : PolicyResult) : Prop :=
  ∀ name ∈ identityNames,
    (name ∉ headerKeys decision.requestHeaders ∧ name ∈ decision.removeRequestHeaders) ∨
      (name ∈ headerKeys decision.requestHeaders ∧ decision.identity ≠ none)

instance (decision : PolicyResult) : Decidable (Shields decision) :=
  inferInstanceAs (Decidable (∀ name ∈ identityNames, _))

section Forgery

variable {call : Call} {request other : Request} {decision : PolicyResult} {name : String}

theorem identityNames_plain (h : name ∈ identityNames) :
    name ≠ "__proto__" ∧ name ∉ hopByHop ∧
      name ∉ ["x-forwarded-host", "x-forwarded-proto", "x-forwarded-for",
        "x-tunnara-request-id"] := by
  revert name
  decide

variable {host : Host}

theorem assigned_ownHeaders {secure : Bool} {hostname freshId : String}
    {own : List (String × String)} (hname : name ∈ identityNames)
    (h : ownHeaders host secure request hostname freshId decision = .ok own) :
    ∃ identity, identityHeaders host decision = .ok identity ∧
      assigned own name = assigned identity name := by
  obtain ⟨identity, hidentity, h⟩ := bind_eq_ok.1 h
  cases h
  refine ⟨identity, hidentity, ?_⟩
  have hother := (identityNames_plain hname).2.2
  unfold assigned
  rw [List.reverse_append, List.find?_append]
  have hnone : (List.find? (fun entry => decide (entry.1 = name))
      [("x-forwarded-host", hostname), ("x-forwarded-proto", if secure then "https" else "http"),
        ("x-forwarded-for", request.remoteAddress.getD ""),
        ("x-tunnara-request-id", requestIdHeader request freshId)].reverse) = none := by
    rw [List.find?_eq_none]
    intro entry hmem heq
    rw [decide_eq_true_eq] at heq
    rw [← heq] at hother
    simp only [List.reverse_cons, List.reverse_nil, List.nil_append, List.cons_append,
      List.mem_cons, List.not_mem_nil, or_false] at hmem
    rcases hmem with rfl | rfl | rfl | rfl <;> simp at hother
  rw [hnone, Option.or_none]

theorem Call.Forwards.lookup {way : Way} {headers : FrameHeaders}
    (h : call.Forwards request way decision headers) (hname : name ∈ identityNames) :
    ∃ named, call.names decision way = .ok named ∧ Json.lookup headers name =
      (assigned named name).or (given call.config.host request decision name) := by
  obtain ⟨hproto, hhop, -⟩ := identityNames_plain hname
  have hheaders := h.headers
  cases way with
  | handle =>
    obtain ⟨own, hown, hlookup⟩ := lookup_forwardedHeaders hproto hhop hheaders
    obtain ⟨named, hnamed, hassigned⟩ := assigned_ownHeaders hname hown
    exact ⟨named, hnamed, hassigned ▸ hlookup⟩
  | upgrade =>
    cases hheaders
    exact ⟨[], rfl, lookup_upgradeHeaders hproto⟩

theorem names_of_none (h : decision.identity = none) {way : Way} :
    call.names decision way = .ok [] := by
  cases way with
  | handle =>
    unfold Call.names identityHeaders
    rw [h]
  | upgrade => rfl

theorem given_of_shields (h : Shields decision) (hname : name ∈ identityNames) :
    given host request decision name = assigned decision.requestHeaders name ∧
      (assigned decision.requestHeaders name ≠ none → decision.identity ≠ none) := by
  unfold given
  rcases h name hname with ⟨hnone, hremoved⟩ | ⟨hadded, hidentity⟩
  · rw [assigned_eq_none_iff.2 hnone, if_pos hremoved]
    exact ⟨rfl, absurd rfl⟩
  · refine ⟨?_, fun _ => hidentity⟩
    have hsome : assigned decision.requestHeaders name ≠ none :=
      fun hnone => assigned_eq_none_iff.1 hnone hadded
    obtain ⟨value, hvalue⟩ := Option.ne_none_iff_exists'.1 hsome
    rw [hvalue, Option.some_or]

theorem unforgeable_of_shields {decision' : PolicyResult}
    (hdecision : call.decision request = .ok decision)
    (hdecision' : call.decision other = .ok decision')
    (hshields : decision.allowed = true → Shields decision)
    (hshields' : decision'.allowed = true → Shields decision') (hadded : ∀ name ∈ identityNames,
      assigned decision'.requestHeaders name = assigned decision.requestHeaders name)
    (hidentity : identityHeaders call.config.host decision' =
      identityHeaders call.config.host decision) : call.Unforgeable request other := by
  constructor
  · intro way found headers found' headers' h h' name hname
    cases hdecision.symm.trans h.decided
    cases hdecision'.symm.trans h'.decided
    obtain ⟨named, hnamed, hlookup⟩ := h.lookup hname
    obtain ⟨named', hnamed', hlookup'⟩ := h'.lookup hname
    have hsame : call.names decision' way = call.names decision way := by
      cases way with
      | handle => exact hidentity
      | upgrade => rfl
    cases hnamed'.symm.trans (hsame.trans hnamed)
    rw [hlookup, hlookup', (given_of_shields (hshields h.allowed) hname).1,
      (given_of_shields (hshields' h'.allowed) hname).1, hadded name hname]
  · intro way found headers h name hname hsome hnone
    cases hdecision'.symm.trans h.decided
    obtain ⟨named, hnamed, hlookup⟩ := h.lookup hname
    obtain ⟨hgiven, hidentified⟩ :=
      @given_of_shields other _ _ call.config.host (hshields' h.allowed) hname
    cases (names_of_none hnone).symm.trans hnamed
    rw [hlookup, hgiven] at hsome
    exact hidentified hsome hnone

theorem Variant.refl (host : Host) (request : Request) : Variant host request request :=
  ⟨rfl, rfl, rfl, rfl, rfl⟩

/-- The request without what the client says of its identity, and with one such header. -/
def claiming (host : Host) (request : Request) (claims : Headers) : Request :=
  { request with headers := request.headers.filter (fun h => !identityNamed host h.1) ++ claims }

theorem variant_claiming {claims : Headers}
    (h : ∀ claim ∈ claims, identityNamed host claim.1 = true) :
    Variant host request (claiming host request claims) := by
  refine ⟨rfl, rfl, rfl, rfl, ?_⟩
  unfold claiming
  have hclaims : claims.filter (fun h => !identityNamed host h.1) = [] := by
    rw [List.filter_eq_nil_iff]
    intro claim hmem
    simp [h claim hmem]
  rw [List.filter_append, List.filter_filter, hclaims, List.append_nil]
  simp only [Bool.and_self]

theorem identityNamed_of_lower {key : String} (hname : name ∈ identityNames)
    (h : host.toLowerCase key = name) : identityNamed host key = true := by
  have hprefix : ∀ name ∈ identityNames,
      "x-tunnara-identity-".toList.isPrefixOf name.toList = true := by
    decide
  unfold identityNamed
  rw [h]
  exact hprefix name hname

theorem requestHeader_claiming {claims : Headers} (hname : name ∈ identityNames) :
    requestHeader host (claiming host request claims) name =
      (claims.reverse.find? fun h => host.toLowerCase h.1 = name).map fun h => headerJson h.2 := by
  unfold requestHeader claiming
  rw [List.reverse_append, List.find?_append]
  have hnone : (request.headers.filter fun h => !identityNamed host h.1).reverse.find?
      (fun h => decide (host.toLowerCase h.1 = name)) = none := by
    rw [List.find?_eq_none]
    intro header hmem hlower
    rw [List.mem_reverse, List.mem_filter, identityNamed_of_lower hname
      (of_decide_eq_true hlower)] at hmem
    cases hmem.2
  rw [hnone, Option.or_none]

theorem shields_of_unforgeable
    (hlower : ∀ name ∈ identityNames, call.config.host.toLowerCase name = name)
    (hblind : ∀ other, Variant call.config.host request other →
      call.decision other = call.decision request)
    (h : ∀ other, Variant call.config.host request other → call.Unforgeable request other)
    (hdecision : call.decision request = .ok decision) (hallowed : decision.allowed = true) :
    Shields decision := by
  have hforwards : ∀ other, Variant call.config.host request other → call.Forwards other .upgrade
      decision (upgradeHeaders call.config.host other decision) := fun other hvariant =>
    ⟨(hblind other hvariant).trans hdecision, hallowed, rfl⟩
  have hself := hforwards request (.refl _ request)
  intro name hname
  obtain ⟨hproto, -, -⟩ := identityNames_plain hname
  by_cases hadded : name ∈ headerKeys decision.requestHeaders
  · right
    refine ⟨hadded, (h request (.refl _ request)).identified _ _ _ hself name hname ?_⟩
    rw [lookup_upgradeHeaders hproto]
    intro hnone
    exact assigned_eq_none_iff.1 (Option.or_eq_none_iff.1 hnone).1 hadded
  · left
    refine ⟨hadded, ?_⟩
    by_contra hkept
    -- a client that claims something is told apart from one that does not
    have hgiven : ∀ claims : Headers, (∀ claim ∈ claims, identityNamed call.config.host claim.1 = true) →
        Json.lookup (upgradeHeaders call.config.host request decision) name =
          (claims.reverse.find? fun h => call.config.host.toLowerCase h.1 = name).map
            fun h => headerJson h.2 := by
      intro claims hclaims
      have hvariant := @variant_claiming request _ claims hclaims
      have hsame := (h _ hvariant).same _ _ _ _ _ hself (hforwards _ hvariant) name hname
      rw [← hsame, lookup_upgradeHeaders hproto]
      unfold given
      rw [assigned_eq_none_iff.2 hadded, if_neg hkept, requestHeader_claiming hname, Option.none_or]
    have hsilent := hgiven [] (fun _ hmem => by cases hmem)
    have hclaims := hgiven [(name, .one "forged")] fun claim hmem => by
      rw [List.mem_singleton.1 hmem]
      exact identityNamed_of_lower hname (hlower name hname)
    rw [hsilent] at hclaims
    simp [hlower name hname] at hclaims

end Forgery

/-- Where the policy does not look at what the client says of its identity, the client cannot
forge one exactly if the decision shields the two headers; and two requests whose decisions
shield them alike are always forwarded with the same. -/
theorem unforgeable_iff (call : Call)
    (hlower : ∀ name ∈ identityNames, call.config.host.toLowerCase name = name) :
    (∀ request, (∀ other, Variant call.config.host request other →
        call.decision other = call.decision request) →
      ((∀ other, Variant call.config.host request other → call.Unforgeable request other) ↔
        ∀ decision, call.decision request = .ok decision → decision.allowed = true →
          Shields decision)) ∧
    ∀ request other decision decision', call.decision request = .ok decision →
      call.decision other = .ok decision' → (decision.allowed = true → Shields decision) →
      (decision'.allowed = true → Shields decision') →
      (∀ name ∈ identityNames,
        assigned decision'.requestHeaders name = assigned decision.requestHeaders name) →
      identityHeaders call.config.host decision' = identityHeaders call.config.host decision →
        call.Unforgeable request other := by
  constructor
  · intro request hblind
    constructor
    · exact fun h _ => shields_of_unforgeable hlower hblind h
    · intro hshields other hvariant
      cases hdecision : call.decision request with
      | error error =>
        have hother := (hblind other hvariant).trans hdecision
        constructor
        · intro _ _ _ _ _ h
          have hboth := h.decided.symm.trans hdecision
          cases hboth
        · intro _ _ _ h
          have hboth := h.decided.symm.trans hother
          cases hboth
      | ok decision =>
        have hshield := hshields decision hdecision
        exact unforgeable_of_shields hdecision ((hblind other hvariant).trans hdecision)
          hshield hshield (fun _ _ => rfl) rfl
  · intro request other decision decision' hdecision hdecision' hshields hshields'
    exact unforgeable_of_shields hdecision hdecision' hshields hshields'

theorem root_ne : "/" ≠ "" := by decide

/-- A request for a tunnel without a policy. -/
def visitorRequest (headers : Headers) : Request where
  method := "GET"
  url := "/"
  url_ne := root_ne
  headers := ("host", .one "app.example.test") :: headers
  remoteAddress := some "203.0.113.7"
  now := 0

def openCall : Call where
  config := plainConfig
  route := .obj [("tunnel", .obj [("id", .str "t1")]), ("target", .obj [("id", .str "g1")])]
  hostname := "app.example.test"
  freshId := "r1"
  buckets := OrdMap.empty

theorem decision_openCall {headers : Headers} :
    openCall.decision (visitorRequest headers) = .ok (noPolicyDecision (visitorRequest headers)) := rfl

/-- Both paths hand on what the client claims. -/
theorem not_unforgeable_openCall :
    Variant Host.plain (visitorRequest [])
        (visitorRequest [("x-tunnara-identity-subject", .one "admin")]) ∧
      ¬ openCall.Unforgeable (visitorRequest [])
        (visitorRequest [("x-tunnara-identity-subject", .one "admin")]) := by
  refine ⟨⟨rfl, rfl, rfl, rfl, by decide +kernel⟩, fun h => ?_⟩
  have hsame := h.same .handle _ _ _ _ ⟨decision_openCall, rfl, rfl⟩
    ⟨decision_openCall, rfl, rfl⟩ "x-tunnara-identity-subject" (by decide)
  revert hsame
  decide +kernel

theorem unforgeable_iff_openCall :
    (∀ other, Variant Host.plain (visitorRequest []) other →
        openCall.Unforgeable (visitorRequest []) other) ↔
      ∀ decision, openCall.decision (visitorRequest []) = .ok decision → decision.allowed = true →
        Shields decision := by
  apply (unforgeable_iff openCall fun _ _ => rfl).1
  intro other hvariant
  change Except.ok (noPolicyDecision other) = .ok (noPolicyDecision (visitorRequest []))
  unfold noPolicyDecision
  rw [hvariant.url]

section Agree

variable {host : Host} {secure : Bool} {request : Request} {hostname freshId : String}
  {decision : PolicyResult}

/-- The headers that `#upgrade` writes into the request head and those of a `proxy_request`
are the same, but for the hop-by-hop ones. -/
def Agree (host : Host) (request : Request) (decision : PolicyResult) (headers : FrameHeaders) :
    Prop :=
  ∀ name ∉ hopByHop, Json.lookup (upgradeHeaders host request decision) name =
    Json.lookup headers name

theorem headerMap_ownHeaders {own : List (String × String)}
    (h : ownHeaders host secure request hostname freshId decision = .ok own) : HeaderMap own := by
  have hkeys : headerKeys own = ownNames ∨ headerKeys own = ownNames.take 4 := by
    obtain ⟨identity, hidentity, h⟩ := bind_eq_ok.1 h
    cases h
    unfold identityHeaders at hidentity
    split at hidentity
    · cases hidentity
      exact .inr rfl
    · split at hidentity
      · obtain ⟨subject, -, hidentity⟩ := bind_eq_ok.1 hidentity
        cases hidentity
        exact .inl rfl
      · cases hidentity
        exact .inr rfl
  rcases hkeys with hkeys | hkeys
  · exact ⟨hkeys ▸ by decide, hkeys ▸ by decide⟩
  · exact ⟨hkeys ▸ by decide, hkeys ▸ by decide⟩

theorem lookup_assign_proto (entries : List (String × String)) (headers : FrameHeaders) :
    Json.lookup (entries.foldl (fun headers h => setHeader headers h.1 (.str h.2)) headers)
      "__proto__" = Json.lookup headers "__proto__" := by
  induction entries generalizing headers with
  | nil => rfl
  | cons entry rest ih =>
    rw [List.foldl_cons, ih, lookup_setHeader]
    exact if_neg fun h => h.2 h.1.symm

theorem lookup_decided_proto {dropped : List String} :
    Json.lookup (assignDecided decision (keptHeaders host dropped request decision)) "__proto__" =
      none := by
  unfold assignDecided
  rw [lookup_assign_proto, lookup_keptHeaders]
  exact if_pos (.inr (.inr rfl))

theorem ownNames_plain {name : String} (h : name ∈ ownNames) :
    name ≠ "__proto__" ∧ name ∉ hopByHop := by
  revert name
  decide

/-- The two paths agree on exactly the requests that bring along, after the policy, each header
that `#handle` sets itself, with the value it sets. -/
theorem agree_iff (host : Host) (secure : Bool) (request : Request) (hostname freshId : String)
    (decision : PolicyResult) :
    (∀ headers, forwardedHeaders host secure request hostname freshId decision = .ok headers →
        Agree host request decision headers) ↔
      ∀ own, ownHeaders host secure request hostname freshId decision = .ok own →
        ∀ entry ∈ own, given host request decision entry.1 = some (.str entry.2) := by
  constructor
  · intro h own hown entry hentry
    obtain ⟨hproto, hhop⟩ :=
      ownNames_plain (headerKeys_ownHeaders hown entry.1 (List.mem_map_of_mem hentry))
    have hheaders : forwardedHeaders host secure request hostname freshId decision =
        .ok (own.foldl (fun headers h => setHeader headers h.1 (.str h.2))
          (assignDecided decision (keptHeaders host hopByHop request decision))) := by
      unfold forwardedHeaders
      rw [hown]
      rfl
    have hsame := h _ hheaders entry.1 hhop
    rw [lookup_upgradeHeaders hproto, lookup_assign_of_mem (headerMap_ownHeaders hown) hentry]
      at hsame
    exact hsame
  · intro h headers hheaders name hhop
    by_cases hproto : name = "__proto__"
    · obtain ⟨own, -, hheaders⟩ := bind_eq_ok.1 hheaders
      cases hheaders
      rw [hproto, lookup_assign_proto, lookup_decided_proto]
      exact lookup_decided_proto
    · obtain ⟨own, hown, hlookup⟩ := lookup_forwardedHeaders hproto hhop hheaders
      rw [hlookup, lookup_upgradeHeaders hproto]
      cases hassigned : assigned own name with
      | none => exact Option.none_or.symm
      | some value =>
        obtain ⟨entry, hentry, rfl, rfl⟩ := mem_of_assigned hassigned
        exact h own hown entry hentry

/-- The upstream of an upgrade reads the client's word for its address. -/
theorem not_agree_forwardedFor :
    ∃ headers, forwardedHeaders Host.plain false
        (visitorRequest [("x-forwarded-for", .one "198.51.100.9")]) "app.example.test" "r1"
          (noPolicyDecision (visitorRequest [])) = .ok headers ∧
      ¬ Agree Host.plain (visitorRequest [("x-forwarded-for", .one "198.51.100.9")])
        (noPolicyDecision (visitorRequest [])) headers := by
  refine ⟨_, rfl, fun h => ?_⟩
  have hsame := h "x-forwarded-for" (by decide)
  revert hsame
  decide +kernel

end Agree

end Tunnara.Edge
