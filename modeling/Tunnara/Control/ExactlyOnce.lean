/-
# Exactly one tunnel for a key

A key goes through three phases: nothing is stored for it and no tunnel is left; one
request awaits the provider with its tunnel created; an answer is stored. While no
request arrives in the second phase, every answer that is sent is the stored one.
-/

import Tunnara.Control.Idempotency

namespace Tunnara.Control

open Policy Transition TunnelTables OrdMap

namespace Api

/-- The requests carry the key for the organization, within the lifetime of a stored answer. -/
def Carries (organizationId key : String) (state : Api) : ApiEvent → Prop
  | .arrive now principal _ header _ =>
    principal.organizationId = organizationId ∧ trim header = key ∧
      ∀ row, state.keys.get? (organizationId, key) = some row → now < row.expiresAt
  | .ensured _ _ _ _ => True

/-- No request arrives while another one awaits the provider. -/
def OneAtATime (state : Api) : ApiEvent → Prop
  | .arrive _ _ _ _ _ => state.pending.size = 0
  | .ensured _ _ _ _ => True

instance (organizationId key : String) (state : Api) :
    ∀ event, Decidable (Carries organizationId key state event)
  | .arrive _ _ _ _ _ => inferInstanceAs (Decidable (_ ∧ _ ∧ ∀ row, _ = some row → _))
  | .ensured _ _ _ _ => isTrue trivial

instance (state : Api) : ∀ event, Decidable (OneAtATime state event)
  | .arrive _ _ _ _ _ => inferInstanceAs (Decidable (_ = 0))
  | .ensured _ _ _ _ => isTrue trivial

/-- A tunnel that was not there at the start. -/
def Created (start state : Api) (id : String) : Prop :=
  (∃ tunnel, state.tables.tunnels.get? id = some tunnel) ∧ start.tables.tunnels.get? id = none

/-- At most one tunnel is created, all answers that are sent agree, and after one of them a
request with another body is refused and changes nothing. -/
structure ExactlyOnce (env : IdempotencyEnv) (organizationId key : String) (start state : Api) :
    Prop where
  one : ∀ id other, Created start state id → Created start state other → id = other
  same : ∀ first ∈ state.served, ∀ second ∈ state.served, ∀ status body status' body',
    first.answer = .sent status body → second.answer = .sent status' body' →
    status = status' ∧ body = body'
  conflict : ∀ first ∈ state.served, ∀ status body, first.answer = .sent status body →
    ∀ now principal draws header other,
      Carries organizationId key state (.arrive now principal draws header other) →
      env.requestHash other ≠ env.requestHash first.body →
      state.step env (.arrive now principal draws header other) =
        { state with
          keys := purgeKeys state.keys now
          served := state.served ++ [⟨other, .failed idempotencyConflict⟩]
          arrived := state.arrived + 1 }

/-- Besides the tunnels of the start there is at most the given one. -/
def AtMost (start state : Api) (created : Option String) : Prop :=
  ∀ id tunnel, state.tables.tunnels.get? id = some tunnel →
    created = some id ∨ start.tables.tunnels.get? id ≠ none

/-- No answer has been sent. -/
def Silent (state : Api) : Prop :=
  ∀ served ∈ state.served, ∀ status body, served.answer ≠ .sent status body

inductive Phase (env : IdempotencyEnv) (organizationId key : String) (start : Api) : Api → Prop
  | unused {state : Api} (stored : state.keys.get? (organizationId, key) = none)
      (pending : ∀ id, state.pending.get? id = none) (silent : Silent state)
      (atMost : AtMost start state none) : Phase env organizationId key start state
  | waiting {state : Api} (id : ℕ) (request : Pending) (tunnel : TunnelRecord)
      (short : jsLength key ≤ 128)
      (owner : request.organizationId = organizationId) (carries : request.key = key)
      (found : state.tables.tunnels.get? request.tunnelId = some tunnel)
      (tunnelOwner : tunnel.organizationId = organizationId)
      (stored : state.keys.get? (organizationId, key) = none)
      (awaits : state.pending.get? id = some request)
      (pending : ∀ other, other ≠ id → state.pending.get? other = none) (silent : Silent state)
      (atMost : AtMost start state (some request.tunnelId)) :
      Phase env organizationId key start state
  | bound {state : Api} (row : IdempotencyRow) (tunnelId : String) (short : jsLength key ≤ 128)
      (stored : state.keys.get? (organizationId, key) = some row)
      (pending : ∀ id, state.pending.get? id = none)
      (agree : ∀ served ∈ state.served, ∀ status body, served.answer = .sent status body →
        status = row.status ∧ body = row.body ∧ env.requestHash served.body = row.requestHash)
      (atMost : AtMost start state (some tunnelId)) : Phase env organizationId key start state

variable {env : IdempotencyEnv} {organizationId key : String} {start state : Api}

theorem AtMost.created {created : Option String} (h : AtMost start state created) {id : String}
    (hcreated : Created start state id) : created = some id := by
  obtain ⟨⟨tunnel, htunnel⟩, hnew⟩ := hcreated
  rcases h id tunnel htunnel with hsame | hold
  · exact hsame
  · exact absurd hnew hold

theorem Silent.answer (h : Silent state) (body : Json) (error : JsError) :
    Silent (state.answer body (.failed error)) := by
  intro served hserved status sent
  rcases List.mem_append.1 hserved with hold | hnew
  · exact h served hold status sent
  · rw [List.mem_singleton.1 hnew]
    exact nofun

theorem Phase.fail (h : Phase env organizationId key start state)
    (hpending : ∀ id, state.pending.get? id = none) (body : Json) (error : JsError) :
    Phase env organizationId key start (state.answer body (.failed error)) := by
  cases h with
  | unused stored pending silent atMost =>
    exact .unused stored pending (silent.answer body error) atMost
  | waiting id request tunnel short owner carries found tunnelOwner stored awaits =>
    rw [hpending id] at awaits
    cases awaits
  | bound row tunnelId short stored pending agree atMost =>
    refine .bound row tunnelId short stored pending ?_ atMost
    intro served hserved status sent hsent
    rcases List.mem_append.1 hserved with hold | hnew
    · exact agree served hold status sent hsent
    · rw [List.mem_singleton.1 hnew] at hsent
      cases hsent

variable {now : ℕ}

section

variable (hkey : key ≠ "")
include hkey

theorem phase_finish {request : Pending} {dnsRecord : Option DnsRow} {tunnel : TunnelRecord}
    (hshort : jsLength key ≤ 128) (howner : request.organizationId = organizationId)
    (hcarries : request.key = key)
    (hfound : state.tables.tunnels.get? request.tunnelId = some tunnel)
    (htunnelOwner : tunnel.organizationId = organizationId)
    (hpending : ∀ id, state.pending.get? id = none) (hsilent : Silent state)
    (hatMost : AtMost start state (some request.tunnelId)) :
    Phase env organizationId key start (state.finish env request now dnsRecord) := by
  have htunnel : state.tables.tunnelOf request.organizationId request.tunnelId = some tunnel := by
    rw [howner]
    exact Option.filter_eq_some_iff.2 ⟨hfound, decide_eq_true htunnelOwner⟩
  unfold finish
  rw [htunnel]
  dsimp only
  rw [hcarries, if_neg hkey, howner]
  refine .bound ⟨env.requestHash request.body, 201, state.reply request tunnel dnsRecord,
    now + 86400000⟩ request.tunnelId hshort (get?_set_self _ _ _) hpending ?_ hatMost
  intro served hserved status body hsent
  rcases List.mem_append.1 hserved with hold | hnew
  · exact absurd hsent (hsilent served hold status body)
  · rw [List.mem_singleton.1 hnew] at hsent ⊢
    cases hsent
    exact ⟨rfl, rfl, rfl⟩

theorem phase_create {principal : Principal} {draws : TunnelDraws} {body : Json}
    (hshort : jsLength key ≤ 128) (howner : principal.organizationId = organizationId)
    (hstored : state.keys.get? (organizationId, key) = none)
    (hpending : ∀ id, state.pending.get? id = none) (hsilent : Silent state)
    (hatMost : AtMost start state none) :
    Phase env organizationId key start (state.create env now principal draws key body) := by
  unfold create
  cases hpost : state.tables.postTunnel env.toDnsEnv principal draws body with
  | error error => exact .unused hstored hpending (hsilent.answer body error) hatMost
  | ok tables =>
    obtain ⟨base, hbase, rfl⟩ := map_eq_ok.1 hpost
    obtain ⟨-, -, -, -, -, tunnel, htunnelOwner, -, -, -, hset, -⟩ := postTunnel_eq_ok hbase
    have hfound : base.tunnels.get? draws.tunnelId = some tunnel := by
      rw [hset, get?_set_self]
    have hone : AtMost start
        { state with tables := { state.tables with toTunnelTables := base } }
        (some draws.tunnelId) := by
      intro id other hother
      rw [hset, get?_set] at hother
      split at hother
      · rename_i hsame
        rw [hsame]
        exact .inl rfl
      · rcases hatMost id other hother with hnone | hold
        · cases hnone
        · exact .inr hold
    rw [howner] at htunnelOwner
    dsimp only
    split_ifs
    · refine .waiting state.arrived ⟨principal.organizationId, key, body, draws.tunnelId⟩ tunnel
        hshort howner rfl hfound htunnelOwner hstored (get?_set_self _ _ _) ?_ hsilent hone
      intro other hne
      exact (get?_set_of_ne _ hne _).trans (hpending other)
    · exact phase_finish hkey hshort howner rfl hfound htunnelOwner hpending hsilent hone

omit hkey in
theorem get?_purgeKeys
    (hlive : ∀ row, state.keys.get? (organizationId, key) = some row → now < row.expiresAt) :
    (purgeKeys state.keys now).get? (organizationId, key) =
      state.keys.get? (organizationId, key) := by
  unfold purgeKeys
  rw [get?_filter]
  cases hrow : state.keys.get? (organizationId, key) with
  | none => rfl
  | some row => exact Option.filter_eq_some_iff.2 ⟨rfl, decide_eq_true (hlive row hrow)⟩

omit hkey in
theorem Phase.counted (h : Phase env organizationId key start state) (arrived : ℕ) :
    Phase env organizationId key start { state with arrived := arrived } := by
  cases h with
  | unused stored pending silent atMost => exact .unused stored pending silent atMost
  | waiting id request tunnel short owner carries found tunnelOwner stored awaits pending silent
      atMost =>
      exact .waiting id request tunnel short owner carries found tunnelOwner stored awaits pending
        silent atMost
  | bound row tunnelId short stored pending agree atMost =>
    exact .bound row tunnelId short stored pending agree atMost

section

variable (h : Phase env organizationId key start state)
include h

theorem phase_arrive {principal : Principal} {draws : TunnelDraws} {header : String} {body : Json}
    (hcarries : Carries organizationId key state (.arrive now principal draws header body))
    (hpending : ∀ id, state.pending.get? id = none) :
    Phase env organizationId key start (state.arrive env now principal draws header body) := by
  obtain ⟨howner, htrim, hlive⟩ := hcarries
  unfold arrive
  dsimp only
  rw [htrim, if_neg hkey]
  by_cases hlong : 128 < jsLength key
  · rw [if_pos hlong]
    exact h.fail hpending body _
  rw [if_neg hlong]
  have hshort : jsLength key ≤ 128 := not_lt.1 hlong
  have hpurged := get?_purgeKeys hlive
  cases h with
  | unused stored pending silent atMost =>
    rw [stored] at hpurged
    unfold getIdempotentResponse
    rw [howner, hpurged]
    exact phase_create hkey hshort howner hpurged pending silent atMost
  | waiting id request tunnel short owner carries found tunnelOwner stored awaits =>
    rw [hpending id] at awaits
    cases awaits
  | bound row tunnelId short stored pending agree atMost =>
    rw [stored] at hpurged
    have hphase : Phase env organizationId key start
        { state with keys := purgeKeys state.keys now } :=
      .bound row tunnelId short hpurged pending agree atMost
    unfold getIdempotentResponse
    rw [howner, hpurged]
    dsimp only
    by_cases hhash : row.requestHash ≠ env.requestHash body
    · rw [if_pos hhash]
      exact hphase.fail pending body _
    · rw [if_neg hhash]
      refine .bound row tunnelId short hpurged pending ?_ atMost
      intro served hserved status sent hsent
      rcases List.mem_append.1 hserved with hold | hnew
      · exact agree served hold status sent hsent
      · rw [List.mem_singleton.1 hnew] at hsent ⊢
        cases hsent
        exact ⟨rfl, rfl, (not_not.1 hhash).symm⟩

theorem phase_ensured {id : ℕ} {rowId : String} {result : Except JsError DnsInput} :
    Phase env organizationId key start (state.ensured env id now rowId result) := by
  unfold ensured
  cases hawaits : state.pending.get? id with
  | none => exact h
  | some request =>
    cases h with
    | unused stored pending silent atMost | bound row tunnelId short stored pending agree atMost =>
      rw [pending id] at hawaits
      cases hawaits
    | waiting waitingId waitingRequest tunnel short owner carries found tunnelOwner stored awaits
        pending silent atMost =>
        have hsame : id = waitingId := by
          by_contra hne
          rw [pending id hne] at hawaits
          cases hawaits
        subst hsame
        rw [awaits] at hawaits
        cases hawaits
        have hpending : ∀ other, (state.pending.erase id).get? other = none := by
          intro other
          by_cases hother : other = id
          · subst hother
            exact get?_erase_self _ _
          · rw [get?_erase_of_ne _ hother]
            exact pending other hother
        dsimp only
        rcases DnsTables.recordDns_cases with ⟨error, hresult⟩ | ⟨savedKey, input, row, -, hresult⟩
        · rw [hresult]
          apply Phase.fail ?_ hpending
          refine .unused stored hpending silent ?_
          intro other left hleft
          have hdeleted := DnsTables.tunnels_deleteTunnel found (tunnelOwner.trans owner.symm)
          rw [hdeleted] at hleft
          obtain ⟨hne, hold⟩ := get?_of_get?_erase hleft
          rcases atMost other left hold with hmine | hstart
          · cases hmine
            exact absurd rfl hne
          · exact .inr hstart
        · rw [hresult]
          have hupdated : (state.tables.tunnels.update request.tunnelId fun tunnel =>
              { tunnel with dnsRecordId := some savedKey }).get? request.tunnelId =
                some { tunnel with dnsRecordId := some savedKey } := by
            rw [get?_update_self, found]
            rfl
          refine phase_finish hkey short owner carries hupdated tunnelOwner hpending silent ?_
          intro other left hleft
          by_cases hmine : other = request.tunnelId
          · rw [hmine]
            exact .inl rfl
          · have hold : state.tables.tunnels.get? other = some left := by
              rw [← hleft]
              exact (get?_update_of_ne _ hmine _).symm
            exact atMost other left hold

theorem phase_step {event : ApiEvent} (hcarries : Carries organizationId key state event)
    (hone : OneAtATime state event) :
    Phase env organizationId key start (state.step env event) := by
  cases event with
  | arrive now principal draws header body =>
    exact (phase_arrive hkey h hcarries (get?_of_size_eq_zero hone)).counted _
  | ensured id now rowId result => exact phase_ensured hkey h

theorem Phase.exactlyOnce : ExactlyOnce env organizationId key start state := by
  have hsilent : ∀ {created : Option String}, Silent state → AtMost start state created →
      ExactlyOnce env organizationId key start state := by
    intro created silent atMost
    refine ⟨?_, ?_, ?_⟩
    · intro id other hid hother
      have hsame := (atMost.created hid).symm.trans (atMost.created hother)
      exact Option.some.inj hsame
    · intro first hfirst second _ status body _ _ hsent
      exact absurd hsent (silent first hfirst status body)
    · intro first hfirst status body hsent
      exact absurd hsent (silent first hfirst status body)
  cases h with
  | unused stored pending silent atMost => exact hsilent silent atMost
  | waiting id request tunnel short owner carries found tunnelOwner stored awaits pending silent
      atMost => exact hsilent silent atMost
  | bound row tunnelId short stored pending agree atMost =>
    refine ⟨?_, ?_, ?_⟩
    · intro id other hid hother
      have hsame := (atMost.created hid).symm.trans (atMost.created hother)
      exact Option.some.inj hsame
    · intro first hfirst second hsecond status body status' body' hsent hsent'
      obtain ⟨hstatus, hbody, -⟩ := agree first hfirst status body hsent
      obtain ⟨hstatus', hbody', -⟩ := agree second hsecond status' body' hsent'
      exact ⟨hstatus.trans hstatus'.symm, hbody.trans hbody'.symm⟩
    · intro first hfirst status body hsent now principal draws header other hcarries hne
      obtain ⟨-, -, hhash⟩ := agree first hfirst status body hsent
      obtain ⟨howner, htrim, hlive⟩ := hcarries
      have hpurged := get?_purgeKeys hlive
      rw [stored] at hpurged
      unfold step arrive getIdempotentResponse
      dsimp only
      rw [htrim, if_neg hkey, if_neg (not_lt.2 short), howner, hpurged]
      dsimp only
      rw [if_pos (fun heq => hne (heq.symm.trans hhash.symm))]
      rfl

end

end

/-- **In every state** of a run of requests with one key, of which none arrives while another
awaits the provider, the key has been used exactly once. -/
theorem exactlyOnce_run (hkey : key ≠ "") {start : Api}
    (hunused : start.keys.get? (organizationId, key) = none)
    (hpending : ∀ id, start.pending.get? id = none) (hserved : start.served = [])
    {events : List ApiEvent} (hcarries : Along (step env) (Carries organizationId key) start events)
    (hone : Along (step env) OneAtATime start events) :
    ExactlyOnce env organizationId key start (run (step env) start events) := by
  have hphase : Phase env organizationId key start start := by
    refine .unused hunused hpending ?_ ?_
    · intro served hmem
      rw [hserved] at hmem
      cases hmem
    · intro id tunnel htunnel
      right
      rw [htunnel]
      exact Option.some_ne_none tunnel
  have hend : Phase env organizationId key start (run (step env) start events) :=
    @Along.invariant _ _ (step env) _ events (Phase env organizationId key start)
      (fun _ _ h hevent => phase_step hkey h hevent.1 hevent.2) start (hcarries.and hone) hphase
  exact hend.exactlyOnce hkey

def plainEnv : IdempotencyEnv := ⟨.plain, fun _ => "digest"⟩

def emptyApi : Api :=
  ⟨{ emptyTables with
      integrations := OrdMap.empty.set "i1" ⟨"i1", "o1", "cloudflare", "default",
        ⟨"tunnara.test", "tunnara.test", some "z1", some "edge.tunnara.test", none, false, .num 1⟩,
        some "secret"⟩
      dnsRecords := .empty }, .empty, .empty, [], 0⟩

/-- One request with the key `k1`; the draws are those of the attempt. -/
def attempt (now : ℕ) (tunnelId label : String) (autoDns : Bool) : ApiEvent :=
  .arrive now (.api "o1") ⟨⟨tunnelId, fun index => tunnelId ++ label ++ toString index⟩, label⟩ "k1"
    (.obj [("agentId", .str "a1"), ("targetPort", .num 3000), ("autoDns", .bool autoDns)])

def ensuredRecord (recordId name : String) : Except JsError DnsInput :=
  .ok ⟨"i1", "z1", recordId, "CNAME", name, "edge.tunnara.test", false, 1⟩

def retries : List ApiEvent :=
  [attempt 0 "t1" "a" true, attempt 1 "t2" "b" true,
    .ensured 0 2 "d1" (ensuredRecord "r1" "a.tunnara.test"),
    .ensured 1 3 "d2" (ensuredRecord "r2" "b.tunnara.test")]

theorem not_exactlyOnce_retries : ¬ ∀ events,
    Along (step plainEnv) (Carries "o1" "k1") emptyApi events →
    ExactlyOnce plainEnv "o1" "k1" emptyApi (run (step plainEnv) emptyApi events) := by
  intro h
  have hcarries : Along (step plainEnv) (Carries "o1" "k1") emptyApi retries := by
    decide +kernel
  have hfirst : Created emptyApi (run (step plainEnv) emptyApi retries) "t1" :=
    ⟨Option.isSome_iff_exists.1 (by decide +kernel), rfl⟩
  have hsecond : Created emptyApi (run (step plainEnv) emptyApi retries) "t2" :=
    ⟨Option.isSome_iff_exists.1 (by decide +kernel), rfl⟩
  exact absurd ((h retries hcarries).one "t1" "t2" hfirst hsecond) (by decide)

def repeated : List ApiEvent :=
  [attempt 0 "t1" "a" true, .ensured 0 2 "d1" (ensuredRecord "r1" "a.tunnara.test"),
    attempt 3 "t2" "b" true]

theorem exactlyOnce_run_repeated :
    Along (step plainEnv) (Carries "o1" "k1") emptyApi repeated ∧
      Along (step plainEnv) OneAtATime emptyApi repeated ∧
      ExactlyOnce plainEnv "o1" "k1" emptyApi (run (step plainEnv) emptyApi repeated) := by
  have hcarries : Along (step plainEnv) (Carries "o1" "k1") emptyApi repeated := by
    decide +kernel
  have hone : Along (step plainEnv) OneAtATime emptyApi repeated := by
    decide +kernel
  exact ⟨hcarries, hone, exactlyOnce_run (by decide) rfl (fun _ => rfl) rfl hcarries hone⟩

end Api

end Tunnara.Control
