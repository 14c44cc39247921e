/-
# Authenticating an agent's hello

`#verifyAgentHello` of the Control and `#authenticateHello` of a Relay that shares its store. An
attempt is four steps that other attempts come between: the check of the hello, the two clock
readings of `consumeAgentAuthNonce`, and its transaction.

A timestamp is accepted up to 60 seconds before and after the clock, a nonce is kept for 120
seconds from the clock at its insertion. The two windows meet in one instant: an attempt that
reads the clock at or before it and purges at or after it finds the nonce gone.
-/

import Tunnara.Data.OrdMap
import Tunnara.Data.Transition
import Tunnara.Js.Value

namespace Tunnara.Control

open Transition OrdMap

/-! ## Times as texts -/

/-- The first instant whose year has five digits, in milliseconds. -/
def fiveDigitYears : ℕ := 253402300800000

/-- The last instant a `Date` can hold. -/
def lastInstant : ℕ := 8640000000000000

/-- `a <= b` on two texts of `toISOString`: a year of five digits starts with a sign, which
sorts before every digit. -/
def isoLe (a b : ℕ) : Bool :=
  if decide (a < fiveDigitYears) = decide (b < fiveDigitYears) then a ≤ b
  else b < fiveDigitYears

theorem isoLe_iff {a b : ℕ} (ha : a < fiveDigitYears) (hb : b < fiveDigitYears) :
    isoLe a b = true ↔ a ≤ b := by
  simp [isoLe, ha, hb]

/-! ## The check of a hello -/

/-- What `authenticateAgentToken` answers with. -/
structure Credential where
  (id publicKey : String)

/-- The functions of the platform that the check uses. -/
structure AuthEnv where
  host : Host
  /-- `Date.parse`; `none` is `NaN`. -/
  parseDate : String → Option ℤ
  /-- `crypto.verify(null, message, publicKey, proof)`; `none` when it throws. -/
  verify : String → String → String → Option Bool

/-- The two implementations of the check; only the Control sets a status code. -/
inductive Site
  | control
  | relay

def Site.error (site : Site) (message code : String) : JsError where
  message := message
  code := some code
  statusCode := match site with
    | .control => some 401
    | .relay => none

def agentAuthMessage (agentId timestamp nonce sessionToken : String) : String :=
  "TUNNARA_AGENT_AUTH_V1\n" ++ agentId ++ "\n" ++ timestamp ++ "\n" ++ nonce ++ "\n" ++ sessionToken

/-- `/^[A-Za-z0-9_-]{24,128}$/.test(nonce)`. -/
def nonceWellFormed (nonce : String) : Bool :=
  24 ≤ nonce.length && nonce.length ≤ 128 &&
    nonce.toList.all fun c => ('A' ≤ c && c ≤ 'Z') || ('a' ≤ c && c ≤ 'z') ||
      ('0' ≤ c && c ≤ '9') || c = '_' || c = '-'

/-- `Math.abs(now - timestampMs) <= 60_000`. -/
def fresh (now : ℕ) (timestampMs : ℤ) : Bool := ((now : ℤ) - timestampMs).natAbs ≤ 60000

/-- What makes two hellos the same. -/
structure HelloId where
  (agentId timestamp nonce proof : Option Json)
  deriving DecidableEq

def helloId (hello : Json) : HelloId :=
  ⟨hello.get? "agentId", hello.get? "timestamp", hello.get? "nonce", hello.get? "proof"⟩

/-- A hello that passed the check. -/
structure Checked where
  hello : HelloId
  (agentId nonce : String)
  timestampMs : ℤ

variable (env : AuthEnv)

/-- `authenticateAgentToken`; the query is the store's answer at that moment. -/
def authenticateAgentToken (agents : String → Option Credential) (rawToken : String) :
    Option Credential :=
  if rawToken = "" then none else agents rawToken

/-- `crypto.verify` of the proof; what it throws counts as a wrong proof. -/
def proofValid (agent : Credential) (timestamp nonce sessionToken proof : String) : Bool :=
  (env.verify (agentAuthMessage agent.id timestamp nonce sessionToken) agent.publicKey
    proof).getD false

/-- Both implementations up to the call of `consumeAgentAuthNonce`. -/
def checkHello (site : Site) (agents : String → Option Credential) (now : ℕ) (hello : Json) :
    Except JsError Checked := do
  let rawToken ← property (some hello) "sessionToken"
  let sessionToken ← (orDefault rawToken (.str "")).toJsString env.host
  match authenticateAgentToken agents sessionToken with
  | none => .error (site.error "Credencial do agente inválida." "AGENT_AUTH_FAILED")
  | some agent =>
    if hello.get? "agentId" ≠ some (.str agent.id) then
      .error (site.error "Credencial do agente inválida." "AGENT_AUTH_FAILED")
    else do
      let timestamp ← (orDefault (hello.get? "timestamp") (.str "")).toJsString env.host
      let nonce ← (orDefault (hello.get? "nonce") (.str "")).toJsString env.host
      let proof ← (orDefault (hello.get? "proof") (.str "")).toJsString env.host
      match env.parseDate timestamp with
      | none =>
        .error (site.error "Prova criptográfica do agente inválida." "AGENT_PROOF_INVALID")
      | some timestampMs =>
        if fresh now timestampMs && nonceWellFormed nonce &&
            proofValid env agent timestamp nonce sessionToken proof then
          .ok ⟨helloId hello, agent.id, nonce, timestampMs⟩
        else
          .error (site.error "Prova criptográfica do agente inválida." "AGENT_PROOF_INVALID")

def verifyAgentHello := checkHello env .control

/-- `RelayServer.#authenticateHello` without a `controlClient`. -/
def authenticateHello := checkHello env .relay

def checkAt (site : Site) : (String → Option Credential) → ℕ → Json → Except JsError Checked :=
  match site with
  | .control => verifyAgentHello env
  | .relay => authenticateHello env

/-! ## The nonces -/

/-- The table `agent_auth_nonces`: when each nonce expires. -/
abbrev Nonces := OrdMap (String × String) ℕ

/-- The transaction of `consumeAgentAuthNonce`: purge, then insert under the primary key. -/
def consumeAgentAuthNonce (nonces : Nonces) (agentId nonce : String) (now expiresAt : ℕ) :
    Bool × Nonces :=
  let kept := nonces.filter fun _ expires => !isoLe expires now
  if (kept.get? (agentId, nonce)).isSome then (false, kept)
  else (true, kept.set (agentId, nonce) expiresAt)

/-- `ttlSeconds * 1000`. -/
def nonceLifetime : ℕ := 120000

/-! ## Runs -/

/-- How far an attempt has come. -/
inductive Progress
  | checked (hello : Checked)
  /-- `now` of `consumeAgentAuthNonce` has been read. -/
  | dated (hello : Checked) (now : ℕ)
  /-- So has `expiresAt`. -/
  | ready (hello : Checked) (now expiresAt : ℕ)

/-- An attempt that succeeded; it has lapsed once a purge has removed what expired with it. -/
structure Acceptance where
  checked : Checked
  expiresAt : ℕ
  lapsed : Bool := false

structure AuthState where
  clock : ℕ := 0
  attempts : OrdMap ℕ Progress := .empty
  nonces : Nonces := .empty
  /-- Oldest first. -/
  accepted : List Acceptance := []

inductive AuthEvent
  /-- Time passes. -/
  | wait (ms : ℕ)
  | check (attempt : ℕ) (site : Site) (agents : String → Option Credential) (hello : Json)
  | readNow (attempt : ℕ)
  | readExpiry (attempt : ℕ)
  | consume (attempt : ℕ)

namespace AuthState

def setAttempt (state : AuthState) (attempt : ℕ) (progress : Progress) : AuthState :=
  { state with attempts := state.attempts.set attempt progress }

def endAttempt (state : AuthState) (attempt : ℕ) : AuthState :=
  { state with attempts := state.attempts.erase attempt }

end AuthState

def Acceptance.purge (now : ℕ) (acceptance : Acceptance) : Acceptance :=
  { acceptance with lapsed := acceptance.lapsed || isoLe acceptance.expiresAt now }

/-- The transaction of an attempt; it returns the agent if the nonce was new. -/
def consume (state : AuthState) (attempt : ℕ) (hello : Checked) (now expiresAt : ℕ) : AuthState :=
  let (inserted, nonces) :=
    consumeAgentAuthNonce state.nonces hello.agentId hello.nonce now expiresAt
  let earlier := state.accepted.map (Acceptance.purge now)
  { state.endAttempt attempt with
    nonces
    accepted := if inserted then earlier ++ [{ checked := hello, expiresAt }] else earlier }

/-- One step of one attempt. A `Date` past its range throws where it becomes a text. -/
def authStep (state : AuthState) : AuthEvent → AuthState
  | .wait ms => { state with clock := state.clock + ms }
  | .check attempt site agents hello =>
    if (state.attempts.get? attempt).isSome then state
    else match checkAt env site agents state.clock hello with
      | .error _ => state
      | .ok checked => state.setAttempt attempt (.checked checked)
  | .readNow attempt =>
    match state.attempts.get? attempt with
    | some (.checked hello) =>
      if state.clock ≤ lastInstant then state.setAttempt attempt (.dated hello state.clock)
      else state.endAttempt attempt
    | _ => state
  | .readExpiry attempt =>
    match state.attempts.get? attempt with
    | some (.dated hello now) =>
      if state.clock + nonceLifetime ≤ lastInstant then
        state.setAttempt attempt (.ready hello now (state.clock + nonceLifetime))
      else state.endAttempt attempt
    | _ => state
  | .consume attempt =>
    match state.attempts.get? attempt with
    | some (.ready hello now expiresAt) => consume state attempt hello now expiresAt
    | _ => state

/-- No hello has been accepted twice. -/
def AcceptedOnce (state : AuthState) : Prop :=
  (state.accepted.map fun acceptance => acceptance.checked.hello).Nodup

instance (state : AuthState) : Decidable (AcceptedOnce state) := List.nodupDecidable _

/-- An attempt with a hello that was accepted before is decided while no purge, its own
included, has reached the expiry of that acceptance. -/
def Unlapsed (state : AuthState) : AuthEvent → Prop
  | .consume attempt =>
    match state.attempts.get? attempt with
    | some (.ready hello now _) => ∀ earlier ∈ state.accepted,
        earlier.checked.hello = hello.hello → (earlier.purge now).lapsed = false
    | _ => True
  | _ => True

/-- An attempt is decided before the window of its hello ends, and years have four digits. -/
def WithinWindow (state : AuthState) : AuthEvent → Prop
  | .consume attempt =>
    match state.attempts.get? attempt with
    | some (.ready hello _ _) => (state.clock : ℤ) < hello.timestampMs + 60000 ∧
        state.clock + nonceLifetime < fiveDigitYears
    | _ => True
  | _ => True

instance (state : AuthState) : ∀ event, Decidable (WithinWindow state event)
  | .consume attempt =>
    match h : state.attempts.get? attempt with
    | some (.ready hello _ _) =>
      decidable_of_iff ((state.clock : ℤ) < hello.timestampMs + 60000 ∧
        state.clock + nonceLifetime < fiveDigitYears) (by rw [WithinWindow, h])
    | some (.checked _) | some (.dated _ _) | none => isTrue (by rw [WithinWindow, h]; trivial)
  | .wait _ | .check .. | .readNow _ | .readExpiry _ => isTrue trivial

/-! ## What the check reads -/

/-- The fields of a checked hello are those of the hello. -/
structure Reads (checked : Checked) : Prop where
  agentId : checked.hello.agentId = some (.str checked.agentId)
  nonce : (orDefault checked.hello.nonce (.str "")).toJsString env.host = .ok checked.nonce
  timestamp : ∃ timestamp, (orDefault checked.hello.timestamp (.str "")).toJsString env.host =
    .ok timestamp ∧ env.parseDate timestamp = some checked.timestampMs

variable {env} {checked : Checked}

theorem Reads.eq {other : Checked} (h : Reads env checked) (h' : Reads env other)
    (hsame : checked.hello = other.hello) : checked = other := by
  obtain ⟨hello, agentId, nonce, timestampMs⟩ := checked
  obtain ⟨hello', agentId', nonce', timestampMs'⟩ := other
  obtain ⟨hagent, hnonce, timestamp, htext, hparse⟩ := h
  obtain ⟨hagent', hnonce', timestamp', htext', hparse'⟩ := h'
  subst hsame
  rw [hagent] at hagent'
  rw [hnonce] at hnonce'
  rw [htext] at htext'
  cases hagent'
  cases hnonce'
  cases htext'
  rw [hparse] at hparse'
  cases hparse'
  rfl

theorem reads_of_checkHello {site : Site} {agents : String → Option Credential} {now : ℕ}
    {hello : Json} (h : checkHello env site agents now hello = .ok checked) :
    Reads env checked ∧ fresh now checked.timestampMs = true := by
  simp only [checkHello, bind_eq_ok] at h
  obtain ⟨rawToken, -, sessionToken, -, h⟩ := h
  split at h
  · cases h
  · split_ifs at h with hagent
    simp only [bind_eq_ok] at h
    obtain ⟨timestamp, htimestamp, nonce, hnonce, proof, -, h⟩ := h
    split at h
    · cases h
    · rename_i timestampMs hparse
      split_ifs at h with hvalid
      cases h
      simp only [Bool.and_eq_true] at hvalid
      exact ⟨⟨not_not.1 hagent, hnonce, timestamp, htimestamp, hparse⟩, hvalid.1.1⟩

theorem reads_of_checkAt {site : Site} {agents : String → Option Credential} {now : ℕ}
    {hello : Json} (h : checkAt env site agents now hello = .ok checked) :
    Reads env checked ∧ fresh now checked.timestampMs = true := by
  cases site <;> exact reads_of_checkHello h

/-! ## What the store remembers -/

def Progress.hello : Progress → Checked
  | .checked hello => hello
  | .dated hello _ => hello
  | .ready hello _ _ => hello

/-- The clock readings of an attempt and the timestamp of its hello. -/
def Progress.Timely (clock : ℕ) : Progress → Prop
  | .checked hello => hello.timestampMs ≤ clock + 60000
  | .dated hello now => hello.timestampMs ≤ clock + 60000 ∧ now ≤ clock
  | .ready hello now expiresAt => hello.timestampMs + 60000 ≤ expiresAt ∧ now ≤ clock ∧
      expiresAt ≤ clock + nonceLifetime

/-- A nonce outlives the window of its hello. -/
structure Acceptance.Timely (clock : ℕ) (acceptance : Acceptance) : Prop where
  window : acceptance.checked.timestampMs + 60000 ≤ acceptance.expiresAt
  lifetime : acceptance.expiresAt ≤ clock + nonceLifetime
  lapsed : acceptance.lapsed = true → ∃ now ≤ clock, isoLe acceptance.expiresAt now = true

variable (env) in
/-- An acceptance whose expiry no purge has reached still has its row. -/
structure Remembers (state : AuthState) : Prop where
  attempts : ∀ attempt progress, state.attempts.get? attempt = some progress →
    Reads env progress.hello ∧ progress.Timely state.clock
  accepted : ∀ acceptance ∈ state.accepted,
    Reads env acceptance.checked ∧ acceptance.Timely state.clock
  kept : ∀ acceptance ∈ state.accepted, acceptance.lapsed = false →
    state.nonces.get? (acceptance.checked.agentId, acceptance.checked.nonce) =
      some acceptance.expiresAt

theorem remembers_initial : Remembers env {} where
  attempts _ _ h := by cases h
  accepted _ h := by cases h
  kept _ h := by cases h

theorem Progress.Timely.mono {clock later : ℕ} {progress : Progress} (h : progress.Timely clock)
    (hle : clock ≤ later) : progress.Timely later := by
  cases progress with
  | checked hello | dated hello now | ready hello now expiresAt =>
    unfold Timely at h ⊢
    omega

theorem Acceptance.Timely.mono {clock later : ℕ} {acceptance : Acceptance}
    (h : acceptance.Timely clock) (hle : clock ≤ later) : acceptance.Timely later where
  window := h.window
  lifetime := h.lifetime.trans (Nat.add_le_add_right hle _)
  lapsed hlapsed := by
    obtain ⟨now, hnow, hpast⟩ := h.lapsed hlapsed
    exact ⟨now, hnow.trans hle, hpast⟩

namespace Remembers

variable {state : AuthState}

section

variable (h : Remembers env state)
include h

theorem wait (ms : ℕ) :
    Remembers env { state with clock := state.clock + ms } where
  attempts attempt progress hget := by
    obtain ⟨hreads, htimely⟩ := h.attempts attempt progress hget
    exact ⟨hreads, htimely.mono (Nat.le_add_right _ _)⟩
  accepted acceptance hmem := by
    obtain ⟨hreads, htimely⟩ := h.accepted acceptance hmem
    exact ⟨hreads, htimely.mono (Nat.le_add_right _ _)⟩
  kept := h.kept

theorem setAttempt (attempt : ℕ) {progress : Progress} (hreads : Reads env progress.hello)
    (htimely : progress.Timely state.clock) :
    Remembers env (state.setAttempt attempt progress) where
  attempts other found hget := by
    have hset : (state.attempts.set attempt progress).get? other = some found := hget
    rw [get?_set] at hset
    split_ifs at hset
    · cases hset
      exact ⟨hreads, htimely⟩
    · exact h.attempts other found hset
  accepted := h.accepted
  kept := h.kept

theorem endAttempt (attempt : ℕ) :
    Remembers env (state.endAttempt attempt) where
  attempts other found hget := h.attempts other found (get?_of_get?_erase hget).2
  accepted := h.accepted
  kept := h.kept

theorem kept_purge {acceptance : Acceptance} (hmem : acceptance ∈ state.accepted) {now : ℕ}
    (hlapsed : (acceptance.purge now).lapsed = false) :
    (state.nonces.filter fun _ expires => !isoLe expires now).get?
      (acceptance.checked.agentId, acceptance.checked.nonce) = some acceptance.expiresAt := by
  unfold Acceptance.purge at hlapsed
  rw [Bool.or_eq_false_iff] at hlapsed
  rw [get?_filter, h.kept acceptance hmem hlapsed.1]
  simp [hlapsed.2]

omit h in
theorem timely_purge {clock now : ℕ} {acceptance : Acceptance} (h : acceptance.Timely clock)
    (hnow : now ≤ clock) : (acceptance.purge now).Timely clock where
  window := h.window
  lifetime := h.lifetime
  lapsed hlapsed := by
    rcases Bool.or_eq_true_iff.1 hlapsed with hbefore | hpast
    · exact h.lapsed hbefore
    · exact ⟨now, hnow, hpast⟩

theorem consume {attempt : ℕ} {hello : Checked} {now expiresAt : ℕ}
    (hready : state.attempts.get? attempt = some (.ready hello now expiresAt)) :
    Remembers env (consume state attempt hello now expiresAt) := by
  obtain ⟨hreads, hwindow, hnow, hlifetime⟩ := h.attempts attempt _ hready
  have hpurged : ∀ acceptance ∈ state.accepted.map (Acceptance.purge now),
      Reads env acceptance.checked ∧ acceptance.Timely state.clock := by
    intro acceptance hmem
    obtain ⟨earlier, hearlier, rfl⟩ := List.mem_map.1 hmem
    obtain ⟨hreads, htimely⟩ := h.accepted earlier hearlier
    exact ⟨hreads, timely_purge htimely hnow⟩
  have hold := (h.endAttempt attempt).attempts
  unfold Control.consume consumeAgentAuthNonce
  by_cases htaken : ((state.nonces.filter fun _ expires => !isoLe expires now).get?
      (hello.agentId, hello.nonce)).isSome = true
  · rw [if_pos htaken]
    refine ⟨hold, hpurged, fun acceptance hmem hlapsed => ?_⟩
    obtain ⟨earlier, hearlier, rfl⟩ := List.mem_map.1 hmem
    exact h.kept_purge hearlier hlapsed
  · rw [if_neg htaken]
    refine ⟨hold, fun acceptance hmem => ?_, fun acceptance hmem hlapsed => ?_⟩
    · rcases List.mem_append.1 hmem with hearlier | hnew
      · exact hpurged acceptance hearlier
      · cases List.mem_singleton.1 hnew
        exact ⟨hreads, hwindow, hlifetime, nofun⟩
    · rcases List.mem_append.1 hmem with hearlier | hnew
      · obtain ⟨earlier, hmemEarlier, rfl⟩ := List.mem_map.1 hearlier
        have hrow := h.kept_purge hmemEarlier hlapsed
        have hne : (earlier.checked.agentId, earlier.checked.nonce) ≠ (hello.agentId, hello.nonce) :=
          fun heq => htaken (by rw [← heq, hrow]; rfl)
        exact (get?_set_of_ne _ hne _).trans hrow
      · cases List.mem_singleton.1 hnew
        exact get?_set_self _ _ _

theorem step (event : AuthEvent) : Remembers env (authStep env state event) := by
  cases event with
  | wait ms => exact h.wait ms
  | check attempt site agents hello =>
    rw [authStep]
    split_ifs
    · exact h
    · split
      · exact h
      · rename_i checked hchecked
        obtain ⟨hreads, hfresh⟩ := reads_of_checkAt hchecked
        have hwindow := of_decide_eq_true hfresh
        have htimely : (Progress.checked checked).Timely state.clock := by
          unfold Progress.Timely
          omega
        exact h.setAttempt attempt hreads htimely
  | readNow attempt =>
    rw [authStep]
    split
    · rename_i hello hprogress
      obtain ⟨hreads, hwindow⟩ := h.attempts attempt _ hprogress
      split_ifs
      · exact h.setAttempt attempt hreads ⟨hwindow, le_refl _⟩
      · exact h.endAttempt attempt
    · exact h
  | readExpiry attempt =>
    rw [authStep]
    split
    · rename_i hello now hprogress
      obtain ⟨hreads, hwindow, hnow⟩ := h.attempts attempt _ hprogress
      split_ifs
      · refine h.setAttempt attempt hreads ⟨?_, hnow, le_refl _⟩
        have hlifetime : nonceLifetime = 120000 := rfl
        omega
      · exact h.endAttempt attempt
    · exact h
  | consume attempt =>
    rw [authStep]
    split
    · rename_i hready
      exact h.consume hready
    · exact h

end

end Remembers

/-! ## Accepted at most once -/

theorem acceptedOnce_step {state : AuthState} (h : Remembers env state)
    (honce : AcceptedOnce state) {event : AuthEvent} (hguard : Unlapsed state event) :
    AcceptedOnce (authStep env state event) := by
  have hpurged : ∀ now, ((state.accepted.map (Acceptance.purge now)).map
      fun acceptance => acceptance.checked.hello).Nodup := by
    intro now
    rw [List.map_map]
    exact honce
  cases event with
  | wait ms => exact honce
  | check attempt site agents hello =>
    rw [authStep]
    split_ifs
    · exact honce
    · split <;> exact honce
  | readNow attempt | readExpiry attempt =>
    rw [authStep]
    split
    · split_ifs <;> exact honce
    · exact honce
  | consume attempt =>
    rw [authStep]
    split
    · rename_i hello now expiresAt hready
      rw [Unlapsed, hready] at hguard
      unfold consume consumeAgentAuthNonce
      dsimp only
      by_cases htaken : ((state.nonces.filter fun _ expires => !isoLe expires now).get?
          (hello.agentId, hello.nonce)).isSome = true
      · rw [if_pos htaken]
        exact hpurged now
      · rw [if_neg htaken]
        unfold AcceptedOnce
        rw [if_pos rfl, List.map_append, List.map_singleton]
        refine List.nodup_append.2 ⟨hpurged now, List.nodup_singleton _, ?_⟩
        intro id hmem other hother hsame
        rw [List.map_map] at hmem
        obtain ⟨earlier, hearlier, rfl⟩ := List.mem_map.1 hmem
        rw [List.mem_singleton.1 hother] at hsame
        -- the row of an unlapsed acceptance would have stopped the insertion
        have hrow := h.kept_purge hearlier (hguard earlier hearlier hsame)
        have hchecked : earlier.checked = hello :=
          (h.accepted earlier hearlier).1.eq (h.attempts attempt _ hready).1 hsame
        rw [hchecked] at hrow
        rw [hrow] at htaken
        exact htaken rfl
    · exact honce

theorem unlapsed_of_withinWindow {state : AuthState} (h : Remembers env state)
    {event : AuthEvent} (hwithin : WithinWindow state event) : Unlapsed state event := by
  cases event with
  | consume attempt =>
    rw [Unlapsed]
    rw [WithinWindow] at hwithin
    split
    rotate_left
    · trivial
    rename_i hello now expiresAt hready
    rw [hready] at hwithin
    intro earlier hmem hsame
    obtain ⟨hreads, -, hnow, -⟩ := h.attempts attempt _ hready
    obtain ⟨hearlierReads, htimely⟩ := h.accepted earlier hmem
    obtain ⟨hwindow, hyears⟩ := hwithin
    have hchecked : earlier.checked = hello := hearlierReads.eq hreads hsame
    have hlate := htimely.window
    have hlifetime := htimely.lifetime
    rw [hchecked] at hlate
    have hnever : ∀ at', at' ≤ state.clock → isoLe earlier.expiresAt at' = false := by
      intro at' hle
      rw [Bool.eq_false_iff]
      intro hpast
      rw [isoLe_iff (by omega) (by omega)] at hpast
      omega
    apply Bool.or_eq_false_iff.2
    refine ⟨?_, hnever now hnow⟩
    rw [Bool.eq_false_iff]
    intro hlapsed
    obtain ⟨at', hle, hpast⟩ := htimely.lapsed hlapsed
    rw [hnever at' hle] at hpast
    cases hpast
  | _ => trivial

variable (env) in
/-- In every run, whatever the attempts and their order, a hello is accepted once if no
attempt with it is decided after an earlier acceptance has lapsed; and that only happens to an
attempt decided at the end of the hello's window or later. -/
theorem acceptedOnce_run (events : List AuthEvent) :
    (Along (authStep env) Unlapsed {} events → AcceptedOnce (run (authStep env) {} events)) ∧
    (Along (authStep env) WithinWindow {} events → Along (authStep env) Unlapsed {} events) := by
  constructor
  · intro halong
    have hboth : ∀ state event, Remembers env state ∧ AcceptedOnce state → Unlapsed state event →
        Remembers env (authStep env state event) ∧ AcceptedOnce (authStep env state event) :=
      fun state event h hguard => ⟨h.1.step event, acceptedOnce_step h.1 h.2 hguard⟩
    exact (halong.invariant hboth ⟨remembers_initial, List.nodup_nil⟩).2
  · intro hwithin
    exact hwithin.mono_of_invariant (fun _ _ h hguard => unlapsed_of_withinWindow h hguard)
      (fun _ event h => h.step event) remembers_initial

def futureHello : Json :=
  .obj [("sessionToken", .str "t1"), ("agentId", .str "a1"), ("timestamp", .str "1970-01-01T00:01:00Z"),
    ("nonce", .str "nnnnnnnnnnnnnnnnnnnnnnnn"), ("proof", .str "p1")]

/-- The timestamp is one minute after the start of the clock, and every proof is right. -/
def futureEnv : AuthEnv where
  host := .plain
  parseDate _ := some 60000
  verify _ _ _ := some true

def oneAgent : String → Option Credential := fun _ => some ⟨"a1", "k1"⟩

def attemptAt (attempt : ℕ) : List AuthEvent :=
  [.check attempt .control oneAgent futureHello, .readNow attempt, .readExpiry attempt,
    .consume attempt]

/-- The hello is sent again when its window ends, which is when its nonce expires. -/
theorem not_acceptedOnce_future :
    ¬ AcceptedOnce (run (authStep futureEnv) {} (attemptAt 0 ++ .wait 120000 :: attemptAt 1)) := by
  decide +kernel

/-- One millisecond earlier it is refused. -/
theorem acceptedOnce_run_future :
    AcceptedOnce (run (authStep futureEnv) {} (attemptAt 0 ++ .wait 119999 :: attemptAt 1)) := by
  apply (acceptedOnce_run futureEnv _).1
  apply (acceptedOnce_run futureEnv _).2
  decide +kernel

end Tunnara.Control
