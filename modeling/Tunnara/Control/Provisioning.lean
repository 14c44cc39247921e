/-
# One agent for a provisioning token

`registerAgent` uses the token up in a transaction and inserts the agent after it, so
registrations of several processes come between the two. A token is used up also when the
row is not inserted. That it has not expired is asked of the texts of the two times: from
the year 10000 on they no longer sort as the times do.
-/

import Tunnara.Control.Tenants

namespace Tunnara.Control

open Policy Transition TunnelTables OrdMap

/-- A row of `agents` with the columns that are unique. -/
structure RegisteredAgent where
  (organizationId name sessionTokenHash : String)

structure ProvisioningTables where
  tokens : OrdMap String ProvisioningTokenRow
  agents : OrdMap String RegisteredAgent

namespace ProvisioningTables

variable (env : IdempotencyEnv) (tables : ProvisioningTables)

def createProvisioningToken (organizationId id name tokenHash : String) (expiresAt : ℕ) :
    Except JsError ProvisioningTables :=
  if (tables.tokens.get? id).isSome then .error (uniqueFailed "provisioning_tokens.id")
  else if tables.tokens.entries.any fun e => e.2.tokenHash = tokenHash then
    .error (uniqueFailed "provisioning_tokens.token_hash")
  else .ok { tables with
    tokens := tables.tokens.set id ⟨id, organizationId, tokenHash, name, expiresAt, false⟩ }

/-- The transaction: the row, which is now used up. -/
def consumeProvisioningToken (tokenHash : String) (now : ℕ) :
    Option (ProvisioningTokenRow × ProvisioningTables) :=
  (tables.tokens.entries.find? fun e =>
    e.2.tokenHash = tokenHash && !e.2.used && !isoLe e.2.expiresAt now).map fun e =>
      (e.2, { tables with
        tokens := tables.tokens.update e.2.id fun row => { row with used := true } })

/-- The rest of `registerAgent`: the insertion for the token that was used up. -/
def insertAgent (provision : ProvisioningTokenRow) (id sessionTokenHash : String)
    (payload : Json) : Except JsError (RegisteredAgent × ProvisioningTables) := do
  Store.checkAgentColumns env payload ["name", "platform", "architecture", "version", "publicKey"]
  let name ← requiredText env.toStoreEnv "agents.name" ((payload.get? "name").getD .null)
  let agent : RegisteredAgent := ⟨provision.organizationId, name, sessionTokenHash⟩
  if (tables.agents.get? id).isSome then .error (uniqueFailed "agents.id")
  else if tables.agents.entries.any fun e => e.2.sessionTokenHash = sessionTokenHash then
    .error (uniqueFailed "agents.session_token_hash")
  else if tables.agents.entries.any fun e =>
      e.2.organizationId = provision.organizationId && e.2.name = name then
    .error (uniqueFailed "agents.organization_id, agents.name")
  else .ok (agent, { tables with agents := tables.agents.set id agent })

end ProvisioningTables

/-! ## Runs of registrations -/

/-- A call of `registerAgent` between its two steps. -/
structure Registration where
  token : String
  now : ℕ
  provision : ProvisioningTokenRow

/-- An agent that a call has created. -/
structure Creation where
  token : String
  now : ℕ
  organizationId : String
  deriving DecidableEq

/-- The store, the calls under way, and what they have created. -/
structure Provisioning where
  tables : ProvisioningTables
  pending : OrdMap ℕ Registration
  created : List Creation

inductive ProvisioningEvent
  | createToken (organizationId id name token : String) (expiresAt : ℕ)
  /-- A call with a token, at a reading of the clock. -/
  | consume (call : ℕ) (token : String) (now : ℕ)
  | insert (call : ℕ) (id sessionTokenHash : String) (payload : Json)
  /-- The other writers of `agents`. -/
  | agents (rows : OrdMap String RegisteredAgent)

namespace Provisioning

/-- `sha256(token)`. -/
def hash (env : IdempotencyEnv) (token : String) : String := env.host.sha256Hex token

variable (env : IdempotencyEnv)

def step (state : Provisioning) : ProvisioningEvent → Provisioning
  | .createToken organizationId id name token expiresAt =>
    match state.tables.createProvisioningToken organizationId id name (hash env token)
        expiresAt with
    | .ok tables => { state with tables := tables }
    | .error _ => state
  | .consume call token now =>
    if (state.pending.get? call).isSome then state
    else match state.tables.consumeProvisioningToken (hash env token) now with
      | some (provision, tables) => { state with
          tables := tables
          pending := state.pending.set call ⟨token, now, provision⟩ }
      | none => state
  | .insert call id sessionTokenHash payload =>
    match state.pending.get? call with
    | none => state
    | some registration =>
      match state.tables.insertAgent env registration.provision id sessionTokenHash payload with
      | .ok (agent, tables) => {
          tables := tables
          pending := state.pending.erase call
          created := state.created ++
            [⟨registration.token, registration.now, agent.organizationId⟩] }
      | .error _ => { state with pending := state.pending.erase call }
  | .agents rows =>
    let tables := { state.tables with agents := rows }
    { state with tables := tables }

/-- No token was used, and no two have the same digest. -/
structure Fresh (state : Provisioning) : Prop where
  keyed : ∀ id row, state.tables.tokens.get? id = some row → row.id = id
  unique : ∀ first second row other, state.tables.tokens.get? first = some row →
    state.tables.tokens.get? second = some other → row.tokenHash = other.tokenHash →
    first = second
  pending : state.pending = .empty
  created : state.created = []

/-- A token has created at most one agent, and each agent is in the organization of its token. -/
structure Single (state : Provisioning) : Prop where
  once : ∀ token, (state.created.filter fun creation => creation.token = token).length ≤ 1
  organization : ∀ creation ∈ state.created, ∃ id row, state.tables.tokens.get? id = some row ∧
    row.tokenHash = hash env creation.token ∧ creation.organizationId = row.organizationId

/-- No agent was created by a call at or after the expiry of its token. -/
def Timely (state : Provisioning) : Prop :=
  ∀ creation ∈ state.created, ∀ id row, state.tables.tokens.get? id = some row →
    row.tokenHash = hash env creation.token → creation.now < row.expiresAt

/-- **The promise.** -/
structure Promised (state : Provisioning) : Prop extends Single env state where
  timely : Timely env state

/-- **The condition**: no call with an unused token of a four-digit year reads a clock of a year
with five digits. -/
def FourDigits (state : Provisioning) : ProvisioningEvent → Prop
  | .consume _ token now => ∀ id row, state.tables.tokens.get? id = some row →
      row.tokenHash = hash env token → row.used = false → row.expiresAt < fiveDigitYears →
      now < fiveDigitYears
  | _ => True

/-! ## The invariant -/

def Spent (tokens : OrdMap String ProvisioningTokenRow) (token organizationId : String) : Prop :=
  ∃ id row, tokens.get? id = some row ∧ row.tokenHash = hash env token ∧ row.used = true ∧
    organizationId = row.organizationId

structure Sound (state : Provisioning) : Prop where
  keyed : ∀ id row, state.tables.tokens.get? id = some row → row.id = id
  unique : ∀ first second row other, state.tables.tokens.get? first = some row →
    state.tables.tokens.get? second = some other → row.tokenHash = other.tokenHash →
    first = second
  pending : ∀ call registration, state.pending.get? call = some registration →
    Spent env state.tables.tokens registration.token registration.provision.organizationId
  created : ∀ creation ∈ state.created,
    Spent env state.tables.tokens creation.token creation.organizationId
  /-- No two calls under way have used up one token. -/
  distinct : ∀ first second registration other, state.pending.get? first = some registration →
    state.pending.get? second = some other →
    hash env registration.token = hash env other.token → first = second
  apart : ∀ call registration, state.pending.get? call = some registration →
    ∀ creation ∈ state.created, hash env registration.token ≠ hash env creation.token
  nodup : (state.created.map fun creation => hash env creation.token).Nodup

/-- Each call, under way or done, was made before the expiry of its token. -/
structure Early (state : Provisioning) : Prop where
  pending : ∀ call registration, state.pending.get? call = some registration →
    ∀ id row, state.tables.tokens.get? id = some row →
      row.tokenHash = hash env registration.token → registration.now < row.expiresAt
  created : Timely env state

/-! ## What each write does -/

end Provisioning

variable {organizationId id token : String} {expiresAt now : ℕ} {row : ProvisioningTokenRow}

namespace ProvisioningTables

variable {env : IdempotencyEnv} {tables next : ProvisioningTables}

theorem createProvisioningToken_eq_ok {name tokenHash : String}
    (h : tables.createProvisioningToken organizationId id name tokenHash expiresAt = .ok next) :
    tables.tokens.get? id = none ∧
      (∀ other row, tables.tokens.get? other = some row → row.tokenHash ≠ tokenHash) ∧
      next = { tables with
        tokens := tables.tokens.set id ⟨id, organizationId, tokenHash, name, expiresAt, false⟩ } := by
  unfold createProvisioningToken at h
  split at h
  · cases h
  next hid =>
    split at h
    · cases h
    next hhash =>
      cases h
      have hfree : ∀ other row, tables.tokens.get? other = some row → row.tokenHash ≠ tokenHash := by
        intro other row hrow heq
        apply hhash
        rw [List.any_eq_true]
        exact ⟨(other, row), get?_eq_some_iff.1 hrow, by simpa using heq⟩
      exact ⟨by simpa using hid, hfree, rfl⟩

theorem consumeProvisioningToken_eq_some {tokenHash : String}
    (h : tables.consumeProvisioningToken tokenHash now = some (row, next)) :
    (∃ id, tables.tokens.get? id = some row) ∧ row.tokenHash = tokenHash ∧ row.used = false ∧
      isoLe row.expiresAt now = false ∧
      next = { tables with
        tokens := tables.tokens.update row.id fun row => { row with used := true } } := by
  unfold consumeProvisioningToken at h
  rw [Option.map_eq_some_iff] at h
  obtain ⟨⟨id, found⟩, hfind, heq⟩ := h
  cases heq
  have htest := List.find?_some hfind
  have hmem := get?_eq_some_iff.2 (List.mem_of_find?_eq_some hfind)
  simp only [Bool.and_eq_true, decide_eq_true_eq, Bool.not_eq_true'] at htest
  exact ⟨⟨id, hmem⟩, htest.1.1, htest.1.2, htest.2, rfl⟩

theorem insertAgent_eq_ok {provision : ProvisioningTokenRow} {sessionTokenHash : String}
    {payload : Json} {agent : RegisteredAgent}
    (h : tables.insertAgent env provision id sessionTokenHash payload = .ok (agent, next)) :
    agent.organizationId = provision.organizationId ∧ next.tokens = tables.tokens := by
  obtain ⟨-, -, h⟩ := bind_eq_ok.1 h
  obtain ⟨name, -, h⟩ := bind_eq_ok.1 h
  split at h
  · cases h
  · split at h
    · cases h
    · split at h
      · cases h
      · cases h
        exact ⟨rfl, rfl⟩

end ProvisioningTables

namespace Provisioning

open ProvisioningTables

variable {env : IdempotencyEnv} {state : Provisioning}

/-! ## What a step keeps -/

theorem Spent.mono {tokens next : OrdMap String ProvisioningTokenRow}
    (h : Spent env tokens token organizationId)
    (hkept : ∀ id row, tokens.get? id = some row → row.used = true → next.get? id = some row) :
    Spent env next token organizationId := by
  obtain ⟨id, row, hrow, hhash, hused, horganization⟩ := h
  exact ⟨id, row, hkept id row hrow hused, hhash, hused, horganization⟩

theorem get?_use {tokens : OrdMap String ProvisioningTokenRow} {used : String}
    (h : (tokens.update used fun row => { row with used := true }).get? id = some row) :
    ∃ old, tokens.get? id = some old ∧ old.id = row.id ∧ old.tokenHash = row.tokenHash ∧
      old.expiresAt = row.expiresAt := by
  by_cases hid : id = used
  · subst hid
    rw [get?_update_self, Option.map_eq_some_iff] at h
    obtain ⟨old, hold, rfl⟩ := h
    exact ⟨old, hold, rfl, rfl, rfl⟩
  · rw [get?_update_of_ne _ hid] at h
    exact ⟨row, h, rfl, rfl, rfl⟩

theorem Sound.unspent (h : Sound env state) (hrow : state.tables.tokens.get? id = some row)
    (hused : row.used = false) :
    ∀ token organizationId, Spent env state.tables.tokens token organizationId →
      row.tokenHash ≠ hash env token := by
  intro token organizationId ⟨other, spent, hspent, hhash, hspentUsed, _⟩ heq
  have hsame := h.unique id other row spent hrow hspent (heq.trans hhash.symm)
  subst hsame
  rw [hrow] at hspent
  cases hspent
  rw [hused] at hspentUsed
  cases hspentUsed

theorem Sound.createToken (h : Sound env state) {tables : ProvisioningTables} {name : String}
    (hok : state.tables.createProvisioningToken organizationId id name (hash env token) expiresAt =
      .ok tables) : Sound env { state with tables := tables } := by
  obtain ⟨hid, hfree, rfl⟩ := createProvisioningToken_eq_ok hok
  have hkept : ∀ other row, state.tables.tokens.get? other = some row → row.used = true →
      (state.tables.tokens.set id
        ⟨id, organizationId, hash env token, name, expiresAt, false⟩).get? other = some row := by
    intro other row hrow _
    rw [get?_set_of_ne _ (by rintro rfl; rw [hid] at hrow; cases hrow)]
    exact hrow
  have hcases : ∀ other row, (state.tables.tokens.set id
      ⟨id, organizationId, hash env token, name, expiresAt, false⟩).get? other = some row →
      (other = id ∧ row = ⟨id, organizationId, hash env token, name, expiresAt, false⟩) ∨
        state.tables.tokens.get? other = some row := by
    intro other row hrow
    rw [get?_set] at hrow
    split at hrow
    next heq => exact .inl ⟨heq, (Option.some.inj hrow).symm⟩
    · exact .inr hrow
  exact {
    keyed := by
      intro other row hrow
      obtain ⟨rfl, rfl⟩ | hold := hcases other row hrow
      · rfl
      · exact h.keyed other row hold
    unique := by
      intro first second row other hfirst hsecond heq
      obtain ⟨rfl, rfl⟩ | hold := hcases first row hfirst
      · obtain ⟨rfl, -⟩ | hold := hcases second other hsecond
        · rfl
        · exact absurd heq.symm (hfree second other hold)
      · obtain ⟨rfl, rfl⟩ | hother := hcases second other hsecond
        · exact absurd heq (hfree first row hold)
        · exact h.unique first second row other hold hother heq
    pending := fun call registration hcall => (h.pending call registration hcall).mono hkept
    created := fun creation hmem => (h.created creation hmem).mono hkept
    distinct := h.distinct
    apart := h.apart
    nodup := h.nodup }

theorem Sound.consume (h : Sound env state) {call : ℕ} {provision : ProvisioningTokenRow}
    {tables : ProvisioningTables}
    (hok : state.tables.consumeProvisioningToken (hash env token) now = some (provision, tables)) :
    Sound env { state with
      tables := tables, pending := state.pending.set call ⟨token, now, provision⟩ } := by
  obtain ⟨⟨id, hrow⟩, hhash, hused, -, rfl⟩ := consumeProvisioningToken_eq_some hok
  obtain rfl := h.keyed id provision hrow
  have hfirst := h.unspent hrow hused
  have hkept : ∀ other row, state.tables.tokens.get? other = some row → row.used = true →
      (state.tables.tokens.update provision.id fun row => { row with used := true }).get? other =
        some row := by
    intro other row hother hspent
    rw [get?_update_of_ne]
    · exact hother
    · rintro rfl
      rw [hrow] at hother
      cases hother
      rw [hused] at hspent
      cases hspent
  have hspent : Spent env
      (state.tables.tokens.update provision.id fun row => { row with used := true }) token
      provision.organizationId := by
    refine ⟨provision.id, { provision with used := true }, ?_, hhash, rfl, rfl⟩
    rw [get?_update_self, hrow]
    rfl
  have hcalls : ∀ other registration,
      (state.pending.set call ⟨token, now, provision⟩).get? other = some registration →
      (other = call ∧ registration = ⟨token, now, provision⟩) ∨
        state.pending.get? other = some registration := by
    intro other registration hother
    rw [get?_set] at hother
    split at hother
    next heq => exact .inl ⟨heq, (Option.some.inj hother).symm⟩
    · exact .inr hother
  have hothers : ∀ other registration, state.pending.get? other = some registration →
      hash env token ≠ hash env registration.token := fun other registration hother heq =>
    hfirst _ _ (h.pending other registration hother) (hhash.trans heq)
  exact {
    keyed := by
      intro other row hother
      obtain ⟨old, hold, hsame, -⟩ := get?_use hother
      rw [← hsame]
      exact h.keyed other old hold
    unique := by
      intro first second row other hrow' hother heq
      obtain ⟨old, hold, -, hhashOld, -⟩ := get?_use hrow'
      obtain ⟨older, holder, -, hhashOlder, -⟩ := get?_use hother
      apply h.unique first second old older hold holder
      rw [hhashOld, hhashOlder]
      exact heq
    pending := by
      intro other registration hother
      obtain ⟨rfl, rfl⟩ | hold := hcalls other registration hother
      · exact hspent
      · exact (h.pending other registration hold).mono hkept
    created := fun creation hmem => (h.created creation hmem).mono hkept
    distinct := by
      intro first second registration other hregistration hother heq
      obtain ⟨rfl, rfl⟩ | hold := hcalls first registration hregistration
      · obtain ⟨rfl, -⟩ | holder := hcalls second other hother
        · rfl
        · exact absurd heq (hothers second other holder)
      · obtain ⟨rfl, rfl⟩ | holder := hcalls second other hother
        · exact absurd heq.symm (hothers first registration hold)
        · exact h.distinct first second registration other hold holder heq
    apart := by
      intro other registration hother creation hmem
      obtain ⟨rfl, rfl⟩ | hold := hcalls other registration hother
      · intro heq
        exact hfirst _ _ (h.created creation hmem) (hhash.trans heq)
      · exact h.apart other registration hold creation hmem
    nodup := h.nodup }

theorem Sound.drop (h : Sound env state) (call : ℕ) :
    Sound env { state with pending := state.pending.erase call } := by
  have hcalls : ∀ other registration, (state.pending.erase call).get? other = some registration →
      state.pending.get? other = some registration :=
    fun _ _ hother => (get?_of_get?_erase hother).2
  exact {
    h with
    pending := fun other registration hother => h.pending other registration (hcalls _ _ hother)
    distinct := fun first second registration other hfirst hsecond =>
      h.distinct first second registration other (hcalls _ _ hfirst) (hcalls _ _ hsecond)
    apart := fun other registration hother => h.apart other registration (hcalls _ _ hother) }

theorem Sound.insert (h : Sound env state) {call : ℕ} {registration : Registration}
    (hcall : state.pending.get? call = some registration) {tables : ProvisioningTables}
    {sessionTokenHash : String} {payload : Json} {agent : RegisteredAgent}
    (hok : state.tables.insertAgent env registration.provision id sessionTokenHash payload =
      .ok (agent, tables)) :
    Sound env {
      tables := tables
      pending := state.pending.erase call
      created := state.created ++
        [⟨registration.token, registration.now, agent.organizationId⟩] } := by
  obtain ⟨horganization, htokens⟩ := insertAgent_eq_ok hok
  have hdrop := h.drop call
  exact {
    keyed := by
      rw [htokens]
      exact h.keyed
    unique := by
      rw [htokens]
      exact h.unique
    pending := by
      rw [htokens]
      exact hdrop.pending
    created := by
      rw [htokens]
      intro creation hmem
      rcases List.mem_append.1 hmem with hold | hnew
      · exact h.created creation hold
      · rw [List.mem_singleton.1 hnew]
        rw [horganization]
        exact h.pending call registration hcall
    distinct := hdrop.distinct
    apart := by
      intro other pending hother creation hmem
      rcases List.mem_append.1 hmem with hold | hnew
      · exact hdrop.apart other pending hother creation hold
      · rw [List.mem_singleton.1 hnew]
        intro heq
        obtain ⟨hne, hold⟩ := get?_of_get?_erase hother
        exact hne (h.distinct other call pending registration hold hcall heq)
    nodup := by
      rw [List.map_append, List.nodup_append]
      refine ⟨h.nodup, List.nodup_singleton _, ?_⟩
      intro first hfirst second hsecond
      obtain ⟨creation, hmem, rfl⟩ := List.mem_map.1 hfirst
      rw [List.map_singleton, List.mem_singleton] at hsecond
      subst hsecond
      exact (h.apart call registration hcall creation hmem).symm }

theorem sound_step (h : Sound env state) {event : ProvisioningEvent} :
    Sound env (step env state event) := by
  cases event with
  | createToken organizationId id name token expiresAt =>
    simp only [step]
    split
    next tables hok => exact h.createToken hok
    · exact h
  | consume call token now =>
    simp only [step]
    split
    · exact h
    · split
      next provision tables hok => exact h.consume hok
      · exact h
  | insert call id sessionTokenHash payload =>
    simp only [step]
    split
    · exact h
    next registration hcall =>
      split
      next agent tables hok => exact h.insert hcall hok
      · exact h.drop call
  | agents rows => exact { h with }

/-! ## The expiry -/

theorem lt_of_isoLe (h : isoLe expiresAt now = false)
    (hdigits : expiresAt < fiveDigitYears → now < fiveDigitYears) : now < expiresAt := by
  unfold isoLe at h
  by_cases hexpires : expiresAt < fiveDigitYears
  · simpa [hexpires, hdigits hexpires] using h
  · by_cases hnow : now < fiveDigitYears
    · omega
    · simpa [hexpires, hnow] using h

theorem early_step (hsound : Sound env state) (h : Early env state) {event : ProvisioningEvent}
    (hguard : FourDigits env state event) : Early env (step env state event) := by
  cases event with
  | createToken organizationId id name token expiresAt =>
    simp only [step]
    split
    next tables hok =>
      obtain ⟨hid, hfree, rfl⟩ := createProvisioningToken_eq_ok hok
      -- the new row has a digest that no call has used
      have hold : ∀ used organization, Spent env state.tables.tokens used organization →
          ∀ other row, (state.tables.tokens.set id
            ⟨id, organizationId, hash env token, name, expiresAt, false⟩).get? other = some row →
          row.tokenHash = hash env used → state.tables.tokens.get? other = some row := by
        intro used organization ⟨spentId, spent, hspent, hspentHash, _⟩ other row hrow hhash
        rw [get?_set] at hrow
        split at hrow
        · cases hrow
          exact absurd (hspentHash.trans hhash.symm) (hfree spentId spent hspent)
        · exact hrow
      exact ⟨fun call registration hcall other row hrow hhash =>
          h.pending call registration hcall other row
            (hold _ _ (hsound.pending call registration hcall) other row hrow hhash) hhash,
        fun creation hmem other row hrow hhash => h.created creation hmem other row
          (hold _ _ (hsound.created creation hmem) other row hrow hhash) hhash⟩
    · exact h
  | consume call token now =>
    simp only [step]
    split
    · exact h
    · split
      next provision tables hok =>
        obtain ⟨⟨id, hrow⟩, hhash, hused, hiso, rfl⟩ := consumeProvisioningToken_eq_some hok
        have hnow : now < provision.expiresAt :=
          lt_of_isoLe hiso (hguard id provision hrow hhash hused)
        refine ⟨?_, ?_⟩
        · intro other registration hother found row hfound hsame
          obtain ⟨old, hold, -, hhashOld, hexpires⟩ := get?_use hfound
          rw [← hexpires]
          rw [get?_set] at hother
          split at hother
          · cases hother
            have hid := hsound.unique found id old provision hold hrow
              (hhashOld.trans (hsame.trans hhash.symm))
            subst hid
            rw [hrow] at hold
            cases hold
            exact hnow
          · exact h.pending other registration hother found old hold (hhashOld.trans hsame)
        · intro creation hmem found row hfound hsame
          obtain ⟨old, hold, -, hhashOld, hexpires⟩ := get?_use hfound
          rw [← hexpires]
          exact h.created creation hmem found old hold (hhashOld.trans hsame)
      · exact h
  | insert call id sessionTokenHash payload =>
    have hcalls : ∀ other registration, (state.pending.erase call).get? other = some registration →
        state.pending.get? other = some registration :=
      fun _ _ hother => (get?_of_get?_erase hother).2
    simp only [step]
    split
    · exact h
    next registration hcall =>
      split
      next agent tables hok =>
        obtain ⟨-, htokens⟩ := insertAgent_eq_ok hok
        refine ⟨?_, ?_⟩
        · intro other pending hother
          rw [htokens]
          exact h.pending other pending (hcalls other pending hother)
        · intro creation hmem
          rw [htokens]
          rcases List.mem_append.1 hmem with hold | hnew
          · exact h.created creation hold
          · rw [List.mem_singleton.1 hnew]
            exact h.pending call registration hcall
      · exact ⟨fun other pending hother => h.pending other pending (hcalls other pending hother),
          h.created⟩
  | agents rows => exact { h with }

/-! ## Every run -/

theorem Fresh.sound (h : Fresh state) : Sound env state where
  keyed := h.keyed
  unique := h.unique
  pending := by simp [h.pending]
  created := by simp [h.created]
  distinct := by simp [h.pending]
  apart := by simp [h.pending]
  nodup := by simp [h.created]

theorem Fresh.early (h : Fresh state) : Early env state where
  pending := by simp [h.pending]
  created := by simp [Timely, h.created]

theorem Sound.single (h : Sound env state) : Single env state where
  once := by
    intro token
    -- two agents of one token would have one digest
    have hpairs := List.pairwise_map.1 h.nodup
    have hfilter := hpairs.filter fun creation => creation.token = token
    rcases hcreated : state.created.filter fun creation => creation.token = token with
      _ | ⟨first, _ | ⟨second, rest⟩⟩
    · rw [hcreated]
      exact Nat.zero_le 1
    · rw [hcreated]
      exact le_rfl
    · rw [hcreated] at hfilter
      have hfirst : first ∈ state.created.filter fun creation => creation.token = token := by
        simp [hcreated]
      have hsecond : second ∈ state.created.filter fun creation => creation.token = token := by
        simp [hcreated]
      have htoken : first.token = second.token := by
        rw [of_decide_eq_true (List.mem_filter.1 hfirst).2,
          of_decide_eq_true (List.mem_filter.1 hsecond).2]
      exact absurd (congrArg (hash env) htoken)
        ((List.pairwise_cons.1 hfilter).1 second (by simp))
  organization := by
    intro creation hmem
    obtain ⟨id, row, hrow, hhash, -, horganization⟩ := h.created creation hmem
    exact ⟨id, row, hrow, hhash, horganization⟩

/-- **One agent for a token**: in every run a token creates at most one agent, in its own
organization; and if the condition is met in every step, only before the token's expiry. -/
theorem promised_run {start : Provisioning} {events : List ProvisioningEvent}
    (hstart : Fresh start) :
    Throughout (step env) (Single env) start events ∧
      (Along (step env) (FourDigits env) start events →
        Throughout (step env) (Promised env) start events) := by
  constructor
  · have hthrough := @Along.throughout _ _ (step env) Always events (Sound env)
      (fun _ event hsound _ => sound_step hsound) start
      (along_always (step env) start events) hstart.sound
    exact hthrough.mono fun _ hsound => hsound.single
  · intro halong
    have hthrough := @Along.throughout _ _ (step env) (FourDigits env) events
      (fun state => Sound env state ∧ Early env state)
      (fun _ event h hguard => ⟨sound_step h.1, early_step h.1 h.2 hguard⟩)
      start halong ⟨hstart.sound, hstart.early⟩
    exact hthrough.mono fun _ h => ⟨h.1.single, h.2.created⟩

/-! ## The year 10000 -/

def noTokens : Provisioning := ⟨⟨.empty, .empty⟩, .empty, []⟩

theorem noTokens_fresh : Fresh noTokens where
  keyed := by simp [noTokens]
  unique := by simp [noTokens]
  pending := rfl
  created := rfl

def plainEnv : IdempotencyEnv := ⟨.plain, fun _ => "digest"⟩

def agentPayload : Json :=
  .obj [("name", .str "ERP"), ("platform", .str "linux"), ("architecture", .str "x64"),
    ("version", .str "1.0.0"), ("publicKey", .str "key")]

/-- A token that expires at the time, and two calls with it at another one. -/
def twoCalls (expiresAt now : ℕ) : List ProvisioningEvent :=
  [.createToken "o1" "p1" "Novo agente" "tnr_prov_a" expiresAt, .consume 1 "tnr_prov_a" now,
    .consume 2 "tnr_prov_a" now, .insert 1 "a1" "digest of a1" agentPayload,
    .insert 2 "a2" "digest of a2" agentPayload]

theorem promised_run_two :
    (run (step plainEnv) noTokens (twoCalls 1000 999)).created = [⟨"tnr_prov_a", 999, "o1"⟩] ∧
      Throughout (step plainEnv) (Promised plainEnv) noTokens (twoCalls 1000 999) := by
  refine ⟨by decide +kernel, (promised_run noTokens_fresh).2 ⟨trivial, ?_, ?_, trivial, trivial, trivial⟩⟩
  · intro id row _ _ _ _
    decide
  · intro id row _ _ _ _
    decide

/-- Ten seconds before the year 10000 a token expires; at its start it still counts. -/
theorem not_promised_late : Fresh noTokens ∧
    ¬ Throughout (step plainEnv) (Promised plainEnv) noTokens
      (twoCalls (fiveDigitYears - 10000) fiveDigitYears) := by
  refine ⟨noTokens_fresh, fun h => ?_⟩
  have hmem : (⟨"tnr_prov_a", fiveDigitYears, "o1"⟩ : Creation) ∈
      (run (step plainEnv) noTokens
        (twoCalls (fiveDigitYears - 10000) fiveDigitYears)).created := by decide +kernel
  have hrow : ((run (step plainEnv) noTokens (twoCalls (fiveDigitYears - 10000)
      fiveDigitYears)).tables.tokens.get? "p1").map (fun row => (row.tokenHash, row.expiresAt)) =
      some (hash plainEnv "tnr_prov_a", fiveDigitYears - 10000) := by decide +kernel
  obtain ⟨row, hget, heq⟩ := Option.map_eq_some_iff.1 hrow
  have hearly := h.last.timely _ hmem "p1" row hget (congrArg Prod.fst heq)
  have hexpires : row.expiresAt = fiveDigitYears - 10000 := congrArg Prod.snd heq
  rw [hexpires] at hearly
  exact absurd hearly (by decide)

end Provisioning

end Tunnara.Control
