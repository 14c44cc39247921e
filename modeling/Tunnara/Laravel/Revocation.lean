/-
# Revocation of an agent

Revocation is the value `revoked` of the status column, and four other writers
assign that column. A revoked agent stays revoked, and none of its credentials is
accepted, exactly as long as no step overwrites the status or finishes an
authentication that had loaded the row before.
-/

import Tunnara.Laravel.Agents

namespace Tunnara.Laravel

open OrdMap

/-- The credential is a hello of the agent or its session token. -/
def BelongsTo (agentId : String) (tokenHash : Option String) : Accepted → Prop
  | .hello id => id = agentId
  | .token hash id => id = agentId ∨ (tokenHash ≠ none ∧ hash = tokenHash)

/-- The agent is revoked and nothing of it has been accepted since. -/
structure IsRevoked (agentId : String) (tokenHash : Option String) (state : State) : Prop where
  row : ∃ row, state.agents.get? agentId = some row ∧ row.status = "revoked" ∧
    row.sessionTokenHash = tokenHash
  unique : ∀ id row, state.agents.get? id = some row → tokenHash ≠ none →
    row.sessionTokenHash = tokenHash → id = agentId
  accepted : ∀ credential ∈ state.accepted, ¬ BelongsTo agentId tokenHash credential

/-- The steps that leave a revoked agent revoked, by what they write and what they
had loaded. -/
def Respects (php : Php) (agentId : String) (tokenHash : Option String) (state : State) :
    Event → Prop
  -- the mass update of the heartbeat assigns `online` whatever the status is
  | .agentHeartbeat id _ _ _ => id ≠ agentId
  -- a presence update assigns the status unless it had loaded that very status
  | .presenceSave request _ =>
    ∀ agent status relayNodeId relayEdgeUrl,
      state.pending.get? request = some (.presence agent status relayNodeId relayEdgeUrl) →
      agent.id = agentId → agent.status = status.text
  -- an authentication that had loaded the agent before its revocation still succeeds
  | .tokenSave request now =>
    ∀ agent, state.pending.get? request = some (.token agent) →
      BelongsTo agentId tokenHash (.token agent.sessionTokenHash agent.id) →
      agent.sessionLasts now = false
  | .helloVerify request now =>
    ∀ agent hello, state.pending.get? request = some (.hello agent hello) →
      agent.id = agentId →
      agent.status = "revoked" ∨ proofHolds php agent hello now = false ∨
        nonceUsed (liveNonces state.nonces now) agent.id hello.nonce = true
  | _ => True

section

variable {agentId : String} {tokenHash : Option String} {state : State}

section

variable (h : IsRevoked agentId tokenHash state)
include h

theorem isRevoked_updateAgent_iff (id : String) (f : AgentRow → AgentRow)
    (hhash : ∀ row, (f row).sessionTokenHash = row.sessionTokenHash) {next : State}
    (hagents : next.agents = (state.updateAgent id f).agents) :
    IsRevoked agentId tokenHash next ↔
      (id = agentId → ∀ row, state.agents.get? agentId = some row → (f row).status = "revoked") ∧
      ∀ credential ∈ next.accepted, ¬ BelongsTo agentId tokenHash credential := by
  obtain ⟨row, hrow, hstatus, htoken⟩ := h.row
  have hget : ∀ key, next.agents.get? key =
      (state.agents.get? key).map fun row => if key = id then f row else row := by
    intro key
    rw [hagents, State.updateAgent, get?_mapVals]
  constructor
  · rintro ⟨⟨after, hafter, hrevoked, -⟩, -, haccepted⟩
    refine ⟨?_, haccepted⟩
    intro hid found hfound
    rw [hget, hfound, Option.map_some, if_pos hid.symm] at hafter
    cases hafter
    exact hrevoked
  · rintro ⟨hkeeps, haccepted⟩
    refine ⟨⟨_, by rw [hget, hrow]; rfl, ?_, ?_⟩, ?_, haccepted⟩
    · split
      · rename_i hid
        exact hkeeps hid.symm row hrow
      · exact hstatus
    · split
      · rw [hhash, htoken]
      · exact htoken
    · intro key after hafter hsome hsame
      rw [hget, Option.map_eq_some_iff] at hafter
      obtain ⟨before, hbefore, rfl⟩ := hafter
      apply h.unique key before hbefore hsome
      split at hsame
      · rwa [hhash] at hsame
      · exact hsame

theorem IsRevoked.congr {next : State} (hagents : next.agents = state.agents)
    (haccepted : next.accepted = state.accepted) : IsRevoked agentId tokenHash next :=
  ⟨hagents ▸ h.row, hagents ▸ h.unique, haccepted ▸ h.accepted⟩

theorem accepted_append_iff {credential : Accepted} :
    (∀ c ∈ state.accepted ++ [credential], ¬ BelongsTo agentId tokenHash c) ↔
      ¬ BelongsTo agentId tokenHash credential := by
  constructor
  · intro hall
    exact hall credential (by simp)
  · intro hnew c hc
    rcases List.mem_append.1 hc with hold | hlast
    · exact h.accepted c hold
    · rw [List.mem_singleton.1 hlast]
      exact hnew

theorem IsRevoked.register {row : AgentRow} (hinsertable : insertable state.agents row = true) :
    IsRevoked agentId tokenHash { state with agents := state.agents.set row.id row } := by
  obtain ⟨current, hcurrent, hstatus, htoken⟩ := h.row
  obtain ⟨hfree, hhashes⟩ := Bool.and_eq_true_iff.1 hinsertable
  have hne : agentId ≠ row.id := by
    rintro rfl
    rw [hcurrent] at hfree
    cases hfree
  refine ⟨⟨current, ?_, hstatus, htoken⟩, ?_, h.accepted⟩
  · rw [get?_set_of_ne _ hne]
    exact hcurrent
  · intro id found hfound hsome hsame
    rw [get?_set] at hfound
    split at hfound
    · cases hfound
      have hentry := List.all_eq_true.1 hhashes _ (get?_eq_some_iff.1 hcurrent)
      simp [htoken, hsame, hsome] at hentry
    · exact h.unique id found hfound hsome hsame

end

end

variable (php : Php) {agentId : String} {tokenHash : Option String}

theorem isRevoked_step_iff (state : State) (event : Event) (h : IsRevoked agentId tokenHash state) :
    IsRevoked agentId tokenHash (step php state event) ↔
      Respects php agentId tokenHash state event := by
  obtain ⟨row, hrow, hstatus, htoken⟩ := h.row
  cases event with
  | destroyLoad request organizationId id =>
    refine iff_of_true ?_ trivial
    simp only [step]
    split
    · split
      · exact h.congr rfl rfl
      · exact h
    · exact h
  | destroySave request =>
    refine iff_of_true ?_ trivial
    simp only [step]
    split
    · rename_i agent _
      refine Iff.mpr (isRevoked_updateAgent_iff h agent.id
        (fun row => row.save agent "revoked" agent.lastSeenAt) (fun _ => rfl) rfl) ?_
      refine ⟨?_, h.accepted⟩
      intro _ found hfound
      rw [hrow] at hfound
      cases hfound
      simp only [AgentRow.save, written]
      split
      · exact hstatus
      · rfl
    · exact h
  | presenceLoad request id status relayNodeId relayEdgeUrl | tokenLoad request plainToken
  | helloLoad request hello =>
    refine iff_of_true ?_ trivial
    simp only [step]
    split
    · exact h.congr rfl rfl
    · exact h
  | presenceSave request now =>
    simp only [step, Respects]
    split
    · rename_i agent status relayNodeId relayEdgeUrl hpending
      refine Iff.trans (isRevoked_updateAgent_iff h agent.id
        (fun row => row.save agent status.text (some now)) (fun _ => rfl) rfl) ?_
      have hsaved : (row.save agent status.text (some now)).status = "revoked" ↔
          agent.status = status.text := by
        cases status <;> simp [AgentRow.save, written, PresenceStatus.text, hstatus, eq_comm]
      constructor
      · rintro ⟨hkeeps, -⟩ _ _ _ _ hsame hid
        rw [hpending] at hsame
        cases hsame
        exact hsaved.1 (hkeeps hid row hrow)
      · intro hrespects
        refine ⟨?_, h.accepted⟩
        intro hid found hfound
        rw [hrow] at hfound
        cases hfound
        exact hsaved.2 (hrespects _ _ _ _ hpending hid)
    · rename_i hnone
      refine iff_of_true h ?_
      intro agent status relayNodeId relayEdgeUrl hpending
      exact absurd hpending (hnone _ _ _ _)
  | agentHeartbeat id relayNodeId relayEdgeUrl now =>
    simp only [step, Respects]
    split
    · refine Iff.trans (isRevoked_updateAgent_iff h id
        (fun row => { row with status := "online", lastSeenAt := some now })
        (fun _ => rfl) rfl) ?_
      constructor
      · rintro ⟨hkeeps, -⟩ hid
        have hsame : "online" = "revoked" := hkeeps hid row hrow
        exact absurd hsame (by decide)
      · intro hne
        exact ⟨fun hid => absurd hid hne, h.accepted⟩
    · rename_i hnone
      refine iff_of_true h ?_
      rintro rfl
      rw [hrow] at hnone
      cases hnone
  | tokenSave request now =>
    simp only [step, Respects]
    split
    · rename_i agent hpending
      split
      · rename_i hlasts
        refine Iff.trans (isRevoked_updateAgent_iff h agent.id
          (fun row => row.save agent "online" (some now)) (fun _ => rfl) rfl) ?_
        constructor
        · rintro ⟨-, haccepted⟩ _ hsame hbelongs
          rw [hpending] at hsame
          cases hsame
          exact absurd hbelongs ((accepted_append_iff h).1 haccepted)
        · intro hrespects
          have hother : ¬ BelongsTo agentId tokenHash
              (.token agent.sessionTokenHash agent.id) := by
            intro hbelongs
            rw [hrespects agent hpending hbelongs] at hlasts
            cases hlasts
          refine ⟨fun hid => ?_, (accepted_append_iff h).2 hother⟩
          exact absurd (Or.inl hid) hother
      · rename_i hover
        refine iff_of_true (h.congr rfl rfl) ?_
        intro _ hsame _
        rw [hpending] at hsame
        cases hsame
        simpa using hover
    · rename_i hnone
      refine iff_of_true h ?_
      intro agent hpending
      exact absurd hpending (hnone _)
  | helloVerify request now =>
    simp only [step, Respects]
    split
    · rename_i agent hello hpending
      have hverdict : (verify php agent hello now state.nonces).1 = false ↔
          agent.status = "revoked" ∨ proofHolds php agent hello now = false ∨
            nonceUsed (liveNonces state.nonces now) agent.id hello.nonce = true := by
        simp only [verify]
        split
        · rename_i hrefused
          exact iff_of_true rfl (hrefused.elim (fun h => Or.inr (Or.inl h)) Or.inl)
        · split <;> simp_all
      constructor
      · intro hnext _ _ hsame hid
        rw [hpending] at hsame
        cases hsame
        rw [← hverdict]
        by_contra haccept
        have haccept : (verify php agent hello now state.nonces).1 = true := by
          simpa using haccept
        have hall := hnext.accepted
        simp only [haccept, if_true] at hall
        exact (accepted_append_iff h).1 hall hid
      · intro hrespects
        by_cases hid : agent.id = agentId
        · have hrefused := hverdict.2 (hrespects agent hello hpending hid)
          exact h.congr rfl (by simp [hrefused])
        · refine ⟨h.row, h.unique, ?_⟩
          split
          · exact (accepted_append_iff h).2 hid
          · exact h.accepted
    · rename_i hnone
      refine iff_of_true h ?_
      intro agent hello hpending
      exact absurd hpending (hnone _ _)
  | register row =>
    refine iff_of_true ?_ trivial
    simp only [step]
    split
    · exact h.register ‹_›
    · exact h

/-- Token hashes are a unique column. -/
def UniqueTokens (agents : OrdMap String AgentRow) : Prop :=
  ∀ id other row found, agents.get? id = some row → agents.get? other = some found →
    row.sessionTokenHash ≠ none → found.sessionTokenHash = row.sessionTokenHash → other = id

theorem isRevoked_of_destroySave {state : State} {request : ℕ} {agent row : AgentRow}
    (hunique : UniqueTokens state.agents)
    (hpending : state.pending.get? request = some (.destroy agent))
    (hrow : state.agents.get? agent.id = some row) (hstatus : agent.status ≠ "revoked") :
    IsRevoked agent.id row.sessionTokenHash
      { step php state (.destroySave request) with accepted := [] } := by
  have hnext : (step php state (.destroySave request)).agents =
      (state.updateAgent agent.id fun row => row.save agent "revoked" agent.lastSeenAt).agents := by
    simp only [step, hpending]
  have hget : ∀ key, (step php state (.destroySave request)).agents.get? key =
      (state.agents.get? key).map fun row =>
        if key = agent.id then row.save agent "revoked" agent.lastSeenAt else row := by
    intro key
    rw [hnext, State.updateAgent, get?_mapVals]
  refine ⟨⟨row.save agent "revoked" agent.lastSeenAt, ?_, ?_, rfl⟩, ?_, by simp⟩
  · simp [hget, hrow]
  · simp [AgentRow.save, written, hstatus.symm]
  · intro id found hfound hsome hsame
    rw [hget, Option.map_eq_some_iff] at hfound
    obtain ⟨before, hbefore, rfl⟩ := hfound
    apply hunique agent.id id row before hrow hbefore hsome
    split at hsame
    · exact hsame
    · exact hsame

/-- A revoked agent stays revoked, with no hello of it and no token of it accepted, in
every state of a run exactly when every step of the run respects the revocation. -/
theorem isRevoked_throughout_iff {state : State} (h : IsRevoked agentId tokenHash state)
    (events : List Event) :
    Transition.Throughout (step php) (IsRevoked agentId tokenHash) state events ↔
      Transition.Along (step php) (Respects php agentId tokenHash) state events :=
  Transition.throughout_iff_along (isRevoked_step_iff php) h

def onlineAgent : AgentRow := ⟨"a1", "org", "key", some "secret", some 1000, "online", some 0⟩

def beforeRevocation : State where
  agents := OrdMap.empty.set "a1" onlineAgent
  presence := OrdMap.empty
  nonces := []
  pending := OrdMap.empty.set 0 (.destroy onlineAgent)
  accepted := []

def afterRevocation : State := step Php.plain beforeRevocation (.destroySave 0)

theorem isRevoked_afterRevocation : IsRevoked "a1" (some "secret") afterRevocation := by
  show IsRevoked onlineAgent.id onlineAgent.sessionTokenHash
    { step Php.plain beforeRevocation (.destroySave 0) with accepted := [] }
  refine isRevoked_of_destroySave Php.plain ?_ ?_ ?_ ?_
  · intro id other row found hrow hfound _ _
    simp only [beforeRevocation, get?_set, get?_empty] at hrow hfound
    split at hrow
    · split at hfound
      · simp_all
      · cases hfound
    · cases hrow
  · rfl
  · rfl
  · decide

def heartbeatRun : List Event :=
  [.agentHeartbeat "a1" none none 10, .tokenLoad 1 "secret", .tokenSave 1 10]

theorem not_isRevoked_heartbeatRun :
    IsRevoked "a1" (some "secret") afterRevocation ∧
      (Transition.run (step Php.plain) afterRevocation heartbeatRun).accepted =
        [.token (some "secret") "a1"] ∧
      ¬ Transition.Throughout (step Php.plain) (IsRevoked "a1" (some "secret")) afterRevocation
        heartbeatRun := by
  have haccepted : (Transition.run (step Php.plain) afterRevocation heartbeatRun).accepted =
      [.token (some "secret") "a1"] := by decide
  refine ⟨isRevoked_afterRevocation, haccepted, ?_⟩
  rintro ⟨-, -, -, hlast⟩
  exact hlast.accepted (.token (some "secret") "a1") (by decide) (Or.inl rfl)

theorem isRevoked_throughout_iff_heartbeatRun :
    Transition.Throughout (step Php.plain) (IsRevoked "a1" (some "secret")) afterRevocation
        heartbeatRun ↔
      Transition.Along (step Php.plain) (Respects Php.plain "a1" (some "secret")) afterRevocation
        heartbeatRun :=
  isRevoked_throughout_iff Php.plain isRevoked_afterRevocation heartbeatRun

end Tunnara.Laravel
