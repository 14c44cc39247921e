/-
# Revocation in the Node store

A revocation is two columns and a missing row: `revoked_at`, which nothing clears,
the status `revoked`, and no presence. Authentication and routing look at
`revoked_at`; the writers of the status and of the presence do not, so a Relay that
still reports the agent brings both back.
-/

import Tunnara.Control.Agents

namespace Tunnara.Control

open Transition OrdMap

namespace AgentStore

structure StaysRevoked (host : Host) (agentId : String) (store : AgentStore) : Prop where
  row : ∃ agent, store.agents.get? agentId = some agent ∧ agent.revokedAt.isSome ∧
    agent.status = "revoked"
  presence : store.presence.get? agentId = none
  token : ∀ rawToken now agent, store.authenticateAgentToken host rawToken now = some agent →
    agent.id ≠ agentId
  target : ∀ tunnelId requested target,
    (store.selectTunnelTarget tunnelId requested).1 = some target → target.agentId ≠ agentId
  counted : ∀ organizationId, ∀ agent ∈ store.agentsOnline organizationId, agent.id ≠ agentId

/-- The part of it that no operation takes back. -/
def HasRevokedAt (agentId : String) (store : AgentStore) : Prop :=
  ∃ agent, store.agents.get? agentId = some agent ∧ agent.revokedAt.isSome

/-- The agent is shut out, whatever the Relays report. -/
structure ShutOut (host : Host) (agentId : String) (store : AgentStore) : Prop where
  token : ∀ rawToken now agent, store.authenticateAgentToken host rawToken now = some agent →
    agent.id ≠ agentId
  target : ∀ tunnelId requested target,
    (store.selectTunnelTarget tunnelId requested).1 = some target → target.agentId ≠ agentId

/-- No Relay says that the agent is connected, or was so at a place it does not know. -/
def Unreported (agentId : String) (store : AgentStore) : AgentEvent → Prop
  -- the upsert comes first here: where it throws, the status is not written either
  | .internalPresence id offline relayNodeId _ =>
    id ≠ agentId ∨ offline = true ∨ store.presenceInsertable id (orNull relayNodeId) = false
  | .internalHeartbeat id _ _ => id ≠ agentId
  | .relayHeartbeat id => id ≠ agentId
  -- an embedded Relay with a place only clears a presence, and there is none
  | .relayPresence id offline relayNodeId relayEdgeUrl =>
    id ≠ agentId ∨ offline = true ∧ ((orNull relayNodeId).isSome ∨ (orNull relayEdgeUrl).isSome)
  | _ => True

variable {host : Host} {agentId : String} {store : AgentStore}

theorem mem_agents_of_find {p : AgentRow → Bool} {agent : AgentRow}
    (h : (store.agents.entries.map Prod.snd).find? p = some agent) :
    store.agents.get? agent.id = some agent ∧ p agent = true := by
  obtain ⟨entry, hentry, rfl⟩ := List.mem_map.1 (List.mem_of_find?_eq_some h)
  have hget : store.agents.get? entry.1 = some entry.2 := get?_eq_some_iff.2 hentry
  have hkey : entry.2.id = entry.1 := store.agents_keyed entry.1 entry.2 hget
  rw [hkey]
  exact ⟨hget, List.find?_some h⟩

theorem not_revoked_of_selected {db : Database} {tunnelId : String} {requested : Option String}
    {target : TargetRow} (h : (db.selectTunnelTarget tunnelId requested).1 = some target) :
    ∃ agent, db.agents.get? target.agentId = some agent ∧ agent.revokedAt = none := by
  have hweighted : target ∈ weighted (pinned requested (db.candidates tunnelId)) := by
    unfold Database.selectTunnelTarget at h
    dsimp only at h
    split_ifs at h
    exact List.mem_of_getElem? h
  obtain ⟨row, hrow, hcopy⟩ := List.mem_flatMap.1 hweighted
  obtain rfl := (List.mem_replicate.1 hcopy).2
  obtain ⟨candidate, heligible, rfl⟩ := List.mem_map.1 (List.mem_of_mem_filter hrow)
  have honline : candidate ∈ pinned requested (db.candidates tunnelId) :=
    List.mem_of_mem_filter (eligible_sublist_online.subset heligible)
  have hcandidate : candidate ∈ db.candidates tunnelId := by
    unfold pinned at honline
    split at honline
    · split_ifs at honline
      · exact honline
      · exact List.mem_of_mem_filter honline
    · exact honline
  unfold Database.candidates at hcandidate
  rw [List.mem_insertionSort, List.mem_filterMap] at hcandidate
  obtain ⟨entry, -, hjoined⟩ := hcandidate
  split at hjoined
  · rename_i agent hagent
    split_ifs at hjoined with hactive
    cases hjoined
    exact ⟨agent, hagent, hactive.2.2⟩
  · cases hjoined

theorem HasRevokedAt.shutOut (h : HasRevokedAt agentId store) : ShutOut host agentId store := by
  obtain ⟨revoked, hrevoked, hsince⟩ := h
  constructor
  · intro rawToken now agent hagent hid
    unfold authenticateAgentToken at hagent
    split at hagent
    · cases hagent
    obtain ⟨hget, hvalid⟩ := mem_agents_of_find hagent
    rw [hid, hrevoked] at hget
    cases hget
    obtain ⟨session, -, hsession⟩ := (Option.any_eq_true _ _).1 hvalid
    simp only [Bool.and_eq_true] at hsession
    rw [Option.isNone_iff_eq_none.1 hsession.1.2] at hsince
    cases hsince
  · intro tunnelId requested target htarget hid
    obtain ⟨agent, hget, hactive⟩ := not_revoked_of_selected htarget
    rw [hid, hrevoked] at hget
    cases hget
    rw [hactive] at hsince
    cases hsince

variable {organizationId id : String}

theorem mem_agentsOnline {agent : AgentRow} (h : agent ∈ store.agentsOnline organizationId) :
    store.agents.get? agent.id = some agent ∧ agent.status = "online" := by
  obtain ⟨hmem, hcounted⟩ := List.mem_filter.1 h
  obtain ⟨entry, hentry, rfl⟩ := List.mem_map.1 hmem
  have hget : store.agents.get? entry.1 = some entry.2 := get?_eq_some_iff.2 hentry
  rw [store.agents_keyed entry.1 entry.2 hget]
  simp only [Bool.and_eq_true, decide_eq_true_eq] at hcounted
  exact ⟨hget, hcounted.2⟩

theorem staysRevoked_of_columns
    (hrow : ∃ agent, store.agents.get? agentId = some agent ∧ agent.revokedAt.isSome ∧
      agent.status = "revoked") (hpresence : store.presence.get? agentId = none) :
    StaysRevoked host agentId store := by
  obtain ⟨revoked, hrevoked, hsince, hstatus⟩ := hrow
  have hshut : ShutOut host agentId store := HasRevokedAt.shutOut ⟨revoked, hrevoked, hsince⟩
  refine ⟨⟨revoked, hrevoked, hsince, hstatus⟩, hpresence, hshut.token, hshut.target, ?_⟩
  intro organizationId agent hagent hid
  obtain ⟨hget, honline⟩ := mem_agentsOnline hagent
  rw [hid, hrevoked] at hget
  cases hget
  rw [hstatus] at honline
  exact absurd honline (by decide)

/-- A write to the agents keeps every `revoked_at`. -/
def KeepsRevokedAt (before after : AgentStore) : Prop :=
  ∀ agentId, HasRevokedAt agentId before → HasRevokedAt agentId after

variable {next : AgentStore}

theorem hasRevokedAt_update (id : String) (f : AgentRow → AgentRow)
    (hagents : next.agents = store.agents.update id f)
    (hf : ∀ row, row.revokedAt.isSome → (f row).revokedAt.isSome) : KeepsRevokedAt store next := by
  rintro agentId ⟨agent, hagent, hsince⟩
  rw [HasRevokedAt, hagents]
  by_cases hid : agentId = id
  · subst hid
    exact ⟨f agent, by rw [get?_update_self, hagent]; rfl, hf agent hsince⟩
  · exact ⟨agent, by rw [get?_update_of_ne _ hid, hagent], hsince⟩

theorem KeepsRevokedAt.of_agents (h : next.agents = store.agents) : KeepsRevokedAt store next := by
  intro agentId hrevoked
  rw [HasRevokedAt, h]
  exact hrevoked

theorem keepsRevokedAt_touchAgent (store : AgentStore) (id status : String) :
    KeepsRevokedAt store (store.touchAgent id status) :=
  hasRevokedAt_update id (fun row => { row with status := status }) rfl fun _ h => h

variable {relayNodeId : Option String} {relayEdgeUrl : Option String}

theorem agents_setAgentPresence
    (h : store.setAgentPresence id relayNodeId relayEdgeUrl = some next) :
    next.agents = store.agents := by
  unfold setAgentPresence at h
  split_ifs at h
  cases h
  rfl

theorem agents_getD_setAgentPresence :
    ((store.setAgentPresence id relayNodeId relayEdgeUrl).getD store).agents = store.agents := by
  cases hset : store.setAgentPresence id relayNodeId relayEdgeUrl with
  | none => rfl
  | some next => exact agents_setAgentPresence hset

theorem agents_placed {p : Prop} [Decidable p] :
    (if p then (store.setAgentPresence id relayNodeId relayEdgeUrl).getD store
      else store).agents = store.agents := by
  split_ifs
  · exact agents_getD_setAgentPresence
  · rfl

theorem keepsRevokedAt_markAgentOffline : KeepsRevokedAt store (store.markAgentOffline id) :=
  hasRevokedAt_update id (fun row => { row with status := "offline" }) rfl fun _ h => h

theorem keepsRevokedAt_clearAgentPresence :
    KeepsRevokedAt store (store.clearAgentPresence id relayNodeId) := by
  unfold clearAgentPresence
  split
  · exact .of_agents rfl
  · split_ifs
    · exact .of_agents rfl
    · exact keepsRevokedAt_markAgentOffline

theorem keepsRevokedAt_step {host : Host} {event : AgentEvent} :
    KeepsRevokedAt store (store.step host event) := by
  cases event with
  | apiHeartbeat rawToken now =>
    show KeepsRevokedAt store (store.apiHeartbeat host rawToken now)
    unfold apiHeartbeat
    split
    · exact keepsRevokedAt_touchAgent store _ _
    · exact .of_agents rfl
  | internalPresence id offline relayNodeId relayEdgeUrl =>
    show KeepsRevokedAt store (store.internalPresence id offline relayNodeId relayEdgeUrl)
    unfold internalPresence
    split_ifs
    · exact keepsRevokedAt_clearAgentPresence
    · split
      · rename_i next hnext
        intro agentId h
        apply keepsRevokedAt_touchAgent
        exact KeepsRevokedAt.of_agents (agents_setAgentPresence hnext) agentId h
      · exact .of_agents rfl
  | internalHeartbeat id relayNodeId relayEdgeUrl =>
    intro agentId h
    have htouched := keepsRevokedAt_touchAgent store id "online" agentId h
    exact KeepsRevokedAt.of_agents agents_placed agentId htouched
  | relayPresence id offline relayNodeId relayEdgeUrl =>
    show KeepsRevokedAt store (store.relayPresence id offline relayNodeId relayEdgeUrl)
    unfold relayPresence
    intro agentId h
    cases offline with
    | true =>
      rw [if_pos rfl]
      split_ifs
      · exact keepsRevokedAt_clearAgentPresence agentId h
      · exact keepsRevokedAt_markAgentOffline agentId h
    | false =>
      have htouched := keepsRevokedAt_touchAgent store id "online" agentId h
      exact KeepsRevokedAt.of_agents agents_placed agentId htouched
  | relayHeartbeat id => exact keepsRevokedAt_touchAgent store id "online"
  | revoke organizationId id timestamp =>
    show KeepsRevokedAt store ((store.revokeAgent organizationId id timestamp).getD store)
    unfold revokeAgent
    split
    · split_ifs
      · exact hasRevokedAt_update id
          (fun row => { row with revokedAt := some timestamp, status := "revoked" }) rfl
          fun _ _ => rfl
      · exact .of_agents rfl
    · exact .of_agents rfl
  | register row session =>
    show KeepsRevokedAt store (if (store.agents.get? row.id).isSome then store else _)
    split_ifs with hknown
    · exact .of_agents rfl
    · rintro agentId ⟨agent, hagent, hsince⟩
      have hne : agentId ≠ row.id := by
        rintro rfl
        rw [hagent] at hknown
        exact hknown rfl
      exact ⟨agent, by rw [get?_set_of_ne _ hne, hagent], hsince⟩
  | registerNode id | others tables => exact .of_agents rfl

theorem StaysRevoked.congr (h : StaysRevoked host agentId store)
    (hagents : next.agents.get? agentId = store.agents.get? agentId)
    (hpresence : next.presence.get? agentId = store.presence.get? agentId) :
    StaysRevoked host agentId next :=
  staysRevoked_of_columns (hagents ▸ h.row) (hpresence ▸ h.presence)

theorem not_staysRevoked_of_update (f : AgentRow → AgentRow)
    (hagents : next.agents = store.agents.update agentId f)
    (hf : ∀ row, (f row).status ≠ "revoked") : ¬ StaysRevoked host agentId next := by
  intro h
  obtain ⟨agent, hagent, -, hstatus⟩ := h.row
  rw [hagents, get?_update_self, Option.map_eq_some_iff] at hagent
  obtain ⟨before, -, rfl⟩ := hagent
  exact hf before hstatus

theorem not_staysRevoked_of_online
    (hagents : next.agents = (store.touchAgent agentId "online").agents) :
    ¬ StaysRevoked host agentId next := by
  have honline : "online" ≠ "revoked" := by decide
  exact not_staysRevoked_of_update (fun row => { row with status := "online" }) hagents
    fun _ => honline

section

variable (h : StaysRevoked host agentId store)
include h

theorem StaysRevoked.touchAgent {status : String} (hid : id ≠ agentId) :
    StaysRevoked host agentId (store.touchAgent id status) :=
  h.congr (get?_update_of_ne _ hid.symm _) rfl

theorem StaysRevoked.markAgentOffline (hid : id ≠ agentId) :
    StaysRevoked host agentId (store.markAgentOffline id) :=
  h.congr (get?_update_of_ne _ hid.symm _) (get?_erase_of_ne _ hid.symm)

theorem StaysRevoked.placed (p : Prop) [Decidable p] (hid : id ≠ agentId) :
    StaysRevoked host agentId
      (if p then (store.setAgentPresence id relayNodeId relayEdgeUrl).getD store else store) := by
  unfold setAgentPresence
  split_ifs
  · exact h.congr rfl (get?_set_of_ne _ hid.symm _)
  · exact h
  · exact h

theorem StaysRevoked.clearAgentPresence (id : String) (relayNodeId : Option String) :
    StaysRevoked host agentId (store.clearAgentPresence id relayNodeId) := by
  unfold AgentStore.clearAgentPresence
  split
  · exact h
  · rename_i current hcurrent
    have hid : id ≠ agentId := by
      rintro rfl
      rw [h.presence] at hcurrent
      cases hcurrent
    split_ifs
    · exact h
    · exact h.markAgentOffline hid

theorem staysRevoked_internalPresence_iff {offline : Bool} :
    StaysRevoked host agentId (store.internalPresence id offline relayNodeId relayEdgeUrl) ↔
      Unreported agentId store (.internalPresence id offline relayNodeId relayEdgeUrl) := by
  unfold internalPresence
  cases offline with
  | true => exact iff_of_true (h.clearAgentPresence id _) (.inr (.inl rfl))
  | false =>
    rw [if_neg Bool.false_ne_true]
    unfold AgentStore.setAgentPresence
    by_cases hid : id = agentId
    · subst hid
      by_cases hinsertable : store.presenceInsertable id (orNull relayNodeId) = true
      · rw [if_pos hinsertable]
        refine iff_of_false (not_staysRevoked_of_online rfl) ?_
        rintro (hne | hoffline | hrefused)
        · exact hne rfl
        · cases hoffline
        · rw [hinsertable] at hrefused
          cases hrefused
      · rw [if_neg hinsertable]
        exact iff_of_true h (.inr (.inr (Bool.not_eq_true _ ▸ hinsertable)))
    · refine iff_of_true ?_ (.inl hid)
      split_ifs
      · apply StaysRevoked.touchAgent _ hid
        exact h.congr rfl (get?_set_of_ne _ (Ne.symm hid) _)
      · exact h

theorem staysRevoked_internalHeartbeat_iff :
    StaysRevoked host agentId (store.internalHeartbeat id relayNodeId relayEdgeUrl) ↔
      id ≠ agentId := by
  constructor
  · rintro hafter rfl
    exact not_staysRevoked_of_online agents_placed hafter
  · intro hid
    exact (h.touchAgent hid).placed _ hid

theorem staysRevoked_relayPresence_iff {offline : Bool} :
    StaysRevoked host agentId (store.relayPresence id offline relayNodeId relayEdgeUrl) ↔
      Unreported agentId store (.relayPresence id offline relayNodeId relayEdgeUrl) := by
  unfold relayPresence
  cases offline with
  | true =>
    rw [if_pos rfl]
    split_ifs with hplaced
    · exact iff_of_true (h.clearAgentPresence id _) (.inr ⟨rfl, hplaced⟩)
    · constructor
      · intro hafter
        left
        rintro rfl
        have hoffline : "offline" ≠ "revoked" := by decide
        exact not_staysRevoked_of_update (fun row => { row with status := "offline" }) rfl
          (fun _ => hoffline) hafter
      · rintro (hid | ⟨-, hplace⟩)
        · exact h.markAgentOffline hid
        · exact absurd hplace hplaced
  | false =>
    rw [if_neg Bool.false_ne_true]
    constructor
    · intro hafter
      left
      rintro rfl
      exact not_staysRevoked_of_online agents_placed hafter
    · rintro (hid | ⟨hoffline, -⟩)
      · exact (h.touchAgent hid).placed _ hid
      · cases hoffline

omit h in
theorem staysRevoked_of_revokeAgent {timestamp : String}
    (h : store.revokeAgent organizationId id timestamp = some next) :
    StaysRevoked host id next := by
  unfold revokeAgent at h
  split at h
  · rename_i agent hagent
    split_ifs at h
    cases h
    apply staysRevoked_of_columns
    · exact ⟨_, by rw [get?_update_self, hagent]; rfl, rfl, rfl⟩
    · exact get?_erase_self _ _
  · cases h

theorem StaysRevoked.revokeAgent {timestamp : String}
    (hrevoke : store.revokeAgent organizationId id timestamp = some next) :
    StaysRevoked host agentId next := by
  by_cases hid : id = agentId
  · subst hid
    exact staysRevoked_of_revokeAgent hrevoke
  · unfold AgentStore.revokeAgent at hrevoke
    split at hrevoke
    · split_ifs at hrevoke
      cases hrevoke
      exact h.congr (get?_update_of_ne _ (Ne.symm hid) _)
        (get?_erase_of_ne _ (Ne.symm hid))
    · cases hrevoke

theorem staysRevoked_step_iff {event : AgentEvent} :
    StaysRevoked host agentId (store.step host event) ↔ Unreported agentId store event := by
  cases event with
  | apiHeartbeat rawToken now =>
    refine iff_of_true ?_ trivial
    show StaysRevoked host agentId (store.apiHeartbeat host rawToken now)
    unfold AgentStore.apiHeartbeat
    split
    · rename_i agent hagent
      exact h.touchAgent (h.token rawToken now agent hagent)
    · exact h
  | internalPresence id offline relayNodeId relayEdgeUrl =>
    exact staysRevoked_internalPresence_iff h
  | internalHeartbeat id relayNodeId relayEdgeUrl =>
    exact staysRevoked_internalHeartbeat_iff h
  | relayPresence id offline relayNodeId relayEdgeUrl =>
    exact staysRevoked_relayPresence_iff h
  | relayHeartbeat id =>
    constructor
    · rintro hafter rfl
      exact not_staysRevoked_of_online rfl hafter
    · intro hid
      exact h.touchAgent hid
  | revoke organizationId id timestamp =>
    refine iff_of_true ?_ trivial
    show StaysRevoked host agentId ((store.revokeAgent organizationId id timestamp).getD store)
    cases hrevoke : store.revokeAgent organizationId id timestamp with
    | none => exact h
    | some next => exact h.revokeAgent hrevoke
  | register row session =>
    refine iff_of_true ?_ trivial
    show StaysRevoked host agentId (if (store.agents.get? row.id).isSome then store else _)
    split_ifs with hknown
    · exact h
    · obtain ⟨agent, hagent, -⟩ := h.row
      have hne : agentId ≠ row.id := by
        rintro rfl
        rw [hagent] at hknown
        exact hknown rfl
      exact h.congr (get?_set_of_ne _ hne _) rfl
  | registerNode id | others tables => exact iff_of_true (h.congr rfl rfl) trivial

end

/-- **After a revocation** the agent is shut out for good, and it stays revoked in every
respect exactly as long as no Relay reports it. -/
theorem staysRevoked_iff_unreported {organizationId timestamp : String}
    (hrevoke : store.revokeAgent organizationId agentId timestamp = some next)
    (events : List AgentEvent) :
    Throughout (step host) (ShutOut host agentId) next events ∧
      (Throughout (step host) (StaysRevoked host agentId) next events ↔
        Along (step host) (Unreported agentId) next events) := by
  have hstart : StaysRevoked host agentId next := staysRevoked_of_revokeAgent hrevoke
  have hsince : HasRevokedAt agentId next := by
    obtain ⟨agent, hagent, hrevoked, -⟩ := hstart.row
    exact ⟨agent, hagent, hrevoked⟩
  constructor
  · have hkept : Throughout (step host) (HasRevokedAt agentId) next events :=
      (throughout_iff_along (fun state event h =>
        iff_of_true (keepsRevokedAt_step agentId h) trivial) hsince).2
        (along_always (step host) next events)
    exact Throughout.mono (fun _ h => h.shutOut) hkept
  · exact throughout_iff_along (fun _ event h => staysRevoked_step_iff h) hstart

def onlineAgent : AgentRow := ⟨"a1", "o1", "online", none⟩

def connectedStore : AgentStore where
  agents := OrdMap.empty.set onlineAgent.id onlineAgent
  tunnels := .empty
  targets := .empty
  policies := .empty
  presence := OrdMap.empty.set "a1" ⟨"a1", some "n1", some "tcp://relay.test:7301"⟩
  targetSelectionCounters := .empty
  targets_keyed := empty_keyed
  sessions := OrdMap.empty.set "a1" ⟨"hash", none⟩
  nodes := ["n1"]
  agents_keyed := keyed_set fun _ _ h => nomatch h

def lateHeartbeat : AgentEvent :=
  .internalHeartbeat "a1" (some "n1") (some "tcp://relay.test:7301")

theorem not_staysRevoked_lateHeartbeat :
    ∃ next, connectedStore.revokeAgent "o1" "a1" "2026-01-01" = some next ∧
      ¬ ∀ events, Throughout (step .plain) (StaysRevoked .plain "a1") next events := by
  refine ⟨_, rfl, ?_⟩
  intro h
  obtain ⟨hstart, hafter⟩ := h [lateHeartbeat]
  exact (staysRevoked_step_iff hstart).1 hafter rfl

/-- A presence reported offline, and one reported by a Relay that is not registered, change
nothing. -/
def silentReports : List AgentEvent :=
  [.internalPresence "a1" true (some "n1") none, .internalPresence "a1" false (some "n2") none]

theorem staysRevoked_iff_unreported_silent :
    ∃ next, connectedStore.revokeAgent "o1" "a1" "2026-01-01" = some next ∧
      Throughout (step .plain) (StaysRevoked .plain "a1") next silentReports := by
  have hrevoke : connectedStore.revokeAgent "o1" "a1" "2026-01-01" = some _ := rfl
  refine ⟨_, hrevoke, (staysRevoked_iff_unreported hrevoke silentReports).2.2 ?_⟩
  exact ⟨.inr (.inl rfl), .inr (.inr rfl), trivial⟩

end AgentStore

end Tunnara.Control
