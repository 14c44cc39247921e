/-
# Who is registered with the Relay

The `'close'` listener of an agent connection takes the agent off the map and reports it offline,
but only if the handshake has told it who the agent is. A connection that closes while its hello
is still being authenticated is registered after its close and never taken off again. The
registry is right in a run exactly when no hello is authenticated for such a connection, nor for
one that is destroyed while an older connection of the agent is alive.
-/

import Tunnara.Relay.Moves

namespace Tunnara.Relay

open State Attempt Transition OrdMap

variable (env : Env)

/-- The last presence update asked for. -/
def State.lastPresence (state : State) (agentId : String) : Option Presence :=
  ((state.presence.filter fun update => update.1 = agentId).getLast?).map Prod.snd

def State.OwnedBy (state : State) (agentId : String) (connection : ℕ) : Prop :=
  ∃ agent, state.agentConns.get? connection = some agent ∧ agent.agentId = some agentId

/-- The connection's `'close'` is still to come. -/
def State.StillOpen (state : State) (connection : ℕ) : Prop :=
  ∃ agent, state.agentConns.get? connection = some agent ∧ agent.gone = false

/-- The connection is there and its socket was not destroyed. -/
def State.Live (state : State) (connection : ℕ) : Prop :=
  ∃ agent, state.agentConns.get? connection = some agent ∧ agent.framed.destroyed = false

/-- Every entry of `agents` refers to a connection that has not closed. -/
def NoGhosts (state : State) : Prop :=
  ∀ agentId connection, state.agents.get? agentId = some connection → state.StillOpen connection

/-- An agent whose connections have all closed has no entry and was reported offline. -/
def LeavesProperly (state : State) : Prop :=
  ∀ agentId, (∃ connection, state.OwnedBy agentId connection) →
    (∀ connection, state.OwnedBy agentId connection → ¬ state.StillOpen connection) →
    state.agents.get? agentId = none ∧ state.lastPresence agentId = some .offline

/-- An authentication destroys another connection only in favour of one that is open. -/
def ReplacesOpen (before : State) (event : Event) (after : State) : Prop :=
  ∀ connection agentId, event = .authenticated connection (.ok agentId) →
    (∃ old, old ≠ connection ∧ before.Live old ∧ ¬ after.Live old) → after.Live connection

/-- What a step must keep right about the registry. -/
def KeepsRegistry (state : State) (event : Event) : Prop :=
  ReplacesOpen state event (step env state event) ∧
    (¬ (step env state event).Crashed →
      NoGhosts (step env state event) ∧ LeavesProperly (step env state event))

/-- The hello of the connection is authenticated now. -/
structure Authenticates (state : State) (event : Event) (connection : ℕ) (agentId : String)
    (agent : AgentConnection) : Prop where
  alive : ¬ state.Crashed
  event : event = .authenticated connection (.ok agentId)
  found : state.agentConns.get? connection = some agent
  phase : agent.phase = .authenticating

/-- A connection whose hello is authenticated has not closed, and is not destroyed
while an older connection of the agent is alive. -/
def AuthenticatesOpen (state : State) (event : Event) : Prop :=
  ∀ connection agentId agent, Authenticates state event connection agentId agent →
    agent.gone = false ∧
      ((∃ old, state.agents.get? agentId = some old ∧ state.Live old) →
        agent.framed.destroyed = false)

/-! ## What is known of the registry -/

/-- Entries of `agents` are open connections of their agent, and who was there and is
not listed was reported offline. -/
structure Registered (state : State) : Prop where
  listed : ∀ agentId connection, state.agents.get? agentId = some connection →
    ∃ agent, state.agentConns.get? connection = some agent ∧
      agent.agentId = some agentId ∧ agent.gone = false
  early : ∀ connection agent, state.agentConns.get? connection = some agent →
    agent.Early → agent.agentId = none
  offline : ∀ agentId connection, state.OwnedBy agentId connection →
    state.agents.get? agentId = none → state.lastPresence agentId = some .offline

theorem registered_initial : Registered initial where
  listed _ _ h := by cases h
  early _ _ h := by cases h
  offline _ _ h := by
    obtain ⟨agent, hagent, -⟩ := h
    cases hagent

theorem lastPresence_askPresence (state : State) (agentId other : String) (status : Presence) :
    (state.askPresence agentId status).lastPresence other =
      if other = agentId then some status else state.lastPresence other := by
  unfold askPresence lastPresence
  by_cases hother : agentId = other
  · simp [List.filter_append, hother]
  · have hne : other ≠ agentId := fun h => hother h.symm
    simp [List.filter_append, hother, hne]

variable {connection : ℕ} {agent : AgentConnection} {event : Event} {agentId : String}

namespace Registered

variable {env : Env} {state next : State}

section

variable (h : Registered state)
include h

theorem noGhosts : NoGhosts state := by
  intro agentId connection hlisted
  obtain ⟨agent, hagent, -, hopen⟩ := h.listed agentId connection hlisted
  exact ⟨agent, hagent, hopen⟩

theorem leavesProperly : LeavesProperly state := by
  intro agentId ⟨connection, howned⟩ hclosed
  have hunlisted : state.agents.get? agentId = none := by
    apply Option.eq_none_iff_forall_ne_some.2
    intro current hlisted
    obtain ⟨agent, hagent, hid, hopen⟩ := h.listed agentId current hlisted
    exact hclosed current ⟨agent, hagent, hid⟩ ⟨agent, hagent, hopen⟩
  exact ⟨hunlisted, h.offline agentId connection howned hunlisted⟩

theorem congr (hconns : next.agentConns = state.agentConns)
    (hagents : next.agents = state.agents) (hpresence : next.presence = state.presence) :
    Registered next where
  listed := by
    rw [hconns, hagents]
    exact h.listed
  early := by
    rw [hconns]
    exact h.early
  offline := by
    unfold OwnedBy lastPresence
    rw [hconns, hagents, hpresence]
    exact h.offline

theorem put {new : AgentConnection}
    (hid : ∀ agentId, new.agentId = some agentId ↔ state.OwnedBy agentId connection)
    (hgone : ∀ agentId, state.agents.get? agentId = some connection → new.gone = false)
    (hearly : new.Early → new.agentId = none) : Registered (state.putAgent connection new) where
  listed agentId current hlisted := by
    obtain ⟨agent, hagent, howner, hopen⟩ := h.listed agentId current hlisted
    by_cases heq : current = connection
    · subst heq
      exact ⟨new, get?_set_self _ _ _, (hid agentId).2 ⟨agent, hagent, howner⟩,
        hgone agentId hlisted⟩
    · exact ⟨agent, (get?_set_of_ne _ heq _).trans hagent, howner, hopen⟩
  early other agent hother := by
    by_cases heq : other = connection
    · subst heq
      rw [putAgent, get?_set_self] at hother
      cases hother
      exact hearly
    · rw [putAgent, get?_set_of_ne _ heq] at hother
      exact h.early other agent hother
  offline agentId other howned := by
    apply h.offline agentId other
    obtain ⟨agent, hagent, howner⟩ := howned
    by_cases heq : other = connection
    · subst heq
      rw [putAgent, get?_set_self] at hagent
      cases hagent
      exact (hid agentId).1 howner
    · rw [putAgent, get?_set_of_ne _ heq] at hagent
      exact ⟨agent, hagent, howner⟩

omit h in
theorem ownedBy_iff (hagent : state.agentConns.get? connection = some agent) {agentId : String} :
    agent.agentId = some agentId ↔ state.OwnedBy agentId connection := by
  unfold OwnedBy
  rw [hagent]
  simp

theorem close (hagent : state.agentConns.get? connection = some agent)
    (hunlisted : ∀ agentId, state.agents.get? agentId ≠ some connection) :
    Registered (state.endAgent connection) := by
  unfold endAgent modifyAgent
  rw [update_of_get?_some hagent]
  apply h.put
  · intro agentId
    exact ownedBy_iff hagent
  · exact fun agentId hlisted => absurd hlisted (hunlisted agentId)
  · exact h.early connection agent hagent

theorem unlist (agentId : String) :
    Registered ({ state with agents := state.agents.erase agentId }.askPresence agentId .offline) where
  listed other connection hlisted :=
    h.listed other connection (get?_of_get?_erase hlisted).2
  early := h.early
  offline other connection howned hunlisted := by
    rw [lastPresence_askPresence]
    split_ifs with hother
    · rfl
    · apply h.offline other connection howned
      exact (get?_erase_of_ne _ hother).symm.trans hunlisted

theorem lose (hagent : state.agentConns.get? connection = some agent) :
    Registered (state.lose env connection agent.agentId) := by
  have howner : ∀ agentId, state.agents.get? agentId = some connection →
      agent.agentId = some agentId := by
    intro agentId hlisted
    obtain ⟨current, hcurrent, hid, -⟩ := h.listed agentId connection hlisted
    rw [hagent] at hcurrent
    cases hcurrent
    exact hid
  unfold State.lose
  cases hid : agent.agentId with
  | none =>
    apply h.close hagent
    intro agentId hlisted
    rw [howner agentId hlisted] at hid
    cases hid
  | some agentId =>
    dsimp only
    unfold leave
    rw [show (state.endAgent connection).agents = state.agents from rfl]
    by_cases hlisted : state.agents.get? agentId = some connection
    · have hclosed : Registered (({ state with agents := state.agents.erase agentId }.askPresence
          agentId .offline).endAgent connection) := by
        apply (h.unlist agentId).close hagent
        intro other hother
        obtain ⟨hne, hstill⟩ := get?_of_get?_erase hother
        have hboth := (howner other hstill).symm.trans hid
        cases hboth
        exact hne rfl
      rw [if_pos hlisted]
      unfold goOffline
      dsimp only
      split <;> exact hclosed.congr rfl rfl rfl
    · rw [if_neg hlisted]
      apply h.close hagent
      intro other hother
      have hboth := (howner other hother).symm.trans hid
      cases hboth
      exact hlisted hother

theorem move {start : State} (hstart : Registered start)
    (hevent : ∀ connection agentId, event ≠ .authenticated connection (.ok agentId))
    (hmove : Move env start event state next) : Registered next := by
  cases hmove with
  | newAgent hnew =>
    apply h.put
    · intro agentId
      simp [OwnedBy, hnew]
    · exact fun _ _ => rfl
    · exact fun _ => rfl
  | @changeAgent _ connection old new hold hid hgone hearly =>
    apply h.put
    · intro agentId
      rw [hid]
      exact ownedBy_iff hold
    · intro agentId hlisted
      obtain ⟨agent, hagent, -, hopen⟩ := h.listed agentId connection hlisted
      rw [hold] at hagent
      cases hagent
      exact hgone.trans hopen
    · intro hnew
      rw [hid]
      exact h.early connection old hold (hearly hnew)
  | register hregister => exact absurd hregister (hevent _ _)
  | loseAgent _ hagent => exact h.lose hagent
  | tellEdge | refuse =>
    exact h.congr (agentConns_told _ _ _) (agents_told _ _ _) (presence_told _ _ _)
  | loseEdge =>
    unfold State.loseEdge
    split <;> exact h.congr rfl rfl rfl
  | @answer _ _ entry _ cleared =>
    cases cleared <;>
      exact h.congr (agentConns_told _ _ _) (agents_told _ _ _) (presence_told _ _ _)
  | @dropProbe _ _ _ cleared => cases cleared <;> exact h.congr rfl rfl rfl
  | forgetLookup | addPending | addStream | addSession | addProbe =>
    exact hstart.congr rfl rfl rfl
  | idleTimer => exact hstart.congr rfl rfl rfl
  | _ => exact h.congr rfl rfl rfl

end

end Registered

/-! ## Authentication -/

/-- Who a connection belongs to, how far it has come and whether it has closed. -/
def AgentConnection.standing (agent : AgentConnection) : Option String × Phase × Bool :=
  (agent.agentId, agent.phase, agent.gone)

/-- The connection is the agent's now. -/
def AgentConnection.claimed (agentId : String) (agent : AgentConnection) : AgentConnection :=
  { agent with agentId := some agentId, phase := .announcing }

theorem agentConns_register (state : State) (connection : ℕ) (agentId : String) :
    (state.register connection agentId).agentConns =
      match state.agents.get? agentId with
      | none => (state.modifyAgent connection (AgentConnection.claimed agentId)).agentConns
      | some old => ((state.modifyAgent connection
          (AgentConnection.claimed agentId)).destroyAgent old).agentConns := by
  unfold register
  dsimp only
  rw [show (state.modifyAgent connection fun agent =>
    { agent with agentId := some agentId, phase := .announcing }).agents = state.agents from rfl]
  cases state.agents.get? agentId <;> rfl

variable {state : State}

theorem standing_destroyAgent {connection other : ℕ} :
    ((state.destroyAgent connection).agentConns.get? other).map AgentConnection.standing =
      (state.agentConns.get? other).map AgentConnection.standing := by
  have hkeeps : ∀ agent : AgentConnection,
      ({ agent with framed := agent.framed.destroy.connection } : AgentConnection).standing =
        agent.standing := fun _ => rfl
  exact map_get?_update hkeeps other

theorem standing_register (state : State) (connection : ℕ) (agentId : String) (other : ℕ) :
    ((state.register connection agentId).agentConns.get? other).map AgentConnection.standing =
      if other = connection then
        (state.agentConns.get? connection).map fun agent => (agent.claimed agentId).standing
      else (state.agentConns.get? other).map AgentConnection.standing := by
  have hclaim : ((state.modifyAgent connection (AgentConnection.claimed agentId)).agentConns.get?
      other).map AgentConnection.standing = if other = connection then
        (state.agentConns.get? connection).map fun agent => (agent.claimed agentId).standing
      else (state.agentConns.get? other).map AgentConnection.standing := by
    unfold modifyAgent
    split_ifs with hother
    · rw [hother, get?_update_self, Option.map_map]
      rfl
    · rw [get?_update_of_ne _ hother]
  rw [agentConns_register]
  cases state.agents.get? agentId with
  | none => exact hclaim
  | some old => exact standing_destroyAgent.trans hclaim

theorem live_iff (state : State) (connection : ℕ) : state.Live connection ↔
    (state.agentConns.get? connection).map (fun agent => agent.framed.destroyed) = some false := by
  unfold Live
  rw [Option.map_eq_some_iff]

theorem live_destroyAgent (state : State) (connection other : ℕ) :
    (state.destroyAgent connection).Live other ↔ state.Live other ∧ other ≠ connection := by
  rw [live_iff, live_iff, destroyAgent, modifyAgent]
  by_cases heq : other = connection
  · subst heq
    rw [get?_update_self, Option.map_map]
    cases state.agentConns.get? other <;> simp [FramedConnection.destroy]
  · rw [get?_update_of_ne _ heq, and_iff_left heq]

theorem live_claimed (state : State) (connection : ℕ) (agentId : String) (other : ℕ) :
    (state.modifyAgent connection (AgentConnection.claimed agentId)).Live other ↔
      state.Live other := by
  have hkeeps : ∀ agent : AgentConnection, (agent.claimed agentId).framed.destroyed =
      agent.framed.destroyed := fun _ => rfl
  rw [live_iff, live_iff]
  exact Eq.congr_left (map_get?_update
    (g := fun agent : AgentConnection => agent.framed.destroyed) hkeeps other)

theorem live_register {connection : ℕ} {agentId : String} {other : ℕ} :
    (state.register connection agentId).Live other ↔
      state.Live other ∧ state.agents.get? agentId ≠ some other := by
  rw [live_iff, agentConns_register]
  cases hold : state.agents.get? agentId with
  | none =>
    rw [← live_iff, live_claimed]
    simp
  | some old =>
    rw [← live_iff, live_destroyAgent, live_claimed]
    simp [eq_comm]

namespace Registered

theorem register (h : Registered state) (hagent : state.agentConns.get? connection = some agent)
    (hphase : agent.phase = .authenticating) (hopen : agent.gone = false) :
    Registered (state.register connection agentId) := by
  have hstanding := standing_register state connection agentId
  have hagents : (state.register connection agentId).agents =
      state.agents.set agentId connection := by
    unfold State.register
    dsimp only
    split <;> rfl
  have hpresence : ∀ other, (state.register connection agentId).lastPresence other =
      if other = agentId then some .online else state.lastPresence other := by
    intro other
    rw [← lastPresence_askPresence]
    unfold State.register
    dsimp only
    split <;> rfl
  have hunclaimed : ∀ other, state.agents.get? other ≠ some connection := by
    intro other hlisted
    obtain ⟨current, hcurrent, hid, -⟩ := h.listed other connection hlisted
    rw [hagent] at hcurrent
    cases hcurrent
    rw [h.early connection agent hagent (.inr hphase)] at hid
    cases hid
  -- any other connection stands as before
  have hother : ∀ {other later}, other ≠ connection →
      (state.register connection agentId).agentConns.get? other = some later →
      ∃ before, state.agentConns.get? other = some before ∧
        before.standing = later.standing := by
    intro other later hne hlater
    have hsame := hstanding other
    rw [if_neg hne, hlater] at hsame
    exact Option.map_eq_some_iff.1 hsame.symm
  have hown : ∀ {later}, (state.register connection agentId).agentConns.get? connection =
      some later → later.standing = (agent.claimed agentId).standing := by
    intro later hlater
    have hsame := hstanding connection
    rw [if_pos rfl, hlater, hagent] at hsame
    exact Option.some.inj hsame
  refine ⟨fun other current hlisted => ?_, fun other later hlater hearly => ?_,
    fun other current howned hunlisted => ?_⟩
  · rw [hagents, get?_set] at hlisted
    have hsame := hstanding current
    split_ifs at hlisted with heq
    · cases hlisted
      rw [if_pos rfl, hagent] at hsame
      obtain ⟨later, hlater, hclaimed⟩ := Option.map_eq_some_iff.1 hsame
      refine ⟨later, hlater, ?_, ?_⟩
      · rw [heq]
        exact congrArg Prod.fst hclaimed
      · exact (congrArg (fun standing => standing.2.2) hclaimed).trans hopen
    · obtain ⟨before, hbefore, hid, hstill⟩ := h.listed other current hlisted
      have hne : current ≠ connection := by
        rintro rfl
        exact hunclaimed other hlisted
      rw [if_neg hne, hbefore] at hsame
      obtain ⟨later, hlater, hkept⟩ := Option.map_eq_some_iff.1 hsame
      exact ⟨later, hlater, (congrArg Prod.fst hkept).trans hid,
        (congrArg (fun standing => standing.2.2) hkept).trans hstill⟩
  · by_cases heq : other = connection
    · subst heq
      have hphase' : later.phase = .announcing :=
        congrArg (fun standing => standing.2.1) (hown hlater)
      unfold AgentConnection.Early at hearly
      rw [hphase'] at hearly
      exact hearly.elim nofun nofun
    · obtain ⟨before, hbefore, hkept⟩ := hother heq hlater
      have hphase' : before.phase = later.phase :=
        congrArg (fun standing => standing.2.1) hkept
      have hid : before.agentId = later.agentId := congrArg Prod.fst hkept
      rw [← hid]
      apply h.early other before hbefore
      unfold AgentConnection.Early at hearly ⊢
      rwa [hphase']
  · rw [hagents, get?_set] at hunlisted
    split_ifs at hunlisted with heq
    rw [hpresence, if_neg heq]
    obtain ⟨later, hlater, hid⟩ := howned
    have hne : current ≠ connection := by
      rintro rfl
      have hclaimed : later.agentId = some agentId := congrArg Prod.fst (hown hlater)
      rw [hclaimed] at hid
      cases hid
      exact heq rfl
    obtain ⟨before, hbefore, hkept⟩ := hother hne hlater
    exact h.offline other current ⟨before, hbefore, (congrArg Prod.fst hkept).trans hid⟩ hunlisted

end Registered

/-! ## Runs -/

theorem step_authenticated (h : Authenticates state event connection agentId agent) :
    step env state event = state.tick.register connection agentId := by
  have hfound : state.tick.agentConns.get? connection = some agent := h.found
  rw [step, if_neg h.alive, h.event, handle, withAgent, hfound]
  simp only [h.phase, decide_true, if_true]
  rfl

theorem agentConns_unawaited {state : State}
    (h : ∀ agent, ¬ Authenticates state (.authenticated connection (.ok agentId)) connection agentId
      agent) :
    step env state (.authenticated connection (.ok agentId)) = state ∨
      step env state (.authenticated connection (.ok agentId)) = state.tick := by
  by_cases hcrashed : state.Crashed
  · exact .inl (if_pos hcrashed)
  · right
    rw [step, if_neg hcrashed, handle, withAgent]
    cases hagent : state.tick.agentConns.get? connection with
    | none => rfl
    | some agent =>
      have hphase : agent.phase ≠ .authenticating := fun hphase =>
        h agent ⟨hcrashed, rfl, hagent, hphase⟩
      simp [hphase]

/-- The registry is right unless the process has ended. -/
def RegisteredAlive (state : State) : Prop := ¬ state.Crashed → Registered state

theorem registeredAlive_step (h : RegisteredAlive state) (hopen : AuthenticatesOpen state event) :
    RegisteredAlive (step env state event) := by
  intro halive
  have hbefore : Registered state := h fun hcrashed => halive (by rwa [step, if_pos hcrashed])
  have htick : Registered state.tick := hbefore.congr rfl rfl rfl
  by_cases hevent : ∃ connection agentId, event = .authenticated connection (.ok agentId)
  · obtain ⟨connection, agentId, rfl⟩ := hevent
    by_cases hawaited : ∃ agent, Authenticates state
        (.authenticated connection (.ok agentId)) connection agentId agent
    · obtain ⟨agent, hagent⟩ := hawaited
      rw [step_authenticated env hagent]
      exact htick.register hagent.found hagent.phase (hopen connection agentId agent hagent).1
    · rcases agentConns_unawaited env (not_exists.1 hawaited) with hsame | hsame
      · rwa [hsame]
      · rwa [hsame]
  · have hother : ∀ connection agentId, event ≠ .authenticated connection (.ok agentId) :=
      fun connection agentId heq => hevent ⟨connection, agentId, heq⟩
    have hmoves := moves_of_step halive
    generalize step env state event = next at hmoves
    induction hmoves with
    | refl => exact htick
    | tail _ hmove ih => exact ih.move htick hother hmove

theorem replacesOpen_iff (h : Registered state) (event : Event) :
    ReplacesOpen state event (step env state event) ↔
      ∀ connection agentId agent, Authenticates state event connection agentId agent →
        (∃ old, state.agents.get? agentId = some old ∧ state.Live old) →
          agent.framed.destroyed = false := by
  constructor
  · intro hreplaces connection agentId agent hagent ⟨old, hlisted, hlive⟩
    have hne : old ≠ connection := by
      rintro rfl
      obtain ⟨current, hcurrent, hid, -⟩ := h.listed agentId old hlisted
      rw [hagent.found] at hcurrent
      cases hcurrent
      rw [h.early old agent hagent.found (.inr hagent.phase)] at hid
      cases hid
    have hstep := step_authenticated env hagent
    rw [hstep] at hreplaces
    have hdead : ¬ (state.tick.register connection agentId).Live old := by
      rw [live_register]
      exact fun hboth => hboth.2 hlisted
    have hopen := hreplaces connection agentId hagent.event ⟨old, hne, hlive, hdead⟩
    obtain ⟨current, hcurrent, hdestroyed⟩ := (live_register.1 hopen).1
    have hsame := hagent.found.symm.trans hcurrent
    cases hsame
    exact hdestroyed
  · intro hopen connection agentId hevent ⟨old, _, hlive, hdead⟩
    by_cases hawaited : ∃ agent, Authenticates state event connection agentId agent
    · obtain ⟨agent, hagent⟩ := hawaited
      rw [step_authenticated env hagent, live_register] at hdead ⊢
      have hlisted : state.agents.get? agentId = some old := by
        by_contra hother
        exact hdead ⟨hlive, hother⟩
      refine ⟨⟨agent, hagent.found, hopen connection agentId agent hagent
        ⟨old, hlisted, hlive⟩⟩, fun hown => ?_⟩
      obtain ⟨current, hcurrent, hid, -⟩ := h.listed agentId connection hown
      rw [hagent.found] at hcurrent
      cases hcurrent
      rw [h.early connection agent hagent.found (.inr hagent.phase)] at hid
      cases hid
    · subst hevent
      rcases agentConns_unawaited env (not_exists.1 hawaited) with hsame | hsame
      · rw [hsame] at hdead
        exact absurd hlive hdead
      · rw [hsame] at hdead
        exact absurd hlive hdead

theorem keepsRegistry_iff (h : RegisteredAlive state) {event : Event} :
    KeepsRegistry env state event ↔ AuthenticatesOpen state event := by
  by_cases hcrashed : state.Crashed
  · have hsame : step env state event = state := if_pos hcrashed
    refine iff_of_true ⟨?_, fun halive => absurd (crashed_step hcrashed event) halive⟩ ?_
    · rw [hsame]
      exact fun _ _ _ ⟨_, _, hlive, hdead⟩ => absurd hlive hdead
    · exact fun _ _ _ hagent => absurd hcrashed hagent.alive
  have hregistered := h hcrashed
  unfold KeepsRegistry
  rw [replacesOpen_iff env hregistered]
  constructor
  · intro ⟨hreplaces, hkept⟩ connection agentId agent hagent
    refine ⟨?_, hreplaces connection agentId agent hagent⟩
    rw [step_authenticated env hagent] at hkept
    have halive : ¬ (state.tick.register connection agentId).Crashed := by
      rw [crashed_register]
      exact hcrashed
    have hlisted : (state.tick.register connection agentId).agents.get? agentId =
        some connection := by
      unfold State.register
      dsimp only
      split <;> exact get?_set_self _ _ _
    obtain ⟨later, hlater, hopen⟩ := (hkept halive).1 agentId connection hlisted
    have hsame := standing_register state.tick connection agentId connection
    rw [if_pos rfl, hlater, show state.tick.agentConns.get? connection = some agent from
      hagent.found] at hsame
    exact (congrArg (fun standing => standing.2.2) (Option.some.inj hsame)).symm.trans hopen
  · intro hopen
    refine ⟨fun connection agentId agent hagent => (hopen connection agentId agent hagent).2,
      fun halive => ?_⟩
    have hafter := registeredAlive_step env h hopen halive
    exact ⟨hafter.noGhosts, hafter.leavesProperly⟩

/-- In a run the registry stays right exactly when only open connections are authenticated. -/
theorem keepsRegistry_along_iff (events : List Event) :
    Along (step env) (KeepsRegistry env) initial events ↔
      Along (step env) AuthenticatesOpen initial events := by
  have hiff : ∀ state event, RegisteredAlive state →
      (KeepsRegistry env state event ↔ AuthenticatesOpen state event) :=
    fun _ event h => keepsRegistry_iff env h
  have hstart : RegisteredAlive initial := fun _ => registered_initial
  exact along_iff_of_invariant hiff (fun _ _ h hopen => registeredAlive_step env h hopen) hstart

/-! ## A ghost -/

def ghostRun : List Event :=
  [.agentConnect 0, .agentData 0 (Codec.wire (.obj [("type", .str "agent_hello")])),
    .agentClose 0, .authenticated 0 (.ok "a1")]

def ghostEnv : Env := .plain [.obj [("type", .str "agent_hello")]]

/-- The closed connection is registered, and nothing takes it off the map. -/
theorem not_keepsRegistry_ghost :
    ¬ Along (step ghostEnv) (KeepsRegistry ghostEnv) initial ghostRun := by
  intro h
  have hlast : KeepsRegistry ghostEnv (run (step ghostEnv) initial (ghostRun.take 3))
      (.authenticated 0 (.ok "a1")) := h.2.2.2.1
  have halive : ¬ (run (step ghostEnv) initial ghostRun).Crashed := by decide +kernel
  have hlisted : (run (step ghostEnv) initial ghostRun).agents.get? "a1" = some 0 := by
    decide +kernel
  have hgone : ((run (step ghostEnv) initial ghostRun).agentConns.get? 0).map
      AgentConnection.gone = some true := by
    decide +kernel
  obtain ⟨agent, hagent, hopen⟩ := (hlast.2 halive).1 "a1" 0 hlisted
  have hagent' : (run (step ghostEnv) initial ghostRun).agentConns.get? 0 = some agent := hagent
  rw [hagent'] at hgone
  have hboth : agent.gone = true := Option.some.inj hgone
  rw [hopen] at hboth
  cases hboth

end Tunnara.Relay
