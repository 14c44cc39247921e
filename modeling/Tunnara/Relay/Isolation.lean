/-
# What an agent's frames can reach

An agent chooses the ids in its frames. Whatever they name, the frames of one
agent reach only the edges of entries that were routed to it, and the entries of
the other agents stay, with their timers.
-/

import Tunnara.Relay.Waiting

namespace Tunnara.Relay

open State Attempt Transition OrdMap

variable (env : Env)

/-- One of the four maps has the entry. -/
def Holds (state : State) (entry : Entry) : Prop :=
  ∃ key, state.pending.get? key = some entry ∨ state.streams.get? key = some entry ∨
    state.udpSessions.get? key = some entry ∨ state.healthProbes.get? key = some entry

/-- The entry has a timer of its own. -/
def Waits (state : State) (entry : Entry) : Prop :=
  ∃ key, state.pending.get? key = some entry ∨ state.healthProbes.get? key = some entry

def RoutedTo (state : State) (agentId : String) (edge : ℕ) : Prop :=
  ∃ entry, Holds state entry ∧ entry.agentId = agentId ∧ entry.edge = edge

/-- Whose connection it is and how far its handshake has come. -/
def AgentConnection.identity (agent : AgentConnection) : Phase × Option String :=
  (agent.phase, agent.agentId)

/-- Only entries of the agent are gone, with their timers, and only their edges are
told anything. -/
structure Isolated (connection : ℕ) (agentId : String) (before after : State) : Prop where
  pending : OrdMap.DropsOnly (fun entry => entry.agentId = agentId) before.pending after.pending
  streams : OrdMap.DropsOnly (fun entry => entry.agentId = agentId) before.streams after.streams
  sessions : OrdMap.DropsOnly (fun entry => entry.agentId = agentId)
    before.udpSessions after.udpSessions
  probes : OrdMap.DropsOnly (fun entry => entry.agentId = agentId)
    before.healthProbes after.healthProbes
  edges : ∀ edge, ¬ RoutedTo before agentId edge →
    after.edgeConns.get? edge = before.edgeConns.get? edge
  timers : ∀ id, (∀ entry, Waits before entry → entry.agentId = agentId →
    entry.timer ≠ some id) → after.timers.get? id = before.timers.get? id
  identity : ∀ connection, (after.agentConns.get? connection).map AgentConnection.identity =
    (before.agentConns.get? connection).map AgentConnection.identity
  agents : after.agents = before.agents
  others : ∀ other, other ≠ connection → before.agents.get? agentId ≠ some other →
    after.agentConns.get? other = before.agentConns.get? other

variable (frame : Json) {edge : ℕ}

namespace Isolated

variable {connection : ℕ} {agentId : String} {before state : State}

theorem refl (connection : ℕ) (agentId : String) (state : State) : Isolated connection agentId state state :=
  ⟨.refl _ _, .refl _ _, .refl _ _, .refl _ _, fun _ _ => rfl, fun _ _ => rfl, fun _ => rfl,
    rfl, fun _ _ _ => rfl⟩

section

variable (h : Isolated connection agentId before state)
include h

theorem congr {next : State} (hpending : next.pending = state.pending)
    (hstreams : next.streams = state.streams) (hsessions : next.udpSessions = state.udpSessions)
    (hprobes : next.healthProbes = state.healthProbes)
    (hedges : next.edgeConns = state.edgeConns) (htimers : next.timers = state.timers)
    (hconns : next.agentConns = state.agentConns) (hagents : next.agents = state.agents) :
    Isolated connection agentId before next where
  pending := hpending ▸ h.pending
  streams := hstreams ▸ h.streams
  sessions := hsessions ▸ h.sessions
  probes := hprobes ▸ h.probes
  edges := hedges ▸ h.edges
  timers := htimers ▸ h.timers
  identity := hconns ▸ h.identity
  agents := hagents.trans h.agents
  others := hconns ▸ h.others

theorem raise (fault : Fault) : Isolated connection agentId before (state.raise fault) :=
  h.congr rfl rfl rfl rfl rfl rfl rfl rfl

theorem tick : Isolated connection agentId before state.tick :=
  h.congr rfl rfl rfl rfl rfl rfl rfl rfl

theorem agentEffect {current : ℕ} {agent : AgentConnection}
    (hcurrent : state.agents.get? agentId = some current)
    (hagent : state.agentConns.get? current = some agent) (effect : Effect) :
    Isolated connection agentId before (state.agentEffect current agent effect) := by
  refine ⟨h.pending, h.streams, h.sessions, h.probes, h.edges, h.timers, fun other => ?_,
    h.agents, fun other hne hother => ?_⟩
  · rw [← h.identity other]
    by_cases heq : other = current
    · subst heq
      have hput : (state.agentEffect other agent effect).agentConns.get? other =
          some { agent with framed := effect.connection } := get?_set_self _ _ _
      rw [hput, hagent]
      rfl
    · have hput : (state.agentEffect current agent effect).agentConns.get? other =
          state.agentConns.get? other := get?_set_of_ne _ heq _
      rw [hput]
  · have heq : other ≠ current := by
      rintro rfl
      rw [h.agents] at hcurrent
      exact hother hcurrent
    exact (get?_set_of_ne _ heq _).trans (h.others other hne hother)

theorem modifyAgent (f : AgentConnection → AgentConnection)
    (hf : ∀ agent, (f agent).identity = agent.identity) :
    Isolated connection agentId before (state.modifyAgent connection f) := by
  refine ⟨h.pending, h.streams, h.sessions, h.probes, h.edges, h.timers, fun other => ?_,
    h.agents, fun other hne hother => ?_⟩
  · exact (map_get?_update hf other).trans (h.identity other)
  · exact (get?_update_of_ne _ hne _).trans (h.others other hne hother)

theorem edgeEffect (hedge : RoutedTo before agentId edge) (conn : EdgeConnection)
    (effect : Effect) : Isolated connection agentId before (state.edgeEffect edge conn effect) := by
  have hedges : ∀ other, ¬ RoutedTo before agentId other →
      (state.edgeEffect edge conn effect).edgeConns.get? other =
        before.edgeConns.get? other := by
    intro other hother
    have hne : other ≠ edge := by
      rintro rfl
      exact hother hedge
    rw [← h.edges other hother]
    unfold State.edgeEffect
    split <;> exact get?_set_of_ne _ hne _
  unfold State.edgeEffect at hedges ⊢
  split at hedges
  · rename_i hemits
    rw [if_pos hemits]
    exact ⟨h.pending, h.streams, h.sessions, h.probes, hedges, h.timers, h.identity, h.agents,
      h.others⟩
  · rename_i hemits
    rw [if_neg hemits]
    exact ⟨h.pending, h.streams, h.sessions, h.probes, hedges, h.timers, h.identity, h.agents,
      h.others⟩

theorem closeEdge (hedge : RoutedTo before agentId edge) :
    Isolated connection agentId before (state.closeEdge edge) := by
  refine ⟨h.pending, h.streams, h.sessions, h.probes, fun other hother => ?_, h.timers,
    h.identity, h.agents, h.others⟩
  have hne : other ≠ edge := by
    rintro rfl
    exact hother hedge
  exact (get?_update_of_ne _ hne _).trans (h.edges other hother)

theorem clearTimeout {entry : Entry} (hwaits : Waits before entry)
    (howner : entry.agentId = agentId) :
    Isolated connection agentId before (state.clearTimeout entry.timer) := by
  cases htimer : entry.timer with
  | none => exact h
  | some id =>
    refine ⟨h.pending, h.streams, h.sessions, h.probes, h.edges, fun other hother => ?_,
      h.identity, h.agents, h.others⟩
    have hne : other ≠ id := by
      rintro rfl
      exact hother entry hwaits howner htimer
    exact (get?_erase_of_ne _ hne).trans (h.timers other hother)

end

end Isolated

variable {connection : ℕ} {agentId : String} {before : State}

theorem keeps_isolated_sendEdge {guard : State → Prop} (hedge : RoutedTo before agentId edge)
    {payload : Json} :
    Keeps (Isolated connection agentId before) guard (sendEdge env edge payload) :=
  keeps_sendEdge env fun _ conn effect h _ _ _ => h.edgeEffect hedge conn effect

theorem keeps_isolated_sendToAgent {guard : State → Prop} {payload : Json} :
    Keeps (Isolated connection agentId before) guard (sendToAgent env agentId payload) :=
  keeps_sendToAgent env fun _ => keeps_sendAgent env fun _ _ effect h hguard hagent _ =>
    h.agentEffect hguard.2 hagent effect

theorem keeps_isolated_answer {payload : Json} {after : State → State}
    (hedge : RoutedTo before agentId edge)
    (hafter : ∀ state, Isolated connection agentId before state →
      Isolated connection agentId before (after state)) :
    Keeps (Isolated connection agentId before) (fun _ => True) (do
      sendEdge env edge payload
      modify after : Handler) :=
  (keeps_isolated_sendEdge env hedge).bind fun _ => keeps_modify fun state h _ => hafter state h

/-- A reply is passed on only if the entry it names is the agent's. -/
theorem keeps_reply {inv : State → Prop} {read : State} {found : Option Entry}
    {reply : Entry → Handler} (hreply : inv read → ∀ entry, found = some entry →
      entry.agentId = agentId → inv (exec (reply entry) read).2) :
    Keeps inv (fun state => True ∧ read = state) (match found with
      | none => pure ()
      | some entry => if entry.agentId ≠ agentId then pure () else reply entry) := by
  rintro state h ⟨-, rfl⟩
  cases found with
  | none => exact h
  | some entry =>
    dsimp only
    split_ifs with howner
    · exact h
    · exact hreply h entry rfl (not_not.1 howner)

theorem keeps_isolated_onProbeResponse :
    Keeps (Isolated connection agentId before) (fun _ => True) (onProbeResponse env agentId frame) := by
  refine Keeps.get_bind fun read => keeps_reply fun h entry hentry howner => ?_
  have hbefore := h.probes.found _ _ hentry
  have hholds : Holds before entry := ⟨_, .inr (.inr (.inr hbefore))⟩
  have hedge : RoutedTo before agentId entry.edge := ⟨entry, hholds, howner, rfl⟩
  refine keeps_isolated_answer env hedge (fun later hlater => ?_) _
    (h.clearTimeout ⟨_, .inr hbefore⟩ howner) trivial
  have hclosed := hlater.closeEdge hedge
  exact { hclosed with probes := hclosed.probes.erase hbefore howner }

theorem keeps_isolated_onProxyResponse :
    Keeps (Isolated connection agentId before) (fun _ => True) (onProxyResponse env agentId frame) := by
  refine Keeps.get_bind fun read => keeps_reply fun h entry hentry howner => ?_
  have hbefore := h.pending.found _ _ hentry
  have hholds : Holds before entry := ⟨_, .inl hbefore⟩
  have hedge : RoutedTo before agentId entry.edge := ⟨entry, hholds, howner, rfl⟩
  refine keeps_isolated_answer env hedge (fun later hlater => ?_) _
    (h.clearTimeout ⟨_, .inl hbefore⟩ howner) trivial
  have hclosed := hlater.closeEdge hedge
  exact { hclosed with pending := hclosed.pending.erase hbefore howner }

theorem keeps_isolated_onStreamReply :
    Keeps (Isolated connection agentId before) (fun _ => True) (onStreamReply env agentId frame) := by
  refine Keeps.get_bind fun read => keeps_reply fun h entry hentry howner => ?_
  have hbefore := h.streams.found _ _ hentry
  have hholds : Holds before entry := ⟨_, .inr (.inl hbefore)⟩
  have hedge : RoutedTo before agentId entry.edge := ⟨entry, hholds, howner, rfl⟩
  refine keeps_isolated_answer env hedge (fun later hlater => ?_) _ h trivial
  split_ifs
  · have hclosed := hlater.closeEdge hedge
    exact { hclosed with streams := hclosed.streams.erase hbefore howner }
  · exact hlater

theorem keeps_isolated_onUdpReply :
    Keeps (Isolated connection agentId before) (fun _ => True) (onUdpReply env agentId frame) := by
  refine Keeps.get_bind fun read => keeps_reply fun h entry hentry howner => ?_
  have hbefore := h.sessions.found _ _ hentry
  have hholds : Holds before entry := ⟨_, .inr (.inr (.inl hbefore))⟩
  have hedge : RoutedTo before agentId entry.edge := ⟨entry, hholds, howner, rfl⟩
  refine keeps_isolated_answer env hedge (fun later hlater => ?_) _ h trivial
  split_ifs
  · exact { hlater with sessions := hlater.sessions.erase hbefore howner }
  · exact hlater

theorem keeps_isolated_onHeartbeat :
    Keeps (Isolated connection agentId before) (fun _ => True) (onHeartbeat env agentId) := by
  refine Keeps.get_bind fun read => ?_
  split_ifs
  · exact keeps_modify fun state h _ => h.congr rfl rfl rfl rfl rfl rfl rfl rfl
  · cases env.store read.clock with
    | some error => exact keeps_throw
    | none => exact keeps_isolated_sendToAgent env

theorem keeps_isolated_onAgentFrame :
    Keeps (Isolated connection agentId before) (fun _ => True) (onAgentFrame env agentId frame) := by
  by_cases hnull : frame = .null
  · subst hnull
    exact keeps_throw
  rw [onAgentFrame_of_ne_null env hnull, dispatchAgentFrame]
  split_ifs
  · exact keeps_isolated_onHeartbeat env
  · exact keeps_isolated_onProbeResponse env frame
  · exact keeps_isolated_onProxyResponse env frame
  · exact keeps_isolated_onStreamReply env frame
  · exact keeps_isolated_onUdpReply env frame
  · exact keeps_pure

/-- An authenticated connection of the agent, whose frames are handled. -/
def IsOf (state : State) (connection : ℕ) (agentId : String) : Prop :=
  (state.agentConns.get? connection).map AgentConnection.identity = some (.ready, some agentId)

section

variable (hof : IsOf before connection agentId)
include hof

theorem isolated_agentSignal {state : State} (h : Isolated connection agentId before state)
    (signal : Signal) :
    Isolated connection agentId before (agentSignal env connection state signal) := by
  have htick := h.tick
  unfold agentSignal
  cases signal with
  | invalidLength | malformed => exact htick.modifyAgent _ fun _ => rfl
  | frame value =>
    have hnow : (state.tick.agentConns.get? connection).map AgentConnection.identity =
        some (.ready, some agentId) := (htick.identity connection).trans hof
    obtain ⟨agent, hagent, hidentity⟩ := Option.map_eq_some_iff.1 hnow
    have hphase : agent.phase = .ready := congrArg Prod.fst hidentity
    have hid : agent.agentId = some agentId := congrArg Prod.snd hidentity
    have hframe := keeps_isolated_onAgentFrame env value state.tick htick trivial
    dsimp only
    rw [hagent]
    dsimp only
    rw [hphase, hid]
    dsimp only
    unfold voidAsync
    cases hexec : exec (onAgentFrame env agentId value) state.tick with
    | mk result next =>
      rw [hexec] at hframe
      cases result with
      | ok _ => exact hframe
      | error _ => exact hframe.raise _

theorem isolated_agentSignals (signals : List Signal) {state : State}
    (h : Isolated connection agentId before state) :
    Isolated connection agentId before (run (agentSignal env connection) state signals) := by
  induction signals generalizing state with
  | nil => exact h
  | cons signal rest ih => exact ih (isolated_agentSignal env hof h signal)

theorem isolated_agentData (chunk : List UInt8) :
    Isolated connection agentId before (step env before (.agentData connection chunk)) := by
  rw [step]
  split_ifs
  · exact .refl connection agentId before
  have htick : Isolated connection agentId before before.tick :=
    (Isolated.refl connection agentId before).tick
  rw [handle, withAgent]
  cases before.tick.agentConns.get? connection with
  | none => exact htick
  | some agent =>
    dsimp only
    split_ifs
    · apply isolated_agentSignals env hof
      exact htick.modifyAgent _ fun _ => rfl
    · exact htick

end

/-- What is routed to other agents is left unchanged, and frames are delivered only to
edges that something of the agent waits on. -/
structure LeavesOthers (connection : ℕ) (agentId : String) (before after : State) : Prop where
  isolated : Isolated connection agentId before after
  /-- The timers of the others go on. -/
  running : ∀ entry id, Waits before entry → entry.agentId ≠ agentId → entry.timer = some id →
    after.timers.get? id = before.timers.get? id

theorem TimersKept.eq_of_timer {state : State} (h : TimersKept state) {entry other : Entry}
    (hentry : Waits state entry) (hother : Waits state other) {id : ℕ}
    (htimer : entry.timer = some id) (hsame : other.timer = some id) : entry = other := by
  obtain ⟨key, hkey⟩ := hentry
  obtain ⟨key', hkey'⟩ := hother
  have hnames : ∀ {key entry}, state.pending.get? key = some entry → entry.timer = some id →
      state.timers.get? id = some (.proxyRequest key) := by
    intro key entry hget hid
    obtain ⟨own, hown, hrunning⟩ := h.pending key entry hget
    rw [hid] at hown
    cases hown
    exact hrunning
  have hprobes : ∀ {key entry}, state.healthProbes.get? key = some entry →
      entry.timer = some id → ∃ target, state.timers.get? id = some (.healthProbe key target) := by
    intro key entry hget hid
    obtain ⟨own, target, hown, hrunning⟩ := h.probes key entry hget
    rw [hid] at hown
    cases hown
    exact ⟨target, hrunning⟩
  rcases hkey with hget | hget <;> rcases hkey' with hget' | hget'
  · have hboth := (hnames hget htimer).symm.trans (hnames hget' hsame)
    cases hboth
    rw [hget] at hget'
    cases hget'
    rfl
  · obtain ⟨target, hprobe⟩ := hprobes hget' hsame
    have hboth := (hnames hget htimer).symm.trans hprobe
    cases hboth
  · obtain ⟨target, hprobe⟩ := hprobes hget htimer
    have hboth := hprobe.symm.trans (hnames hget' hsame)
    cases hboth
  · obtain ⟨target, hprobe⟩ := hprobes hget htimer
    obtain ⟨target', hprobe'⟩ := hprobes hget' hsame
    have hboth := hprobe.symm.trans hprobe'
    cases hboth
    rw [hget] at hget'
    cases hget'
    rfl

/-- In every state a run reaches, what an authenticated agent sends leaves the others alone. -/
theorem leavesOthers_agentData (events : List Event) (connection : ℕ) (agentId : String)
    (chunk : List UInt8) (hof : IsOf (run (step env) initial events) connection agentId) :
    LeavesOthers connection agentId (run (step env) initial events)
      (step env (run (step env) initial events) (.agentData connection chunk)) := by
  have hisolated := isolated_agentData env hof chunk
  refine ⟨hisolated, fun entry id hwaits howner htimer => ?_⟩
  by_cases hcrashed : (run (step env) initial events).Crashed
  · rw [step, if_pos hcrashed]
  · apply hisolated.timers
    intro other hother hagent hsame
    have hkept := timersKept_run hcrashed
    have heq := hkept.eq_of_timer hwaits hother htimer hsame
    subst heq
    exact howner hagent

def agentHello (agentId : String) : Json :=
  .obj [("type", .str "agent_hello"), ("agentId", .str agentId)]

def requestNamed (requestId : String) : Json :=
  .obj [("type", .str "proxy_request"), ("requestId", .str requestId)]

def responseTo (requestId : String) : Json :=
  .obj [("type", .str "proxy_response"), ("requestId", .str requestId)]

/-- An active HTTP tunnel with a target of the agent. -/
def activeRoute (agentId : String) : Route where
  tunnel := some ⟨text "active", text "http"⟩
  target := some ⟨text "t1", agentId, text "localhost", some (.num 80), none⟩

def workedEnv : Env :=
  .plain [agentHello "a1", agentHello "a2", requestNamed "r1", responseTo "r1"]

def twoAgentsRun : List Event :=
  [.agentConnect 0, .agentData 0 (Codec.wire (agentHello "a1")), .authenticated 0 (.ok "a1"),
    .presenceSettled 0, .agentConnect 1, .agentData 1 (Codec.wire (agentHello "a2")),
    .authenticated 1 (.ok "a2"), .presenceSettled 1, .edgeConnect 0,
    .edgeData 0 (Codec.wire (requestNamed "r1")), .routeResolved 13 (activeRoute "a2")]

theorem leavesOthers_agentData_twoAgents :
    IsOf (run (step workedEnv) initial twoAgentsRun) 0 "a1" ∧
      LeavesOthers 0 "a1" (run (step workedEnv) initial twoAgentsRun)
        (step workedEnv (run (step workedEnv) initial twoAgentsRun)
          (.agentData 0 (Codec.wire (responseTo "r1")))) := by
  have hof : IsOf (run (step workedEnv) initial twoAgentsRun) 0 "a1" := by
    unfold IsOf
    decide +kernel
  exact ⟨hof, leavesOthers_agentData workedEnv twoAgentsRun 0 "a1" _ hof⟩

end Tunnara.Relay
