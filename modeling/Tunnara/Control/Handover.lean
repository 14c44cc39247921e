/-
# The presence of an agent that moves to another Relay

Relays report an agent with online, offline and heartbeat, each with the node id the Relay has at
that moment and its edge URL. The messages carry no number, so the Control takes them in the order
in which they arrive. Both Controls are registers that online and heartbeat write; what an offline
does to the write of another Relay is where they differ.
-/

import Tunnara.Control.Agents
import Tunnara.Data.LastWriter
import Tunnara.Laravel.Agents

namespace Tunnara.Control

open Transition LastWriter

/-- A Relay by its `publicEdgeUrl`, which is never empty. -/
structure RelayNode where
  edgeUrl : String
  edgeUrl_ne : edgeUrl ≠ ""
  deriving DecidableEq

inductive MessageKind
  | online
  | offline
  | heartbeat
  deriving DecidableEq

/-- A message of `#presence` or `#onAgentFrame`. -/
structure Message where
  kind : MessageKind
  relay : RelayNode
  /-- `this.nodeId` when it was sent; `null` before the registration. -/
  nodeId : Option String
  /-- When the Control handles it. -/
  handledAt : ℕ := 0
  deriving DecidableEq

/-- The agent moves from one Relay to another and stays there: only the first reports it
offline, and the second reported it online. -/
structure Handover (source target : RelayNode) (messages : List Message) : Prop where
  sent : ∀ message ∈ messages, message.relay = source ∨
    message.relay = target ∧ message.kind ≠ .offline
  arrived : ∃ message ∈ messages, message.relay = target ∧ message.kind = .online

/-- The node ids of the messages are those the registration returned. -/
def Message.Registered (nodes : List String) (message : Message) : Prop :=
  ∀ id, orNull message.nodeId = some id → id ∈ nodes

@[simp]
theorem orNull_orNull (text : Option String) : orNull (orNull text) = orNull text := by
  simp [orNull]

theorem orNull_edgeUrl (relay : RelayNode) : orNull (some relay.edgeUrl) = some relay.edgeUrl := by
  simp [orNull, relay.edgeUrl_ne]

/-- The request of the message. -/
def Message.event (agentId : String) (message : Message) : AgentEvent :=
  match message.kind with
  | .online => .internalPresence agentId false message.nodeId (some message.relay.edgeUrl)
  | .offline => .internalPresence agentId true message.nodeId (some message.relay.edgeUrl)
  | .heartbeat => .internalHeartbeat agentId message.nodeId (some message.relay.edgeUrl)

namespace AgentStore

variable (host : Host) (agentId : String)

def deliver (store : AgentStore) (message : Message) : AgentStore :=
  store.step host (message.event agentId)

/-- The edge URL of the presence row of an agent that is online. -/
def onlineAt (store : AgentStore) : Option String :=
  match store.agents.get? agentId, store.presence.get? agentId with
  | some agent, some row => if agent.status = "online" then row.relayEdgeUrl else none
  | _, _ => none

/-- The agent has a row and the nodes are registered. -/
structure Knows (nodes : List String) (store : AgentStore) : Prop where
  agent : (store.agents.get? agentId).isSome
  nodes : ∀ id ∈ nodes, id ∈ store.nodes

/-- The presence row is the one the message wrote. -/
structure Placed (message : Message) (store : AgentStore) : Prop where
  row : store.presence.get? agentId =
    some ⟨agentId, orNull message.nodeId, some message.relay.edgeUrl⟩
  online : ∃ agent, store.agents.get? agentId = some agent ∧ agent.status = "online"

variable {host agentId} {nodes : List String} {store : AgentStore} {message last : Message}

theorem isSome_touchAgent (store : AgentStore) (agentId status : String) :
    ((store.touchAgent agentId status).agents.get? agentId).isSome =
      (store.agents.get? agentId).isSome := by
  rw [touchAgent, OrdMap.get?_update_self, Option.isSome_map]

theorem isSome_markAgentOffline (store : AgentStore) (agentId : String) :
    ((store.markAgentOffline agentId).agents.get? agentId).isSome =
      (store.agents.get? agentId).isSome := by
  rw [markAgentOffline, OrdMap.get?_update_self, Option.isSome_map]

section

variable (h : Knows agentId nodes store)
include h

theorem Knows.insertable (hsound : message.Registered nodes) :
    store.presenceInsertable agentId (orNull message.nodeId) = true := by
  unfold presenceInsertable
  rw [h.agent, Bool.true_and]
  cases hid : orNull message.nodeId with
  | none => rfl
  | some id => exact List.contains_iff_mem.2 (h.nodes id (hsound id hid))

theorem Knows.touchAgent (status : String) :
    Knows agentId nodes (store.touchAgent agentId status) :=
  ⟨isSome_touchAgent store agentId status ▸ h.agent, h.nodes⟩

theorem placed_deliver (hsound : message.Registered nodes) (hwrites : message.kind ≠ .offline) :
    Placed agentId message (store.deliver host agentId message) ∧
      Knows agentId nodes (store.deliver host agentId message) := by
  obtain ⟨agent, hagent⟩ := Option.isSome_iff_exists.1 h.agent
  have honline : (store.touchAgent agentId "online").agents.get? agentId =
      some { agent with status := "online" } := by
    rw [AgentStore.touchAgent, OrdMap.get?_update_self, hagent]
    rfl
  have hrow := OrdMap.get?_set_self store.presence agentId
    (⟨agentId, orNull message.nodeId, some message.relay.edgeUrl⟩ : PresenceRow)
  unfold deliver Message.event
  cases hkind : message.kind with
  | offline => exact absurd hkind hwrites
  | online =>
    simp only [step, internalPresence, setAgentPresence, h.insertable hsound, orNull_edgeUrl,
      if_true, Bool.false_eq_true, if_false]
    exact ⟨⟨hrow, _, honline, rfl⟩, by rw [isSome_touchAgent]; exact h.agent, h.nodes⟩
  | heartbeat =>
    simp only [step, internalHeartbeat, setAgentPresence,
      (h.touchAgent "online").insertable hsound, orNull_edgeUrl, if_true, Option.isSome_some,
      or_true, Option.getD_some]
    exact ⟨⟨hrow, _, honline, rfl⟩, by rw [isSome_touchAgent]; exact h.agent, h.nodes⟩

end

theorem deliver_offline (hkind : message.kind = .offline) :
    store.deliver host agentId message =
      store.clearAgentPresence agentId (orNull message.nodeId) := by
  unfold deliver Message.event
  rw [hkind]
  rfl

theorem onlineAt_of_placed (h : Placed agentId last store) :
    onlineAt agentId store = some last.relay.edgeUrl := by
  obtain ⟨agent, hagent, honline⟩ := h.online
  simp [onlineAt, hagent, h.row, honline]

theorem onlineAt_of_none (h : store.presence.get? agentId = none) :
    onlineAt agentId store = none := by
  unfold onlineAt
  rw [h]
  split
  · rename_i heq
    cases heq
  · rfl

/-- The offline of a registered Relay spares the row of another one. -/
def SparedBy (last message : Message) : Prop :=
  (orNull message.nodeId).isSome ∧ orNull message.nodeId ≠ orNull last.nodeId

def presenceRegister (host : Host) (agentId : String) (nodes : List String) :
    Register AgentStore Message String where
  deliver := deliver host agentId
  read := onlineAt agentId
  value message := message.relay.edgeUrl
  Sound := Message.Registered nodes
  Writes message := message.kind ≠ .offline
  Spares := SparedBy
  Ready := Knows agentId nodes
  Holds := Placed agentId
  Empty store := store.presence.get? agentId = none
  ready_deliver {store message} h hsound := by
    by_cases hkind : message.kind = .offline
    · rw [deliver_offline hkind]
      unfold clearAgentPresence
      split
      · exact h
      · split_ifs
        · exact h
        · exact ⟨isSome_markAgentOffline store agentId ▸ h.agent, h.nodes⟩
    · exact (placed_deliver h hsound hkind).2
  holds_of_writes h hsound hwrites := (placed_deliver h hsound hwrites).1
  holds_of_spares {store last message} _ hplaced hwrites hspares := by
    rw [deliver_offline (not_not.1 hwrites)]
    unfold clearAgentPresence
    rw [hplaced.row]
    dsimp only
    rw [orNull_orNull, if_pos ⟨hspares.1, hspares.2.symm⟩]
    exact hplaced
  empty_of_not_spares {store last message} _ hplaced hwrites hspares := by
    rw [deliver_offline (not_not.1 hwrites)]
    unfold clearAgentPresence
    rw [hplaced.row]
    dsimp only
    rw [orNull_orNull, if_neg fun h => hspares ⟨h.1, h.2.symm⟩]
    exact OrdMap.get?_erase_self _ _
  empty_of_empty {store message} _ hempty hwrites := by
    rw [deliver_offline (not_not.1 hwrites)]
    unfold clearAgentPresence
    rw [hempty]
    exact hempty
  read_of_holds := onlineAt_of_placed
  read_of_empty := onlineAt_of_none

end AgentStore

end Tunnara.Control

namespace Tunnara.Laravel

open Transition LastWriter Control

namespace State

variable (php : Php) (agentId : String) (request : ℕ)

/-- The Control handles one message to its end, under a request number of its own. -/
def deliver (state : State) (message : Message) : State :=
  match message.kind with
  | .online => run (step php) state
      [.presenceLoad request agentId .online message.nodeId (some message.relay.edgeUrl),
        .presenceSave request message.handledAt]
  | .offline => run (step php) state
      [.presenceLoad request agentId .offline message.nodeId (some message.relay.edgeUrl),
        .presenceSave request message.handledAt]
  | .heartbeat => step php state
      (.agentHeartbeat agentId message.nodeId (some message.relay.edgeUrl) message.handledAt)

/-- The edge URL of the presence row of an agent that is online. -/
def onlineAt (state : State) : Option String :=
  match state.agents.get? agentId, state.presence.get? agentId with
  | some agent, some row => if agent.status = "online" then row.relayEdgeUrl else none
  | _, _ => none

/-- The agent has a row under its id. -/
def Knows (state : State) : Prop :=
  ∃ agent, state.agents.get? agentId = some agent ∧ agent.id = agentId

/-- The presence row is the one the message wrote. -/
structure Placed (message : Message) (state : State) : Prop where
  row : state.presence.get? agentId = some ⟨agentId, message.nodeId, some message.relay.edgeUrl⟩
  online : ∃ agent, state.agents.get? agentId = some agent ∧ agent.status = "online"

variable {php agentId request} {state : State} {message : Message} {agent : AgentRow}

theorem status_save_self {status : String} {lastSeenAt : Option ℕ} :
    (agent.save agent status lastSeenAt).status = status := by
  show written agent.status status agent.status = status
  unfold written
  split_ifs with h
  · exact h.symm
  · rfl

theorem get?_updateAgent (state : State) (f : AgentRow → AgentRow)
    (hagent : state.agents.get? agentId = some agent) :
    (state.updateAgent agentId f).agents.get? agentId = some (f agent) := by
  rw [updateAgent, OrdMap.get?_mapVals, hagent, Option.map_some, if_pos rfl]

variable (php) in
theorem run_presence {request : ℕ} (hagent : state.agents.get? agentId = some agent)
    (hid : agent.id = agentId) {status : PresenceStatus}
    {relayNodeId relayEdgeUrl : Option String} {now : ℕ} :
    (run (step php) state [.presenceLoad request agentId status relayNodeId relayEdgeUrl,
      .presenceSave request now]).agents.get? agentId =
        some (agent.save agent status.text (some now)) ∧
    (run (step php) state [.presenceLoad request agentId status relayNodeId relayEdgeUrl,
      .presenceSave request now]).presence = match status with
        | .offline => dropPresence state.presence agentId relayNodeId
        | .online => state.presence.set agentId ⟨agentId, relayNodeId, relayEdgeUrl⟩ := by
  subst hid
  constructor
  · simp only [run, List.foldl_cons, List.foldl_nil, step, hagent, OrdMap.get?_set_self]
    exact get?_updateAgent _ _ hagent
  · cases status with
    | offline
    | online => simp only [run, List.foldl_cons, List.foldl_nil, step, hagent, OrdMap.get?_set_self]

theorem placed_deliver (h : Knows agentId state) (hwrites : message.kind ≠ .offline) :
    Placed agentId message (state.deliver php agentId request message) ∧
      Knows agentId (state.deliver php agentId request message) := by
  obtain ⟨agent, hagent, hid⟩ := h
  unfold deliver
  cases hkind : message.kind with
  | offline => exact absurd hkind hwrites
  | online =>
    obtain ⟨hagents, hpresence⟩ := run_presence php hagent hid
    refine ⟨⟨?_, _, hagents, status_save_self⟩, _, hagents, hid⟩
    rw [hpresence]
    exact OrdMap.get?_set_self _ _ _
  | heartbeat =>
    simp only [step, hagent, Option.getD_some, ne_eq, message.relay.edgeUrl_ne,
      not_false_eq_true, or_true, if_true]
    exact ⟨⟨OrdMap.get?_set_self _ _ _, _, get?_updateAgent _ _ hagent, rfl⟩, _,
      get?_updateAgent _ _ hagent, hid⟩

theorem offline_deliver (h : Knows agentId state) (hkind : message.kind = .offline) :
    ∃ agent, (state.deliver php agentId request message).agents.get? agentId = some agent ∧
      agent.id = agentId ∧ agent.status = "offline" := by
  obtain ⟨agent, hagent, hid⟩ := h
  unfold deliver
  rw [hkind]
  exact ⟨_, (run_presence php hagent hid).1, hid, status_save_self⟩

/-- The presence of an agent at the Laravel Control. -/
def presenceRegister (php : Php) (agentId : String) (request : ℕ) :
    Register State Message String where
  deliver := deliver php agentId request
  read := onlineAt agentId
  value message := message.relay.edgeUrl
  Sound _ := True
  Writes message := message.kind ≠ .offline
  Spares _ _ := False
  Ready := Knows agentId
  Holds := Placed agentId
  Empty state := ∃ agent, state.agents.get? agentId = some agent ∧ agent.status = "offline"
  ready_deliver {state message} h _ := by
    by_cases hkind : message.kind = .offline
    · obtain ⟨agent, hagent, hid, -⟩ := offline_deliver h hkind
      exact ⟨agent, hagent, hid⟩
    · exact (placed_deliver h hkind).2
  holds_of_writes h _ hwrites := (placed_deliver h hwrites).1
  holds_of_spares _ _ _ hspares := hspares.elim
  empty_of_not_spares h _ hwrites _ := by
    obtain ⟨agent, hagent, -, hstatus⟩ := offline_deliver h (not_not.1 hwrites)
    exact ⟨agent, hagent, hstatus⟩
  empty_of_empty h _ hwrites := by
    obtain ⟨agent, hagent, -, hstatus⟩ := offline_deliver h (not_not.1 hwrites)
    exact ⟨agent, hagent, hstatus⟩
  read_of_holds {state last} h := by
    obtain ⟨agent, hagent, honline⟩ := h.online
    simp [onlineAt, hagent, h.row, honline]
  read_of_empty {state} h := by
    obtain ⟨agent, hagent, hstatus⟩ := h
    unfold onlineAt
    rw [hagent]
    split
    · rename_i heq _
      cases heq
      rw [hstatus]
      rfl
    · rfl

end State

end Tunnara.Laravel

namespace Tunnara.Control

open Transition LastWriter

variable (host : Host) (php : Laravel.Php) (agentId : String) (target : RelayNode)

/-- After the messages the presence row of the Node Control names the target, and the agent is
online. -/
def NodeConverges (store : AgentStore) (order : List Message) : Prop :=
  AgentStore.onlineAt agentId (run (AgentStore.deliver host agentId) store order) =
    some target.edgeUrl

def LaravelConverges (state : Laravel.State) (request : ℕ) (order : List Message) : Prop :=
  Laravel.State.onlineAt agentId (run (Laravel.State.deliver php agentId request) state order) =
    some target.edgeUrl

/-- The last word is an online or a heartbeat of the target. -/
def LastWord (order : List Message) : Prop :=
  ∃ front last, order = front ++ [last] ∧ last.kind ≠ .offline ∧ last.relay.edgeUrl = target.edgeUrl

/-- Offlines may follow it that name another registered node. -/
def LastWrite (order : List Message) : Prop :=
  ∃ front last back, order = front ++ last :: back ∧ last.kind ≠ .offline ∧
    last.relay.edgeUrl = target.edgeUrl ∧
    ∀ message ∈ back, message.kind = .offline ∧ AgentStore.SparedBy last message

variable {host php agentId target} {order : List Message}

theorem nodeConverges_iff {nodes : List String} {store : AgentStore}
    (hstore : store.Knows agentId nodes)
    (hregistered : ∀ message ∈ order, message.Registered nodes)
    (hwritten : ∃ message ∈ order, message.kind ≠ .offline) :
    NodeConverges host agentId target store order ↔ LastWrite target order := by
  have hread := (AgentStore.presenceRegister host agentId nodes).read_run_iff hstore hregistered
    hwritten target.edgeUrl
  refine hread.trans ⟨?_, ?_⟩
  · rintro ⟨last, ⟨front, back, horder, hlast, hback⟩, hurl⟩
    exact ⟨front, last, back, horder, hlast, hurl, fun message hmem =>
      ⟨not_not.1 (hback message hmem).1, (hback message hmem).2⟩⟩
  · rintro ⟨front, last, back, horder, hlast, hurl, hback⟩
    exact ⟨last, ⟨front, back, horder, hlast, fun message hmem =>
      ⟨not_not.2 (hback message hmem).1, (hback message hmem).2⟩⟩, hurl⟩

theorem laravelConverges_iff {state : Laravel.State} {request : ℕ} (hstate : state.Knows agentId)
    (hwritten : ∃ message ∈ order, message.kind ≠ .offline) :
    LaravelConverges php agentId target state request order ↔ LastWord target order := by
  have hread := (Laravel.State.presenceRegister php agentId request).read_run_iff hstate
    (fun _ _ => trivial) hwritten target.edgeUrl
  refine hread.trans ⟨?_, ?_⟩
  · rintro ⟨last, ⟨front, back, horder, hlast, hback⟩, hurl⟩
    cases back with
    | nil => exact ⟨front, last, horder, hlast, hurl⟩
    | cons message rest => exact (hback message (by simp)).2.elim
  · rintro ⟨front, last, horder, hlast, hurl⟩
    exact ⟨last, ⟨front, [], horder, hlast, nofun⟩, hurl⟩

theorem LastWord.lastWrite (h : LastWord target order) : LastWrite target order := by
  obtain ⟨front, last, horder, hlast, hurl⟩ := h
  exact ⟨front, last, [], horder, hlast, hurl, nofun⟩

/-- **The presence converges** to the target in both Controls exactly when the target has the
last word; in the Node Control alone offlines of other registered nodes may come after it. -/
theorem converges_iff_lastWord {source : RelayNode} {messages order : List Message}
    (hhandover : Handover source target messages) (horder : order.Perm messages)
    {nodes : List String} (hregistered : ∀ message ∈ messages, message.Registered nodes)
    {store : AgentStore} (hstore : store.Knows agentId nodes)
    {state : Laravel.State} (hstate : state.Knows agentId) (request : ℕ) :
    (NodeConverges host agentId target store order ∧
        LaravelConverges php agentId target state request order ↔ LastWord target order) ∧
      (NodeConverges host agentId target store order ↔ LastWrite target order) := by
  have hwritten : ∃ message ∈ order, message.kind ≠ .offline := by
    obtain ⟨message, hmem, -, hkind⟩ := hhandover.arrived
    exact ⟨message, horder.mem_iff.2 hmem, by rw [hkind]; exact nofun⟩
  have hnode : NodeConverges host agentId target store order ↔ LastWrite target order :=
    nodeConverges_iff hstore (fun message hmem => hregistered message (horder.mem_iff.1 hmem))
      hwritten
  rw [hnode, laravelConverges_iff hstate hwritten]
  exact ⟨⟨And.right, fun h => ⟨h.lastWrite, h⟩⟩, Iff.rfl⟩

def firstRelay : RelayNode := ⟨"tcp://a.test:7301", by decide⟩

def secondRelay : RelayNode := ⟨"tcp://b.test:7301", by decide⟩

/-- The agent connects to the first Relay and then to the second one; the first connection is
closed last. -/
def handoverMessages : List Message :=
  [⟨.online, firstRelay, none, 0⟩, ⟨.online, secondRelay, some "n2", 1⟩,
    ⟨.offline, firstRelay, none, 2⟩]

theorem handover_of_handoverMessages : Handover firstRelay secondRelay handoverMessages :=
  ⟨by decide, by decide⟩

def promptOffline : List Message :=
  [⟨.online, firstRelay, none, 0⟩, ⟨.offline, firstRelay, none, 2⟩,
    ⟨.online, secondRelay, some "n2", 1⟩]

def idleAgent : AgentRow := ⟨"a1", "o1", "offline", none⟩

def idleStore : AgentStore where
  agents := OrdMap.empty.set idleAgent.id idleAgent
  tunnels := .empty
  targets := .empty
  policies := .empty
  presence := .empty
  targetSelectionCounters := .empty
  targets_keyed := empty_keyed
  sessions := .empty
  nodes := ["n2"]
  agents_keyed := keyed_set fun _ _ h => nomatch h

def idleState : Laravel.State where
  agents := OrdMap.empty.set "a1" ⟨"a1", "o1", "key", none, none, "offline", none⟩
  presence := .empty
  nonces := []
  pending := .empty
  accepted := []

theorem not_converges_handoverMessages :
    Handover firstRelay secondRelay handoverMessages ∧
      ¬ ∀ order, order.Perm handoverMessages →
        NodeConverges .plain "a1" secondRelay idleStore order ∧
        LaravelConverges .plain "a1" secondRelay idleState 0 order := by
  refine ⟨handover_of_handoverMessages, ?_⟩
  intro h
  have hread : AgentStore.onlineAt "a1" (run (AgentStore.deliver .plain "a1") idleStore
      handoverMessages) = none := by decide +kernel
  have hconverges := (h handoverMessages (List.Perm.refl _)).1
  rw [NodeConverges, hread] at hconverges
  cases hconverges

theorem converges_iff_lastWord_prompt :
    NodeConverges .plain "a1" secondRelay idleStore promptOffline ∧
      LaravelConverges .plain "a1" secondRelay idleState 0 promptOffline := by
  have hregistered : ∀ message ∈ handoverMessages, message.Registered ["n2"] := by
    intro message hmessage id hid
    have hids : ∀ message ∈ handoverMessages, (orNull message.nodeId).all (· = "n2") := by decide
    have hn2 := hids message hmessage
    rw [hid] at hn2
    simpa using hn2
  have hperm : promptOffline.Perm handoverMessages := by decide
  have hstore : idleStore.Knows "a1" ["n2"] := ⟨rfl, fun _ h => h⟩
  have hstate : idleState.Knows "a1" := ⟨_, rfl, rfl⟩
  apply (converges_iff_lastWord handover_of_handoverMessages hperm hregistered hstore hstate 0).1.2
  exact ⟨promptOffline.take 2, ⟨.online, secondRelay, some "n2", 1⟩, rfl, nofun, rfl⟩

end Tunnara.Control
