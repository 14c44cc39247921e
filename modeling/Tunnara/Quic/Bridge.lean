/-
# The client of the QUIC bridge

`run_client` looks at its channel before it waits for a local connection, and waits as
long as it takes. A channel that is lost meanwhile is handed to the connection that comes
next; the loop notices after that one.
-/

import Tunnara.Data.Transition

namespace Tunnara.Quic

open Transition

/-- Where the loop of `run_client` is. -/
inductive Phase
  /-- Before the look at `close_reason`. -/
  | checking
  /-- In the inner loop around `connect_quic`. -/
  | connecting
  /-- In `listener.accept().await`. -/
  | accepting
  /-- `accept` has failed, and the function has returned. -/
  | stopped
  deriving DecidableEq

/-- The client; QUIC connections are numbered in the order of their handshakes. -/
structure Client where
  phase : Phase := .checking
  current : Option ℕ := none
  /-- The connections made so far. -/
  made : ℕ := 0
  /-- Those with a `close_reason`. -/
  closed : List ℕ := []
  /-- The connections of the spawned `proxy_tcp_to_quic` that have not come to `open_bi`. -/
  tasks : List ℕ := []

inductive Event
  | checked
  | connected
  | connectFailed
  | accepted
  | acceptFailed
  /-- A connection is lost. -/
  | lost (connection : ℕ)
  /-- The task comes to `open_bi`. -/
  | opens (task : ℕ)

namespace Client

variable (client : Client)

def IsAlive (connection : ℕ) : Prop := connection < client.made ∧ connection ∉ client.closed

/-- `current` is unset or has a `close_reason`. -/
def mustConnect : Bool :=
  match client.current with
  | none => true
  | some connection => client.closed.contains connection

def step (client : Client) : Event → Client
  | .checked =>
    if client.phase = .checking then
      { client with phase := if client.mustConnect then .connecting else .accepting }
    else client
  | .connected =>
    if client.phase = .connecting then
      { client with
        phase := .accepting
        current := some client.made
        made := client.made + 1 }
    else client
  | .connectFailed => client
  | .accepted =>
    if client.phase = .accepting then
      { client with
        phase := .checking
        tasks := client.tasks ++ client.current.toList }
    else client
  | .acceptFailed => if client.phase = .accepting then { client with phase := .stopped } else client
  | .lost connection =>
    if connection < client.made then { client with closed := connection :: client.closed }
    else client
  | .opens task => { client with tasks := client.tasks.eraseIdx task }

/-- An accepted connection is handed to a channel that is alive, and its task opens a stream of
it: `open_bi` of a closed connection fails, and the local connection is dropped. -/
def Attaches : Event → Prop
  | .accepted => client.phase = .accepting →
      ∃ connection, client.current = some connection ∧ client.IsAlive connection
  | .opens task => ∀ connection, client.tasks[task]? = some connection → client.IsAlive connection
  | _ => True

/-- No channel is lost while the loop waits in `accept` with it, or while a task has yet to open
its stream. -/
def KeepsChannel : Event → Prop
  | .lost connection =>
    ¬ (client.phase = .accepting ∧ client.current = some connection) ∧ connection ∉ client.tasks
  | _ => True

/-- The channel of the waiting loop and those of the tasks are alive. -/
structure Sound : Prop where
  current : ∀ connection, client.current = some connection → connection < client.made
  closed : ∀ connection ∈ client.closed, connection < client.made
  accepting : client.phase = .accepting →
    ∃ connection, client.current = some connection ∧ client.IsAlive connection
  tasks : ∀ connection ∈ client.tasks, client.IsAlive connection

variable {client}

theorem alive_of_mustConnect (h : client.mustConnect = false) :
    ∃ connection, client.current = some connection ∧ connection ∉ client.closed := by
  unfold mustConnect at h
  cases hcurrent : client.current with
  | none =>
    rw [hcurrent] at h
    cases h
  | some connection =>
    rw [hcurrent] at h
    exact ⟨connection, rfl, by simpa using h⟩

theorem IsAlive.made {connection : ℕ} (h : client.IsAlive connection) :
    ({ client with made := client.made + 1 } : Client).IsAlive connection :=
  ⟨Nat.lt_succ_of_lt h.1, h.2⟩

namespace Sound

variable (h : client.Sound)

include h

theorem checked : (client.step .checked).Sound := by
  dsimp only [Client.step]
  split
  · refine ⟨h.current, h.closed, fun haccepting => ?_, h.tasks⟩
    cases hmust : client.mustConnect with
    | true => simp [hmust] at haccepting
    | false =>
      obtain ⟨connection, hcurrent, hopen⟩ := alive_of_mustConnect hmust
      exact ⟨connection, hcurrent, h.current connection hcurrent, hopen⟩
  · exact h

theorem connected : (client.step .connected).Sound := by
  dsimp only [Client.step]
  split
  · have hfresh : client.made ∉ client.closed := fun hmem =>
      absurd (h.closed client.made hmem) (Nat.lt_irrefl _)
    refine ⟨?_, fun connection hmem => Nat.lt_succ_of_lt (h.closed connection hmem), fun _ => ?_,
      fun connection hmem => (h.tasks connection hmem).made⟩
    · rintro connection ⟨⟩
      exact Nat.lt_succ_self _
    · exact ⟨client.made, rfl, Nat.lt_succ_self _, hfresh⟩
  · exact h

theorem accepted : (client.step .accepted).Sound := by
  dsimp only [Client.step]
  split
  next haccepting =>
    refine ⟨h.current, h.closed, nofun, fun connection hmem => ?_⟩
    rcases List.mem_append.1 hmem with hold | hnew
    · exact h.tasks connection hold
    · obtain ⟨channel, hcurrent, halive⟩ := h.accepting haccepting
      rw [hcurrent, Option.toList_some, List.mem_singleton] at hnew
      exact hnew ▸ halive
  next => exact h

theorem lost {connection : ℕ} (hkeeps : client.KeepsChannel (.lost connection)) :
    (client.step (.lost connection)).Sound := by
  dsimp only [Client.step]
  split
  next hmade =>
    have hstill : ∀ {other}, client.IsAlive other → other ≠ connection →
        ({ client with closed := connection :: client.closed } : Client).IsAlive other :=
      fun halive hne => ⟨halive.1, by simp [hne, halive.2]⟩
    refine ⟨h.current, ?_, fun haccepting => ?_, fun other hmem => ?_⟩
    · intro other hmem
      rcases List.mem_cons.1 hmem with rfl | hold
      · exact hmade
      · exact h.closed other hold
    · obtain ⟨channel, hcurrent, halive⟩ := h.accepting haccepting
      refine ⟨channel, hcurrent, hstill halive ?_⟩
      rintro rfl
      exact hkeeps.1 ⟨haccepting, hcurrent⟩
    · refine hstill (h.tasks other hmem) ?_
      rintro rfl
      exact hkeeps.2 hmem
  next => exact h

theorem opens (task : ℕ) : (client.step (.opens task)).Sound :=
  ⟨h.current, h.closed, h.accepting, fun connection hmem =>
    h.tasks connection (List.mem_of_mem_eraseIdx hmem)⟩

theorem step {event : Event} (hkeeps : client.KeepsChannel event) :
    client.Attaches event ∧ (client.step event).Sound := by
  cases event with
  | checked => exact ⟨trivial, h.checked⟩
  | connected => exact ⟨trivial, h.connected⟩
  | connectFailed => exact ⟨trivial, h⟩
  | accepted => exact ⟨h.accepting, h.accepted⟩
  | acceptFailed =>
    refine ⟨trivial, ?_⟩
    dsimp only [Client.step]
    split
    · exact ⟨h.current, h.closed, nofun, h.tasks⟩
    · exact h
  | lost connection => exact ⟨trivial, h.lost hkeeps⟩
  | opens task =>
    exact ⟨fun connection hget => h.tasks connection (List.mem_of_getElem? hget), h.opens task⟩

end Sound

theorem sound_start : Sound {} :=
  ⟨nofun, fun _ hmem => absurd hmem List.not_mem_nil, nofun,
    fun _ hmem => absurd hmem List.not_mem_nil⟩

/-- **Along every run** in which no channel is lost between the look at it and the stream that is
opened on it, every accepted connection is attached to a channel that is alive. -/
theorem attaches_run {events : List Event} (hguard : Along step KeepsChannel {} events) :
    Along step Attaches {} events :=
  hguard.of_invariant (fun _ _ h hkeeps => Sound.step h hkeeps) sound_start

/-- The channel is lost while the loop waits, and the next connection is handed to it. -/
theorem not_attaches_lost : ¬ ∀ events, Along step Attaches {} events := by
  intro h
  obtain ⟨-, -, -, haccepted, -⟩ := h [.checked, .connected, .lost 0, .accepted]
  obtain ⟨connection, hcurrent, -, hopen⟩ := haccepted rfl
  cases hcurrent
  exact hopen List.mem_cons_self

/-- A channel that is lost behind an accepted connection is replaced before the next one. -/
def reconnecting : List Event :=
  [.checked, .connected, .accepted, .opens 0, .lost 0, .checked, .connectFailed, .connected,
    .accepted, .opens 0]

theorem attaches_run_reconnecting :
    Along step KeepsChannel {} reconnecting ∧ Along step Attaches {} reconnecting := by
  have hguard : Along step KeepsChannel {} reconnecting := by
    simp [reconnecting, Along, KeepsChannel, step, mustConnect]
  exact ⟨hguard, attaches_run hguard⟩

end Client

end Tunnara.Quic
