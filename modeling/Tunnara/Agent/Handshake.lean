/-
# The agent's side of the handshake

The listeners of `AgentRuntime.#runConnection` on the frames of the Relay. The
first frame settles the promise of the handshake; the listener that serves the
connection is registered by the continuation of that promise, which runs when the
chunk has been read to its end. A frame that finds no listener is lost.
-/

import Tunnara.Relay.Handlers

namespace Tunnara.Agent

open Relay

/-- How far `#runConnection` has come. -/
inductive Stage
  /-- Only the listener of the first frame is registered. -/
  | awaitingFirst
  /-- The promise is resolved and its continuation has not run. -/
  | accepted
  /-- `#onFrame` is registered. -/
  | steady
  /-- The promise is rejected; the runtime will connect anew. -/
  | rejected
  deriving DecidableEq

structure Peer where
  stage : Stage := .awaitingFirst
  /-- How many frames of the connection have arrived. -/
  received : ℕ := 0
  /-- What the listener of the first frame was called with. -/
  first : Option Json := none
  /-- What `#onFrame` was called with. -/
  handled : List Json := []
  /-- What arrived while `#onFrame` was not registered, the first frame apart. -/
  missed : List Json := []

namespace Peer

/-- One frame is emitted by the connection of the agent. -/
def onFrame (peer : Peer) (frame : Json) : Peer :=
  match peer.stage with
  | .awaitingFirst =>
    { peer with
      stage := if hasType frame "agent_hello_ok" then .accepted else .rejected
      first := some frame }
  | .steady => { peer with handled := peer.handled ++ [frame] }
  | .accepted | .rejected => { peer with missed := peer.missed ++ [frame] }

/-- The continuation of the handshake promise. -/
def settle (peer : Peer) : Peer :=
  if peer.stage = .accepted then { peer with stage := .steady } else peer

/-- A chunk completes some frames; pending continuations run after all of them. -/
def onChunk (peer : Peer) (frames : List Json) : Peer :=
  { (frames.foldl onFrame peer).settle with received := peer.received + frames.length }

/-- The handshake timer fires, or the socket fails or closes during the handshake. -/
def giveUp (peer : Peer) : Peer :=
  if peer.stage = .awaitingFirst then { peer with stage := .rejected } else peer

theorem onChunk_of_steady {peer : Peer} (h : peer.stage = .steady) {frames : List Json} :
    (peer.onChunk frames).stage = .steady ∧ (peer.onChunk frames).first = peer.first ∧
      (peer.onChunk frames).missed = peer.missed := by
  have hfold : (frames.foldl onFrame peer).stage = .steady ∧
      (frames.foldl onFrame peer).first = peer.first ∧
      (frames.foldl onFrame peer).missed = peer.missed := by
    induction frames generalizing peer with
    | nil => exact ⟨h, rfl, rfl⟩
    | cons frame frames ih =>
      have hnext : onFrame peer frame = { peer with handled := peer.handled ++ [frame] } := by
        simp [onFrame, h]
      rw [List.foldl_cons, hnext]
      exact ih h
  obtain ⟨hstage, hfirst, hmissed⟩ := hfold
  have hsettle : (frames.foldl onFrame peer).settle = frames.foldl onFrame peer := by
    simp [settle, hstage]
  simp only [onChunk, hsettle]
  exact ⟨hstage, hfirst, hmissed⟩

theorem onChunk_first {peer : Peer} (h : peer.stage = .awaitingFirst) {frame : Json} :
    (peer.onChunk [frame]).first = some frame ∧ (peer.onChunk [frame]).missed = peer.missed ∧
      ((peer.onChunk [frame]).stage = .steady ∨ (peer.onChunk [frame]).stage = .rejected) := by
  cases hhello : hasType frame "agent_hello_ok" <;> simp [onChunk, onFrame, settle, h, hhello]

end Peer

end Tunnara.Agent
