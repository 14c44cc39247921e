/-
# The unique index on public ports

`idx_tunnels_public_port` lets no two active tunnels of a protocol have one public port. It is
checked where a row is inserted and where a change leaves a row active; nothing else writes
`tunnels`. So the rows that a listener sync reads are always a routing table.
-/

import Tunnara.Control.Hostnames

namespace Tunnara.Control

open Transition OrdMap

namespace TunnelTables

variable {env : StoreEnv} {tables next : TunnelTables} {organizationId id : String}

/-- The rows of `tunnels` under their primary key and the index. -/
def Indexed (tables : TunnelTables) : Prop :=
  (∀ id row, tables.tunnels.get? id = some row → row.id = id) ∧
    ∀ first second row other, tables.tunnels.get? first = some row →
      tables.tunnels.get? second = some other → row.status = "active" → other.status = "active" →
      row.protocol = other.protocol → row.publicPort ≠ none → row.publicPort = other.publicPort →
      first = second

theorem not_active_of_not_taken {protocol : String} {publicPort : Option ℕ}
    (h : ¬ tables.publicPortTaken protocol publicPort id) (hport : publicPort ≠ none)
    {key : String} {other : TunnelRecord} (hother : tables.tunnels.get? key = some other)
    (hne : key ≠ id) (hprotocol : other.protocol = protocol)
    (hsame : other.publicPort = publicPort) : other.status ≠ "active" := by
  intro hactive
  apply h
  unfold publicPortTaken
  rw [Option.isSome_iff_ne_none.2 hport, Bool.true_and, List.any_eq_true]
  exact ⟨(key, other), get?_eq_some_iff.1 hother, by simp [hne, hprotocol, hsame, hactive]⟩

theorem Indexed.set (h : tables.Indexed) {row : TunnelRecord} (hkey : row.id = id)
    (hfree : row.status = "active" → ¬ tables.publicPortTaken row.protocol row.publicPort id) :
    Indexed { tables with tunnels := tables.tunnels.set id row } := by
  constructor
  · intro key found hfound
    rw [get?_set] at hfound
    split_ifs at hfound with hsame
    · cases hfound
      exact hkey.trans hsame.symm
    · exact h.1 key found hfound
  · intro first second one other hone hother hactive hactive' hprotocol hport hsame
    rw [get?_set] at hone hother
    split_ifs at hone hother with hfirst hsecond hsecond
    · exact hfirst.trans hsecond.symm
    · cases hone
      exact absurd hactive' (not_active_of_not_taken (hfree hactive) hport hother hsecond
        hprotocol.symm hsame.symm)
    · cases hother
      exact absurd hactive (not_active_of_not_taken (hfree hactive') (hsame ▸ hport) hone hfirst
        hprotocol hsame)
    · exact h.2 first second one other hone hother hactive hactive' hprotocol hport hsame

theorem Indexed.insertTunnel (h : tables.Indexed) {input : TunnelInput}
    (hinsert : tables.insertTunnel env organizationId id input = .ok next) :
    next.Indexed := by
  obtain ⟨targetPort, -, hinsert⟩ := bind_eq_ok.1 hinsert
  obtain ⟨policyId, -, hinsert⟩ := bind_eq_ok.1 hinsert
  obtain ⟨_, -, hinsert⟩ := bind_eq_ok.1 hinsert
  obtain ⟨_, -, hinsert⟩ := bind_eq_ok.1 hinsert
  dsimp only at hinsert
  split_ifs at hinsert with hused hhostname hport
  cases hinsert
  exact h.set rfl fun _ => hport

theorem Indexed.updateTunnel (h : tables.Indexed) {changes : Json}
    (hupdate : tables.updateTunnel env organizationId id changes = .ok (some next)) :
    next.Indexed := by
  unfold TunnelTables.updateTunnel at hupdate
  split at hupdate
  · cases hupdate
  · rename_i tunnel htunnel
    obtain ⟨rawName, -, hupdate⟩ := bind_eq_ok.1 hupdate
    obtain ⟨_, -, hupdate⟩ := bind_eq_ok.1 hupdate
    obtain ⟨name, -, hupdate⟩ := bind_eq_ok.1 hupdate
    obtain ⟨status, -, hupdate⟩ := bind_eq_ok.1 hupdate
    obtain ⟨policyId, -, hupdate⟩ := bind_eq_ok.1 hupdate
    obtain ⟨_, -, hupdate⟩ := bind_eq_ok.1 hupdate
    obtain ⟨_, -, hupdate⟩ := bind_eq_ok.1 hupdate
    obtain ⟨_, -, hupdate⟩ := bind_eq_ok.1 hupdate
    split_ifs at hupdate with hport
    cases hupdate
    exact h.set (h.1 id tunnel (tunnelOf_eq_some htunnel).1) fun hactive htaken =>
      hport ⟨hactive, htaken⟩

theorem Indexed.step (h : tables.Indexed) (event : TablesEvent) :
    (tables.step env event).Indexed := by
  cases event with
  | createPolicy =>
    apply orSame_of h
    intro next hnext
    obtain ⟨-, policy, -, rfl⟩ := createPolicy_eq_ok hnext
    exact h
  | updatePolicy =>
    apply orFound_of h
    intro next hnext
    obtain ⟨current, policy, -, -, -, rfl⟩ := updatePolicy_eq_ok hnext
    exact h
  | deletePolicy =>
    apply orFound_of h
    intro next hnext
    obtain ⟨-, -, rfl⟩ := deletePolicy_eq_ok hnext
    exact h
  | createTunnel =>
    apply orSame_of h
    intro next hnext
    obtain ⟨-, -, inserted, hinsert, hadded⟩ := createTunnel_eq_ok hnext
    unfold Indexed
    rw [hadded.tunnels]
    exact h.insertTunnel hinsert
  | updateTunnel => exact orFound_of h fun next => h.updateTunnel
  | deleteTunnel organizationId id agentId =>
    change Indexed ((tables.deleteTunnel organizationId id agentId).getD tables)
    cases hdelete : tables.deleteTunnel organizationId id agentId with
    | none => exact h
    | some next =>
      obtain ⟨-, rfl⟩ := deleteTunnel_eq_some hdelete
      constructor
      · intro key row hrow
        exact h.1 key row (get?_of_get?_erase hrow).2
      · intro first second row other hrow hother
        exact h.2 first second row other (get?_of_get?_erase hrow).2 (get?_of_get?_erase hother).2
  | createTunnelTarget =>
    apply orSame_of h
    intro next hnext
    obtain ⟨-, -, -, target, -, -, -, -, -, rfl⟩ := createTunnelTarget_eq_ok hnext
    exact h
  | updateTunnelTarget =>
    apply orFound_of h
    intro next hnext
    obtain ⟨current, target, -, -, -, -, -, -, -, -, rfl⟩ := updateTunnelTarget_eq_ok hnext
    exact h
  | deleteTunnelTarget =>
    apply orFound_of h
    intro next hnext
    obtain ⟨target, -, -, -, rfl⟩ := deleteTunnelTarget_eq_ok hnext
    exact h
  | migrate draw =>
    change Indexed (tables.backfill draw)
    unfold Indexed
    rw [tunnels_backfill]
    exact h
  | agents => exact h

/-- The tables after the operations, when there were no tunnels before them. -/
def after (env : StoreEnv) (start : TunnelTables) (events : List TablesEvent) : TunnelTables :=
  run (step env) { start with tunnels := .empty } events

theorem indexed_after (start : TunnelTables) (events : List TablesEvent) :
    (after env start events).Indexed := by
  apply (along_always (step env) _ events).invariant fun _ event h _ => h.step event
  constructor
  · intro id row hrow
    cases hrow
  · intro first second row other hrow
    cases hrow

/-- **A listener sync reads a routing table**, whatever the operations have been. -/
theorem exists_routingTable (env : StoreEnv) (start : TunnelTables) (events : List TablesEvent)
    (db : Database) : ∃ table : RoutingTable,
      table.db = { db with
        tunnels := (after env start events).tunnels.mapVals fun _ row => row.toTunnelRow } ∧
      ∀ id, table.publicPort id =
        ((after env start events).tunnels.get? id).bind TunnelRecord.publicPort := by
  obtain ⟨hkeyed, hunique⟩ := @indexed_after env start events
  refine ⟨⟨_, fun id => ((after env start events).tunnels.get? id).bind TunnelRecord.publicPort,
    ?keyed, ?unique⟩, rfl, fun _ => rfl⟩
  case keyed =>
    intro e he
    obtain ⟨one, hone, rfl⟩ := List.mem_map.1 he
    exact hkeyed one.1 one.2 (get?_eq_some_iff.2 hone)
  case unique =>
    intro first hfirst second hsecond hactive hactive' hprotocol hport hsame
    obtain ⟨one, hone, rfl⟩ := List.mem_map.1 hfirst
    obtain ⟨other, hother, rfl⟩ := List.mem_map.1 hsecond
    have hrow := get?_eq_some_iff.2 hone
    have hrow' := get?_eq_some_iff.2 hother
    dsimp only at hport hsame
    rw [hrow] at hport hsame
    rw [hrow'] at hsame
    exact hunique _ _ _ _ hrow hrow' hactive hactive' hprotocol hport hsame

end TunnelTables

end Tunnara.Control
