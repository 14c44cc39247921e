/-
# The routes of public ports

`listActiveTunnelRoutesByProtocol` resolves every active tunnel of a protocol, in the
order of their public ports; each lookup advances a round-robin cursor. A listener sync
keys the routes by the public port, and leaves out a tunnel that has none.
-/

import Tunnara.Control.Routing

namespace Tunnara.Control

open OrdMap

def Route.tunnel : Route → TunnelRow
  | .noTarget tunnel => tunnel
  | .found tunnel _ _ _ => tunnel

def Route.target? : Route → Option TargetRow
  | .noTarget _ => none
  | .found _ target _ _ => some target

def Route.presence? : Route → Option PresenceRow
  | .noTarget _ => none
  | .found _ _ presence _ => presence

/-- `route.target?.id || null`. -/
def Route.pin (route : Route) : Json :=
  orDefault (route.target?.map fun target => .str target.id) .null

/-- `presence?.relay_edge_url` as `relayEndpoint` takes it; without one it is a default. -/
def relayUrl (presence : Option PresenceRow) : Option String :=
  (presence.bind PresenceRow.relayEdgeUrl).filter (· ≠ "")

/-- The store with the column `public_port` of its tunnels. -/
structure RoutingTable where
  db : Database
  publicPort : String → Option ℕ
  /-- `id` is the primary key of `tunnels`. -/
  tunnels_keyed : ∀ e ∈ db.tunnels.entries, e.2.id = e.1
  /-- `idx_tunnels_public_port`. -/
  ports_unique : ∀ first ∈ db.tunnels.entries, ∀ second ∈ db.tunnels.entries,
    first.2.status = "active" → second.2.status = "active" →
    first.2.protocol = second.2.protocol → publicPort first.1 ≠ none →
    publicPort first.1 = publicPort second.1 → first.1 = second.1

def Database.resolveAll : Database → List TunnelRow → List Route × Database
  | db, [] => ([], db)
  | db, tunnel :: rest =>
    let first := db.resolveTunnelById tunnel.id none
    let others := first.2.resolveAll rest
    (first.1.toList ++ others.1, others.2)

namespace RoutingTable

variable (table : RoutingTable) (protocol : String)

/-- The public port of a tunnel, if it is truthy. -/
def port (id : String) : Option ℕ := (table.publicPort id).filter (· ≠ 0)

/-- `ORDER BY public_port`; NULL comes first. -/
def precedes (a b : TunnelRow) : Prop :=
  ∀ p ∈ table.publicPort a.id, ∃ q ∈ table.publicPort b.id, p ≤ q

instance : DecidableRel table.precedes := fun _ _ => inferInstanceAs (Decidable (∀ _ ∈ _, ∃ _ ∈ _, _))

def listActiveTunnelsByProtocol : List TunnelRow :=
  ((table.db.tunnels.entries.map Prod.snd).filter fun row =>
    row.protocol = protocol && row.status = "active").insertionSort table.precedes

def listActiveTunnelRoutesByProtocol : List Route × Database :=
  table.db.resolveAll (table.listActiveTunnelsByProtocol protocol)

/-- The Map `desired` of a listener sync. -/
def desired : OrdMap ℕ Route :=
  .ofList ((table.listActiveTunnelRoutesByProtocol protocol).1.filterMap fun route =>
    (table.port route.tunnel.id).map (·, route))

def withCounters (counters : OrdMap String ℕ) : RoutingTable :=
  { table with db := { table.db with targetSelectionCounters := counters } }

def afterRead : RoutingTable :=
  table.withCounters (table.listActiveTunnelRoutesByProtocol protocol).2.targetSelectionCounters

/-- An active tunnel of the protocol has the public port. -/
def Owns (port : ℕ) (id : String) : Prop :=
  ∃ row, table.db.tunnels.get? id = some row ∧ row.protocol = protocol ∧ row.status = "active" ∧
    table.port id = some port

/-- The pin is that of an eligible target, and the Relay that of its agent; there is none
only where no target is eligible. -/
def Serves (id : String) (pin : Json) (relay : Option String) : Prop :=
  (∃ candidate ∈ eligible (table.db.candidates id),
    pin = orDefault (some (.str candidate.target.id)) .null ∧
      relay = relayUrl (table.db.presence.get? candidate.target.agentId)) ∨
  eligible (table.db.candidates id) = [] ∧ pin = .null

instance (id : String) (pin : Json) (relay : Option String) :
    Decidable (table.Serves id pin relay) :=
  inferInstanceAs (Decidable ((∃ _ ∈ _, _ ∧ _) ∨ _ ∧ _))

/-- The route is one the store would give for the port now. -/
structure UpToDate (port : ℕ) (route : Route) : Prop where
  owner : table.Owns protocol port route.tunnel.id
  serves : table.Serves route.tunnel.id route.pin (relayUrl route.presence?)

variable {table protocol}

variable {row : TunnelRow} {port : ℕ} {id : String} {db : Database}

theorem get?_row (h : row ∈ table.db.tunnels.entries.map Prod.snd) :
    table.db.tunnels.get? row.id = some row := by
  obtain ⟨e, he, rfl⟩ := List.mem_map.1 h
  rw [get?_eq_some_iff, table.tunnels_keyed e he]
  exact he

theorem mem_listActiveTunnelsByProtocol :
    row ∈ table.listActiveTunnelsByProtocol protocol ↔
      table.db.tunnels.get? row.id = some row ∧ row.protocol = protocol ∧
        row.status = "active" := by
  unfold listActiveTunnelsByProtocol
  rw [List.mem_insertionSort, List.mem_filter, Bool.and_eq_true, decide_eq_true_eq,
    decide_eq_true_eq]
  constructor
  · intro ⟨hrow, hkind⟩
    exact ⟨get?_row hrow, hkind⟩
  · intro ⟨hrow, hkind⟩
    exact ⟨List.mem_map.2 ⟨(row.id, row), get?_eq_some_iff.1 hrow, rfl⟩, hkind⟩

theorem resolveTunnelById_snd {db : Database} {id : String} :
    ∃ counters, (db.resolveTunnelById id none).2 = { db with targetSelectionCounters := counters } := by
  unfold Database.resolveTunnelById
  split
  · exact ⟨db.targetSelectionCounters, rfl⟩
  · rename_i row hrow
    unfold Database.routeOf Database.selectTunnelTarget
    dsimp only
    split_ifs
    · exact ⟨db.targetSelectionCounters, rfl⟩
    · cases (weighted (pinned none (db.candidates row.id)))[db.cursor row.id %
        (weighted (pinned none (db.candidates row.id))).length]? with
      | none | some target => exact ⟨_, rfl⟩

theorem selectTunnelTarget_some {target : TargetRow}
    (h : (db.selectTunnelTarget id none).1 = some target) :
    ∃ candidate ∈ eligible (db.candidates id), candidate.target = target := by
  unfold Database.selectTunnelTarget at h
  dsimp only at h
  split at h
  · cases h
  · have hmem : target ∈ weighted (db.candidates id) := List.mem_of_getElem? h
    obtain ⟨listed, htier, hcopy⟩ := List.mem_flatMap.1 hmem
    rw [(List.mem_replicate.1 hcopy).2]
    exact List.mem_map.1 (List.mem_of_mem_filter htier)

theorem selectTunnelTarget_none (h : (db.selectTunnelTarget id none).1 = none) :
    eligible (db.candidates id) = [] := by
  unfold Database.selectTunnelTarget at h
  dsimp only at h
  split at h
  · rename_i hnil
    exact eligible_eq_nil_iff.2 (tier_eq_nil_iff.1 (weighted_eq_nil_iff.1 hnil))
  · rename_i hne
    rw [List.getElem?_eq_none_iff] at h
    exact absurd (Nat.mod_lt _ (List.length_pos_iff.2 hne)) (Nat.not_lt.2 h)

theorem routeOf_fst_tunnel (db : Database) (row : TunnelRow) :
    (db.routeOf row none).1.tunnel = row := by
  unfold Database.routeOf
  split <;> rfl

theorem serves_routeOf (row : TunnelRow) :
    table.Serves row.id (table.db.routeOf row none).1.pin
      (relayUrl (table.db.routeOf row none).1.presence?) := by
  cases hselected : table.db.selectTunnelTarget row.id none with
  | mk found next =>
    have hfst : (table.db.selectTunnelTarget row.id none).1 = found := by rw [hselected]
    unfold Database.routeOf
    rw [hselected]
    cases found with
    | none => exact .inr ⟨selectTunnelTarget_none hfst, rfl⟩
    | some target =>
      obtain ⟨candidate, hmem, rfl⟩ := selectTunnelTarget_some hfst
      exact .inl ⟨candidate, hmem, rfl, rfl⟩

theorem of_mem_resolveAll {rows : List TunnelRow} {route : Route}
    (h : route ∈ (db.resolveAll rows).1) : ∃ row ∈ rows, ∃ counters,
      (({ db with targetSelectionCounters := counters } : Database).resolveTunnelById
        row.id none).1 = some route := by
  induction rows generalizing db with
  | nil => cases h
  | cons row rest ih =>
    rcases List.mem_append.1 h with hfirst | hothers
    · rw [Option.mem_toList] at hfirst
      exact ⟨row, List.mem_cons_self, db.targetSelectionCounters, hfirst⟩
    · obtain ⟨later, hlater, counters, hroute⟩ := ih hothers
      obtain ⟨between, hnext⟩ := resolveTunnelById_snd
      rw [hnext] at hroute
      exact ⟨later, List.mem_cons_of_mem _ hlater, counters, hroute⟩

theorem mem_resolveAll {rows : List TunnelRow} (h : row ∈ rows)
    (hrow : db.tunnels.get? row.id = some row) :
    ∃ route ∈ (db.resolveAll rows).1, route.tunnel = row := by
  induction rows generalizing db with
  | nil => cases h
  | cons first rest ih =>
    rcases List.mem_cons.1 h with rfl | hmem
    · have hfound : (db.resolveTunnelById row.id none).1 = some (db.routeOf row none).1 := by
        unfold Database.resolveTunnelById Database.getTunnel
        rw [hrow]
      refine ⟨(db.routeOf row none).1, List.mem_append_left _ ?_, routeOf_fst_tunnel db row⟩
      rw [hfound]
      exact List.mem_singleton_self _
    · obtain ⟨counters, hnext⟩ := resolveTunnelById_snd
      have hlater : (db.resolveTunnelById first.id none).2.tunnels.get? row.id = some row := by
        rw [hnext]
        exact hrow
      obtain ⟨route, hroute, htunnel⟩ := ih hmem hlater
      exact ⟨route, List.mem_append_right _ hroute, htunnel⟩

theorem upToDate_of_desired {route : Route} (h : (table.desired protocol).get? port = some route) :
    table.UpToDate protocol port route := by
  obtain ⟨read, hread, hport⟩ := List.mem_filterMap.1 (mem_of_get?_ofList h)
  obtain ⟨found, hfound, heq⟩ := Option.map_eq_some_iff.1 hport
  cases heq
  obtain ⟨row, hrow, counters, hresolved⟩ := of_mem_resolveAll hread
  obtain ⟨hget, hprotocol, hactive⟩ := mem_listActiveTunnelsByProtocol.1 hrow
  unfold Database.resolveTunnelById Database.getTunnel at hresolved
  rw [hget] at hresolved
  cases hresolved
  have htunnel := routeOf_fst_tunnel { table.db with targetSelectionCounters := counters } row
  refine ⟨⟨row, ?_, hprotocol, hactive, hfound⟩, ?_⟩
  · rw [htunnel]
    exact hget
  · rw [htunnel]
    exact @serves_routeOf (table.withCounters counters) row

theorem desired_ne_none (h : table.Owns protocol port id) :
    (table.desired protocol).get? port ≠ none := by
  obtain ⟨row, hrow, hprotocol, hactive, hport⟩ := h
  have hid : row.id = id := table.tunnels_keyed _ (get?_eq_some_iff.1 hrow)
  subst hid
  obtain ⟨route, hroute, rfl⟩ :=
    mem_resolveAll (mem_listActiveTunnelsByProtocol.2 ⟨hrow, hprotocol, hactive⟩) hrow
  refine get?_ofList_ne_none (v := route) (List.mem_filterMap.2 ⟨route, hroute, ?_⟩)
  rw [hport]
  rfl

theorem desired_isSome_iff :
    (table.desired protocol).get? port ≠ none ↔ ∃ id, table.Owns protocol port id := by
  constructor
  · intro h
    obtain ⟨route, hroute⟩ := Option.ne_none_iff_exists'.1 h
    exact ⟨_, (upToDate_of_desired hroute).owner⟩
  · intro ⟨id, hid⟩
    exact desired_ne_none hid

end RoutingTable

end Tunnara.Control
