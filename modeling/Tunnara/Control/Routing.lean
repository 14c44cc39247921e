/-
# Route resolution of the Node plane

`selectTunnelTarget` picks a target of the best tier by weighted round robin and
advances the cursor of the tunnel; `resolveTunnelByHostname` and
`resolveTunnelById` build the route the Edge and the Relay read.

Columns no consumer of a route reads are left out of its JSON. The policy keeps
its parsed `document`; the text column `document_json` is only read where there
is none.
-/

import Mathlib.Data.List.Lex
import Mathlib.Data.List.Sort
import Mathlib.Data.String.Basic
import Tunnara.Control.Database

namespace Tunnara.Control

/-- A target joined with its agent. -/
structure Candidate where
  target : TargetRow
  agent : AgentRow

/-- `ORDER BY tt.priority, tt.name`. -/
def Candidate.precedes (a b : Candidate) : Prop :=
  a.target.priority < b.target.priority ∨
    a.target.priority = b.target.priority ∧ a.target.name.toList ≤ b.target.name.toList

instance : DecidableRel Candidate.precedes := fun _ _ =>
  inferInstanceAs (Decidable (_ < _ ∨ _ = _ ∧ _ ≤ _))

/-- `Number(target.priority || 100)`. -/
def TargetRow.effectivePriority (target : TargetRow) : ℤ :=
  if target.priority = 0 then 100 else target.priority

/-- How often a target is listed in `weighted`. -/
def TargetRow.copies (target : TargetRow) : ℕ := (min 100 (max 1 target.weight)).toNat

namespace Database

variable (db : Database)

/-- The enabled targets of a tunnel whose agent is not revoked. -/
def candidates (tunnelId : String) : List Candidate :=
  (db.targets.entries.filterMap fun e =>
    match db.agents.get? e.2.agentId with
    | some agent =>
      if e.2.tunnelId = tunnelId ∧ e.2.enabled ∧ agent.revokedAt = none
      then some ⟨e.2, agent⟩ else none
    | none => none).insertionSort Candidate.precedes

end Database

/-- `requestedTargetId ? targets.filter(…) : targets`. -/
def pinned (requested : Option String) (targets : List Candidate) : List Candidate :=
  match requested with
  | some id => if id = "" then targets else targets.filter fun c => c.target.id = id
  | none => targets

def online (targets : List Candidate) : List Candidate :=
  targets.filter fun c => c.agent.status = "online"

def onlineWith (status : String) (targets : List Candidate) : List Candidate :=
  (online targets).filter fun c => c.target.healthStatus = status

/-- Healthy targets, or else unchecked ones, or else any, with their agent online. -/
def eligible (targets : List Candidate) : List Candidate :=
  if onlineWith "healthy" targets ≠ [] then onlineWith "healthy" targets
  else if onlineWith "unknown" targets ≠ [] then onlineWith "unknown" targets
  else online targets

/-- The eligible targets of the smallest priority. -/
def tier (targets : List Candidate) : List TargetRow :=
  let rows := (eligible targets).map Candidate.target
  rows.filter fun target => rows.all fun other => target.effectivePriority ≤ other.effectivePriority

/-- Every target of the tier as often as its weight says. -/
def weighted (targets : List Candidate) : List TargetRow :=
  (tier targets).flatMap fun target => List.replicate target.copies target

namespace Database

/-- `Number(this.targetSelectionCounters.get(tunnelId) || 0)`. -/
def cursor (db : Database) (tunnelId : String) : ℕ :=
  (db.targetSelectionCounters.get? tunnelId).getD 0

def selectTunnelTarget (db : Database) (tunnelId : String) (requested : Option String) :
    Option TargetRow × Database :=
  let list := weighted (pinned requested (db.candidates tunnelId))
  if list = [] then (none, db)
  else
    (list[db.cursor tunnelId % list.length]?, { db with
      targetSelectionCounters :=
        db.targetSelectionCounters.set tunnelId (db.cursor tunnelId + 1) })

def getTunnel (db : Database) (id : String) : Option TunnelRow := db.tunnels.get? id

/-- The active tunnel of a host name, joined with its agent. -/
def getTunnelByHostname (db : Database) (hostname : String) : Option TunnelRow :=
  ((db.tunnels.entries.map Prod.snd).find? fun row =>
    row.hostname = hostname && row.status = "active" && (db.agents.get? row.agentId).isSome)

end Database

/-- A route: the tunnel, and the rest when a target was selected. -/
inductive Route
  | noTarget (tunnel : TunnelRow)
  | found (tunnel : TunnelRow) (target : TargetRow) (presence : Option PresenceRow)
      (policy : Option PolicyRow)
  deriving DecidableEq

namespace Database

/-- The common body of the two resolvers. -/
def routeOf (db : Database) (tunnel : TunnelRow) (requested : Option String) :
    Route × Database :=
  match db.selectTunnelTarget tunnel.id requested with
  | (none, next) => (.noTarget tunnel, next)
  | (some target, next) =>
    (.found tunnel target (db.presence.get? target.agentId)
      (match tunnel.policyId with
        | some id => if id = "" then none else db.getPolicy tunnel.organizationId id
        | none => none), next)

def resolveTunnelByHostname (db : Database) (hostname : String) (requested : Option String) :
    Option Route × Database :=
  match db.getTunnelByHostname hostname with
  | none => (none, db)
  | some tunnel => ((db.routeOf tunnel requested).1, (db.routeOf tunnel requested).2)

def resolveTunnelById (db : Database) (id : String) (requested : Option String) :
    Option Route × Database :=
  match db.getTunnel id with
  | none => (none, db)
  | some tunnel => ((db.routeOf tunnel requested).1, (db.routeOf tunnel requested).2)

end Database

theorem copies_pos {target : TargetRow} : 0 < target.copies := by
  unfold TargetRow.copies
  omega

theorem copies_eq (target : TargetRow) : target.copies = (min 100 target.weight).toNat := by
  unfold TargetRow.copies
  rw [max_eq_right target.weight_pos]

theorem eligible_sublist_online {targets : List Candidate} :
    (eligible targets).Sublist (online targets) := by
  unfold eligible
  split
  · exact List.filter_sublist
  · split
    · exact List.filter_sublist
    · exact List.Sublist.refl _

variable {targets : List Candidate}

theorem eligible_eq_nil_iff : eligible targets = [] ↔ online targets = [] := by
  constructor
  · intro h
    unfold eligible at h
    split at h
    · exact absurd h ‹_›
    · split at h
      · exact absurd h ‹_›
      · exact h
  · intro h
    exact List.sublist_nil.1 (h ▸ eligible_sublist_online)

theorem exists_min_priority {rows : List TargetRow} (h : rows ≠ []) :
    ∃ row ∈ rows, ∀ other ∈ rows, row.effectivePriority ≤ other.effectivePriority := by
  induction rows with
  | nil => exact absurd rfl h
  | cons row rest ih =>
    by_cases hrest : rest = []
    · subst hrest
      exact ⟨row, by simp, by simp⟩
    · obtain ⟨least, hleast, hmin⟩ := ih hrest
      rcases le_total row.effectivePriority least.effectivePriority with hle | hle
      · refine ⟨row, List.mem_cons_self, ?_⟩
        intro other hother
        rcases List.mem_cons.1 hother with rfl | hother
        · exact le_rfl
        · exact hle.trans (hmin other hother)
      · refine ⟨least, List.mem_cons_of_mem _ hleast, ?_⟩
        intro other hother
        rcases List.mem_cons.1 hother with rfl | hother
        · exact hle
        · exact hmin other hother

theorem tier_eq_nil_iff : tier targets = [] ↔ online targets = [] := by
  rw [← eligible_eq_nil_iff]
  constructor
  · intro htier
    by_contra heligible
    have hrows : (eligible targets).map Candidate.target ≠ [] := by simpa using heligible
    obtain ⟨row, hrow, hmin⟩ := exists_min_priority hrows
    have hmem : row ∈ tier targets := by
      refine List.mem_filter.2 ⟨hrow, ?_⟩
      rw [List.all_eq_true]
      exact fun other hother => decide_eq_true (hmin other hother)
    rw [htier] at hmem
    cases hmem
  · intro heligible
    simp [tier, heligible]

theorem weighted_eq_nil_iff : weighted targets = [] ↔ tier targets = [] := by
  unfold weighted
  rw [List.flatMap_eq_nil_iff]
  constructor
  · intro h
    cases htier : tier targets with
    | nil => rfl
    | cons row rest =>
      have hnil := h row (htier ▸ List.mem_cons_self)
      rw [List.replicate_eq_nil_iff] at hnil
      exact absurd hnil copies_pos.ne'
  · intro h
    simp [h]

theorem online_pinned_ne_nil {target : TargetRow} (h : target ∈ tier targets)
    : online (pinned (some target.id) targets) ≠ [] := by
  obtain ⟨candidate, hcandidate, rfl⟩ := List.mem_map.1 (List.mem_of_mem_filter h)
  have honline : candidate ∈ online targets := eligible_sublist_online.subset hcandidate
  unfold online at honline
  rw [List.mem_filter] at honline
  apply List.ne_nil_of_mem (a := candidate)
  refine List.mem_filter.2 ⟨?_, honline.2⟩
  unfold pinned
  dsimp only
  split
  · exact honline.1
  · exact List.mem_filter.2 ⟨honline.1, decide_eq_true rfl⟩

theorem tier_nodup (h : (targets.map Candidate.target).Nodup) : (tier targets).Nodup := by
  have hsublist : (eligible targets).Sublist targets :=
    eligible_sublist_online.trans List.filter_sublist
  exact (h.sublist (hsublist.map _)).filter _

theorem candidates_nodup {db : Database} {tunnelId : String} :
    ((db.candidates tunnelId).map Candidate.target).Nodup := by
  have hrows : (db.targets.entries.map Prod.snd).Nodup := by
    apply List.Nodup.of_map TargetRow.id
    have hkeys : (db.targets.entries.map Prod.snd).map TargetRow.id =
        db.targets.entries.map Prod.fst := by
      rw [List.map_map]
      exact List.map_congr_left fun e he => db.targets_keyed e he
    rw [hkeys]
    exact db.targets.nodup
  refine (((List.perm_insertionSort _ _).map _).nodup_iff).2 (hrows.sublist ?_)
  induction db.targets.entries with
  | nil => exact List.Sublist.refl _
  | cons e rest ih =>
    rw [List.filterMap_cons, List.map_cons]
    split
    · exact ih.cons _
    · rename_i candidate hcandidate
      have htarget : candidate.target = e.2 := by
        split at hcandidate
        · split at hcandidate
          · cases hcandidate
            rfl
          · cases hcandidate
        · cases hcandidate
      rw [List.map_cons, htarget]
      exact ih.cons_cons _

/-- A nullable text column. -/
def nullable : Option String → Json
  | none => .null
  | some s => .str s

def TunnelRow.toJson (row : TunnelRow) : Json :=
  .obj [("id", .str row.id), ("organization_id", .str row.organizationId),
    ("agent_id", .str row.agentId), ("policy_id", nullable row.policyId),
    ("name", .str row.name), ("protocol", .str row.protocol), ("hostname", .str row.hostname),
    ("status", .str row.status), ("inspector_enabled", .num (if row.inspectorEnabled then 1 else 0))]

def TargetRow.toJson (row : TargetRow) : Json :=
  .obj [("id", .str row.id), ("organization_id", .str row.organizationId),
    ("tunnel_id", .str row.tunnelId), ("agent_id", .str row.agentId), ("name", .str row.name),
    ("target_host", .str row.targetHost), ("target_port", .num row.targetPort),
    ("weight", .num row.weight), ("priority", .num row.priority), ("enabled", .bool row.enabled),
    ("health_status", .str row.healthStatus)]

def PresenceRow.toJson (row : PresenceRow) : Json :=
  .obj [("agent_id", .str row.agentId), ("relay_node_id", nullable row.relayNodeId),
    ("relay_edge_url", nullable row.relayEdgeUrl)]

def PolicyRow.toJson (row : PolicyRow) : Json :=
  .obj [("id", .str row.id), ("organization_id", .str row.organizationId),
    ("name", .str row.name), ("description", .str row.description),
    ("enabled", .bool row.enabled), ("document", row.document)]

def Route.toJson : Route → Json
  | .noTarget tunnel => .obj [("tunnel", tunnel.toJson), ("target", .null), ("presence", .null)]
  | .found tunnel target presence policy =>
    .obj [("tunnel", tunnel.toJson), ("target", target.toJson),
      ("presence", (presence.map PresenceRow.toJson).getD .null),
      ("policy", (policy.map PolicyRow.toJson).getD .null)]

end Tunnara.Control
