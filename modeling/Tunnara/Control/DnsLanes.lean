/-
# The lane of the tunnels' records

`POST /api/v1/dns/records` refuses a name outside the managed domain. The tunnel endpoints do not:
a requested host name goes to the provider as it is, `ensureRecord` takes over a record that is
already there, and `saveDnsRecord` puts the tunnel into its row, so that the deletion of the tunnel
removes it.
-/

import Tunnara.Control.DnsWrites
import Tunnara.Control.Integrity

namespace Tunnara.Control

open Policy Transition TunnelTables DnsTables OrdMap

/-- The store and the provider's zones. -/
structure Managed where
  tables : DnsTables
  zones : Zones

/-- A request of one organization; `caller` is the agent whose token it carries. -/
inductive DnsRequest
  | post (caller : Option String) (draws : TunnelDraws) (rowId : String) (replies : Replies)
      (body : Json)
  | delete (caller : Option String) (id : String) (reply : Reply)

def principalOf (organizationId : String) : Option String → Principal
  | none => .api organizationId
  | some id => .agent organizationId id

/-- `body.dns || {}`. -/
def dnsOf (body : Json) : Json := orDefault (body.get? "dns") (.obj [])

namespace Managed

/-- `POST /api/v1/tunnels`. -/
def post (env : DnsEnv) (organizationId : String) (state : Managed) (principal : Principal)
    (draws : TunnelDraws) (rowId : String) (replies : Replies) (body : Json) : Managed :=
  match state.tables.postTunnel env principal draws body with
  | .error _ => state
  | .ok tables =>
    match tables.tunnels.get? draws.tunnelId with
    | none => ⟨tables, state.zones⟩
    | some tunnel =>
      if wantsDns env tunnel.protocol body then
        let ensured := tables.ensureManagedDns env state.zones organizationId tunnel (dnsOf body)
          replies
        ⟨(tables.recordDns organizationId draws.tunnelId rowId ensured.2).1, ensured.1⟩
      else ⟨tables, state.zones⟩

/-- `DELETE /api/v1/tunnels/:id`. -/
def delete (env : DnsEnv) (organizationId : String) (state : Managed) (principal : Principal)
    (id : String) (reply : Reply) : Managed :=
  match state.tables.deletableTunnel principal id with
  | none => state
  | some tunnel =>
    let removed :=
      if isSet tunnel.dnsRecordId then
        state.tables.deleteManagedDns env state.zones organizationId
          (tunnel.dnsRecordId.getD "") reply
      else (state.zones, .ok state.tables)
    match removed.2 with
    | .error _ => ⟨state.tables, removed.1⟩
    | .ok tables => ⟨(tables.deleteTunnel organizationId id none).getD tables, removed.1⟩

def step (env : DnsEnv) (organizationId : String) (state : Managed) : DnsRequest → Managed
  | .post caller draws rowId replies body =>
    state.post env organizationId (principalOf organizationId caller) draws rowId replies body
  | .delete caller id reply =>
    state.delete env organizationId (principalOf organizationId caller) id reply

/-! ## The lane -/

/-- `name === managedDomain || name.endsWith('.' + managedDomain)`. -/
def inDomain (domain name : String) : Bool :=
  name = domain || ("." ++ domain).toList.isSuffixOf name.toList

/-- The name is in the domain that the organization's integration manages. -/
def Manages (env : DnsEnv) (tables : DnsTables) (organizationId name : String) : Prop :=
  ∃ integration domain, tables.cloudflareIntegration organizationId = .ok integration ∧
    hostname env (orText integration.config.managedDomain env.baseDomain) = some domain ∧
    inDomain domain name = true

/-- A row without a tunnel lists the record. -/
def ListedAlone (tables : DnsTables) (key : String × String) : Prop :=
  ∃ id row, tables.dnsRecords.get? id = some row ∧ row.tunnelId = none ∧
    row.zoneId = some key.1 ∧ row.providerRecordId = some key.2

/-- A record of the zones that a tunnel may have. -/
def Free (env : DnsEnv) (organizationId : String) (state : Managed) (key : String × String) :
    Prop :=
  (∀ record, state.zones.get? key = some record →
      Manages env state.tables organizationId record.name) ∧
    ¬ ListedAlone state.tables key

/-- The records that differ are of the domain, and no row lists them without a tunnel. -/
def StaysInLane (env : DnsEnv) (organizationId : String) (before after : Managed) : Prop :=
  ∀ key, before.zones.get? key ≠ after.zones.get? key →
    Free env organizationId before key ∧ ∀ record, after.zones.get? key = some record →
      Manages env before.tables organizationId record.name

/-- So it is with the records that the request creates, changes or deletes. -/
def InLane (env : DnsEnv) (organizationId : String) (state : Managed) (request : DnsRequest) :
    Prop :=
  StaysInLane env organizationId state (state.step env organizationId request)

/-- A creation names a host of the domain, and the record it writes is free: the one it finds
under the name, or a new one, whose id the provider has never given before. Drawn uuids are
not empty. -/
def KeepsLane (env : DnsEnv) (organizationId : String) (state : Managed) : DnsRequest → Prop
  | .post _ draws rowId replies body =>
    rowId ≠ "" ∧ ∀ protocol hostname, protocolOf env.toApiEnv body = .ok protocol →
      hostnameFor env.toApiEnv protocol draws.label body = .ok hostname →
      wantsDns env protocol body = true → ∀ name zoneId recordId,
      Placed env state.tables state.zones organizationId hostname (dnsOf body) replies name
        zoneId recordId →
      Manages env state.tables organizationId name ∧
        Free env organizationId state (zoneId, recordId)
  | .delete _ _ _ => True

/-- The organization has no record of a tunnel yet. -/
structure Unmanaged (organizationId : String) (tables : DnsTables) : Prop where
  named : tables.dnsRecords.get? "" = none
  tunnel : ∀ id tunnel, tables.tunnels.get? id = some tunnel →
    tunnel.organizationId = organizationId → tunnel.dnsRecordId = none
  row : ∀ key row id, tables.dnsRecords.get? key = some row → row.tunnelId = some id →
    row.organizationId ≠ organizationId ∧ ∃ tunnel, tables.tunnels.get? id = some tunnel ∧
      tunnel.organizationId = row.organizationId

/-! ## The invariant -/

/-- Tunnels and rows of the organization refer to each other, and the rows with a tunnel list
free records. -/
structure Tidy (env : DnsEnv) (organizationId : String) (state : Managed) : Prop where
  named : state.tables.dnsRecords.get? "" = none
  tunnel : ∀ id tunnel key row, state.tables.tunnels.get? id = some tunnel →
    tunnel.organizationId = organizationId → tunnel.dnsRecordId = some key →
    state.tables.dnsRecords.get? key = some row → row.organizationId = organizationId →
    row.tunnelId ≠ none
  row : ∀ key row id, state.tables.dnsRecords.get? key = some row → row.tunnelId = some id →
    ∃ tunnel, state.tables.tunnels.get? id = some tunnel ∧
      tunnel.organizationId = row.organizationId ∧
      (row.organizationId = organizationId → tunnel.dnsRecordId = some key)
  lane : ∀ key row zoneId recordId, state.tables.dnsRecords.get? key = some row →
    row.organizationId = organizationId → row.tunnelId ≠ none → row.zoneId = some zoneId →
    row.providerRecordId = some recordId → Free env organizationId state (zoneId, recordId)

variable {env : DnsEnv} {organizationId : String} {state : Managed} {tables next : DnsTables}
  {zones : Zones}

theorem tidy_of_unmanaged (h : Unmanaged organizationId state.tables) :
    Tidy env organizationId state := by
  refine ⟨h.named, ?_, ?_, ?_⟩
  · intro id tunnel key row htunnel howner hdns
    rw [h.tunnel id tunnel htunnel howner] at hdns
    cases hdns
  · intro key row id hrow hof
    obtain ⟨hne, tunnel, htunnel, hsame⟩ := h.row key row id hrow hof
    exact ⟨tunnel, htunnel, hsame, fun heq => absurd heq hne⟩
  · intro key row zoneId recordId hrow howner hof
    obtain ⟨id, hid⟩ := Option.ne_none_iff_exists'.1 hof
    exact absurd howner (h.row key row id hrow hid).1

theorem cloudflareIntegration_congr (h : next.integrations = tables.integrations) :
    next.cloudflareIntegration organizationId = tables.cloudflareIntegration organizationId := by
  unfold cloudflareIntegration
  rw [h]

theorem manages_congr (h : next.integrations = tables.integrations) (name : String) :
    Manages env next organizationId name ↔ Manages env tables organizationId name := by
  unfold Manages
  rw [cloudflareIntegration_congr h]

theorem placed_congr (h : next.integrations = tables.integrations) {hostname name : String}
    {requested : Json} {replies : Replies} {zoneId recordId : String}
    (hplaced : Placed env next zones organizationId hostname requested replies name zoneId
      recordId) :
    Placed env tables zones organizationId hostname requested replies name zoneId recordId := by
  obtain ⟨hnamed, integration, target, hintegration, hrest⟩ := hplaced
  rw [cloudflareIntegration_congr h] at hintegration
  exact ⟨hnamed, integration, target, hintegration, hrest⟩

variable {key : String × String} {id : String} {tunnel : TunnelRecord}

theorem Free.mono {after : Managed} (h : Free env organizationId state key)
    (hintegrations : after.tables.integrations = state.tables.integrations)
    (hzones : ∀ record, after.zones.get? key = some record → state.zones.get? key = some record ∨
      Manages env state.tables organizationId record.name)
    (hrows : ∀ id row, after.tables.dnsRecords.get? id = some row → row.tunnelId = none →
      state.tables.dnsRecords.get? id = some row) : Free env organizationId after key := by
  constructor
  · intro record hrecord
    rw [manages_congr hintegrations]
    rcases hzones record hrecord with hold | hmanaged
    · exact h.1 record hold
    · exact hmanaged
  · rintro ⟨id, row, hrow, hnone, hplace⟩
    exact h.2 ⟨id, row, hrows id row hrow hnone, hnone, hplace⟩

namespace Tidy

theorem of_zones (h : Tidy env organizationId state)
    (hzones : ∀ key record, zones.get? key = some record → state.zones.get? key = some record ∨
      Manages env state.tables organizationId record.name) :
    Tidy env organizationId ⟨state.tables, zones⟩ where
  named := h.named
  tunnel := h.tunnel
  row := h.row
  lane key row zoneId recordId hrow howner hof hzone hrecord :=
    (h.lane key row zoneId recordId hrow howner hof hzone hrecord).mono rfl (hzones _)
      fun _ _ hget _ => hget

section

variable (h : Tidy env organizationId state)
include h

theorem addTunnel {base : TunnelTables} (hnew : state.tables.tunnels.get? id = none)
    (hdns : tunnel.dnsRecordId = none) (hset : base.tunnels = state.tables.tunnels.set id tunnel) :
    Tidy env organizationId ⟨{ state.tables with toTunnelTables := base }, state.zones⟩ := by
  refine ⟨h.named, ?_, ?_, ?_⟩
  · intro other found key row hfound howner hrecord
    rw [hset, get?_set] at hfound
    split at hfound
    · cases hfound
      rw [hdns] at hrecord
      cases hrecord
    · exact h.tunnel other found key row hfound howner hrecord
  · intro key row other hrow hof
    obtain ⟨found, hfound, hsame, hback⟩ := h.row key row other hrow hof
    refine ⟨found, ?_, hsame, hback⟩
    rw [hset, get?_set_of_ne, hfound]
    rintro rfl
    rw [hnew] at hfound
    cases hfound
  · intro key row zoneId recordId hrow howner hof hzone hrecord
    exact (h.lane key row zoneId recordId hrow howner hof hzone hrecord).mono rfl
      (fun _ => .inl) fun _ _ hget _ => hget

theorem unused (hnew : state.tables.tunnels.get? id = none) (key : String) (row : DnsRow)
    (hrow : state.tables.dnsRecords.get? key = some row) : row.tunnelId ≠ some id := by
  intro hof
  obtain ⟨tunnel, htunnel, -⟩ := h.row key row id hrow hof
  rw [hnew] at htunnel
  cases htunnel

omit h in
theorem giveRow {key : String} {row : DnsRow} {zoneId recordId : String}
    (h : Tidy env organizationId state) (htunnel : state.tables.tunnels.get? id = some tunnel)
    (howner : tunnel.organizationId = organizationId)
    (hunused : ∀ other found, state.tables.dnsRecords.get? other = some found →
      found.tunnelId ≠ some id) (hkey : key ≠ "") (hrowOwner : row.organizationId = organizationId)
    (hof : row.tunnelId = some id) (hzone : row.zoneId = some zoneId)
    (hrecord : row.providerRecordId = some recordId)
    (hfree : Free env organizationId state (zoneId, recordId)) :
    Tidy env organizationId
      ⟨({ state.tables with dnsRecords := state.tables.dnsRecords.set key row } :
        DnsTables).setTunnelDnsRecord id key, state.zones⟩ := by
  have hrows : ∀ other found,
      (state.tables.dnsRecords.set key row).get? other = some found →
        (other = key ∧ found = row) ∨
          (other ≠ key ∧ state.tables.dnsRecords.get? other = some found) := by
    intro other found hfound
    rw [get?_set] at hfound
    split at hfound
    · cases hfound
      exact .inl ⟨‹_›, rfl⟩
    · exact .inr ⟨‹_›, hfound⟩
  have halone : ∀ other found, (state.tables.dnsRecords.set key row).get? other = some found →
      found.tunnelId = none → state.tables.dnsRecords.get? other = some found := by
    intro other found hfound hnone
    rcases hrows other found hfound with ⟨-, rfl⟩ | ⟨-, hold⟩
    · rw [hof] at hnone
      cases hnone
    · exact hold
  refine ⟨?_, ?_, ?_, ?_⟩
  · exact (get?_set_of_ne _ hkey.symm row).trans h.named
  · intro other found named line hfound hfoundOwner hnamed hline hlineOwner
    rcases hrows named line hline with ⟨-, rfl⟩ | ⟨hne, hold⟩
    · rw [hof]
      exact Option.some_ne_none id
    · have hupdated : (state.tables.tunnels.update id fun tunnel =>
          { tunnel with dnsRecordId := some key }).get? other = some found := hfound
      by_cases hsame : other = id
      · subst hsame
        rw [get?_update_self, htunnel] at hupdated
        cases hupdated
        cases hnamed
        exact absurd rfl hne
      · rw [get?_update_of_ne _ hsame] at hupdated
        exact h.tunnel other found named line hupdated hfoundOwner hnamed hold hlineOwner
  · intro named line other hline hlineOf
    rcases hrows named line hline with ⟨rfl, rfl⟩ | ⟨hne, hold⟩
    · rw [hof] at hlineOf
      cases hlineOf
      refine ⟨{ tunnel with dnsRecordId := some named }, ?_, howner.trans hrowOwner.symm,
        fun _ => rfl⟩
      show (state.tables.tunnels.update id _).get? id = _
      rw [get?_update_self, htunnel]
      rfl
    · obtain ⟨found, hfound, hsame, hback⟩ := h.row named line other hold hlineOf
      refine ⟨found, ?_, hsame, hback⟩
      show (state.tables.tunnels.update id _).get? other = _
      rw [get?_update_of_ne, hfound]
      rintro rfl
      exact hunused named line hold hlineOf
  · intro named line zone record hline hlineOwner hlineOf hlineZone hlineRecord
    rcases hrows named line hline with ⟨-, rfl⟩ | ⟨-, hold⟩
    · rw [hzone] at hlineZone
      rw [hrecord] at hlineRecord
      cases hlineZone
      cases hlineRecord
      exact hfree.mono rfl (fun _ => .inl) halone
    · exact (h.lane named line zone record hold hlineOwner hlineOf hlineZone hlineRecord).mono rfl
        (fun _ => .inl) halone

theorem referrer {key : String} {row : DnsRow}
    (htunnel : state.tables.tunnels.get? id = some tunnel)
    (howner : tunnel.organizationId = organizationId)
    (hrow : state.tables.dnsRecords.get? key = some row) (hof : row.tunnelId = some id) :
    row.organizationId = organizationId ∧ tunnel.dnsRecordId = some key := by
  obtain ⟨found, hfound, hsame, hback⟩ := h.row key row id hrow hof
  rw [htunnel] at hfound
  cases hfound
  have hmine := hsame.symm.trans howner
  exact ⟨hmine, hback hmine⟩

section

variable (hunused : ∀ key row, state.tables.dnsRecords.get? key = some row → row.tunnelId ≠ some id)
include hunused

theorem dropTunnel {agentId : Option String}
    (hdelete : state.tables.deleteTunnel organizationId id agentId = some next) :
    Tidy env organizationId ⟨next, state.zones⟩ := by
  obtain ⟨-, rfl⟩ := deleteTunnel_eq_some hdelete
  have hsame := get?_forget hunused
  refine ⟨(hsame "").trans h.named, ?_, ?_, ?_⟩
  · intro other tunnel key row htunnel howner hdns hrow
    exact h.tunnel other tunnel key row (get?_of_get?_erase htunnel).2 howner hdns
      ((hsame key).symm.trans hrow)
  · intro key row other hrow hof
    have hold := (hsame key).symm.trans hrow
    obtain ⟨tunnel, htunnel, howner, hback⟩ := h.row key row other hold hof
    refine ⟨tunnel, ?_, howner, hback⟩
    show (state.tables.tunnels.erase id).get? other = _
    rw [get?_erase_of_ne, htunnel]
    rintro rfl
    exact hunused key row hold hof
  · intro key row zoneId recordId hrow howner hof hzone hrecord
    have hold := (hsame key).symm.trans hrow
    exact (h.lane key row zoneId recordId hold howner hof hzone hrecord).mono rfl
      (fun _ => .inl) fun other line hline _ => (hsame other).symm.trans hline

theorem deleteTunnel {agentId : Option String} :
    Tidy env organizationId
      ⟨(state.tables.deleteTunnel organizationId id agentId).getD state.tables, state.zones⟩ := by
  cases hdelete : state.tables.deleteTunnel organizationId id agentId with
  | none => exact h
  | some next => exact h.dropTunnel hunused hdelete

end

theorem dropRow {key : String} :
    Tidy env organizationId
      ⟨{ state.tables with dnsRecords := state.tables.dnsRecords.erase key }, state.zones⟩ := by
  refine ⟨?_, ?_, ?_, ?_⟩
  · by_cases hempty : "" = key
    · subst hempty
      exact get?_erase_self _ _
    · exact (get?_erase_of_ne _ hempty).trans h.named
  · intro id tunnel named row htunnel howner hdns hrow
    exact h.tunnel id tunnel named row htunnel howner hdns (get?_of_get?_erase hrow).2
  · intro named row id hrow hof
    exact h.row named row id (get?_of_get?_erase hrow).2 hof
  · intro named row zoneId recordId hrow howner hof hzone hrecord
    exact (h.lane named row zoneId recordId (get?_of_get?_erase hrow).2 howner hof hzone
      hrecord).mono rfl (fun _ => .inl) fun _ _ hline _ => (get?_of_get?_erase hline).2

end

end Tidy

/-! ## The requests -/

theorem staysInLane_refl : StaysInLane env organizationId state ⟨tables, state.zones⟩ :=
  fun _ hchanged => absurd rfl hchanged

section

variable {record : ProviderRecord} (hmanaged : Manages env state.tables organizationId record.name)
include hmanaged

theorem staysInLane_set (hfree : Free env organizationId state key) :
    StaysInLane env organizationId state ⟨tables, state.zones.set key record⟩ := by
  intro other hchanged
  by_cases hsame : other = key
  · subst hsame
    refine ⟨hfree, fun found hfound => ?_⟩
    rw [get?_set_self] at hfound
    cases hfound
    exact hmanaged
  · exact absurd (get?_set_of_ne _ hsame _).symm hchanged

omit hmanaged in
theorem staysInLane_erase (hfree : Free env organizationId state key) :
    StaysInLane env organizationId state ⟨tables, state.zones.erase key⟩ := by
  intro other hchanged
  by_cases hsame : other = key
  · subst hsame
    refine ⟨hfree, fun found hfound => ?_⟩
    rw [get?_erase_self] at hfound
    cases hfound
  · exact absurd (get?_erase_of_ne _ hsame).symm hchanged

theorem managed_written {other : String × String} {found : ProviderRecord}
    (hfound : (state.zones.set key record).get? other = some found) :
    state.zones.get? other = some found ∨
      Manages env state.tables organizationId found.name := by
  rw [get?_set] at hfound
  split at hfound
  · cases hfound
    exact .inr hmanaged
  · exact .inl hfound

end

theorem tidy_recordDns {tunnelId rowId : String} {ensured : Except JsError DnsInput}
    (h : Tidy env organizationId state) (htunnel : state.tables.tunnels.get? tunnelId = some tunnel)
    (howner : tunnel.organizationId = organizationId)
    (hunused : ∀ key row, state.tables.dnsRecords.get? key = some row →
      row.tunnelId ≠ some tunnelId) (hrowId : rowId ≠ "") (hfree : ∀ input, ensured = .ok input →
      Free env organizationId state (input.zoneId, input.providerRecordId)) :
    Tidy env organizationId
      ⟨(state.tables.recordDns organizationId tunnelId rowId ensured).1, state.zones⟩ := by
  unfold recordDns
  cases hsaved : ensured.bind (state.tables.saveDnsRecord organizationId (some tunnelId) rowId) with
  | error error =>
    exact h.deleteTunnel hunused
  | ok saved =>
    obtain ⟨key, next⟩ := saved
    obtain ⟨input, hinput, hsave⟩ := bind_eq_ok.1 hsaved
    obtain ⟨hplace, row, hrowOwner, hof, hzone, hrecord, -, rfl⟩ := saveDnsRecord_eq_ok hsave
    apply h.giveRow htunnel howner hunused ?_ hrowOwner hof hzone hrecord (hfree input hinput)
    rcases hplace with ⟨rfl, -⟩ | ⟨-, old, hold, -⟩
    · exact hrowId
    · rintro rfl
      rw [h.named] at hold
      cases hold

section

variable (h : Tidy env organizationId state)
include h

theorem post_spec {caller : Option String} {draws : TunnelDraws} {rowId : String}
    {replies : Replies} {body : Json}
    (hkeeps : KeepsLane env organizationId state (.post caller draws rowId replies body)) :
    InLane env organizationId state (.post caller draws rowId replies body) ∧
      Tidy env organizationId
        (state.step env organizationId (.post caller draws rowId replies body)) := by
  obtain ⟨hrowId, hplaced⟩ := hkeeps
  show StaysInLane env organizationId state (state.post env organizationId
      (principalOf organizationId caller) draws rowId replies body) ∧
    Tidy env organizationId (state.post env organizationId
      (principalOf organizationId caller) draws rowId replies body)
  unfold post
  cases hpost : state.tables.postTunnel env (principalOf organizationId caller) draws body with
  | error error => exact ⟨staysInLane_refl, h⟩
  | ok tables =>
    obtain ⟨base, hbase, rfl⟩ := map_eq_ok.1 hpost
    obtain ⟨protocol, hostname, hprotocol, hhostname, hnew, tunnel, howner, hdns, hof, hname,
      hset, -, -⟩ := postTunnel_eq_ok hbase
    have hcreated := h.addTunnel hnew hdns hset
    have hget : base.tunnels.get? draws.tunnelId = some tunnel := by
      rw [hset, get?_set_self]
    have hunused := h.unused hnew
    have hmine : tunnel.organizationId = organizationId := by
      rw [howner]
      cases caller <;> rfl
    dsimp only
    rw [hget]
    dsimp only
    by_cases hwants : wantsDns env tunnel.protocol body = true
    · rw [if_pos hwants]
      rw [hof] at hwants
      rcases ensureManagedDns_cases with
        ⟨hsame, error, herror⟩ | ⟨name, zoneId, recordId, record, hplace, hrecord, hzones, hinput⟩
      · rw [hsame, herror]
        refine ⟨staysInLane_refl, tidy_recordDns hcreated hget hmine hunused hrowId nofun⟩
      · rw [hname] at hplace
        obtain ⟨hmanaged, hfree⟩ := hplaced protocol hostname hprotocol hhostname hwants name
          zoneId recordId (placed_congr (by rfl) hplace)
        rw [← hrecord] at hmanaged
        rw [hzones]
        refine ⟨staysInLane_set hmanaged hfree, ?_⟩
        have hwritten : Tidy env organizationId ⟨{ state.tables with toTunnelTables := base },
            state.zones.set (zoneId, recordId) record⟩ :=
          hcreated.of_zones fun key found hfound => managed_written hmanaged hfound
        apply tidy_recordDns hwritten hget hmine hunused hrowId
        intro input hok
        obtain ⟨hzone, hid⟩ := hinput input hok
        rw [hzone, hid]
        exact hfree.mono rfl (fun found hfound => managed_written hmanaged hfound)
          fun _ _ hrow _ => hrow
    · rw [if_neg hwants]
      exact ⟨staysInLane_refl, hcreated⟩

theorem delete_spec {caller : Option String} {reply : Reply} :
    InLane env organizationId state (.delete caller id reply) ∧
      Tidy env organizationId (state.step env organizationId (.delete caller id reply)) := by
  show StaysInLane env organizationId state (state.delete env organizationId
      (principalOf organizationId caller) id reply) ∧
    Tidy env organizationId (state.delete env organizationId
      (principalOf organizationId caller) id reply)
  unfold delete
  cases hfound : state.tables.deletableTunnel (principalOf organizationId caller) id with
  | none => exact ⟨staysInLane_refl, h⟩
  | some tunnel =>
    obtain ⟨htunnel, howner⟩ := deletableTunnel_eq_some hfound
    have hmine : tunnel.organizationId = organizationId := by
      rw [howner]
      cases caller <;> rfl
    dsimp only
    by_cases hset : isSet tunnel.dnsRecordId = true
    · rw [if_pos hset]
      have hkey := eq_some_of_isSet hset
      obtain ⟨hzones, hnext⟩ := deleteManagedDns_cases
      generalize state.tables.deleteManagedDns env state.zones organizationId
        (tunnel.dnsRecordId.getD "") reply = removed at hzones hnext
      have hlane : ∀ tables, StaysInLane env organizationId state ⟨tables, removed.1⟩ := by
        intro tables
        rcases hzones with hsame | ⟨row, zoneId, recordId, hrow, hzone, hrecord, herased⟩
        · rw [hsame]
          exact staysInLane_refl
        · obtain ⟨hget, hrowOwner⟩ := getDnsRecord_eq_some hrow
          have hof := h.tunnel id tunnel _ row htunnel hmine hkey hget hrowOwner
          rw [herased]
          exact staysInLane_erase (h.lane _ row zoneId recordId hget hrowOwner hof hzone
            hrecord)
      have htidy : Tidy env organizationId ⟨state.tables, removed.1⟩ := by
        apply h.of_zones
        intro key record hrecord
        rcases hzones with hsame | ⟨row, zoneId, recordId, -, -, -, herased⟩
        · rw [hsame] at hrecord
          exact .inl hrecord
        · rw [herased] at hrecord
          exact .inl (get?_of_get?_erase hrecord).2
      cases hresult : removed.2 with
      | error error => exact ⟨hlane state.tables, htidy⟩
      | ok next =>
        refine ⟨hlane _, ?_⟩
        rcases hnext next hresult with ⟨hmissing, rfl⟩ | rfl
        · exact htidy.deleteTunnel fun key row hrow hof => by
            obtain ⟨hrowOwner, hback⟩ := h.referrer htunnel hmine hrow hof
            rw [hback, Option.getD_some, getDnsRecord_of_owner hrow hrowOwner] at hmissing
            cases hmissing
        · exact htidy.dropRow.deleteTunnel fun key row hrow hof => by
            obtain ⟨hne, hold⟩ := get?_of_get?_erase hrow
            obtain ⟨-, hback⟩ := h.referrer htunnel hmine hold hof
            rw [hback] at hne
            exact hne rfl
    · rw [if_neg hset]
      refine ⟨staysInLane_refl, h.deleteTunnel fun key row hrow hof => ?_⟩
      obtain ⟨-, hback⟩ := h.referrer htunnel hmine hrow hof
      apply hset
      rw [hback]
      have hne : key ≠ "" := by
        rintro rfl
        rw [h.named] at hrow
        cases hrow
      simpa [isSet] using hne

theorem lane_step {request : DnsRequest} (hkeeps : KeepsLane env organizationId state request) :
    InLane env organizationId state request ∧
      Tidy env organizationId (state.step env organizationId request) := by
  cases request with
  | post caller draws rowId replies body => exact post_spec h hkeeps
  | delete caller id reply => exact delete_spec h

end

/-- **Along every run** whose creations keep to the lane, from a store in which the
organization has no record of a tunnel, every request stays in the lane. -/
theorem inLane_run {start : Managed} (hstart : Unmanaged organizationId start.tables)
    {requests : List DnsRequest}
    (hguard : Along (step env organizationId) (KeepsLane env organizationId) start requests) :
    Along (step env organizationId) (InLane env organizationId) start requests :=
  hguard.of_invariant (fun _ _ h hkeeps => lane_step h hkeeps) (tidy_of_unmanaged hstart)

/-- The integration of `o1` for the domain `tunnara.test`. -/
def integrations : OrdMap String IntegrationRow :=
  OrdMap.empty.set "i1" ⟨"i1", "o1", "cloudflare", "default",
    ⟨"tunnara.test", "tunnara.test", some "z1", some "edge.tunnara.test", none, false, .num 1⟩,
    some "secret"⟩

/-- The zone and the rows after `bootstrap-dns`, with the record of the Control. -/
def bootstrapped : Managed where
  tables :=
    { emptyTables with
      integrations := integrations
      dnsRecords := OrdMap.empty.set "d1" ⟨"d1", "o1", some "i1", none, some "z1", some "r1",
        "CNAME", "control.tunnara.test", "edge.tunnara.test", false, 1⟩ }
  zones := OrdMap.empty.set ("z1", "r1")
    ⟨"CNAME", "control.tunnara.test", "edge.tunnara.test", false, 1, "Managed by Tunnara bootstrap"⟩

def answering (recordId : String) : Replies := ⟨.answered, .answered, .answered, recordId⟩

/-- A tunnel under the host name, with a record. -/
def dnsTunnel (hostname : String) : DnsRequest :=
  .post none ⟨plainDraws, "abc"⟩ "d9" (answering "r9")
    (.obj [("agentId", .str "a1"), ("targetPort", .num 3000), ("hostname", .str hostname),
      ("autoDns", .bool true)])

/-- The tunnel takes the record of the Control over, and its deletion removes it; another one
is outside the domain. -/
def foreignNames : List DnsRequest :=
  [dnsTunnel "control.tunnara.test", .delete none "t1" .answered, dnsTunnel "www.elsewhere.test"]

theorem not_inLane_foreignNames : ¬ ∀ requests,
    Along (step .plain "o1") (InLane .plain "o1") bootstrapped requests := by
  intro h
  have hchanged : bootstrapped.zones.get? ("z1", "r1") ≠
      (step .plain "o1" bootstrapped (dnsTunnel "control.tunnara.test")).zones.get?
        ("z1", "r1") := by decide +kernel
  apply ((h foreignNames).1 ("z1", "r1") hchanged).1.2
  exact ⟨"d1", _, rfl, rfl, rfl, rfl⟩

theorem unmanaged_bootstrapped : Unmanaged "o1" bootstrapped.tables := by
  refine ⟨by decide +kernel, ?_, ?_⟩
  · intro id tunnel htunnel
    cases htunnel
  · intro key row id hrow hof
    have hlisted : (key, row) ∈ bootstrapped.tables.dnsRecords.entries :=
      get?_eq_some_iff.1 hrow
    cases List.mem_singleton.1 hlisted
    cases hof

def ownNames : List DnsRequest := [dnsTunnel "app.tunnara.test", .delete none "t1" .answered]

theorem keepsLane_app : KeepsLane .plain "o1" bootstrapped (dnsTunnel "app.tunnara.test") := by
  refine ⟨by decide, ?_⟩
  intro protocol hostname hprotocol hhostname _ name zoneId recordId hplaced
  obtain ⟨hnamed, integration, target, hintegration, hzone, htarget, hid⟩ := hplaced
  cases hprotocol
  cases hhostname
  cases hintegration
  cases hzone
  cases htarget
  have hname : some "app.tunnara.test" = some name := by
    rw [← hnamed]
    decide +kernel
  cases hname
  have hrecord : recordId = "r9" := by
    rw [hid]
    decide +kernel
  subst hrecord
  refine ⟨⟨_, "tunnara.test", rfl, by decide +kernel, by decide +kernel⟩, ?_, ?_⟩
  · intro record hrecord
    cases hrecord
  · rintro ⟨id, row, hrow, -, -, hlisted⟩
    have hmem : (id, row) ∈ bootstrapped.tables.dnsRecords.entries :=
      get?_eq_some_iff.1 hrow
    cases List.mem_singleton.1 hmem
    exact absurd (Option.some.inj hlisted) (by decide)

theorem inLane_run_ownNames :
    Unmanaged "o1" bootstrapped.tables ∧
      Along (step .plain "o1") (KeepsLane .plain "o1") bootstrapped ownNames ∧
      Along (step .plain "o1") (InLane .plain "o1") bootstrapped ownNames := by
  have hguard : Along (step .plain "o1") (KeepsLane .plain "o1") bootstrapped ownNames :=
    ⟨keepsLane_app, trivial, trivial⟩
  exact ⟨unmanaged_bootstrapped, hguard, inLane_run unmanaged_bootstrapped hguard⟩

end Managed

end Tunnara.Control
