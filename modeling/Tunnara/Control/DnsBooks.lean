/-
# The books about DNS

A tunnel refers to the row of its record, and the row to the tunnel; neither column is
a foreign key of the other. `POST` and `DELETE /api/v1/dns/records` write and remove
rows without a look at the tunnels, `saveDnsRecord` writes over the row it finds under
the name and the type, and `DELETE /api/v1/tunnels/:id` passes on what the provider
answers, also that it has no such record.
-/

import Tunnara.Control.DnsLanes

namespace Tunnara.Control

open Policy Transition TunnelTables DnsTables OrdMap

namespace DnsTables

section

variable (env : DnsEnv) (tables : DnsTables) (organizationId : String)

/-- `config.zoneId || await client.findZoneId(config.zoneName || this.baseDomain)`. -/
def recordZoneId (config : CloudflareConfig) (reply : Reply) : Except JsError String :=
  if isSet config.zoneId then .ok (config.zoneId.getD "")
  else
    match hostname env (orText config.zoneName env.baseDomain) with
    | none => .error { message := "Zona Cloudflare inválida." }
    | some name =>
      if reply ≠ .answered then .error apiError
      else
        match env.findZone name with
        | some zoneId => .ok zoneId
        | none => .error {
            message := "Zona " ++ name ++ " não encontrada ou não acessível pelo token."
            code := some "CLOUDFLARE_ZONE_NOT_FOUND" }

/-- What `POST /api/v1/dns/records` asks the provider for. -/
def requestedRecord (body : Json) (reply : Reply) :
    Except JsError (IntegrationRow × String × RecordRequest) := do
  let integration ← tables.cloudflareIntegration organizationId
  cloudflareClient env integration
  let name ← hostnameOf env.toApiEnv ((← property (some body) "name").getD .null)
  match name.filter fun name =>
    match hostname env (orText integration.config.managedDomain env.baseDomain) with
    | some domain => Managed.inDomain domain name
    -- The template makes a text of `null`.
    | none => ".null".toList.isSuffixOf name.toList with
  | none => .error {
      message := "O registro precisa pertencer à zona Cloudflare configurada."
      statusCode := some 422
      code := some "DNS_NAME_OUTSIDE_ZONE" }
  | some name =>
    let zoneId ← recordZoneId env integration.config reply
    let type ← textOr env.host (body.get? "type") "CNAME"
    let content ← textOr env.host (body.get? "content") ""
    return (integration, zoneId,
      { type := env.host.toUpperCase type
        name := name
        content := .str content
        proxied := truthy (body.get? "proxied")
        ttl := orDefault (body.get? "ttl") (.num 1)
        comment := "Managed by Tunnara" })

/-- A tunnel refers to the row. -/
def Referred (key : String) : Prop :=
  ∃ id tunnel, tables.tunnels.get? id = some tunnel ∧ tunnel.dnsRecordId = some key

/-- The row that the tunnel refers to is there, of the same organization, and refers to the
tunnel. -/
def LinkedAt (id : String) : Prop :=
  ∀ tunnel key, tables.tunnels.get? id = some tunnel → tunnel.dnsRecordId = some key →
    ∃ row, tables.dnsRecords.get? key = some row ∧
      row.organizationId = tunnel.organizationId ∧ row.tunnelId = some id

def Linked : Prop := ∀ id, tables.LinkedAt id

/-- The row of the record's name and type, if there is one, is not the row of a tunnel. It
matters when the provider takes the record. -/
def TakesNone (replies : Replies) (request : RecordRequest) : Prop :=
  replies.list = .answered → replies.write = .answered → ∀ name record key,
    dnsName env request.name = some name → recordBody env request name = .ok record →
    tables.dnsRecordKey organizationId record.name record.type = some key → ¬ tables.Referred key

end

/-- No tunnel and no row is new. -/
structure AddsNothing (before after : DnsTables) : Prop where
  tunnels : ∀ id, (after.tunnels.get? id).isSome → (before.tunnels.get? id).isSome
  dnsRecords : ∀ key, (after.dnsRecords.get? key).isSome → (before.dnsRecords.get? key).isSome

end DnsTables

/-- The requests of one organization on its tunnels and its records. -/
inductive BookRequest
  | tunnels (request : DnsRequest)
  | postRecord (rowId : String) (replies : Replies) (body : Json)
  | deleteRecord (id : String) (reply : Reply)

namespace Managed

section

variable (env : DnsEnv) (organizationId : String) (state : Managed)

/-- The answer of `POST /api/v1/tunnels`. -/
def postAnswer (principal : Principal) (draws : TunnelDraws) (rowId : String) (replies : Replies)
    (body : Json) : Except JsError Unit :=
  (state.tables.postTunnel env principal draws body).bind fun tables =>
    match tables.tunnels.get? draws.tunnelId with
    | none => .ok ()
    | some tunnel =>
      if wantsDns env tunnel.protocol body then
        (tables.recordDns organizationId draws.tunnelId rowId
          (tables.ensureManagedDns env state.zones organizationId tunnel (dnsOf body)
            replies).2).2.map fun _ => ()
      else .ok ()

/-- `POST /api/v1/dns/records`. -/
def postRecord (rowId : String) (replies : Replies) (body : Json) : Managed × Except JsError Unit :=
  match state.tables.requestedRecord env organizationId body replies.zone with
  | .error error => (state, .error error)
  | .ok (integration, zoneId, request) =>
    let ensured := ensureRecord env state.zones zoneId request replies
    match ensured.2.bind fun found =>
      state.tables.saveDnsRecord organizationId none rowId
        ⟨integration.id, zoneId, found.1, found.2.type, found.2.name, found.2.content,
          found.2.proxied, found.2.ttl⟩ with
    | .error error => (⟨state.tables, ensured.1⟩, .error error)
    | .ok (_, tables) => (⟨tables, ensured.1⟩, .ok ())

/-- `DELETE /api/v1/dns/records/:id`; a record that is not there is answered with `404`. -/
def deleteRecord (id : String) (reply : Reply) : Managed :=
  match state.tables.getDnsRecord organizationId id with
  | none => state
  | some _ =>
    let removed := state.tables.deleteManagedDns env state.zones organizationId id reply
    match removed.2 with
    | .error _ => ⟨state.tables, removed.1⟩
    | .ok tables => ⟨tables, removed.1⟩

/-- The provider has the record that the row lists. -/
def Provided (row : DnsRow) : Prop :=
  (state.zones.get? (row.zoneId.getD "", row.providerRecordId.getD "")).isSome

/-- `#deleteManagedDns` erases the row. -/
def Removable (row : DnsRow) (reply : Reply) : Prop :=
  ∀ integration, state.tables.managesRecord organizationId row = some integration →
    cloudflareClient env integration = .ok () ∧ reply = .answered ∧ state.Provided row

end

variable (env : DnsEnv) (state : Managed)

/-- A request of an organization. -/
def bookStep : String × BookRequest → Managed
  | (organizationId, .tunnels request) => state.step env organizationId request
  | (organizationId, .postRecord rowId replies body) =>
    (state.postRecord env organizationId rowId replies body).1
  | (organizationId, .deleteRecord id reply) => state.deleteRecord env organizationId id reply

/-- A `POST` is answered with an error. -/
def FailedPost : String × BookRequest → Prop
  | (organizationId, .tunnels (.post caller draws rowId replies body)) =>
    ∃ error, state.postAnswer env organizationId (principalOf organizationId caller) draws rowId
      replies body = .error error
  | (organizationId, .postRecord rowId replies body) =>
    ∃ error, (state.postRecord env organizationId rowId replies body).2 = .error error
  | _ => False

/-- The tunnel may be deleted, and the provider has no record of it. -/
def DeletesUnprovided (id : String) : String × BookRequest → Prop
  | (organizationId, .tunnels (.delete caller named _)) =>
    id = named ∧ ∃ tunnel,
      state.tables.deletableTunnel (principalOf organizationId caller) id = some tunnel ∧
      ∀ key row, tunnel.dnsRecordId = some key →
        state.tables.getDnsRecord organizationId key = some row → ¬ state.Provided row
  | _ => False

structure KeepsBooks (request : String × BookRequest) : Prop where
  linked : (state.bookStep env request).tables.Linked
  failed : state.FailedPost env request →
    AddsNothing state.tables (state.bookStep env request).tables
  removed : ∀ id, state.DeletesUnprovided id request →
    (state.bookStep env request).tables.tunnels.get? id = none

/-- No record is written over or removed whose row a tunnel refers to, and the record of a
deleted tunnel is still with the provider that manages it. -/
def MindsTunnels : String × BookRequest → Prop
  | (organizationId, .tunnels (.post caller draws _ replies body)) =>
    ∀ tables tunnel, state.tables.postTunnel env (principalOf organizationId caller) draws body =
        .ok tables → tables.tunnels.get? draws.tunnelId = some tunnel →
      wantsDns env tunnel.protocol body = true → ∀ integration zoneId request,
      tables.managedRecord env organizationId tunnel (dnsOf body) replies.zone =
        .ok (integration, zoneId, request) → tables.TakesNone env organizationId replies request
  | (organizationId, .tunnels (.delete caller id _)) =>
    ∀ tunnel, state.tables.deletableTunnel (principalOf organizationId caller) id = some tunnel →
      ∀ key, tunnel.dnsRecordId = some key → ∀ row,
        state.tables.getDnsRecord organizationId key = some row → ∀ integration,
        state.tables.managesRecord organizationId row = some integration → state.Provided row
  | (organizationId, .postRecord _ replies body) =>
    ∀ integration zoneId request,
      state.tables.requestedRecord env organizationId body replies.zone =
        .ok (integration, zoneId, request) →
      state.tables.TakesNone env organizationId replies request
  | (organizationId, .deleteRecord id reply) =>
    ∀ row, state.tables.getDnsRecord organizationId id = some row →
      state.Removable env organizationId row reply → ¬ state.tables.Referred id

end Managed

/-! ## The provider's record -/

variable {base : TunnelTables} {reply : Reply}

namespace DnsTables

variable {env : DnsEnv} {tables next : DnsTables} {zones : Zones}
  {organizationId key id zoneId : String} {row : DnsRow} {tunnel : TunnelRecord}
  {request : RecordRequest} {replies : Replies} {found : String × ProviderRecord}

theorem dnsName_ne_empty {name taken : String} (h : dnsName env name = some taken) :
    taken ≠ "" := by
  unfold dnsName at h
  dsimp only at h
  split_ifs at h
  · obtain ⟨base, -, rfl⟩ := Option.map_eq_some_iff.1 h
    intro hempty
    have hlength := congrArg String.length hempty
    simp at hlength
  · exact hostname_ne_empty h

theorem ensureRecord_eq_ok (h : (ensureRecord env zones zoneId request replies).2 = .ok found) :
    replies.list = .answered ∧ replies.write = .answered ∧ ∃ name,
      dnsName env request.name = some name ∧ recordBody env request name = .ok found.2 := by
  unfold ensureRecord at h
  cases hname : dnsName env request.name with
  | none =>
    rw [hname] at h
    cases h
  | some name =>
    rw [hname] at h
    dsimp only at h
    by_cases hlist : replies.list ≠ .answered
    · rw [if_pos hlist] at h
      cases h
    rw [if_neg hlist] at h
    cases hbody : recordBody env request name with
    | error error =>
      rw [hbody] at h
      cases h
    | ok record =>
      rw [hbody] at h
      cases hreply : replies.write with
      | refused | lost =>
        rw [hreply] at h
        cases h
      | answered =>
        rw [hreply] at h
        cases h
        exact ⟨not_not.1 hlist, rfl, name, rfl, hbody⟩

theorem ensureManagedDns_eq_ok {requested : Json} {input : DnsInput}
    (h : (tables.ensureManagedDns env zones organizationId tunnel requested replies).2 =
      .ok input) :
    ∃ integration zoneId request found,
      tables.managedRecord env organizationId tunnel requested replies.zone =
        .ok (integration, zoneId, request) ∧
      (ensureRecord env zones zoneId request replies).2 = .ok found ∧
      input.name = found.2.name ∧ input.type = found.2.type := by
  unfold ensureManagedDns at h
  cases hplan : tables.managedRecord env organizationId tunnel requested replies.zone with
  | error error =>
    rw [hplan] at h
    cases h
  | ok plan =>
    obtain ⟨integration, zoneId, request⟩ := plan
    rw [hplan] at h
    obtain ⟨found, hfound, rfl⟩ := map_eq_ok.1 h
    obtain ⟨-, -, name, hname, hbody⟩ := ensureRecord_eq_ok hfound
    refine ⟨integration, zoneId, request, found, rfl, hfound, if_neg ?_, rfl⟩
    rw [(recordBody_eq_ok hbody).2]
    exact dnsName_ne_empty hname

/-! ## Links -/

section

variable (h : tables.Linked)
include h

theorem Linked.of_rows (htunnels : next.tunnels = tables.tunnels)
    (hrows : ∀ key, tables.Referred key → next.dnsRecords.get? key = tables.dnsRecords.get? key) :
    next.Linked := by
  intro id tunnel key htunnel hnamed
  rw [htunnels] at htunnel
  obtain ⟨row, hrow, howner, hof⟩ := h id tunnel key htunnel hnamed
  exact ⟨row, (hrows key ⟨id, tunnel, htunnel, hnamed⟩).trans hrow, howner, hof⟩

theorem Linked.setRow (hfree : ¬ tables.Referred key) :
    Linked { tables with dnsRecords := tables.dnsRecords.set key row } := by
  refine h.of_rows rfl fun other hnamed => ?_
  apply get?_set_of_ne
  rintro rfl
  exact hfree hnamed

theorem Linked.eraseRow (hfree : ¬ tables.Referred key) :
    Linked { tables with dnsRecords := tables.dnsRecords.erase key } := by
  refine h.of_rows rfl fun other hnamed => ?_
  apply get?_erase_of_ne
  rintro rfl
  exact hfree hnamed

theorem Linked.addTunnel (hdns : tunnel.dnsRecordId = none)
    (hset : base.tunnels = tables.tunnels.set id tunnel) :
    Linked { tables with toTunnelTables := base } := by
  intro other found key hfound hnamed
  have hget : base.tunnels.get? other = some found := hfound
  rw [hset, get?_set] at hget
  split at hget
  · cases hget
    rw [hdns] at hnamed
    cases hnamed
  · exact h other found key hget hnamed

theorem Linked.eraseOwn {other : String} (htunnel : tables.tunnels.get? id = some tunnel)
    (hkey : tunnel.dnsRecordId = some key) (hne : other ≠ id) :
    LinkedAt { tables with dnsRecords := tables.dnsRecords.erase key } other := by
  intro found named hfound hnamed
  obtain ⟨row, hrow, howner, hof⟩ := h other found named hfound hnamed
  refine ⟨row, (get?_erase_of_ne _ ?_).trans hrow, howner, hof⟩
  rintro rfl
  obtain ⟨line, hline, -, hback⟩ := h id tunnel named htunnel hkey
  rw [hrow] at hline
  cases hline
  rw [hof] at hback
  exact hne (Option.some.inj hback)

theorem Linked.giveRow (htunnel : tables.tunnels.get? id = some tunnel)
    (howner : row.organizationId = tunnel.organizationId) (hof : row.tunnelId = some id)
    (hfree : ¬ tables.Referred key) :
    Linked (({ tables with dnsRecords := tables.dnsRecords.set key row } :
      DnsTables).setTunnelDnsRecord id key) := by
  intro other found named hfound hnamed
  have hget : (tables.tunnels.update id fun tunnel =>
      { tunnel with dnsRecordId := some key }).get? other = some found := hfound
  by_cases hsame : other = id
  · subst hsame
    rw [get?_update_self, htunnel] at hget
    cases hget
    cases hnamed
    exact ⟨row, get?_set_self _ _ _, howner, hof⟩
  · rw [get?_update_of_ne _ hsame] at hget
    exact h.setRow hfree other found named hget hnamed

omit h in
theorem linked_deleteTunnel (h : ∀ other, other ≠ id → tables.LinkedAt other)
    (hdelete : tables.deleteTunnel organizationId id none = some next) : next.Linked := by
  obtain ⟨-, rfl⟩ := deleteTunnel_eq_some hdelete
  intro other found key hfound hnamed
  obtain ⟨hne, hold⟩ := get?_of_get?_erase hfound
  obtain ⟨row, hrow, howner, hof⟩ := h other hne found key hold hnamed
  refine ⟨row, ?_, howner, hof⟩
  rw [get?_mapVals, hrow]
  apply congrArg some (if_neg _)
  rw [hof]
  exact fun heq => hne (Option.some.inj heq)

theorem not_referred_saved {tunnelId : Option String} {input : DnsInput}
    (htakes : tables.TakesNone env organizationId replies request)
    (hensured : (ensureRecord env zones zoneId request replies).2 = .ok found)
    (hname : input.name = found.2.name) (htype : input.type = found.2.type)
    (hsave : tables.saveDnsRecord organizationId tunnelId id input = .ok (key, next)) :
    ¬ tables.Referred key := by
  rcases (saveDnsRecord_eq_ok hsave).1 with ⟨rfl, hnew⟩ | ⟨hkey, -⟩
  · rintro ⟨other, tunnel, htunnel, hnamed⟩
    obtain ⟨row, hrow, -⟩ := h other tunnel key htunnel hnamed
    rw [hnew] at hrow
    cases hrow
  · obtain ⟨hlist, hwrite, name, hdns, hbody⟩ := ensureRecord_eq_ok hensured
    rw [hname, htype] at hkey
    exact htakes hlist hwrite name found.2 key hdns hbody hkey

end

theorem removable_of_deleted (hrow : tables.getDnsRecord organizationId id = some row)
    (h : (tables.deleteManagedDns env zones organizationId id reply).2 = .ok next) :
    Managed.Removable env organizationId ⟨tables, zones⟩ row reply := by
  unfold deleteManagedDns at h
  rw [hrow] at h
  obtain ⟨_, hremoved, -⟩ := map_eq_ok.1 h
  intro integration hmanaged
  rw [hmanaged] at hremoved
  dsimp only at hremoved
  cases hclient : cloudflareClient env integration with
  | error error =>
    rw [hclient] at hremoved
    cases hremoved
  | ok _ =>
    rw [hclient] at hremoved
    cases reply with
    | refused | lost => cases hremoved
    | answered =>
      dsimp only [deleteRecord] at hremoved
      split_ifs at hremoved with hnone
      exact ⟨rfl, rfl, Option.isSome_iff_ne_none.2 fun heq => hnone (by rw [heq]; rfl)⟩

theorem AddsNothing.refl (tables : DnsTables) : AddsNothing tables tables :=
  ⟨fun _ h => h, fun _ h => h⟩

theorem addsNothing_deleteTunnel (hset : base.tunnels = tables.tunnels.set id tunnel)
    (hdelete : ({ tables with toTunnelTables := base } : DnsTables).deleteTunnel organizationId id
      none = some next) : AddsNothing tables next := by
  obtain ⟨-, rfl⟩ := deleteTunnel_eq_some hdelete
  constructor
  · intro other hother
    obtain ⟨found, hfound⟩ := Option.isSome_iff_exists.1 hother
    obtain ⟨hne, hold⟩ := get?_of_get?_erase hfound
    have hget : base.tunnels.get? other = some found := hold
    rw [hset, get?_set_of_ne _ hne] at hget
    rw [hget]
    rfl
  · intro key hkey
    have hmapped : ((tables.dnsRecords.mapVals fun _ row =>
        if row.tunnelId = some id then { row with tunnelId := none } else row).get? key).isSome :=
      hkey
    rw [get?_mapVals] at hmapped
    simpa using hmapped

end DnsTables

/-! ## The requests -/

namespace Managed

variable {env : DnsEnv} {organizationId : String} {state : Managed}

theorem books_recordDns {tunnel : TunnelRecord} {id : String} {rowId : String} {requested : Json}
    {replies : Replies} {tables : DnsTables} (h : tables.Linked)
    (htables : { state.tables with toTunnelTables := base } = tables)
    (hset : base.tunnels = state.tables.tunnels.set id tunnel)
    (howner : tunnel.organizationId = organizationId) (htakes : ∀ integration zoneId request,
      tables.managedRecord env organizationId tunnel requested replies.zone =
        .ok (integration, zoneId, request) →
      tables.TakesNone env organizationId replies request) {ensured : Except JsError DnsInput}
    (hensured : (tables.ensureManagedDns env state.zones organizationId tunnel requested
      replies).2 = ensured) :
    (tables.recordDns organizationId id rowId ensured).1.Linked ∧
      ∀ error, (tables.recordDns organizationId id rowId ensured).2 = .error error →
        AddsNothing state.tables (tables.recordDns organizationId id rowId ensured).1 := by
  have hget : tables.tunnels.get? id = some tunnel := by
    subst htables
    exact (congrArg (fun tunnels => tunnels.get? id) hset).trans (get?_set_self _ _ _)
  unfold recordDns
  cases hsaved : ensured.bind (tables.saveDnsRecord organizationId (some id) rowId) with
  | error error =>
    obtain ⟨next, hdelete⟩ := exists_deleteTunnel hget howner
    rw [hdelete]
    refine ⟨linked_deleteTunnel (fun other _ => h other) hdelete, fun _ _ => ?_⟩
    subst htables
    exact addsNothing_deleteTunnel hset hdelete
  | ok saved =>
    obtain ⟨key, next⟩ := saved
    obtain ⟨input, hinput, hsave⟩ := bind_eq_ok.1 hsaved
    rw [hinput] at hensured
    obtain ⟨integration, zoneId, request, found, hplan, hfound, hname, htype⟩ :=
      ensureManagedDns_eq_ok hensured
    have hfree := not_referred_saved h (htakes integration zoneId request hplan) hfound hname
      htype hsave
    obtain ⟨-, row, hrowOwner, hof, -, -, -, rfl⟩ := saveDnsRecord_eq_ok hsave
    exact ⟨h.giveRow hget (hrowOwner.trans howner.symm) hof hfree, nofun⟩

theorem keepsBooks_postTunnel {caller : Option String} {draws : TunnelDraws} {rowId : String}
    {replies : Replies} {body : Json} (h : state.tables.Linked) (hminds : state.MindsTunnels env
      (organizationId, .tunnels (.post caller draws rowId replies body))) :
    state.KeepsBooks env (organizationId, .tunnels (.post caller draws rowId replies body)) := by
  have hbooks : (state.post env organizationId (principalOf organizationId caller) draws rowId
        replies body).tables.Linked ∧
      ((∃ error, state.postAnswer env organizationId (principalOf organizationId caller) draws
          rowId replies body = .error error) →
        AddsNothing state.tables (state.post env organizationId
          (principalOf organizationId caller) draws rowId replies body).tables) := by
    unfold post postAnswer
    cases hpost : state.tables.postTunnel env (principalOf organizationId caller) draws body with
    | error error => exact ⟨h, fun _ => .refl _⟩
    | ok tables =>
      obtain ⟨base, hbase, htables⟩ := map_eq_ok.1 hpost
      obtain ⟨-, -, -, -, -, tunnel, howner, hdns, -, -, hset, -, -⟩ := postTunnel_eq_ok hbase
      have hlinked : tables.Linked := by
        rw [← htables]
        exact h.addTunnel hdns hset
      have hget : tables.tunnels.get? draws.tunnelId = some tunnel := by
        rw [← htables]
        exact (congrArg (fun tunnels => tunnels.get? draws.tunnelId) hset).trans
          (get?_set_self _ _ _)
      have hmine : tunnel.organizationId = organizationId := by
        rw [howner]
        cases caller <;> rfl
      dsimp only [Except.bind]
      rw [hget]
      dsimp only
      by_cases hwants : wantsDns env tunnel.protocol body = true
      · rw [if_pos hwants, if_pos hwants]
        obtain ⟨hnext, hfailed⟩ := books_recordDns hlinked htables hset hmine
          (hminds tables tunnel hpost hget hwants) rfl
        refine ⟨hnext, ?_⟩
        rintro ⟨error, herror⟩
        cases hanswer : (tables.recordDns organizationId draws.tunnelId rowId
            (tables.ensureManagedDns env state.zones organizationId tunnel (dnsOf body)
              replies).2).2 with
        | error failure => exact hfailed failure hanswer
        | ok key =>
          rw [hanswer] at herror
          cases herror
      · rw [if_neg hwants, if_neg hwants]
        refine ⟨hlinked, ?_⟩
        rintro ⟨error, herror⟩
        cases herror
  exact ⟨hbooks.1, hbooks.2, nofun⟩

section

variable (h : state.tables.Linked)
include h

theorem keepsBooks_deleteTunnel {caller : Option String} {id : String}
    (hminds : state.MindsTunnels env (organizationId, .tunnels (.delete caller id reply))) :
    state.KeepsBooks env (organizationId, .tunnels (.delete caller id reply)) := by
  have hbooks : (state.delete env organizationId (principalOf organizationId caller) id
        reply).tables.Linked ∧
      ∀ other, state.DeletesUnprovided other
          (organizationId, .tunnels (.delete caller id reply)) →
        (state.delete env organizationId (principalOf organizationId caller) id
          reply).tables.tunnels.get? other = none := by
    unfold delete
    cases hfound : state.tables.deletableTunnel (principalOf organizationId caller) id with
    | none =>
      refine ⟨h, ?_⟩
      rintro other ⟨rfl, tunnel, htunnel, -⟩
      rw [hfound] at htunnel
      cases htunnel
    | some tunnel =>
      obtain ⟨hget, howner⟩ := deletableTunnel_eq_some hfound
      have hmine : tunnel.organizationId = organizationId := by
        rw [howner]
        cases caller <;> rfl
      have hdeleted : ∀ (tables : DnsTables), tables.tunnels.get? id = some tunnel →
          (∀ other, other ≠ id → tables.LinkedAt other) →
          ((tables.deleteTunnel organizationId id none).getD tables).Linked ∧
            ∀ other, state.DeletesUnprovided other
                (organizationId, .tunnels (.delete caller id reply)) →
              ((tables.deleteTunnel organizationId id none).getD tables).tunnels.get? other =
                none := by
        intro tables hhas hothers
        constructor
        · obtain ⟨next, hdelete⟩ := exists_deleteTunnel hhas hmine
          rw [hdelete]
          exact linked_deleteTunnel hothers hdelete
        · rintro other ⟨rfl, -⟩
          rw [tunnels_deleteTunnel hhas hmine]
          exact get?_erase_self _ _
      dsimp only
      by_cases hset : isSet tunnel.dnsRecordId = true
      · rw [if_pos hset]
        obtain ⟨key, hkey⟩ : ∃ key, tunnel.dnsRecordId = some key := ⟨_, eq_some_of_isSet hset⟩
        rw [hkey, Option.getD_some]
        cases hrow : state.tables.getDnsRecord organizationId key with
        | none =>
          have hsame : state.tables.deleteManagedDns env state.zones organizationId key reply =
              (state.zones, .ok state.tables) := by
            unfold deleteManagedDns
            rw [hrow]
          rw [hsame]
          exact hdeleted _ hget fun other _ => h other
        | some row =>
          cases hresult : (state.tables.deleteManagedDns env state.zones organizationId key
              reply).2 with
          | error error =>
            refine ⟨h, ?_⟩
            rintro other ⟨rfl, found, hagain, hgone⟩
            rw [hfound] at hagain
            cases hagain
            -- Only a call of the provider can throw, and the provider has the record.
            have hmanaged : state.tables.managesRecord organizationId row = none := by
              by_contra hsome
              obtain ⟨integration, hmanages⟩ := Option.ne_none_iff_exists'.1 hsome
              exact hgone key row hkey hrow
                (hminds tunnel hfound key hkey row hrow integration hmanages)
            unfold deleteManagedDns at hresult
            rw [hrow] at hresult
            dsimp only at hresult
            rw [hmanaged] at hresult
            cases hresult
          | ok next =>
            rcases deleteManagedDns_cases.2 next hresult with ⟨hnone, -⟩ | rfl
            · rw [hrow] at hnone
              cases hnone
            · exact hdeleted _ hget fun other hne => h.eraseOwn hget hkey hne
      · rw [if_neg hset]
        exact hdeleted _ hget fun other _ => h other
  exact ⟨hbooks.1, nofun, hbooks.2⟩

theorem keepsBooks_postRecord {rowId : String} {replies : Replies} {body : Json}
    (hminds : state.MindsTunnels env (organizationId, .postRecord rowId replies body)) :
    state.KeepsBooks env (organizationId, .postRecord rowId replies body) := by
  have hbooks : (state.postRecord env organizationId rowId replies body).1.tables.Linked ∧
      ((∃ error, (state.postRecord env organizationId rowId replies body).2 = .error error) →
        AddsNothing state.tables
          (state.postRecord env organizationId rowId replies body).1.tables) := by
    unfold postRecord
    cases hplan : state.tables.requestedRecord env organizationId body replies.zone with
    | error error => exact ⟨h, fun _ => .refl _⟩
    | ok plan =>
      obtain ⟨integration, zoneId, request⟩ := plan
      dsimp only
      split
      · exact ⟨h, fun _ => .refl _⟩
      · rename_i key next hsaved
        obtain ⟨found, hfound, hsave⟩ := bind_eq_ok.1 hsaved
        have hfree := not_referred_saved h (hminds integration zoneId request hplan) hfound rfl
          rfl hsave
        obtain ⟨-, row, -, -, -, -, -, rfl⟩ := saveDnsRecord_eq_ok hsave
        refine ⟨h.setRow hfree, ?_⟩
        rintro ⟨error, herror⟩
        cases herror
  exact ⟨hbooks.1, hbooks.2, nofun⟩

theorem keepsBooks_deleteRecord {id : String}
    (hminds : state.MindsTunnels env (organizationId, .deleteRecord id reply)) :
    state.KeepsBooks env (organizationId, .deleteRecord id reply) := by
  have hlinked : (state.deleteRecord env organizationId id reply).tables.Linked := by
    unfold deleteRecord
    cases hrow : state.tables.getDnsRecord organizationId id with
    | none => exact h
    | some row =>
      dsimp only
      cases hresult : (state.tables.deleteManagedDns env state.zones organizationId id
          reply).2 with
      | error error => exact h
      | ok next =>
        have hfree := hminds row hrow (removable_of_deleted hrow hresult)
        rcases deleteManagedDns_cases.2 next hresult with ⟨-, rfl⟩ | rfl
        · exact h
        · exact h.eraseRow hfree
  exact ⟨hlinked, nofun, nofun⟩

theorem keepsBooks_step {request : String × BookRequest}
    (hminds : state.MindsTunnels env request) : state.KeepsBooks env request := by
  obtain ⟨organizationId, request⟩ := request
  cases request with
  | tunnels request =>
    cases request with
    | post caller draws rowId replies body => exact keepsBooks_postTunnel h hminds
    | delete caller id reply => exact keepsBooks_deleteTunnel h hminds
  | postRecord rowId replies body => exact keepsBooks_postRecord h hminds
  | deleteRecord id reply => exact keepsBooks_deleteRecord h hminds

end

/-- **Along every run** that minds the tunnels' records, whatever the provider answers,
every request keeps the books. -/
theorem keepsBooks_run {start : Managed} (hstart : start.tables.Linked)
    {requests : List (String × BookRequest)}
    (hguard : Along (bookStep env) (MindsTunnels env) start requests) :
    Along (bookStep env) (KeepsBooks env) start requests :=
  hguard.of_invariant (fun _ _ h hminds =>
    have hkeeps := keepsBooks_step h hminds
    ⟨hkeeps, hkeeps.linked⟩) hstart

def orphaned : List (String × BookRequest) :=
  [("o1", .tunnels (dnsTunnel "app.tunnara.test")), ("o1", .deleteRecord "d9" .answered)]

theorem linked_bootstrapped : bootstrapped.tables.Linked :=
  fun _ _ _ htunnel => nomatch htunnel

theorem not_keepsBooks_orphaned : ¬ ∀ start : Managed, start.tables.Linked → ∀ requests,
    Along (bookStep .plain) (KeepsBooks .plain) start requests := by
  intro h
  obtain ⟨-, hdeleted, -⟩ := h bootstrapped linked_bootstrapped orphaned
  have htunnel : ((run (bookStep .plain) bootstrapped orphaned).tables.tunnels.get? "t1").map
      (·.dnsRecordId) = some (some "d9") := by decide +kernel
  obtain ⟨tunnel, hget, hnamed⟩ := Option.map_eq_some_iff.1 htunnel
  obtain ⟨row, hrow, -⟩ := hdeleted.linked "t1" tunnel "d9" hget hnamed
  have hnone : (run (bookStep .plain) bootstrapped orphaned).tables.dnsRecords.get? "d9" =
      none := by decide +kernel
  exact Option.some_ne_none row (hrow.symm.trans hnone)

def separate : List (String × BookRequest) :=
  [("o1", .tunnels (dnsTunnel "app.tunnara.test")),
    ("o1", .postRecord "d8" (answering "r8")
      (.obj [("name", .str "mail.tunnara.test"), ("content", .str "edge.tunnara.test")])),
    ("o1", .deleteRecord "d8" .answered), ("o1", .tunnels (.delete none "t1" .answered))]

theorem mindsTunnels_separate : Along (bookStep .plain) (MindsTunnels .plain) bootstrapped
    separate := by
  refine ⟨?first, ?second, ?third, ?fourth, trivial⟩
  case first =>
    intro tables tunnel hpost _ _ integration zoneId request _ _ _ name record key _ _ _
    obtain ⟨base, hbase, rfl⟩ := map_eq_ok.1 hpost
    obtain ⟨-, -, -, -, -, created, -, hdns, -, -, hset, -, -⟩ := postTunnel_eq_ok hbase
    rintro ⟨id, found, hfound, hnamed⟩
    have hget : base.tunnels.get? id = some found := hfound
    rw [hset, get?_set] at hget
    split at hget
    · cases hget
      rw [hdns] at hnamed
      cases hnamed
    · cases hget
  case second =>
    intro integration zoneId request hplan _ _ name record key hname hbody hkey
    cases hplan
    obtain ⟨htype, hrecord⟩ := recordBody_eq_ok hbody
    have hsame : some "mail.tunnara.test" = some name := by
      rw [← hname]
      decide +kernel
    cases hsame
    rw [hrecord, htype] at hkey
    have hnone : (run (bookStep .plain) bootstrapped (separate.take 1)).tables.dnsRecordKey "o1"
        "mail.tunnara.test" "CNAME" = none := by decide +kernel
    cases hnone.symm.trans hkey
  case third =>
    rintro row - - ⟨id, tunnel, hget, hnamed⟩
    have hother : ∀ e ∈
        (run (bookStep .plain) bootstrapped (separate.take 2)).tables.tunnels.entries,
        e.2.dnsRecordId ≠ some "d8" := by decide +kernel
    exact hother (id, tunnel) (get?_eq_some_iff.1 hget) hnamed
  case fourth =>
    unfold MindsTunnels Provided
    decide +kernel

theorem keepsBooks_run_separate :
    bootstrapped.tables.Linked ∧
      Along (bookStep .plain) (MindsTunnels .plain) bootstrapped separate ∧
      Along (bookStep .plain) (KeepsBooks .plain) bootstrapped separate :=
  ⟨linked_bootstrapped, mindsTunnels_separate,
    keepsBooks_run linked_bootstrapped mindsTunnels_separate⟩

end Managed

end Tunnara.Control
