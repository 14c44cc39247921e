/-
# What the tunnel endpoints write with managed DNS

The inversion lemmas of `ManagedDns`: which record of a zone a call can have touched,
which row a saved record is in, and what a deletion leaves.
-/

import Tunnara.Control.ManagedDns

namespace Tunnara.Control

open Policy TunnelTables

variable {name id : String} {body : Json} {tunnel : TunnelRecord}

section

variable {env : ApiEnv} {tables next : TunnelTables}

theorem hostname_ne_empty {host : Host} {value : Option HeaderValue}
    (h : Edge.normalizeHostname host value = some name) : name ≠ "" := by
  unfold Edge.normalizeHostname at h
  dsimp only at h
  split_ifs at h with hrefused
  cases h
  intro hempty
  apply hrefused
  left
  have hlist := congrArg String.toList hempty
  rw [String.toList_ofList] at hlist
  exact hlist

theorem hostnameOf_ne_empty {v : Json} (h : hostnameOf env v = .ok (some name)) : name ≠ "" := by
  unfold hostnameOf at h
  split at h
  · cases h
  · obtain ⟨text, -, htext⟩ := map_eq_ok.1 h
    exact hostname_ne_empty htext

theorem requestedHostname_ne_empty (h : requestedHostname env body = .ok (some name)) :
    name ≠ "" := by
  unfold requestedHostname at h
  split_ifs at h
  · exact hostnameOf_ne_empty h
  · cases h

theorem hostnameFor_ne_empty {protocol label : String}
    (h : hostnameFor env protocol label body = .ok name) : name ≠ "" := by
  obtain ⟨requested, hrequested, h⟩ := bind_eq_ok.1 h
  cases requested with
  | some hostname =>
    cases h
    exact requestedHostname_ne_empty hrequested
  | none =>
    split_ifs at h
    · cases h
      intro hempty
      have hlength := congrArg String.length hempty
      simp at hlength
    · cases h
      intro hempty
      have hlength := congrArg String.length hempty
      simp at hlength

theorem postTunnel_eq_ok {principal : Principal} {draws : TunnelDraws}
    (h : postTunnel env tables principal draws body = .ok next) :
    ∃ protocol hostname, protocolOf env body = .ok protocol ∧
      hostnameFor env protocol draws.label body = .ok hostname ∧
      tables.tunnels.get? draws.tunnelId = none ∧ ∃ tunnel : TunnelRecord,
        tunnel.organizationId = principal.organizationId ∧ tunnel.dnsRecordId = none ∧
        tunnel.protocol = protocol ∧ tunnel.hostname = hostname ∧
        next.tunnels = tables.tunnels.set draws.tunnelId tunnel ∧
        next.agents = tables.agents ∧ next.policies = tables.policies := by
  obtain ⟨input, hinput, hcreate⟩ := bind_eq_ok.1 h
  obtain ⟨protocol, hprotocol, hinput⟩ := bind_eq_ok.1 hinput
  obtain ⟨port, -, hinput⟩ := bind_eq_ok.1 hinput
  obtain ⟨host, -, hinput⟩ := bind_eq_ok.1 hinput
  obtain ⟨agentId, -, hinput⟩ := bind_eq_ok.1 hinput
  obtain ⟨targets, -, hinput⟩ := bind_eq_ok.1 hinput
  obtain ⟨hostname, hhostname, hinput⟩ := bind_eq_ok.1 hinput
  obtain ⟨publicPort, -, hinput⟩ := bind_eq_ok.1 hinput
  obtain ⟨name, -, hinput⟩ := bind_eq_ok.1 hinput
  obtain ⟨_, -, hinput⟩ := bind_eq_ok.1 hinput
  obtain ⟨_, -, hinput⟩ := bind_eq_ok.1 hinput
  obtain ⟨_, -, hinput⟩ := bind_eq_ok.1 hinput
  cases hinput
  obtain ⟨-, -, inserted, hinsert, hadded⟩ := createTunnel_eq_ok hcreate
  obtain ⟨hnew, tunnel, howner, -, hdns, -, hof, hname, -, rfl⟩ := insertTunnel_eq_ok hinsert
  refine ⟨protocol, hostname, hprotocol, hhostname, hnew, tunnel, howner, hdns, hof, ?_,
    hadded.tunnels, hadded.agents, hadded.policies⟩
  rw [hname]
  exact if_neg (hostnameFor_ne_empty hhostname)

end

section

variable {env : DnsEnv} {zones : Zones} {zoneId : String} {request : RecordRequest}
  {replies : Replies}

theorem recordBody_eq_ok {record : ProviderRecord} (h : recordBody env request name = .ok record) :
    record.type = env.host.toUpperCase request.type ∧ record.name = name := by
  obtain ⟨ttl, -, h⟩ := bind_eq_ok.1 h
  split at h
  · cases h
    exact ⟨rfl, rfl⟩
  · cases h

/-- The id that `ensureRecord` writes to. -/
def ensuredId (env : DnsEnv) (zones : Zones) (zoneId type name : String) (replies : Replies) :
    String :=
  (firstRecord zones zoneId (listedName env name)
    (env.host.toUpperCase (env.host.toUpperCase type))).getD replies.recordId

theorem ensureRecord_cases :
    ((ensureRecord env zones zoneId request replies).1 = zones ∧
        ∃ error, (ensureRecord env zones zoneId request replies).2 = .error error) ∨
      ∃ name record, dnsName env request.name = some name ∧ record.name = name ∧
        (ensureRecord env zones zoneId request replies).1 =
          zones.set (zoneId, ensuredId env zones zoneId request.type name replies) record ∧
        ∀ found, (ensureRecord env zones zoneId request replies).2 = .ok found →
          found = (ensuredId env zones zoneId request.type name replies, record) := by
  unfold ensureRecord
  cases hname : dnsName env request.name with
  | none => exact .inl ⟨rfl, _, rfl⟩
  | some name =>
    dsimp only
    by_cases hlist : replies.list ≠ .answered
    · rw [if_pos hlist]
      exact .inl ⟨rfl, _, rfl⟩
    · rw [if_neg hlist]
      cases hbody : recordBody env request name with
      | error error => exact .inl ⟨rfl, _, rfl⟩
      | ok record =>
        obtain ⟨htype, hrecord⟩ := recordBody_eq_ok hbody
        dsimp only
        rw [htype]
        cases hreply : replies.write with
        | refused => exact .inl ⟨rfl, _, rfl⟩
        | lost => exact .inr ⟨name, record, rfl, hrecord, rfl, nofun⟩
        | answered =>
          refine .inr ⟨name, record, rfl, hrecord, rfl, ?_⟩
          rintro found ⟨⟩
          rfl

end

namespace DnsTables

variable {env : DnsEnv} {tables next : DnsTables} {zones : Zones} {organizationId : String}

theorem managedRecord_eq_ok {requested : Json} {reply : Reply} {integration : IntegrationRow}
    {zoneId : String} {request : RecordRequest}
    (h : tables.managedRecord env organizationId tunnel requested reply =
      .ok (integration, zoneId, request)) :
    tables.cloudflareIntegration organizationId = .ok integration ∧
      zoneIdOf env integration.config reply = .ok zoneId ∧ request.name = tunnel.hostname ∧
      ∃ target, targetOf env integration.config requested = .ok target ∧
        request.type = target.1 := by
  obtain ⟨found, hintegration, h⟩ := bind_eq_ok.1 h
  obtain ⟨_, -, h⟩ := bind_eq_ok.1 h
  obtain ⟨zone, hzone, h⟩ := bind_eq_ok.1 h
  obtain ⟨target, htarget, h⟩ := bind_eq_ok.1 h
  cases h
  exact ⟨hintegration, hzone, rfl, target, htarget, rfl⟩

/-- Where a tunnel's record goes: its name, its zone and its id there. -/
structure Placed (env : DnsEnv) (tables : DnsTables) (zones : Zones) (organizationId : String)
    (hostname : String) (requested : Json) (replies : Replies)
    (name zoneId recordId : String) : Prop where
  named : dnsName env hostname = some name
  place : ∃ integration target, tables.cloudflareIntegration organizationId = .ok integration ∧
    zoneIdOf env integration.config replies.zone = .ok zoneId ∧
    targetOf env integration.config requested = .ok target ∧
    recordId = ensuredId env zones zoneId target.1 name replies

theorem ensureManagedDns_cases {env : DnsEnv} {zones : Zones} {tunnel : TunnelRecord}
    {requested : Json} {replies : Replies} :
    ((tables.ensureManagedDns env zones organizationId tunnel requested replies).1 = zones ∧
        ∃ error, (tables.ensureManagedDns env zones organizationId tunnel requested replies).2 =
          .error error) ∨
      ∃ name zoneId recordId record,
        Placed env tables zones organizationId tunnel.hostname requested replies name zoneId
          recordId ∧ record.name = name ∧
        (tables.ensureManagedDns env zones organizationId tunnel requested replies).1 =
          zones.set (zoneId, recordId) record ∧
        ∀ input, (tables.ensureManagedDns env zones organizationId tunnel requested replies).2 =
          .ok input → input.zoneId = zoneId ∧ input.providerRecordId = recordId := by
  unfold ensureManagedDns
  cases hplan : tables.managedRecord env organizationId tunnel requested replies.zone with
  | error error => exact .inl ⟨rfl, error, rfl⟩
  | ok plan =>
    obtain ⟨integration, zoneId, request⟩ := plan
    obtain ⟨hintegration, hzone, hname, target, htarget, htype⟩ := managedRecord_eq_ok hplan
    dsimp only
    rcases @ensureRecord_cases env zones zoneId request replies with
      ⟨hsame, error, herror⟩ | ⟨name, record, hnamed, hrecord, hset, hfound⟩
    · rw [hsame, herror]
      exact .inl ⟨rfl, error, rfl⟩
    · rw [hname] at hnamed
      rw [htype] at hset hfound
      refine .inr ⟨name, zoneId, _, record, ⟨hnamed, integration, target, hintegration, hzone,
        htarget, rfl⟩, hrecord, hset, ?_⟩
      intro input hinput
      obtain ⟨found, hok, rfl⟩ := map_eq_ok.1 hinput
      rw [hfound found hok]
      exact ⟨rfl, rfl⟩

theorem saveDnsRecord_eq_ok {tunnelId : Option String} {key : String} {input : DnsInput}
    (h : tables.saveDnsRecord organizationId tunnelId id input = .ok (key, next)) :
    ((key = id ∧ tables.dnsRecords.get? id = none) ∨
        tables.dnsRecordKey organizationId input.name input.type = some key ∧
          ∃ row, tables.dnsRecords.get? key = some row ∧ row.organizationId = organizationId) ∧
      ∃ row : DnsRow, row.organizationId = organizationId ∧ row.tunnelId = tunnelId ∧
        row.zoneId = some input.zoneId ∧ row.providerRecordId = some input.providerRecordId ∧
        row.integrationId = some input.integrationId ∧
        next = { tables with dnsRecords := tables.dnsRecords.set key row } := by
  unfold saveDnsRecord at h
  by_cases hforeign : (tables.integrations.get? input.integrationId).isNone ∨
      tunnelId.any fun name => (tables.tunnels.get? name).isNone
  · rw [if_pos hforeign] at h
    cases h
  rw [if_neg hforeign] at h
  cases hkey : tables.dnsRecordKey organizationId input.name input.type with
  | some found =>
    rw [hkey] at h
    cases h
    refine ⟨.inr ⟨rfl, ?_⟩, ?row, ?owner, ?tunnel, ?zone, ?record, ?integration, ?next⟩
    case next => exact rfl
    case owner => exact rfl
    case tunnel => exact rfl
    case zone => exact rfl
    case record => exact rfl
    case integration => exact rfl
    obtain ⟨e, he, rfl⟩ := Option.map_eq_some_iff.1 hkey
    have howner := List.find?_some he
    exact ⟨e.2, OrdMap.get?_eq_some_iff.2 (List.mem_of_find?_eq_some he),
      (of_decide_eq_true howner).1⟩
  | none =>
    rw [hkey] at h
    split_ifs at h with hused
    cases h
    refine ⟨.inl ⟨rfl, Option.not_isSome_iff_eq_none.1 hused⟩, ?newRow, ?newOwner, ?newTunnel,
      ?newZone, ?newRecord, ?newIntegration, ?newNext⟩
    case newNext => exact rfl
    case newOwner => exact rfl
    case newTunnel => exact rfl
    case newZone => exact rfl
    case newRecord => exact rfl
    case newIntegration => exact rfl

theorem deleteTunnel_eq_some {agentId : Option String}
    (h : tables.deleteTunnel organizationId id agentId = some next) :
    (∃ tunnel, tables.tunnels.get? id = some tunnel ∧ tunnel.organizationId = organizationId) ∧
      next = { tables with
        toTunnelTables := tables.toTunnelTables.eraseTunnel id
        dnsRecords := tables.dnsRecords.mapVals fun _ row =>
          if row.tunnelId = some id then { row with tunnelId := none } else row } := by
  obtain ⟨erased, herased, rfl⟩ := Option.map_eq_some_iff.1 h
  obtain ⟨hfound, rfl⟩ := TunnelTables.deleteTunnel_eq_some herased
  exact ⟨hfound, rfl⟩

theorem exists_deleteTunnel (hget : tables.tunnels.get? id = some tunnel)
    (howner : tunnel.organizationId = organizationId) :
    ∃ next, tables.deleteTunnel organizationId id none = some next := by
  have herased : tables.toTunnelTables.deleteTunnel organizationId id none =
      some (tables.toTunnelTables.eraseTunnel id) := by
    unfold TunnelTables.deleteTunnel
    rw [hget]
    exact if_neg (by simp [howner])
  exact ⟨_, congrArg (Option.map _) herased⟩

theorem tunnels_deleteTunnel (hget : tables.tunnels.get? id = some tunnel)
    (howner : tunnel.organizationId = organizationId) :
    ((tables.deleteTunnel organizationId id none).getD tables).tunnels =
      tables.tunnels.erase id := by
  obtain ⟨next, hdelete⟩ := exists_deleteTunnel hget howner
  rw [hdelete]
  obtain ⟨-, rfl⟩ := deleteTunnel_eq_some hdelete
  rfl

theorem get?_forget (h : ∀ key row, tables.dnsRecords.get? key = some row → row.tunnelId ≠ some id)
    (key : String) :
    (tables.dnsRecords.mapVals fun _ row =>
      if row.tunnelId = some id then { row with tunnelId := none } else row).get? key =
      tables.dnsRecords.get? key := by
  rw [OrdMap.get?_mapVals]
  cases hrow : tables.dnsRecords.get? key with
  | none => rfl
  | some row => exact congrArg some (if_neg (h key row hrow))

theorem recordDns_cases {tunnelId rowId : String} {ensured : Except JsError DnsInput} :
    (∃ error, tables.recordDns organizationId tunnelId rowId ensured =
        ((tables.deleteTunnel organizationId tunnelId none).getD tables, .error error)) ∨
      ∃ key input row, tables.saveDnsRecord organizationId (some tunnelId) rowId input =
          .ok (key, { tables with dnsRecords := tables.dnsRecords.set key row }) ∧
        tables.recordDns organizationId tunnelId rowId ensured =
          (({ tables with dnsRecords := tables.dnsRecords.set key row } :
            DnsTables).setTunnelDnsRecord tunnelId key, .ok key) := by
  unfold recordDns
  cases hsaved : ensured.bind (tables.saveDnsRecord organizationId (some tunnelId) rowId) with
  | error error => exact .inl ⟨error, rfl⟩
  | ok saved =>
    obtain ⟨key, next⟩ := saved
    obtain ⟨input, -, hsave⟩ := bind_eq_ok.1 hsaved
    obtain ⟨-, row, -, -, -, -, -, rfl⟩ := saveDnsRecord_eq_ok hsave
    exact .inr ⟨key, input, row, hsave, rfl⟩

theorem getDnsRecord_eq_some {row : DnsRow} (h : tables.getDnsRecord organizationId id = some row) :
    tables.dnsRecords.get? id = some row ∧ row.organizationId = organizationId := by
  obtain ⟨hget, howner⟩ := Option.filter_eq_some_iff.1 h
  exact ⟨hget, of_decide_eq_true howner⟩

theorem getDnsRecord_of_owner {row : DnsRow} (hget : tables.dnsRecords.get? id = some row)
    (howner : row.organizationId = organizationId) :
    tables.getDnsRecord organizationId id = some row :=
  Option.filter_eq_some_iff.2 ⟨hget, decide_eq_true howner⟩

theorem deleteRecord_cases {zones : Zones} {zoneId recordId : String} {reply : Reply} :
    (deleteRecord zones zoneId recordId reply).1 = zones ∨
      (deleteRecord zones zoneId recordId reply).1 = zones.erase (zoneId, recordId) := by
  cases reply with
  | refused => exact .inl rfl
  | lost => exact .inr rfl
  | answered =>
    unfold deleteRecord
    split_ifs
    · exact .inl rfl
    · exact .inr rfl

theorem eq_some_of_isSet {text : Option String} (h : isSet text = true) :
    text = some (text.getD "") := by
  cases text with
  | none => cases h
  | some text => rfl

theorem deleteManagedDns_cases {env : DnsEnv} {zones : Zones} {dnsRecordId : String}
    {reply : Reply} :
    ((tables.deleteManagedDns env zones organizationId dnsRecordId reply).1 = zones ∨
        ∃ row zoneId recordId, tables.getDnsRecord organizationId dnsRecordId = some row ∧
          row.zoneId = some zoneId ∧ row.providerRecordId = some recordId ∧
          (tables.deleteManagedDns env zones organizationId dnsRecordId reply).1 =
            zones.erase (zoneId, recordId)) ∧
      ∀ next, (tables.deleteManagedDns env zones organizationId dnsRecordId reply).2 = .ok next →
        (tables.getDnsRecord organizationId dnsRecordId = none ∧ next = tables) ∨
          next = { tables with dnsRecords := tables.dnsRecords.erase dnsRecordId } := by
  unfold deleteManagedDns
  cases hrow : tables.getDnsRecord organizationId dnsRecordId with
  | none =>
    refine ⟨.inl rfl, ?_⟩
    rintro next ⟨⟩
    exact .inl ⟨rfl, rfl⟩
  | some row =>
    dsimp only
    constructor
    · cases hmanaged : tables.managesRecord organizationId row with
      | none => exact .inl rfl
      | some integration =>
        dsimp only
        cases cloudflareClient env integration with
        | error error => exact .inl rfl
        | ok _ =>
          unfold managesRecord at hmanaged
          split_ifs at hmanaged with hset
          rcases deleteRecord_cases with hsame | herased
          · exact .inl hsame
          · exact .inr ⟨row, _, _, rfl, eq_some_of_isSet hset.2.1,
              eq_some_of_isSet hset.2.2, herased⟩
    · intro next hnext
      obtain ⟨_, -, rfl⟩ := map_eq_ok.1 hnext
      exact .inr rfl

theorem deletableTunnel_eq_some {principal : Principal}
    (h : tables.deletableTunnel principal id = some tunnel) :
    tables.tunnels.get? id = some tunnel ∧ tunnel.organizationId = principal.organizationId := by
  obtain ⟨hof, -⟩ := Option.filter_eq_some_iff.1 h
  exact tunnelOf_eq_some hof

end DnsTables

end Tunnara.Control
