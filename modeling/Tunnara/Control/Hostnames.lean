/-
# Host names of tunnels

`POST /api/v1/tunnels` stores the name that the body asks for, normalised, or one that it
makes of random bytes and the base domain. The Edge normalises what a request has in its
`Host` header and looks for a tunnel with exactly that name. The digits of the random bytes
are those of base64url; of these `normalizeHostname` refuses one.
-/

import Tunnara.Control.TunnelApi
import Tunnara.Control.Integrity
import Tunnara.Control.PublicPorts
import Tunnara.Edge.Hostnames

namespace Tunnara.Control

open Policy Edge Transition OrdMap

/-! ## The generated name -/

/-- What `crypto.randomBytes(32)` draws. -/
abbrev RandomBytes := {bytes : List UInt8 // bytes.length = 32}

def randomToken (kind : String) (bytes : RandomBytes) : String :=
  kind ++ "_" ++ Base64.encodeUrl bytes.1

/-- `randomToken('t').slice(2, 12).toLowerCase()`. -/
def generatedLabel (host : Host) (bytes : RandomBytes) : String :=
  host.toLowerCase (String.ofList (((randomToken "t" bytes).toList.drop 2).take 10))

/-! ## The lookup -/

/-- The store has the tunnels and the agents of the tables. -/
structure Holds (db : Database) (tables : TunnelTables) : Prop where
  tunnels : db.tunnels = tables.tunnels.mapVals fun _ tunnel => tunnel.toTunnelRow
  agents : db.agents = tables.agents

/-- `#resolveHostname` of an Edge with a store, or with a Control that it asks: the Control
normalises the name once more, and answers a route without a target with an error. -/
def resolveHostname (host : Host) (clustered : Bool) (db : Database) (hostname : String) :
    Option Route :=
  if clustered then
    match normalizeHostname host (some (.one hostname)) with
    | none => none
    | some name =>
      (db.resolveTunnelByHostname name none).1.filter fun route => route.target?.isSome
  else (db.resolveTunnelByHostname hostname none).1

/-- The tunnel that `#handle` finds for a `Host` header. -/
def edgeTunnel (host : Host) (clustered : Bool) (db : Database) (value : String) :
    Option TunnelRow :=
  match normalizeHostname host (some (.one value)) with
  | none => none
  | some hostname => (resolveHostname host clustered db hostname).map Route.tunnel

variable {db : Database} {host : Host}

namespace TunnelTables

variable {env : StoreEnv} {tables next : TunnelTables} {organizationId id hostname : String}

/-- The column `hostname` is unique. -/
def Distinct (tables : TunnelTables) : Prop :=
  ∀ first second row other, tables.tunnels.get? first = some row →
    tables.tunnels.get? second = some other → row.hostname = other.hostname → first = second

def HasName (tables : TunnelTables) (id hostname : String) : Prop :=
  ∀ row, tables.tunnels.get? id = some row → row.hostname = hostname

def NotDrawn (id : String) : TunnelTables → TablesEvent → Prop
  | _, .createTunnel _ draws _ => draws.tunnelId ≠ id
  | _, _ => True

/-- **A routable name**: it is a fixed point, and for as long as the tunnel is there and active
the Edge finds it by every spelling of the name. A header never names two tunnels. -/
structure Routable (env : ApiEnv) (tables : TunnelTables) (id hostname : String) : Prop where
  fixed : normalizeHostname env.host (some (.one hostname)) = some hostname
  resolves : ∀ events, Along (step env.toStoreEnv) (NotDrawn id) tables events →
    ∀ row, (run (step env.toStoreEnv) tables events).tunnels.get? id = some row →
      row.status = "active" →
      ((run (step env.toStoreEnv) tables events).agents.get? row.agentId).isSome →
      ∀ db, Holds db (run (step env.toStoreEnv) tables events) →
      ∀ value, Spells value hostname → ∀ clustered,
      (clustered = true → online (db.candidates row.id) ≠ []) →
      edgeTunnel env.host clustered db value = some row.toTunnelRow
  single : ∀ events value name first second row other,
    normalizeHostname env.host (some (.one value)) = some name →
    (run (step env.toStoreEnv) tables events).tunnels.get? first = some row →
    (run (step env.toStoreEnv) tables events).tunnels.get? second = some other →
    row.hostname = name → other.hostname = name → first = second

/-! ## What an operation does to the tunnels -/

/-- The tunnels stay, one of them is replaced and keeps its name, one with a new name is added,
or one goes. -/
inductive TunnelsChange (tunnels : OrdMap String TunnelRecord) :
    TablesEvent → OrdMap String TunnelRecord → Prop
  | same (event : TablesEvent) : TunnelsChange tunnels event tunnels
  | replaced (event : TablesEvent) {id : String} {current tunnel : TunnelRecord}
      (hcurrent : tunnels.get? id = some current) (hname : tunnel.hostname = current.hostname) :
      TunnelsChange tunnels event (tunnels.set id tunnel)
  | added {organizationId : String} {draws : Draws} {input : TunnelInput} {tunnel : TunnelRecord}
      (hname : tunnel.hostname = orText input.hostname
        (input.protocol ++ "-" ++ draws.tunnelId ++ ".internal.tunnara"))
      (hfree : ∀ key other, tunnels.get? key = some other → other.hostname ≠ tunnel.hostname) :
      TunnelsChange tunnels (.createTunnel organizationId draws input)
        (tunnels.set draws.tunnelId tunnel)
  | erased (event : TablesEvent) (id : String) : TunnelsChange tunnels event (tunnels.erase id)

theorem tunnels_backfill (draw : String → String) :
    (tables.backfill draw).tunnels = tables.tunnels := by
  have hfold : ∀ (entries : List (String × TunnelRecord)) (acc : TunnelTables),
      (entries.foldl (fun acc e =>
        if (tables.targets.entries.any fun t => t.2.tunnelId = e.1) ∨
            (acc.targets.get? (draw e.1)).isSome then acc
        else { acc with
          targets := acc.targets.set (draw e.1) ⟨draw e.1, e.2.organizationId, e.1, e.2.agentId,
            "default", e.2.targetHost, e.2.targetPort, ⟨.fin 1, one_ne_nan⟩,
            ⟨.fin 100, hundred_ne_nan⟩, true, "unknown", .obj []⟩ }) acc).tunnels = acc.tunnels := by
    intro entries
    induction entries with
    | nil => exact fun _ => rfl
    | cons e rest ih =>
      intro acc
      rw [List.foldl_cons, ih]
      split_ifs
      · rfl
      · rfl
  exact hfold tables.tunnels.entries tables

theorem tunnelsChange_createTunnel {draws : Draws} {input : TunnelInput}
    (h : tables.createTunnel env organizationId draws input = .ok next) :
    TunnelsChange tables.tunnels (.createTunnel organizationId draws input) next.tunnels := by
  obtain ⟨-, -, inserted, hinsert, hadded⟩ := createTunnel_eq_ok h
  obtain ⟨-, tunnel, -, -, -, -, -, hname, hfree, rfl⟩ := insertTunnel_eq_ok hinsert
  rw [hadded.tunnels]
  exact .added hname hfree

theorem tunnelsChange_step (tables : TunnelTables) (event : TablesEvent) :
    TunnelsChange tables.tunnels event (tables.step env event).tunnels := by
  have hsame : TunnelsChange tables.tunnels event tables.tunnels := .same event
  cases event with
  | createPolicy id organizationId name description document enabled =>
    apply @orSame_of (fun next => TunnelsChange tables.tunnels _ next.tunnels) _ hsame
    intro next hnext
    obtain ⟨-, policy, -, rfl⟩ := createPolicy_eq_ok hnext
    exact hsame
  | updatePolicy organizationId id changes =>
    apply @orFound_of (fun next => TunnelsChange tables.tunnels _ next.tunnels) _ hsame
    intro next hnext
    obtain ⟨current, policy, -, -, -, rfl⟩ := updatePolicy_eq_ok hnext
    exact hsame
  | deletePolicy organizationId id =>
    apply @orFound_of (fun next => TunnelsChange tables.tunnels _ next.tunnels) _ hsame
    intro next hnext
    obtain ⟨-, -, rfl⟩ := deletePolicy_eq_ok hnext
    exact hsame
  | createTunnel organizationId draws input =>
    apply @orSame_of (fun next => TunnelsChange tables.tunnels _ next.tunnels) _ hsame
    intro next hnext
    exact tunnelsChange_createTunnel hnext
  | updateTunnel organizationId id changes =>
    apply @orFound_of (fun next => TunnelsChange tables.tunnels _ next.tunnels) _ hsame
    intro next hnext
    obtain ⟨current, tunnel, hcurrent, -, -, -, -, hname, -, rfl⟩ := updateTunnel_eq_ok hnext
    exact .replaced _ hcurrent hname
  | deleteTunnel organizationId id agentId =>
    change TunnelsChange tables.tunnels _
      ((tables.deleteTunnel organizationId id agentId).getD tables).tunnels
    cases hdelete : tables.deleteTunnel organizationId id agentId with
    | none => exact hsame
    | some next =>
      obtain ⟨-, rfl⟩ := deleteTunnel_eq_some hdelete
      exact .erased _ id
  | createTunnelTarget organizationId tunnelId id input =>
    apply @orSame_of (fun next => TunnelsChange tables.tunnels _ next.tunnels) _ hsame
    intro next hnext
    obtain ⟨-, -, -, target, -, -, -, -, -, rfl⟩ := createTunnelTarget_eq_ok hnext
    exact hsame
  | updateTunnelTarget organizationId id changes =>
    apply @orFound_of (fun next => TunnelsChange tables.tunnels _ next.tunnels) _ hsame
    intro next hnext
    obtain ⟨current, target, -, -, -, -, -, -, -, -, rfl⟩ := updateTunnelTarget_eq_ok hnext
    exact hsame
  | deleteTunnelTarget organizationId id =>
    apply @orFound_of (fun next => TunnelsChange tables.tunnels _ next.tunnels) _ hsame
    intro next hnext
    obtain ⟨target, -, -, -, rfl⟩ := deleteTunnelTarget_eq_ok hnext
    exact hsame
  | migrate draw =>
    change TunnelsChange tables.tunnels _ (tables.backfill draw).tunnels
    rw [tunnels_backfill]
    exact hsame
  | agents rows => exact hsame

/-! ## Unique names -/

theorem distinct_step (h : Distinct tables) (event : TablesEvent) :
    Distinct (tables.step env event) := by
  intro first second row other hrow hother hsame
  have hchange := @tunnelsChange_step env tables event
  generalize (tables.step env event).tunnels = tunnels at hrow hother hchange
  cases hchange with
  | same => exact h first second row other hrow hother hsame
  | @replaced _ id current tunnel hcurrent hname =>
    have hold : ∀ key row, (tables.tunnels.set id tunnel).get? key = some row →
        ∃ old, tables.tunnels.get? key = some old ∧ old.hostname = row.hostname := by
      intro key row hrow
      rw [get?_set] at hrow
      split_ifs at hrow with hkey
      · cases hrow
        exact ⟨current, hkey ▸ hcurrent, hname.symm⟩
      · exact ⟨row, hrow, rfl⟩
    obtain ⟨old, hfirst, hfirstName⟩ := hold first row hrow
    obtain ⟨old', hsecond, hsecondName⟩ := hold second other hother
    exact h first second old old' hfirst hsecond
      (hfirstName.trans (hsame.trans hsecondName.symm))
  | added hname hfree =>
    rw [get?_set] at hrow hother
    split_ifs at hrow hother with hfirst hsecond hsecond
    · exact hfirst.trans hsecond.symm
    · cases hrow
      exact absurd hsame.symm (hfree second other hother)
    · cases hother
      exact absurd hsame (hfree first row hrow)
    · exact h first second row other hrow hother hsame
  | erased _ id =>
    exact h first second row other (get?_of_get?_erase hrow).2
      (get?_of_get?_erase hother).2 hsame

theorem distinct_run (h : Distinct tables) (events : List TablesEvent) :
    Distinct (run (step env) tables events) := by
  induction events generalizing tables with
  | nil => exact h
  | cons event events ih => exact ih (distinct_step h event)

theorem hasName_step (h : HasName tables id hostname) {event : TablesEvent}
    (hdrawn : NotDrawn id tables event) : HasName (tables.step env event) id hostname := by
  intro row hrow
  have hchange := @tunnelsChange_step env tables event
  generalize (tables.step env event).tunnels = tunnels at hrow hchange
  cases hchange with
  | same => exact h row hrow
  | replaced _ hcurrent hname =>
    rw [get?_set] at hrow
    split_ifs at hrow with hkey
    · cases hrow
      exact hname.trans (h _ (hkey ▸ hcurrent))
    · exact h row hrow
  | added hname hfree =>
    rw [get?_set_of_ne _ (Ne.symm hdrawn)] at hrow
    exact h row hrow
  | erased => exact h row (get?_of_get?_erase hrow).2

theorem hasName_run (h : HasName tables id hostname) {events : List TablesEvent}
    (hdrawn : Along (step env) (NotDrawn id) tables events) :
    HasName (run (step env) tables events) id hostname :=
  hdrawn.invariant (fun _ _ h hevent => hasName_step h hevent) h

/-! ## The lookup finds it -/

theorem map_tunnel_resolveTunnelByHostname {db : Database} {name : String} :
    (db.resolveTunnelByHostname name none).1.map Route.tunnel = db.getTunnelByHostname name := by
  unfold Database.resolveTunnelByHostname
  split
  · rename_i hnone
    rw [hnone]
    rfl
  · rename_i row hrow
    rw [hrow]
    exact congrArg some (RoutingTable.routeOf_fst_tunnel db row)

theorem isSome_target_routeOf {row : TunnelRow} (h : online (db.candidates row.id) ≠ [])
    : (db.routeOf row none).1.target?.isSome := by
  unfold Database.routeOf
  split
  · rename_i next hnone
    refine absurd (RoutingTable.selectTunnelTarget_none ?_) (mt eligible_eq_nil_iff.1 h)
    rw [hnone]
  · rfl

theorem getTunnelByHostname_of_distinct {row : TunnelRecord} (hdb : Holds db tables)
    (h : Distinct tables) (hrow : tables.tunnels.get? id = some row)
    (hactive : row.status = "active") (hagent : (tables.agents.get? row.agentId).isSome) :
    db.getTunnelByHostname row.hostname = some row.toTunnelRow := by
  unfold Database.getTunnelByHostname
  rw [hdb.tunnels, hdb.agents]
  cases hfind : (((tables.tunnels.mapVals fun _ tunnel => tunnel.toTunnelRow).entries.map
      Prod.snd).find? fun found => found.hostname = row.hostname && found.status = "active" &&
        (tables.agents.get? found.agentId).isSome) with
  | none =>
    have hmem : row.toTunnelRow ∈
        ((tables.tunnels.mapVals fun _ tunnel => tunnel.toTunnelRow).entries.map Prod.snd) := by
      simp only [OrdMap.mapVals, List.map_map]
      exact List.mem_map.2 ⟨(id, row), get?_eq_some_iff.1 hrow, rfl⟩
    have hrefused := List.find?_eq_none.1 hfind _ hmem
    simp [hactive, hagent] at hrefused
  | some found =>
    have hname := List.find?_some hfind
    have hmem := List.mem_of_find?_eq_some hfind
    simp only [OrdMap.mapVals, List.map_map] at hmem
    obtain ⟨e, he, rfl⟩ := List.mem_map.1 hmem
    simp only [Bool.and_eq_true, decide_eq_true_eq] at hname
    have hkey := h e.1 id e.2 row (get?_eq_some_iff.2 he) hrow hname.1.1
    have hsame := get?_eq_some_iff.2 he
    rw [hkey, hrow] at hsame
    cases hsame
    rfl

theorem edgeTunnel_eq_some {value : String} {row : TunnelRow} {clustered : Bool}
    (hlower : LowersAscii host) (hname : IsHostname hostname.toList)
    (hvalue : Spells value hostname) (hfound : db.getTunnelByHostname hostname = some row)
    (honline : clustered = true → online (db.candidates row.id) ≠ []) :
    edgeTunnel host clustered db value = some row := by
  have hroute : (db.resolveTunnelByHostname hostname none).1 = some (db.routeOf row none).1 := by
    unfold Database.resolveTunnelByHostname
    rw [hfound]
  unfold edgeTunnel
  rw [normalizeHostname_of_spells hlower hname hvalue]
  dsimp only [resolveHostname]
  cases clustered with
  | false => exact map_tunnel_resolveTunnelByHostname.trans hfound
  | true =>
    rw [if_pos rfl, (normalizeHostname_eq_self_iff hlower).2 hname]
    dsimp only
    rw [hroute, Option.filter_some, if_pos (isSome_target_routeOf (honline rfl))]
    exact congrArg some (RoutingTable.routeOf_fst_tunnel db row)

theorem routable_iff_isHostname {env : ApiEnv} (hlower : LowersAscii env.host)
    (hdistinct : Distinct tables) (hnamed : HasName tables id hostname) :
    Routable env tables id hostname ↔ IsHostname hostname.toList := by
  constructor
  · intro h
    exact isHostname_of_normalizeHostname h.fixed
  · intro h
    constructor
    case fixed => exact (normalizeHostname_eq_self_iff hlower).2 h
    case resolves =>
      intro events hdrawn row hrow hactive hagent db hdb value hvalue clustered honline
      have hname := hasName_run hnamed hdrawn row hrow
      have hfound := getTunnelByHostname_of_distinct hdb (distinct_run hdistinct events) hrow
        hactive hagent
      rw [hname] at hfound
      exact edgeTunnel_eq_some hlower h hvalue hfound honline
    case single =>
      intro events value name first second row other _ hrow hother hname hsame
      exact distinct_run hdistinct events first second row other hrow hother
        (hname.trans hsame.symm)

end TunnelTables

/-! ## The generated label -/

/-- Tokens of two kinds or of two draws differ. -/
theorem randomToken_inj {kind kind' : String} {bytes bytes' : RandomBytes} :
    randomToken kind bytes = randomToken kind' bytes' ↔ kind = kind' ∧ bytes = bytes' := by
  constructor
  · intro h
    have hlength (b : RandomBytes) : (Base64.encodeUrl b.1).toList.length = 43 := by
      simp [Base64.encodeUrl, Base64.length_sextets, b.2]
    have hlist := congrArg String.toList h
    simp only [randomToken, String.toList_append] at hlist
    obtain ⟨hkind, hsame⟩ := List.append_inj' hlist ((hlength bytes).trans (hlength bytes').symm)
    refine ⟨String.toList_inj.1 (List.append_cancel_right hkind), Subtype.ext ?_⟩
    rw [← @Base64.decode_encodeUrl bytes.1, String.toList_inj.1 hsame, Base64.decode_encodeUrl]
  · rintro ⟨rfl, rfl⟩
    rfl

theorem toNat_urlDigit : ∀ n < 64, (Base64.urlDigit n).toNat < 128 := by
  unfold Base64.urlDigit Base64.digit
  rw [Base64.alphabet_eq]
  decide +kernel

theorem isHostChar_urlDigit : ∀ n < 64,
    (isHostChar (Base64.urlDigit n).toLower = true ↔ n ≠ 63) := by
  unfold Base64.urlDigit Base64.digit
  rw [Base64.alphabet_eq]
  decide +kernel

theorem urlDigit_ne_dot : ∀ n < 64, (Base64.urlDigit n).toLower ≠ '.' := by
  unfold Base64.urlDigit Base64.digit
  rw [Base64.alphabet_eq]
  decide +kernel

def labelDigits (token : RandomBytes) : List ℕ := (Base64.sextets token.1).take 10

theorem labelDigits_lt {token : RandomBytes} : ∀ n ∈ labelDigits token, n < 64 := fun n hn =>
  Base64.sextets_lt token.1 n (List.mem_of_mem_take hn)

theorem length_labelDigits (token : RandomBytes) : (labelDigits token).length = 10 := by
  unfold labelDigits
  rw [List.length_take, Base64.length_sextets, token.2]
  rfl

theorem toList_generatedLabel (hlower : LowersAscii host) (token : RandomBytes) :
    (generatedLabel host token).toList =
      (labelDigits token).map fun n => (Base64.urlDigit n).toLower := by
  have hdigits : ((randomToken "t" token).toList.drop 2).take 10 =
      (labelDigits token).map Base64.urlDigit := by
    have htoken : (randomToken "t" token).toList =
        't' :: '_' :: (Base64.sextets token.1).map Base64.urlDigit := by
      have hkind : ("t" ++ "_").toList = ['t', '_'] := by decide +kernel
      unfold randomToken Base64.encodeUrl
      rw [String.toList_append, hkind, String.toList_ofList]
      rfl
    rw [htoken]
    exact (List.map_take).symm
  unfold generatedLabel
  rw [hdigits, hlower, String.toList_ofList, String.toList_ofList, List.map_map]
  · rfl
  · intro c hc
    rw [String.toList_ofList] at hc
    obtain ⟨n, hn, rfl⟩ := List.mem_map.1 hc
    exact toNat_urlDigit n (labelDigits_lt n hn)

theorem isHostname_generated_iff (hlower : LowersAscii host) {token : RandomBytes} {base : String}
    (hbase : IsHostname base.toList) :
    IsHostname (generatedLabel host token ++ "." ++ base).toList ↔
      63 ∉ labelDigits token ∧ base.length ≤ 242 := by
  have hlabel := toList_generatedLabel hlower token
  have hlength : (generatedLabel host token).toList.length = 10 := by
    rw [hlabel, List.length_map, length_labelDigits]
  have hnoDot : ∀ c ∈ (generatedLabel host token).toList, c ≠ '.' := by
    intro c hc
    rw [hlabel] at hc
    obtain ⟨n, hn, rfl⟩ := List.mem_map.1 hc
    exact urlDigit_ne_dot n (labelDigits_lt n hn)
  have hchars : (∀ c ∈ (generatedLabel host token).toList, isHostChar c = true) ↔
      63 ∉ labelDigits token := by
    rw [hlabel, List.forall_mem_map]
    constructor
    · intro h hmem
      exact (isHostChar_urlDigit 63 (by decide)).1 (h 63 hmem) rfl
    · intro h n hn
      refine (isHostChar_urlDigit n (labelDigits_lt n hn)).2 ?_
      rintro rfl
      exact h hn
  have hdot : ".".toList = ['.'] := rfl
  rw [String.toList_append, String.toList_append, hdot, List.append_assoc, List.singleton_append,
    ← String.length_toList, ← hchars]
  generalize (generatedLabel host token).toList = label at hlength hnoDot
  generalize base.toList = tail at hbase
  constructor
  · intro h
    have hle := h.length_le
    rw [List.length_append, List.length_cons, hlength] at hle
    exact ⟨fun c hc => h.chars c (List.mem_append_left _ hc), by omega⟩
  · intro ⟨hlabelChars, hle⟩
    cases label with
    | nil => cases hlength
    | cons first rest =>
      constructor
      case ne_nil => exact List.cons_ne_nil _ _
      case length_le =>
        rw [List.length_append, hlength, List.length_cons]
        omega
      case chars =>
        intro c hc
        rcases List.mem_append.1 hc with hc | hc
        · exact hlabelChars c hc
        · rcases List.mem_cons.1 hc with rfl | hc
          · rfl
          · exact hbase.chars c hc
      case dots =>
        apply List.IsChain.append
        · apply List.isChain_iff_forall_rel_of_append_cons_cons.2
          intro a b front back hsplit hdots
          refine hnoDot a ?_ hdots.1
          rw [hsplit]
          exact List.mem_append_right _ List.mem_cons_self
        · apply List.IsChain.cons hbase.dots
          intro c hc hdots
          exact absurd hdots.2 (of_decide_eq_false (hbase.tight.first c hc))
        · intro c hc _ _ hdots
          exact hnoDot c (List.mem_of_mem_getLast? hc) hdots.1
      case tight =>
        constructor
        · intro c hc
          cases hc
          exact decide_eq_false (hnoDot first List.mem_cons_self)
        · intro c hc
          apply hbase.tight.last c
          rwa [List.getLast?_append_of_ne_nil _ (List.cons_ne_nil _ _),
            List.getLast?_cons_of_ne_nil hbase.ne_nil] at hc

/-! ## The endpoint -/

variable {env : ApiEnv} {tables next : TunnelTables} {principal : Principal}

theorem hostnameFor_eq_ok {protocol label hostname : String} {body : Json}
    (hweb : TunnelTables.isWeb protocol = true)
    (h : hostnameFor env protocol label body = .ok hostname) :
    truthy (body.get? "hostname") = true ∧ IsHostname hostname.toList ∨
      truthy (body.get? "hostname") = false ∧ hostname = label ++ "." ++ env.baseDomain := by
  obtain ⟨requested, hrequested, h⟩ := bind_eq_ok.1 h
  unfold requestedHostname at hrequested
  cases htruthy : truthy (body.get? "hostname") with
  | true =>
    left
    rw [htruthy, if_pos rfl] at hrequested
    cases requested with
    | none =>
      rw [htruthy, if_pos rfl] at h
      cases h
    | some name =>
      cases h
      refine ⟨rfl, ?_⟩
      unfold hostnameOf at hrequested
      split at hrequested
      · cases hrequested
      · obtain ⟨text, -, hname⟩ := map_eq_ok.1 hrequested
        exact isHostname_of_normalizeHostname hname
  | false =>
    right
    rw [htruthy, if_neg Bool.false_ne_true] at hrequested
    cases hrequested
    rw [htruthy, if_neg Bool.false_ne_true, if_pos hweb] at h
    cases h
    exact ⟨rfl, rfl⟩

theorem hostname_of_postTunnel {draws : TunnelDraws} {body : Json} {row : TunnelRecord}
    (hpost : postTunnel env tables principal draws body = .ok next)
    (hrow : next.tunnels.get? draws.tunnelId = some row)
    (hweb : TunnelTables.isWeb row.protocol = true) :
    truthy (body.get? "hostname") = true ∧ IsHostname row.hostname.toList ∨
      truthy (body.get? "hostname") = false ∧
        row.hostname = draws.label ++ "." ++ env.baseDomain := by
  obtain ⟨input, hread, hcreate⟩ := bind_eq_ok.1 hpost
  obtain ⟨-, -, inserted, hinsert, hadded⟩ := TunnelTables.createTunnel_eq_ok hcreate
  obtain ⟨-, tunnel, -, -, -, -, hprotocol, hname, -, rfl⟩ := TunnelTables.insertTunnel_eq_ok hinsert
  rw [hadded.tunnels, get?_set_self] at hrow
  cases hrow
  rw [hprotocol] at hweb
  obtain ⟨-, -, -, -, -, hhostname⟩ := readTunnel_eq_ok env hread
  have hfor := hostnameFor_eq_ok hweb hhostname
  have hne : input.hostname ≠ "" := by
    intro hempty
    rcases hfor with ⟨-, hhost⟩ | ⟨-, hgenerated⟩
    · rw [hempty] at hhost
      exact hhost.ne_nil rfl
    · have hlength := congrArg String.length (hempty.symm.trans hgenerated)
      rw [String.length_append, String.length_append] at hlength
      have hdot : ".".length = 1 := rfl
      have hnone : "".length = 0 := rfl
      omega
  rw [hname, TunnelTables.orText, if_neg hne]
  exact hfor

/-- **A tunnel's host name is routable** exactly if the body asks for it, or if none of the ten
digits is the underscore and the base domain leaves room for them. -/
theorem routable_post_iff (hlower : LowersAscii env.host)
    (hbase : normalizeHostname env.host (some (.one env.baseDomain)) = some env.baseDomain)
    {start : TunnelTables} (hstart : start.tunnels = .empty) (before : List TablesEvent)
    {draws : TunnelTables.Draws} {token : RandomBytes} {body : Json} {row : TunnelRecord}
    (hpost : postTunnel env (run (TunnelTables.step env.toStoreEnv) start before) principal
      ⟨draws, generatedLabel env.host token⟩ body = .ok next)
    (hrow : next.tunnels.get? draws.tunnelId = some row)
    (hweb : TunnelTables.isWeb row.protocol = true) :
    TunnelTables.Routable env next draws.tunnelId row.hostname ↔
      truthy (body.get? "hostname") = true ∨
        63 ∉ labelDigits token ∧ env.baseDomain.length ≤ 242 := by
  have hnone : TunnelTables.Distinct start := by
    intro first second row other hfirst
    rw [hstart] at hfirst
    cases hfirst
  have hdistinct : TunnelTables.Distinct next := by
    have hbefore := @TunnelTables.distinct_run env.toStoreEnv _ hnone before
    obtain ⟨input, -, hcreate⟩ := bind_eq_ok.1 hpost
    have hstep := @TunnelTables.distinct_step env.toStoreEnv _ hbefore
      (.createTunnel principal.organizationId draws input)
    change TunnelTables.Distinct (orSame _ (TunnelTables.createTunnel _ _ _ _ _)) at hstep
    rwa [hcreate] at hstep
  have hnamed : TunnelTables.HasName next draws.tunnelId row.hostname := by
    intro other hother
    rw [hrow] at hother
    cases hother
    rfl
  rw [TunnelTables.routable_iff_isHostname hlower hdistinct hnamed]
  rcases hostname_of_postTunnel hpost hrow hweb with ⟨hasked, hhost⟩ | ⟨hunasked, hgenerated⟩
  · exact iff_of_true hhost (.inl hasked)
  · rw [hgenerated, isHostname_generated_iff hlower (isHostname_of_normalizeHostname hbase),
      hunasked]
    simp only [Bool.false_eq_true, false_or]

/-- The plain host with ASCII case mapping. -/
def asciiHost : Host := { Host.plain with
  toLowerCase := fun text => String.ofList (text.toList.map Char.toLower) }

def asciiEnv : ApiEnv := { ApiEnv.plain with host := asciiHost }

/-- **Normalising is stable**: every spelling of a normalised name has that normal form. -/
theorem normalizeHostname_respelled (hlower : LowersAscii host) {value : Option HeaderValue}
    {name spelling : String} (h : normalizeHostname host value = some name)
    (hspells : Spells spelling name) : normalizeHostname host (some (.one spelling)) = some name :=
  normalizeHostname_of_spells hlower (isHostname_of_normalizeHostname h) hspells

theorem normalizeHostname_respelled_port :
    normalizeHostname asciiHost (some (.one "ERP.test:443")) = some "erp.test" := by
  apply @normalizeHostname_respelled asciiHost (fun _ _ => rfl) (some (.one "erp.Test.")) _ _
    (by decide +kernel)
  have hdigits : ∀ c ∈ ['4', '4', '3'], c.isDigit = true := List.all_eq_true.1 rfl
  exact ⟨"ERP.test".toList, ":443".toList, by decide, by decide, .inr ⟨_, by decide, hdigits, rfl⟩⟩

/-- Thirty-two times the same byte. -/
def sameBytes (byte : UInt8) : RandomBytes := ⟨List.replicate 32 byte, List.length_replicate⟩

/-- `POST /api/v1/tunnels` without a host name. -/
def generatedPost (token : RandomBytes) : Except JsError TunnelTables :=
  postTunnel asciiEnv TunnelTables.emptyTables (.api "o1")
    ⟨TunnelTables.plainDraws, generatedLabel asciiHost token⟩
    (.obj [("agentId", .str "a1"), ("targetPort", .num 3000)])

theorem not_routable_underscore : ¬ ∀ token next row, generatedPost token = .ok next →
    next.tunnels.get? "t1" = some row →
    TunnelTables.Routable asciiEnv next "t1" row.hostname := by
  intro h
  have hstored : ((generatedPost (sameBytes 255)).toOption.bind fun next =>
      (next.tunnels.get? "t1").map fun row => row.hostname) = some "__________.tunnara.test" := by
    decide +kernel
  obtain ⟨next, hnext, hrow⟩ := Option.bind_eq_some_iff.1 hstored
  obtain ⟨row, hrow, hname⟩ := Option.map_eq_some_iff.1 hrow
  cases hpost : generatedPost (sameBytes 255) with
  | error error =>
    rw [hpost] at hnext
    cases hnext
  | ok stored =>
    rw [hpost] at hnext
    cases hnext
    have hfixed := (h _ _ row hpost hrow).fixed
    rw [hname] at hfixed
    exact absurd hfixed (by decide +kernel)

theorem routable_post_zeros : ∃ next row, generatedPost (sameBytes 0) = .ok next ∧
    next.tunnels.get? "t1" = some row ∧
    TunnelTables.Routable asciiEnv next "t1" row.hostname := by
  have hstored : ((generatedPost (sameBytes 0)).toOption.bind fun next =>
      (next.tunnels.get? "t1").map fun row => row.protocol) = some "http" := by
    decide +kernel
  obtain ⟨next, hnext, hrow⟩ := Option.bind_eq_some_iff.1 hstored
  obtain ⟨row, hrow, hprotocol⟩ := Option.map_eq_some_iff.1 hrow
  cases hpost : generatedPost (sameBytes 0) with
  | error error =>
    rw [hpost] at hnext
    cases hnext
  | ok stored =>
    rw [hpost] at hnext
    cases hnext
    refine ⟨_, row, rfl, hrow, ?_⟩
    apply (@routable_post_iff asciiEnv _ _
      (fun _ _ => rfl) (by decide +kernel) TunnelTables.emptyTables rfl [] _ _ _ _ hpost hrow ?_).2
    · exact .inr ⟨by decide +kernel, by decide +kernel⟩
    · rw [hprotocol]
      rfl

end Tunnara.Control
