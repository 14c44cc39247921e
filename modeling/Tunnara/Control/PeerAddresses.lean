/-
# The addresses of a private network

A peer is stored with its address and the prefix length, and `allocateNetworkIp` compares stored
addresses with the address alone. So it never finds one in use and returns the first address of
the range each time, which the table has once in a network.
-/

import Tunnara.Control.Networks
import Tunnara.Data.Lines
import Mathlib.Tactic.NormNum

namespace Tunnara.Control

open Transition OrdMap

/-! ## Texts of addresses -/

theorem slash_not_mem_intToIp {value : ℕ} : '/' ∉ (intToIp value).toList := by
  unfold intToIp
  simp only [String.toList_append, List.mem_append, not_or]
  have hdot : '/' ∉ ".".toList := by decide
  have hnumber := Lines.not_mem_toString (show '/'.isDigit = false from rfl)
  exact ⟨⟨⟨⟨⟨⟨hnumber _, hdot⟩, hnumber _⟩, hdot⟩, hnumber _⟩, hdot⟩, hnumber _⟩

/-- What `allocateNetworkIp` returns for an address of the range. -/
def CidrRange.address (range : CidrRange) (value : ℕ) : String :=
  intToIp value ++ "/" ++ toString range.bits

/-- The addresses strictly between the first one and the broadcast address. -/
def CidrRange.addresses (range : CidrRange) : List String :=
  (List.range' (range.network + 2) (range.broadcast - (range.network + 2))).map range.address

theorem CidrRange.address_ne_intToIp (range : CidrRange) (stored value : ℕ) :
    range.address stored ≠ intToIp value := by
  intro h
  apply slash_not_mem_intToIp
  rw [← h]
  simp [address]

theorem cidrRange_addresses {host : Host} {cidr : String} {range : CidrRange}
    (h : cidrRange host cidr = some range) : range.network + 2 < range.broadcast := by
  unfold cidrRange at h
  split at h
  · obtain ⟨ip, -, h⟩ := Option.bind_eq_some_iff.1 h
    obtain ⟨bits, hbits, h⟩ := Option.bind_eq_some_iff.1 h
    obtain ⟨-, -, hle⟩ := integerWithin_eq_some hbits
    cases h
    have hsize : 4 ≤ 2 ^ (32 - bits) := by
      calc 4 = 2 ^ 2 := by norm_num
        _ ≤ 2 ^ (32 - bits) := Nat.pow_le_pow_right (by norm_num) (by omega)
    show ip / 2 ^ (32 - bits) * 2 ^ (32 - bits) + 2 <
      ip / 2 ^ (32 - bits) * 2 ^ (32 - bits) + 2 ^ (32 - bits) - 1
    omega
  · cases h

namespace NetworkTables

/-! ## Peers and calls -/

/-- A call of `upsertNetworkPeer`; `id` is the uuid drawn for a new row. -/
structure Join where
  id : String
  input : PeerInput

section

variable (tables : NetworkTables) (networkId : String)

def peersOf : List PeerRow :=
  (tables.peers.entries.map Prod.snd).filter fun peer => peer.networkId = networkId

def Joined (agentId : String) : Prop :=
  ∃ key peer, tables.peers.get? key = some peer ∧ peer.networkId = networkId ∧
    peer.agentId = agentId

/-- The addresses of the network are of the range, and no two peers have the same. -/
structure Addressed (range : CidrRange) : Prop where
  inside : ∀ peer ∈ tables.peersOf networkId, peer.virtualIp ∈ range.addresses
  distinct : ((tables.peersOf networkId).map fun peer => peer.virtualIp).Nodup

/-- Every peer is still there, with its agent and its address. -/
def KeepsAddresses (next : NetworkTables) : Prop :=
  ∀ key peer, tables.peers.get? key = some peer → ∃ kept, next.peers.get? key = some kept ∧
    kept.networkId = peer.networkId ∧ kept.agentId = peer.agentId ∧
    kept.virtualIp = peer.virtualIp

end

variable (env : StoreEnv) (organizationId networkId : String) (range : CidrRange)

/-- The caller is an agent of the organization, what it sends can be stored, and the uuid is
a new one. -/
structure Storable (tables : NetworkTables) (call : Join) : Prop where
  agent : ∃ agent, tables.agentOf organizationId call.input.agentId = some agent
  publicKey : ∃ text, textValue env call.input.publicKey = .ok text
  endpoint : ∃ text, textValue env call.input.endpoint = .ok text
  persistentKeepalive : call.input.persistentKeepalive ≠ .nan
  fresh : tables.Joined networkId call.input.agentId ∨ tables.peers.get? call.id = none

/-- A call that throws leaves the tables. -/
def join (tables : NetworkTables) (call : Join) : NetworkTables :=
  match tables.upsertNetworkPeer env organizationId networkId call.id call.input with
  | .ok next => next
  | .error _ => tables

structure AsPromised (tables : NetworkTables) (call : Join) : Prop where
  rejoins : tables.Joined networkId call.input.agentId →
    ∃ next, tables.upsertNetworkPeer env organizationId networkId call.id call.input = .ok next ∧
      tables.KeepsAddresses next
  joins : ¬ tables.Joined networkId call.input.agentId →
    (tables.peersOf networkId).length < range.addresses.length →
    ∃ next, tables.upsertNetworkPeer env organizationId networkId call.id call.input = .ok next ∧
      tables.KeepsAddresses next ∧ next.Joined networkId call.input.agentId
  exhausted : ¬ tables.Joined networkId call.input.agentId →
    range.addresses.length ≤ (tables.peersOf networkId).length →
    ∃ error, tables.upsertNetworkPeer env organizationId networkId call.id call.input =
      .error error ∧ error.code = some "NETWORK_IP_EXHAUSTED"

/-- An agent joins a network that has no peer yet. -/
def Alone (tables : NetworkTables) (call : Join) : Prop :=
  tables.Storable env organizationId networkId call →
    tables.Joined networkId call.input.agentId ∨ tables.peersOf networkId = []

/-! ## One call -/

variable {env organizationId networkId range} {tables : NetworkTables} {call : Join}

theorem storeNumber_of_ne_nan {column : String} {n : JsNumber} (h : n ≠ .nan) :
    storeNumber column n = .ok ⟨n, h⟩ := dif_neg h

theorem find?_eq_some_of_joined (h : tables.Joined networkId call.input.agentId) :
    ∃ existing, (tables.peers.entries.find? fun e =>
        e.2.networkId = networkId ∧ e.2.agentId = call.input.agentId) = some existing ∧
      tables.peers.get? existing.1 = some existing.2 := by
  obtain ⟨key, peer, hpeer, hnetwork, hagent⟩ := h
  cases hfound : tables.peers.entries.find? fun e =>
      e.2.networkId = networkId ∧ e.2.agentId = call.input.agentId with
  | none =>
    have hnone := List.find?_eq_none.1 hfound (key, peer) (get?_eq_some_iff.1 hpeer)
    exact absurd (decide_eq_true (And.intro hnetwork hagent)) hnone
  | some existing =>
    exact ⟨existing, rfl, get?_eq_some_iff.2 (List.mem_of_find?_eq_some hfound)⟩

theorem find?_eq_none_of_new (h : ¬ tables.Joined networkId call.input.agentId) :
    (tables.peers.entries.find? fun e =>
      e.2.networkId = networkId ∧ e.2.agentId = call.input.agentId) = none := by
  apply List.find?_eq_none.2
  intro e he hfound
  obtain ⟨hnetwork, hagent⟩ := of_decide_eq_true hfound
  exact h ⟨e.1, e.2, get?_eq_some_iff.2 he, hnetwork, hagent⟩

section

variable {network : NetworkRow}
  (hnetwork : tables.getPrivateNetwork organizationId networkId = some network)
include hnetwork

theorem upsert_of_joined (hstorable : tables.Storable env organizationId networkId call)
    (hjoined : tables.Joined networkId call.input.agentId) :
    ∃ key existing peer, tables.peers.get? key = some existing ∧
      existing.networkId = networkId ∧ peer.networkId = existing.networkId ∧
      peer.agentId = existing.agentId ∧ peer.virtualIp = existing.virtualIp ∧
      tables.upsertNetworkPeer env organizationId networkId call.id call.input =
        .ok { tables with peers := tables.peers.set key peer } := by
  obtain ⟨agent, hagent⟩ := hstorable.agent
  obtain ⟨publicKey, hpublicKey⟩ := hstorable.publicKey
  obtain ⟨endpoint, hendpoint⟩ := hstorable.endpoint
  obtain ⟨existing, hfound, hexisting⟩ := find?_eq_some_of_joined hjoined
  have hmatches := List.find?_some hfound
  have hof := (of_decide_eq_true hmatches).1
  let written : PeerRow := { existing.2 with
    publicKey := publicKey.or existing.2.publicKey
    endpoint := endpoint.or existing.2.endpoint
    persistentKeepalive := ⟨_, hstorable.persistentKeepalive⟩
    allowedIps := call.input.allowedIps }
  refine ⟨existing.1, existing.2, written, hexisting, hof, rfl, rfl, rfl, ?_⟩
  unfold upsertNetworkPeer coalesce
  rw [hnetwork, hagent]
  rw [hfound]
  rw [hpublicKey, hendpoint, storeNumber_of_ne_nan hstorable.persistentKeepalive]
  rfl

omit hnetwork in
theorem allocateNetworkIp_eq (haddressed : tables.Addressed networkId range)
    (hrange : range.network + 2 < range.broadcast) :
    tables.allocateNetworkIp networkId range = some (range.address (range.network + 2)) := by
  have hfree : (tables.peers.entries.all fun e =>
      e.2.networkId ≠ networkId || e.2.virtualIp ≠ intToIp (range.network + 2)) = true := by
    apply List.all_eq_true.2
    intro e he
    by_cases hof : e.2.networkId = networkId
    · have hmem : e.2 ∈ tables.peersOf networkId :=
        List.mem_filter.2 ⟨List.mem_map.2 ⟨e, he, rfl⟩, decide_eq_true hof⟩
      obtain ⟨value, -, hvalue⟩ := List.mem_map.1 (haddressed.inside e.2 hmem)
      simp [← hvalue, range.address_ne_intToIp]
    · simp [hof]
  have hlist : List.range' (range.network + 2) (range.broadcast - (range.network + 2)) =
      (range.network + 2) :: List.range' (range.network + 3)
        (range.broadcast - (range.network + 2) - 1) := by
    obtain ⟨count, hcount⟩ := Nat.exists_eq_add_of_lt hrange
    have hsub : range.broadcast - (range.network + 2) = count + 1 := by omega
    rw [hsub]
    rfl
  unfold allocateNetworkIp
  rw [hlist, List.find?_cons, hfree]
  rfl

theorem upsert_of_new (hcidr : cidrRange env.host network.cidr = some range)
    (haddressed : tables.Addressed networkId range)
    (hstorable : tables.Storable env organizationId networkId call)
    (hnew : ¬ tables.Joined networkId call.input.agentId) :
    ∃ peer, peer.networkId = networkId ∧ peer.agentId = call.input.agentId ∧
      peer.virtualIp = range.address (range.network + 2) ∧
      tables.upsertNetworkPeer env organizationId networkId call.id call.input =
        if tables.peers.entries.any fun e => e.2.networkId = networkId &&
            e.2.virtualIp = range.address (range.network + 2) then
          .error (uniqueFailed "network_peers.network_id, network_peers.virtual_ip")
        else .ok { tables with peers := tables.peers.set call.id peer } := by
  obtain ⟨agent, hagent⟩ := hstorable.agent
  obtain ⟨publicKey, hpublicKey⟩ := hstorable.publicKey
  obtain ⟨endpoint, hendpoint⟩ := hstorable.endpoint
  have hfresh : tables.peers.get? call.id = none := hstorable.fresh.resolve_left hnew
  refine ⟨⟨call.id, organizationId, networkId, call.input.agentId, _, publicKey, endpoint,
    call.input.allowedIps, ⟨_, hstorable.persistentKeepalive⟩, "pending"⟩, rfl, rfl, rfl, ?_⟩
  unfold upsertNetworkPeer
  rw [hnetwork, hagent]
  dsimp only
  rw [find?_eq_none_of_new hnew, hcidr, Option.map_some,
    allocateNetworkIp_eq haddressed (cidrRange_addresses hcidr)]
  rw [hpublicKey, hendpoint, storeNumber_of_ne_nan hstorable.persistentKeepalive, hfresh]
  rfl

end

theorem textValue_of_coalesce {v : Json} {current stored : Option String}
    (h : coalesce env v current = .ok stored) : ∃ text, textValue env v = .ok text := by
  unfold coalesce at h
  cases hvalue : textValue env v with
  | error error =>
    rw [hvalue] at h
    cases h
  | ok text => exact ⟨text, rfl⟩

variable {next : NetworkTables} {peer : PeerRow}

theorem storable_of_upsert
    (h : tables.upsertNetworkPeer env organizationId networkId call.id call.input = .ok next) :
    tables.Storable env organizationId networkId call := by
  unfold upsertNetworkPeer at h
  cases hnetwork : tables.getPrivateNetwork organizationId networkId with
  | none =>
    rw [hnetwork] at h
    cases h
  | some network =>
    cases hagent : tables.agentOf organizationId call.input.agentId with
    | none =>
      rw [hnetwork, hagent] at h
      cases h
    | some agent =>
      rw [hnetwork, hagent] at h
      dsimp only at h
      have hvalues : ∀ {n : StoredNumber},
          storeNumber "network_peers.persistent_keepalive" call.input.persistentKeepalive =
            .ok n → call.input.persistentKeepalive ≠ .nan := by
        intro n hn hnan
        unfold storeNumber at hn
        rw [dif_pos hnan] at hn
        cases hn
      split at h
      · rename_i existing hfound
        have hmem := List.mem_of_find?_eq_some hfound
        have hmatches := List.find?_some hfound
        have hof := of_decide_eq_true hmatches
        obtain ⟨publicKey, hpublicKey, h⟩ := bind_eq_ok.1 h
        obtain ⟨endpoint, hendpoint, h⟩ := bind_eq_ok.1 h
        obtain ⟨n, hn, -⟩ := bind_eq_ok.1 h
        exact ⟨⟨agent, hagent⟩, textValue_of_coalesce hpublicKey,
          textValue_of_coalesce hendpoint, hvalues hn,
          .inl ⟨existing.1, existing.2, get?_eq_some_iff.2 hmem, hof.1, hof.2⟩⟩
      · split at h
        · cases h
        · cases h
        · obtain ⟨publicKey, hpublicKey, h⟩ := bind_eq_ok.1 h
          obtain ⟨endpoint, hendpoint, h⟩ := bind_eq_ok.1 h
          obtain ⟨n, hn, h⟩ := bind_eq_ok.1 h
          split_ifs at h with hused
          exact ⟨⟨agent, hagent⟩, ⟨_, hpublicKey⟩, ⟨_, hendpoint⟩, hvalues hn,
            .inr (Option.not_isSome_iff_eq_none.1 hused)⟩

/-! ## What a call leaves -/

theorem mem_peersOf : peer ∈ tables.peersOf networkId ↔
    (∃ key, tables.peers.get? key = some peer) ∧ peer.networkId = networkId := by
  unfold peersOf
  rw [List.mem_filter, List.mem_map, decide_eq_true_iff]
  refine and_congr_left fun _ => ⟨?_, ?_⟩
  · rintro ⟨e, he, rfl⟩
    exact ⟨e.1, get?_eq_some_iff.2 he⟩
  · rintro ⟨key, hkey⟩
    exact ⟨(key, peer), get?_eq_some_iff.1 hkey, rfl⟩

theorem addresses_set_old {key : String} {existing peer : PeerRow}
    (hexisting : tables.peers.get? key = some existing)
    (hnetwork : peer.networkId = existing.networkId)
    (haddress : peer.virtualIp = existing.virtualIp) :
    (({ tables with peers := tables.peers.set key peer } : NetworkTables).peersOf networkId).map
      (fun peer => peer.virtualIp) =
      (tables.peersOf networkId).map fun peer => peer.virtualIp := by
  have hread : ∀ rows : List (String × PeerRow),
      ((rows.map Prod.snd).filter fun peer => peer.networkId = networkId).map
        (fun peer => peer.virtualIp) =
      ((rows.map fun e => (e.2.networkId, e.2.virtualIp)).filter fun pair =>
        pair.1 = networkId).map Prod.snd := by
    intro rows
    induction rows with
    | nil => rfl
    | cons e rows ih =>
      by_cases hof : e.2.networkId = networkId
      · simpa [hof] using ih
      · simpa [hof] using ih
  let read : PeerRow → String × String := fun row => (row.networkId, row.virtualIp)
  have hsame : read peer = read existing := Prod.ext hnetwork haddress
  have hpair := map_entries_set_old hexisting hsame
  unfold peersOf
  rw [hread, hread]
  exact congrArg (fun pairs => (pairs.filter fun pair => pair.1 = networkId).map Prod.snd) hpair

theorem peersOf_set_new {id : String} (hfresh : tables.peers.get? id = none)
    (hof : peer.networkId = networkId) :
    ({ tables with peers := tables.peers.set id peer } : NetworkTables).peersOf networkId =
      tables.peersOf networkId ++ [peer] := by
  unfold peersOf
  rw [entries_set_new hfresh, List.map_append, List.filter_append]
  simp [hof]

theorem Addressed.of_addresses (h : tables.Addressed networkId range)
    (hsame : (next.peersOf networkId).map (fun peer => peer.virtualIp) =
      (tables.peersOf networkId).map fun peer => peer.virtualIp) :
    next.Addressed networkId range where
  inside peer hpeer := by
    have hmem : peer.virtualIp ∈ (tables.peersOf networkId).map fun peer => peer.virtualIp := by
      rw [← hsame]
      exact List.mem_map.2 ⟨peer, hpeer, rfl⟩
    obtain ⟨other, hother, hip⟩ := List.mem_map.1 hmem
    rw [← hip]
    exact h.inside other hother
  distinct := by
    rw [hsame]
    exact h.distinct

theorem keepsAddresses_set_old {key : String} {existing : PeerRow}
    (hexisting : tables.peers.get? key = some existing)
    (hnetwork : peer.networkId = existing.networkId) (hagent : peer.agentId = existing.agentId)
    (haddress : peer.virtualIp = existing.virtualIp) :
    tables.KeepsAddresses { tables with peers := tables.peers.set key peer } := by
  intro other found hfound
  by_cases hsame : other = key
  · subst hsame
    rw [hexisting] at hfound
    cases hfound
    exact ⟨peer, get?_set_self .., hnetwork, hagent, haddress⟩
  · exact ⟨found, (get?_set_of_ne _ hsame _).trans hfound, rfl, rfl, rfl⟩

theorem keepsAddresses_set_new {id : String} (hfresh : tables.peers.get? id = none)
    {peer : PeerRow} : tables.KeepsAddresses { tables with peers := tables.peers.set id peer } := by
  intro other found hfound
  have hne : other ≠ id := by
    rintro rfl
    rw [hfresh] at hfound
    cases hfound
  exact ⟨found, (get?_set_of_ne _ hne _).trans hfound, rfl, rfl, rfl⟩

/-- The network is there, and its first address is taken once it has a peer. -/
structure Ready (host : Host) (organizationId networkId : String) (range : CidrRange)
    (tables : NetworkTables) : Prop where
  network : ∃ network, tables.getPrivateNetwork organizationId networkId = some network ∧
    cidrRange host network.cidr = some range
  taken : tables.peersOf networkId = [] ∨ ∃ peer ∈ tables.peersOf networkId,
    peer.virtualIp = range.address (range.network + 2)

theorem Ready.room (h : Ready env.host organizationId networkId range tables) :
    range.network + 2 < range.broadcast := by
  obtain ⟨network, -, hcidr⟩ := h.network
  exact cidrRange_addresses hcidr

theorem length_addresses (range : CidrRange) :
    range.addresses.length = range.broadcast - (range.network + 2) := by
  simp [CidrRange.addresses]

theorem first_mem_addresses (h : range.network + 2 < range.broadcast) :
    range.address (range.network + 2) ∈ range.addresses :=
  List.mem_map.2 ⟨range.network + 2, List.mem_range'_1.2 ⟨le_rfl, by omega⟩, rfl⟩

/-- The four ways a call goes. -/
inductive Outcome (env : StoreEnv) (organizationId networkId : String) (range : CidrRange)
    (tables : NetworkTables) (call : Join) : Prop
  | refused (hnot : ¬ tables.Storable env organizationId networkId call)
      (hjoin : tables.join env organizationId networkId call = tables)
  | again (hstorable : tables.Storable env organizationId networkId call)
      (hjoined : tables.Joined networkId call.input.agentId) (key : String)
      (existing peer : PeerRow) (hexisting : tables.peers.get? key = some existing)
      (hnetwork : peer.networkId = existing.networkId) (hagent : peer.agentId = existing.agentId)
      (haddress : peer.virtualIp = existing.virtualIp)
      (hupsert : tables.upsertNetworkPeer env organizationId networkId call.id call.input =
        .ok { tables with peers := tables.peers.set key peer })
  | first (hstorable : tables.Storable env organizationId networkId call)
      (hnew : ¬ tables.Joined networkId call.input.agentId)
      (hnone : tables.peersOf networkId = []) (peer : PeerRow)
      (hnetwork : peer.networkId = networkId) (hagent : peer.agentId = call.input.agentId)
      (haddress : peer.virtualIp = range.address (range.network + 2))
      (hupsert : tables.upsertNetworkPeer env organizationId networkId call.id call.input =
        .ok { tables with peers := tables.peers.set call.id peer })
  | taken (hstorable : tables.Storable env organizationId networkId call)
      (hnew : ¬ tables.Joined networkId call.input.agentId)
      (hsome : tables.peersOf networkId ≠ [])
      (hupsert : tables.upsertNetworkPeer env organizationId networkId call.id call.input =
        .error (uniqueFailed "network_peers.network_id, network_peers.virtual_ip"))

section

variable (hready : Ready env.host organizationId networkId range tables)
include hready

theorem outcome (haddressed : tables.Addressed networkId range) (call : Join) :
    Outcome env organizationId networkId range tables call := by
  obtain ⟨network, hnetwork, hcidr⟩ := hready.network
  by_cases hstorable : tables.Storable env organizationId networkId call
  · by_cases hjoined : tables.Joined networkId call.input.agentId
    · obtain ⟨key, existing, peer, hexisting, -, hof, hagent, haddress, hupsert⟩ :=
        upsert_of_joined hnetwork hstorable hjoined
      exact .again hstorable hjoined key existing peer hexisting hof hagent haddress hupsert
    · obtain ⟨peer, hof, hagent, haddress, hupsert⟩ :=
        upsert_of_new hnetwork hcidr haddressed hstorable hjoined
      by_cases hnone : tables.peersOf networkId = []
      · have hfree : ¬ (tables.peers.entries.any fun e => e.2.networkId = networkId &&
            e.2.virtualIp = range.address (range.network + 2)) = true := by
          intro hany
          obtain ⟨e, he, hfound⟩ := List.any_eq_true.1 hany
          rw [Bool.and_eq_true, decide_eq_true_iff] at hfound
          have hmem : e.2 ∈ tables.peersOf networkId :=
            mem_peersOf.2 ⟨⟨e.1, get?_eq_some_iff.2 he⟩, hfound.1⟩
          rw [hnone] at hmem
          cases hmem
        rw [if_neg hfree] at hupsert
        exact .first hstorable hjoined hnone peer hof hagent haddress hupsert
      · obtain ⟨other, hother, hfirst⟩ := hready.taken.resolve_left hnone
        obtain ⟨⟨key, hkey⟩, hotherOf⟩ := mem_peersOf.1 hother
        have hused : (tables.peers.entries.any fun e => e.2.networkId = networkId &&
            e.2.virtualIp = range.address (range.network + 2)) = true :=
          List.any_eq_true.2 ⟨(key, other), get?_eq_some_iff.1 hkey, by
            simp [hotherOf, hfirst]⟩
        rw [if_pos hused] at hupsert
        exact .taken hstorable hjoined hnone hupsert
  · apply Outcome.refused hstorable
    unfold join
    cases hupsert : tables.upsertNetworkPeer env organizationId networkId call.id call.input with
    | ok next => exact absurd (storable_of_upsert hupsert) hstorable
    | error error => rfl

omit hready in
theorem join_of_upsert
    (h : tables.upsertNetworkPeer env organizationId networkId call.id call.input = .ok next) :
    tables.join env organizationId networkId call = next := by
  unfold join
  rw [h]

omit hready in
theorem join_of_error {error : JsError}
    (h : tables.upsertNetworkPeer env organizationId networkId call.id call.input =
      .error error) : tables.join env organizationId networkId call = tables := by
  unfold join
  rw [h]

theorem promised_iff (haddressed : tables.Addressed networkId range) {call : Join} :
    (tables.join env organizationId networkId call).Addressed networkId range ∧
        (tables.Storable env organizationId networkId call →
          tables.AsPromised env organizationId networkId range call) ↔
      tables.Alone env organizationId networkId call := by
  cases outcome hready haddressed call with
  | refused hnot hjoin =>
    rw [hjoin]
    exact iff_of_true ⟨haddressed, fun h => absurd h hnot⟩ fun h => absurd h hnot
  | again hstorable hjoined key existing peer hexisting hnetwork hagent haddress hupsert =>
    rw [join_of_upsert hupsert]
    refine iff_of_true ⟨haddressed.of_addresses
      (addresses_set_old hexisting hnetwork haddress), fun _ => ?_⟩ fun _ => .inl hjoined
    constructor
    case rejoins =>
      exact fun _ => ⟨_, hupsert, keepsAddresses_set_old hexisting hnetwork hagent haddress⟩
    case joins => exact fun hnew => absurd hjoined hnew
    case exhausted => exact fun hnew => absurd hjoined hnew
  | first hstorable hnew hnone peer hnetwork hagent haddress hupsert =>
    have hfresh : tables.peers.get? call.id = none := hstorable.fresh.resolve_left hnew
    have hroom := hready.room
    rw [join_of_upsert hupsert]
    refine iff_of_true ⟨?_, fun _ => ?_⟩ fun _ => .inr hnone
    · have hpeers := peersOf_set_new hfresh hnetwork
      rw [hnone, List.nil_append] at hpeers
      constructor
      case inside =>
        rw [hpeers]
        intro other hother
        rw [List.mem_singleton.1 hother, haddress]
        exact first_mem_addresses hroom
      case distinct =>
        rw [hpeers]
        exact List.nodup_singleton _
    · constructor
      case rejoins => exact fun hjoined => absurd hjoined hnew
      case joins =>
        exact fun _ _ => ⟨_, hupsert, keepsAddresses_set_new hfresh,
          call.id, peer, get?_set_self .., hnetwork, hagent⟩
      case exhausted =>
        intro _ hfull
        rw [length_addresses, hnone, List.length_nil] at hfull
        omega
  | taken hstorable hnew hsome hupsert =>
    refine iff_of_false ?_ fun hguard => (hguard hstorable).elim hnew hsome
    rintro ⟨-, hpromised⟩
    have hkept := hpromised hstorable
    by_cases hroom : (tables.peersOf networkId).length < range.addresses.length
    · obtain ⟨next, hok, -⟩ := hkept.joins hnew hroom
      rw [hupsert] at hok
      cases hok
    · obtain ⟨error, herror, hcode⟩ := hkept.exhausted hnew (Nat.le_of_not_lt hroom)
      rw [hupsert] at herror
      cases herror
      cases hcode

theorem ready_join (haddressed : tables.Addressed networkId range) {call : Join} :
    Ready env.host organizationId networkId range
      (tables.join env organizationId networkId call) := by
  cases outcome hready haddressed call with
  | refused hnot hjoin =>
    rw [hjoin]
    exact hready
  | again hstorable hjoined key existing peer hexisting hnetwork hagent haddress hupsert =>
    rw [join_of_upsert hupsert]
    refine ⟨hready.network, ?_⟩
    have hsame := @addresses_set_old networkId tables key existing peer hexisting hnetwork
      haddress
    rcases hready.taken with hnone | ⟨other, hother, hfirst⟩
    · rw [hnone, List.map_nil] at hsame
      exact .inl (List.map_eq_nil_iff.1 hsame)
    · right
      have hmem : other.virtualIp ∈ (tables.peersOf networkId).map fun peer => peer.virtualIp :=
        List.mem_map.2 ⟨other, hother, rfl⟩
      rw [← hsame] at hmem
      obtain ⟨kept, hkept, hip⟩ := List.mem_map.1 hmem
      exact ⟨kept, hkept, hip.trans hfirst⟩
  | first hstorable hnew hnone peer hnetwork hagent haddress hupsert =>
    rw [join_of_upsert hupsert]
    have hfresh : tables.peers.get? call.id = none := hstorable.fresh.resolve_left hnew
    refine ⟨hready.network, .inr ⟨peer, ?_, haddress⟩⟩
    rw [peersOf_set_new hfresh hnetwork]
    exact List.mem_append_right _ (List.mem_singleton.2 rfl)
  | taken hstorable hnew hsome hupsert =>
    rw [join_of_error hupsert]
    exact hready

end

/-! ## Every sequence of calls -/

theorem addressed_of_empty (h : tables.peersOf networkId = []) :
    tables.Addressed networkId range := by
  constructor
  case inside =>
    rw [h]
    exact fun _ hmem => (nomatch hmem)
  case distinct =>
    rw [h]
    exact List.nodup_nil

theorem getPrivateNetwork_of_create {input : NetworkInput} {start : NetworkTables}
    (hcreate : tables.createPrivateNetwork env organizationId networkId input = .ok start) :
    tables.networks.get? networkId = none ∧ start.peers = tables.peers ∧
      ∃ network, start.getPrivateNetwork organizationId networkId = some network ∧
        network.cidr = input.cidr := by
  unfold createPrivateNetwork at hcreate
  split at hcreate
  · cases hcreate
  obtain ⟨_, -, hcreate⟩ := bind_eq_ok.1 hcreate
  obtain ⟨hubAgentId, -, hcreate⟩ := bind_eq_ok.1 hcreate
  split_ifs at hcreate with hused hname hcidr hforeign
  cases hcreate
  refine ⟨Option.not_isSome_iff_eq_none.1 hused, rfl, ⟨networkId, organizationId, input.name,
    input.cidr, input.dnsDomain, input.mode, hubAgentId⟩, ?_, rfl⟩
  unfold getPrivateNetwork
  rw [get?_set_self, Option.filter_some, if_pos (decide_eq_true rfl)]

theorem peersOf_eq_nil (hnone : tables.networks.get? networkId = none)
    (hpeers : ∀ key peer, tables.peers.get? key = some peer →
      ∃ network, tables.networks.get? peer.networkId = some network) :
    tables.peersOf networkId = [] := by
  apply List.eq_nil_iff_forall_not_mem.2
  intro peer hpeer
  obtain ⟨⟨key, hkey⟩, hof⟩ := mem_peersOf.1 hpeer
  obtain ⟨network, hnetwork⟩ := hpeers key peer hkey
  rw [hof, hnone] at hnetwork
  cases hnetwork

/-- From the moment a network is created, all calls go as promised, and the addresses are
always those of the range and distinct, exactly when no agent joins a network that another
one has joined. -/
theorem promised_run_iff {start : NetworkTables} {input : NetworkInput}
    (hpeers : ∀ key peer, tables.peers.get? key = some peer →
      ∃ network, tables.networks.get? peer.networkId = some network)
    (hcreate : tables.createPrivateNetwork env organizationId networkId input = .ok start)
    (hrange : cidrRange env.host input.cidr = some range) (calls : List Join) :
    Throughout (join env organizationId networkId) (fun state => state.Addressed networkId range)
          start calls ∧
        Along (join env organizationId networkId) (fun state call =>
          state.Storable env organizationId networkId call →
            state.AsPromised env organizationId networkId range call) start calls ↔
      Along (join env organizationId networkId) (Alone env organizationId networkId)
        start calls := by
  obtain ⟨hnone, hsame, network, hnetwork, hcidr⟩ := getPrivateNetwork_of_create hcreate
  have hempty : start.peersOf networkId = [] := by
    have hprior := peersOf_eq_nil hnone hpeers
    unfold peersOf at hprior ⊢
    rw [hsame]
    exact hprior
  exact throughout_and_along_iff
    (fun _ call hready haddressed => promised_iff hready haddressed)
    (fun _ call hready haddressed => ready_join hready haddressed)
    ⟨⟨network, hnetwork, by rw [hcidr]; exact hrange⟩, .inl hempty⟩ (addressed_of_empty hempty)

def numeralEnv : StoreEnv where
  host := { Host.plain with
    stringToNumber := fun s =>
      if s.toList.all Char.isDigit then .fin (Nat.ofDigitChars 10 s.toList 0) else .nan }
  realText q := toString q.num ++ ".0"

def twoAgents : NetworkTables where
  agents := (OrdMap.empty.set "a1" ⟨"a1", "org", "online", none⟩).set "a2"
    ⟨"a2", "org", "online", none⟩
  networks := .empty
  peers := .empty

def erpNetwork : NetworkInput := ⟨"ERP", "10.91.0.0/24", none, "mesh", .null⟩

def erpTables : NetworkTables :=
  { twoAgents with
    networks := OrdMap.empty.set "n1" ⟨"n1", "org", "ERP", "10.91.0.0/24", none, "mesh", none⟩ }

def erpRange : CidrRange := ⟨173735936, 173736191, 24⟩

def joinOf (id agentId : String) : Join :=
  ⟨id, agentId, .str "PUBLIC_KEY_TEST", .null, [.str "192.168.50.0/24"], .fin 25⟩

theorem erpTables_created :
    twoAgents.createPrivateNetwork numeralEnv "org" "n1" erpNetwork = .ok erpTables := by
  rfl

theorem promised_run_erp :
    (Throughout (join numeralEnv "org" "n1") (fun state => state.Addressed "n1" erpRange)
          erpTables [joinOf "p1" "a1", joinOf "p2" "a2"] ∧
        Along (join numeralEnv "org" "n1") (fun state call =>
          state.Storable numeralEnv "org" "n1" call →
            state.AsPromised numeralEnv "org" "n1" erpRange call)
          erpTables [joinOf "p1" "a1", joinOf "p2" "a2"]) ↔
      Along (join numeralEnv "org" "n1") (Alone numeralEnv "org" "n1") erpTables
        [joinOf "p1" "a1", joinOf "p2" "a2"] :=
  @promised_run_iff numeralEnv "org" "n1" erpRange twoAgents erpTables erpNetwork
    (fun _ peer h => nomatch show (none : Option PeerRow) = some peer from h)
    erpTables_created (by decide +kernel) _

/-- The network has 253 addresses, and the second agent is refused as if the first address were
the only one. -/
theorem not_promised_second :
    ¬ Along (join numeralEnv "org" "n1") (fun state call =>
        state.Storable numeralEnv "org" "n1" call →
          state.AsPromised numeralEnv "org" "n1" erpRange call)
      erpTables [joinOf "p1" "a1", joinOf "p2" "a2"] := by
  intro h
  have hupsert : (erpTables.join numeralEnv "org" "n1" (joinOf "p1" "a1")).upsertNetworkPeer
      numeralEnv "org" "n1" "p2" (joinOf "p2" "a2").input =
      .error (uniqueFailed "network_peers.network_id, network_peers.virtual_ip") := rfl
  have hstorable : (erpTables.join numeralEnv "org" "n1" (joinOf "p1" "a1")).Storable numeralEnv
      "org" "n1" (joinOf "p2" "a2") :=
    ⟨⟨_, rfl⟩, ⟨_, rfl⟩, ⟨_, rfl⟩, fun hnan => (nomatch hnan), .inr rfl⟩
  have hnew : ¬ (erpTables.join numeralEnv "org" "n1" (joinOf "p1" "a1")).Joined "n1" "a2" := by
    intro hjoined
    obtain ⟨key, existing, peer, -, -, -, -, -, hok⟩ := upsert_of_joined rfl hstorable hjoined
    exact nomatch hupsert.symm.trans hok
  have hroom : ((erpTables.join numeralEnv "org" "n1" (joinOf "p1" "a1")).peersOf "n1").length <
      erpRange.addresses.length := by
    rw [length_addresses]
    decide +kernel
  obtain ⟨next, hok, -⟩ := (h.2.1 hstorable).joins hnew hroom
  exact nomatch hupsert.symm.trans hok

end NetworkTables

end Tunnara.Control
