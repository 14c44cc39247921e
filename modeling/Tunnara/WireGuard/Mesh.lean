/-
# Routing between the peers of a network

WireGuard sends a packet to the peer whose `AllowedIPs` cover its destination. `writeConfig` writes
the list that is stored for a peer, or the address of the peer where that list is empty: a list for a
subnet behind the peer takes the place of the address of the peer itself.
-/

import Tunnara.Control.PeerAddresses
import Tunnara.WireGuard.Config

namespace Tunnara.WireGuard

open Control

/-- The routing of WireGuard: whether a value of `AllowedIPs` covers an address. -/
structure CryptokeyRouting where
  covers : String → String → Bool
  /-- A prefix of 32 bits is one address. -/
  covers_single : ∀ a b : ℕ, a < 2 ^ 32 → b < 2 ^ 32 →
    (covers (intToIp a ++ "/32") (intToIp b) = true ↔ a = b)

/-- The rows of a network: the primary key and the addresses are unique, and the addresses are of
the range. -/
structure Members (range : CidrRange) where
  rows : List PeerRow
  ids : (rows.map PeerRow.id).Nodup
  inside : ∀ row ∈ rows, row.virtualIp ∈ range.addresses
  distinct : (rows.map PeerRow.virtualIp).Nodup

/-- The virtual IP without the prefix length. -/
def bareAddress (row : PeerRow) : String := (splitChar '/' row.virtualIp).headD ""

section

variable (host : Host) (routing : CryptokeyRouting)

/-- The section that is written for the peer takes packets for the address. -/
def Takes (remote : PeerRow × String) (address : String) : Prop :=
  ∃ lines value, peerLines host remote = .ok lines ∧ attributeLine "AllowedIPs" value ∈ lines ∧
    routing.covers value address = true

/-- In the configuration of a member, each section takes the packets for its own peer, and for no
other one. -/
structure Reaches (member : PeerRow) (rows : List PeerRow) : Prop where
  own : ∀ remote ∈ remotesOf member rows, Takes host routing remote (bareAddress remote.1)
  others : ∀ remote ∈ remotesOf member rows, ∀ other ∈ rows, other.id ≠ remote.1.id →
    ¬ Takes host routing remote (bareAddress other)
  /-- A packet for a peer is routed to it. -/
  routed : ∀ remote ∈ remotesOf member rows, ∀ taker ∈ remotesOf member rows,
    Takes host routing taker (bareAddress remote.1) ↔ taker = remote

/-- A list that is stored for another peer covers the address of that peer, and of no other
one. -/
def ListsOnlyOwn (member : PeerRow) (rows : List PeerRow) : Prop :=
  ∀ remote ∈ remotesOf member rows, remote.1.allowedIps ≠ [] →
    ∃ items, remote.1.allowedIps.mapM (itemText host) = .ok items ∧
      routing.covers (", ".intercalate items) (bareAddress remote.1) = true ∧
      ∀ other ∈ rows, other.id ≠ remote.1.id →
        routing.covers (", ".intercalate items) (bareAddress other) = false

end

variable {host : Host} {routing : CryptokeyRouting} {range : CidrRange} {members : Members range}

theorem ipToInt_lt {ip : String} {value : ℕ} (h : ipToInt host ip = some value) :
    value < 2 ^ 32 := by
  unfold ipToInt at h
  split at h
  · rename_i a b c d hparts
    cases h
    have hle (part : ℕ) (hpart : some part ∈ (splitChar '.' ip).map fun part =>
        integerWithin 0 255 (host.stringToNumber part)) : part ≤ 255 := by
      obtain ⟨text, -, htext⟩ := List.mem_map.1 hpart
      exact (integerWithin_eq_some htext).2.2
    rw [hparts] at hle
    have ha := hle a (by simp)
    have hb := hle b (by simp)
    have hc := hle c (by simp)
    have hd := hle d (by simp)
    omega
  · cases h

theorem broadcast_lt {cidr : String} (h : cidrRange host cidr = some range) :
    range.broadcast < 2 ^ 32 := by
  unfold cidrRange at h
  split at h
  · obtain ⟨ip, hip, h⟩ := Option.bind_eq_some_iff.1 h
    obtain ⟨bits, hbits, h⟩ := Option.bind_eq_some_iff.1 h
    obtain ⟨-, -, hle⟩ := integerWithin_eq_some hbits
    cases h
    have hlt := ipToInt_lt hip
    have hsplit : 2 ^ 32 = 2 ^ bits * 2 ^ (32 - bits) := by
      rw [← pow_add]
      congr 1
      omega
    have hpos : 0 < 2 ^ (32 - bits) := Nat.two_pow_pos _
    have hdiv : ip / 2 ^ (32 - bits) < 2 ^ bits := by
      rw [Nat.div_lt_iff_lt_mul hpos, ← hsplit]
      exact hlt
    have hnext : (ip / 2 ^ (32 - bits) + 1) * 2 ^ (32 - bits) ≤ 2 ^ 32 := by
      rw [hsplit]
      exact Nat.mul_le_mul_right _ hdiv
    rw [Nat.add_mul, Nat.one_mul] at hnext
    change ip / 2 ^ (32 - bits) * 2 ^ (32 - bits) + 2 ^ (32 - bits) - 1 < 2 ^ 32
    omega
  · cases h

variable {row member : PeerRow} {remote : PeerRow × String}

theorem bareAddress_eq {value : ℕ} (h : row.virtualIp = range.address value) :
    bareAddress row = intToIp value := by
  unfold bareAddress splitChar
  have htext : row.virtualIp.toList =
      (intToIp value).toList ++ '/' :: (toString range.bits).toList := by
    rw [h]
    simp [CidrRange.address]
  rw [htext, List.splitOn_append_cons_self_of_not_mem slash_not_mem_intToIp]
  exact String.ofList_toList

theorem exists_value (hrange : range.broadcast < 2 ^ 32) (hrow : row ∈ members.rows) :
    ∃ value, value < 2 ^ 32 ∧ row.virtualIp = range.address value := by
  obtain ⟨value, hvalue, haddress⟩ := List.mem_map.1 (members.inside row hrow)
  have hbound := List.mem_range'_1.1 hvalue
  exact ⟨value, by omega, haddress.symm⟩

theorem eq_of_id {other : PeerRow} (hrow : row ∈ members.rows) (hother : other ∈ members.rows)
    (h : row.id = other.id) : row = other :=
  List.inj_on_of_nodup_map members.ids hrow hother h

theorem mem_remotesOf {rows : List PeerRow} (h : remote ∈ remotesOf member rows) :
    remote.1 ∈ rows ∧ truthy remote.1.publicKey = some remote.2 := by
  obtain ⟨row, hrow, hmade⟩ := List.mem_filterMap.1 h
  split_ifs at hmade
  obtain ⟨key, hkey, rfl⟩ := Option.map_eq_some_iff.1 hmade
  exact ⟨hrow, hkey⟩

theorem attributeLine_ne {key other : String} (hkey : key ≠ "") (hother : other ≠ "")
    (h : key.toList.head? ≠ other.toList.head?) {value text : String} :
    attributeLine key value ≠ attributeLine other text := by
  intro hsame
  apply h
  have hhead := congrArg (fun line : String => line.toList.head?) hsame
  have hfirst {key : String} (hkey : key ≠ "") (value : String) :
      (attributeLine key value).toList.head? = key.toList.head? := by
    unfold attributeLine
    rw [String.toList_append, String.toList_append, List.append_assoc, List.head?_append]
    cases hlist : key.toList with
    | nil => exact absurd (String.toList_eq_nil_iff.1 hlist) hkey
    | cons c rest => rfl
  rwa [hfirst hkey, hfirst hother] at hhead

theorem takes_iff {address : String} :
    Takes host routing remote address ↔ ∃ allowed, allowedOf host remote.1 = .ok allowed ∧
      routing.covers (", ".intercalate allowed) address = true := by
  constructor
  · rintro ⟨lines, value, hlines, hmem, hcovers⟩
    obtain ⟨allowed, hallowed, hmade⟩ := bind_eq_ok.1 hlines
    cases hmade
    refine ⟨allowed, hallowed, ?_⟩
    have hempty : attributeLine "AllowedIPs" value ≠ "" := by
      simp [attributeLine]
    have hsection : attributeLine "AllowedIPs" value ≠ "[Peer]" := by
      intro h
      have hhead := congrArg (fun line : String => line.toList.head?) h
      simp [attributeLine] at hhead
    have hoptional {key : String} {found : Option String} (hne : key ≠ "")
        (hkey : "AllowedIPs".toList.head? ≠ key.toList.head?) :
        attributeLine "AllowedIPs" value ∉ optionalLine key found := by
      cases found with
      | none => exact List.not_mem_nil
      | some text =>
        intro h
        exact attributeLine_ne (by decide) hne hkey (List.mem_singleton.1 h)
    rw [List.mem_append, List.mem_append] at hmem
    rcases hmem with (hmem | hmem) | hmem
    · simp only [List.mem_cons, List.not_mem_nil, or_false] at hmem
      rcases hmem with hmem | hmem | hmem | hmem
      · exact absurd hmem hempty
      · exact absurd hmem hsection
      · exact absurd hmem (attributeLine_ne (by decide) (by decide) (by decide))
      · unfold attributeLine at hmem
        rw [String.append_right_inj] at hmem
        rw [← hmem]
        exact hcovers
    · exact absurd hmem (hoptional (by decide) (by decide))
    · exact absurd hmem (hoptional (by decide) (by decide))
  · rintro ⟨allowed, hallowed, hcovers⟩
    refine ⟨_, ", ".intercalate allowed, bind_eq_ok.2 ⟨allowed, hallowed, rfl⟩, ?_, hcovers⟩
    simp

theorem takes_single (hrange : range.broadcast < 2 ^ 32) (hremote : remote.1 ∈ members.rows)
    (hempty : remote.1.allowedIps = []) {other : PeerRow} (hother : other ∈ members.rows) :
    Takes host routing remote (bareAddress other) ↔ other.id = remote.1.id := by
  obtain ⟨a, ha, hown⟩ := exists_value hrange hremote
  obtain ⟨b, hb, hothers⟩ := exists_value hrange hother
  have hallowed : allowedOf host remote.1 = .ok [bareAddress remote.1 ++ "/32"] := if_pos hempty
  rw [takes_iff]
  constructor
  · rintro ⟨allowed, hmade, hcovers⟩
    rw [hallowed] at hmade
    cases hmade
    rw [bareAddress_eq hown, bareAddress_eq hothers] at hcovers
    have hsame := (routing.covers_single a b ha hb).1 hcovers
    have haddress : other.virtualIp = remote.1.virtualIp := by rw [hown, hothers, hsame]
    rw [List.inj_on_of_nodup_map members.distinct hother hremote haddress]
  · intro hid
    have hsame := eq_of_id hother hremote hid
    rw [hsame, bareAddress_eq hown]
    rw [bareAddress_eq hown] at hallowed
    exact ⟨_, hallowed, (routing.covers_single a a ha ha).2 rfl⟩

theorem reaches_of_lists (hrange : range.broadcast < 2 ^ 32)
    (h : ListsOnlyOwn host routing member members.rows) :
    Reaches host routing member members.rows := by
  have htakes : ∀ remote ∈ remotesOf member members.rows, ∀ other ∈ members.rows,
      Takes host routing remote (bareAddress other) ↔ other.id = remote.1.id := by
    intro remote hremote other hother
    obtain ⟨hrow, -⟩ := mem_remotesOf hremote
    by_cases hempty : remote.1.allowedIps = []
    · exact takes_single hrange hrow hempty hother
    · obtain ⟨items, hitems, hown, hothers⟩ := h remote hremote hempty
      have hallowed : allowedOf host remote.1 = .ok items := (if_neg hempty).trans hitems
      rw [takes_iff]
      constructor
      · rintro ⟨allowed, hmade, hcovers⟩
        rw [hallowed] at hmade
        cases hmade
        by_contra hid
        rw [hothers other hother hid] at hcovers
        cases hcovers
      · intro hid
        rw [eq_of_id hother hrow hid]
        exact ⟨items, hallowed, hown⟩
  constructor
  · intro remote hremote
    exact (htakes remote hremote remote.1 (mem_remotesOf hremote).1).2 rfl
  · intro remote hremote other hother hid htaken
    exact hid ((htakes remote hremote other hother).1 htaken)
  · intro remote hremote taker htaker
    obtain ⟨hrow, hkey⟩ := mem_remotesOf hremote
    obtain ⟨htakerRow, htakerKey⟩ := mem_remotesOf htaker
    rw [htakes taker htaker remote.1 hrow]
    constructor
    · intro hid
      have hsame := eq_of_id hrow htakerRow hid
      rw [← hsame, hkey] at htakerKey
      exact Prod.ext hsame.symm (Option.some.inj htakerKey).symm
    · rintro rfl
      rfl

theorem lists_of_reaches (h : Reaches host routing member members.rows) :
    ListsOnlyOwn host routing member members.rows := by
  intro remote hremote hlist
  obtain ⟨items, hallowed, hcovers⟩ := takes_iff.1 (h.own remote hremote)
  refine ⟨items, (if_neg hlist).symm.trans hallowed, hcovers, ?_⟩
  intro other hother hid
  have htaken := h.others remote hremote other hother hid
  rw [takes_iff] at htaken
  rw [← Bool.not_eq_true]
  intro hcovered
  exact htaken ⟨items, hallowed, hcovered⟩

/-- **When the members of a network reach one another**: whenever the lists that are stored for
them cover their own addresses, and no other ones; without lists always. -/
theorem reaches_iff (host : Host) (routing : CryptokeyRouting) {network : NetworkRow}
    (hrange : cidrRange host network.cidr = some range) (members : Members range)
    (member : PeerRow) : Reaches host routing member members.rows ↔
      ListsOnlyOwn host routing member members.rows :=
  ⟨lists_of_reaches, reaches_of_lists (broadcast_lt hrange)⟩

theorem splitOn_intToIp (value : ℕ) : (intToIp value).toList.splitOn '.' =
    [(toString (value / 16777216 % 256)).toList, (toString (value / 65536 % 256)).toList,
      (toString (value / 256 % 256)).toList, (toString (value % 256)).toList] := by
  have htext : (intToIp value).toList = (toString (value / 16777216 % 256)).toList ++ '.' ::
      ((toString (value / 65536 % 256)).toList ++ '.' ::
        ((toString (value / 256 % 256)).toList ++ '.' :: (toString (value % 256)).toList)) := by
    simp [intToIp]
  have hdot := Lines.not_mem_toString (show '.'.isDigit = false from rfl)
  rw [htext, List.splitOn_append_cons_self_of_not_mem (hdot _),
    List.splitOn_append_cons_self_of_not_mem (hdot _),
    List.splitOn_append_cons_self_of_not_mem (hdot _), List.splitOn_eq_singleton (hdot _)]

theorem intToIp_inj {a b : ℕ} (ha : a < 2 ^ 32) (hb : b < 2 ^ 32) (h : intToIp a = intToIp b) :
    a = b := by
  have hsplit := splitOn_intToIp a
  rw [h, splitOn_intToIp b, List.cons.injEq, List.cons.injEq, List.cons.injEq, List.cons.injEq]
    at hsplit
  have h1 := Lines.toString_inj hsplit.1
  have h2 := Lines.toString_inj hsplit.2.1
  have h3 := Lines.toString_inj hsplit.2.2.1
  have h4 := Lines.toString_inj hsplit.2.2.2.1
  omega

/-- A routing for the values that occur below: each is one prefix, which covers a single address
or none of the network. -/
def singleRouting : CryptokeyRouting where
  covers value address := value = address ++ "/32"
  covers_single a b ha hb := by
    rw [decide_eq_true_iff, String.append_left_inj]
    exact ⟨intToIp_inj ha hb, congrArg intToIp⟩

def peerRow (id agentId virtualIp : String) (allowedIps : List Json) : PeerRow :=
  ⟨id, "org", "n1", agentId, virtualIp, some ("KEY_" ++ id), none, allowedIps,
    ⟨.fin 25, keepalive_ne_nan⟩, "active"⟩

theorem mem_erpAddresses : ∀ text ∈ ["10.91.0.2/24", "10.91.0.3/24"],
    text ∈ NetworkTables.erpRange.addresses := by
  decide +kernel

def twoMembers (allowedIps : List Json) : Members NetworkTables.erpRange where
  rows := [peerRow "p1" "a1" "10.91.0.2/24" [], peerRow "p2" "a2" "10.91.0.3/24" allowedIps]
  ids := by
    simp [peerRow]
  inside := by
    intro row hrow
    simp only [List.mem_cons, List.not_mem_nil, or_false] at hrow
    rcases hrow with rfl | rfl
    · exact mem_erpAddresses _ (by simp [peerRow])
    · exact mem_erpAddresses _ (by simp [peerRow])
  distinct := by
    simp [peerRow]

theorem mem_remotesOf_twoMembers {allowedIps : List Json} :
    remote ∈ remotesOf (peerRow "p1" "a1" "10.91.0.2/24" []) (twoMembers allowedIps).rows ↔
      remote = (peerRow "p2" "a2" "10.91.0.3/24" allowedIps, "KEY_p2") :=
  List.mem_singleton

theorem erpNetwork_range :
    cidrRange NetworkTables.numeralEnv.host "10.91.0.0/24" = some NetworkTables.erpRange := by
  decide +kernel

theorem reaches_own : Reaches NetworkTables.numeralEnv.host singleRouting
    (peerRow "p1" "a1" "10.91.0.2/24" []) (twoMembers [.str "10.91.0.3/32"]).rows := by
  refine (@reaches_iff _ NetworkTables.numeralEnv.host singleRouting
    ⟨"n1", "org", "ERP", "10.91.0.0/24", none, "mesh", none⟩ erpNetwork_range
    (twoMembers [.str "10.91.0.3/32"]) _).2 ?_
  intro remote hremote hlist
  rw [mem_remotesOf_twoMembers] at hremote
  subst hremote
  refine ⟨["10.91.0.3/32"], rfl, by decide +kernel, ?_⟩
  intro other hother hid
  have hcases : other = peerRow "p1" "a1" "10.91.0.2/24" [] ∨
      other = peerRow "p2" "a2" "10.91.0.3/24" [.str "10.91.0.3/32"] := by
    simpa [twoMembers] using hother
  rcases hcases with rfl | rfl
  · decide +kernel
  · exact absurd rfl hid

/-- The list of the peer is a subnet behind it, and the section of the peer does not take packets
for the peer itself. -/
theorem not_reaches_subnet : ¬ Reaches NetworkTables.numeralEnv.host singleRouting
    (peerRow "p1" "a1" "10.91.0.2/24" []) (twoMembers [.str "192.168.50.0/24"]).rows := by
  intro h
  obtain ⟨items, hitems, hcovers⟩ := takes_iff.1 (h.own _ (mem_remotesOf_twoMembers.2 rfl))
  cases hitems
  exact absurd hcovers (by decide +kernel)

end Tunnara.WireGuard
