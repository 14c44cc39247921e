/-
# Writing a WireGuard configuration

`WireGuardManager.writeConfig` up to the file: the text it writes for a peer from the rows
that the Control API lists. The values of a row are put into lines as they are.
-/

import Tunnara.Control.Networks
import Tunnara.WireGuard.Parser

namespace Tunnara.WireGuard

open Lines Control

/-- A text that is not falsy. -/
def truthy (value : Option String) : Option String := value.filter (· ≠ "")

variable (host : Host)

/-- What `join` makes of an item. -/
def itemText : Json → Except JsError String
  | .null => .ok ""
  | item => item.toJsString host

/-- Whole numbers below 10^21 are written in decimal. -/
def numberText (q : ℚ) : String :=
  if q.den = 1 ∧ q.num.natAbs < 10 ^ 21 then toString q.num else host.numberToString q

/-- The stored list, or the address of the peer alone. -/
def allowedOf (remote : PeerRow) : Except JsError (List String) :=
  if remote.allowedIps = [] then .ok [(splitChar '/' remote.virtualIp).headD "" ++ "/32"]
  else remote.allowedIps.mapM (itemText host)

/-- The number as the API hands it out, if it is truthy; `JSON.stringify` makes `null` of one
that is not finite. -/
def keepaliveOf (remote : PeerRow) : Option ℚ :=
  match remote.persistentKeepalive.value with
  | .fin q => if q = 0 then none else some q
  | _ => none

/-- The other peers that have a public key, with it. -/
def remotesOf (peer : PeerRow) (peers : List PeerRow) : List (PeerRow × String) :=
  peers.filterMap fun item =>
    if item.id = peer.id then none else (truthy item.publicKey).map (item, ·)

def attributeLine (key value : String) : String := key ++ " = " ++ value

/-- A line for a value that is there. -/
def optionalLine (key : String) : Option String → List String
  | none => []
  | some value => [attributeLine key value]

def peerLines (remote : PeerRow × String) : Except JsError (List String) := do
  let allowed ← allowedOf host remote.1
  return ["", "[Peer]", attributeLine "PublicKey" remote.2,
      attributeLine "AllowedIPs" (", ".intercalate allowed)] ++
    optionalLine "Endpoint" (truthy remote.1.endpoint) ++
    optionalLine "PersistentKeepalive" ((keepaliveOf remote.1).map (numberText host))

/-- `dns || network.dns_domain`. -/
def dnsOf (network : NetworkRow) (dns : Option String) : Option String :=
  (truthy dns).or (truthy network.dnsDomain)

def writeConfig (network : NetworkRow) (peer : PeerRow) (peers : List PeerRow)
    (privateKey : String) (dns : Option String) : Except JsError String := do
  let sections ← (remotesOf peer peers).mapM (peerLines host)
  let lines := ["[Interface]", attributeLine "PrivateKey" privateKey,
      attributeLine "Address" peer.virtualIp] ++ optionalLine "DNS" (dnsOf network dns) ++
    sections.flatten
  return "\n".intercalate lines ++ "\n"

/-- The section says what is stored of the peer, and nothing else. -/
structure Carries (remote : PeerRow × String) (made : PeerConfiguration) : Prop where
  publicKey : made.publicKey = remote.2
  allowedIPs : allowedOf host remote.1 = .ok made.allowedIPs
  endpoint : made.endpoint = truthy remote.1.endpoint
  persistentKeepAlive :
    remote.1.persistentKeepalive.value = .fin ((made.persistentKeepAlive.getD 0 : ℕ) : ℚ)
  preSharedKey : made.preSharedKey = none

/-- The written text is read as one interface with what was given, and one section for each
other peer with a public key. -/
def RoundTrips (kit : WireGuardKit) (hooks : List String) (network : NetworkRow)
    (peer : PeerRow) (peers : List PeerRow) (privateKey : String) (dns : Option String) : Prop :=
  ∃ text config, writeConfig host network peer peers privateKey dns = .ok text ∧
    parse kit hooks text = .ok config ∧
    config.interface.privateKey = privateKey ∧
    config.interface.addresses = [peer.virtualIp] ∧
    config.interface.dns ++ config.interface.dnsSearch = (dnsOf network dns).toList ∧
    config.interface.listenPort = none ∧ config.interface.mtu = none ∧
    config.interface.hooks = [] ∧
    List.Forall₂ (Carries host) (remotesOf peer peers) config.peers

/-- A value that a line holds: it has no line break and no comment, and neither begins nor ends
with a space. -/
structure Clean (value : String) : Prop where
  newline : ∀ c ∈ value.toList, isNewline c = false
  comment : '#' ∉ value.toList
  tight : Tight isSpace value.toList

/-- A clean value that a list holds. -/
structure Item (value : String) : Prop extends Clean value where
  comma : ',' ∉ value.toList
  nonempty : value ≠ ""

/-- The values of a peer can be written and are accepted. -/
structure PrintablePeer (kit : WireGuardKit) (remote : PeerRow × String) : Prop where
  publicKey : Clean remote.2 ∧ (kit.publicKey remote.2).isSome = true
  allowedIps : ∃ allowed, allowedOf host remote.1 = .ok allowed ∧
    ∀ item ∈ allowed, Item item ∧ kit.isAddressRange item = true
  endpoint : ∀ value, truthy remote.1.endpoint = some value →
    Clean value ∧ kit.isEndpoint value = true
  persistentKeepalive : ∃ n : ℕ, n ≤ 65535 ∧ remote.1.persistentKeepalive.value = .fin n

structure Printable (kit : WireGuardKit) (network : NetworkRow) (peer : PeerRow)
    (peers : List PeerRow) (privateKey : String) (dns : Option String) : Prop where
  privateKey : Clean privateKey ∧ kit.isPrivateKey privateKey = true
  address : Item peer.virtualIp ∧ kit.isAddressRange peer.virtualIp = true
  dns : ∀ value, dnsOf network dns = some value →
    Item value ∧ (kit.isDnsServer value || isValidSearchDomain kit value) = true
  remotes : ∀ remote ∈ remotesOf peer peers, PrintablePeer host kit remote
  keys_distinct : ((remotesOf peer peers).map fun remote => kit.publicKey remote.2).Nodup

end Tunnara.WireGuard
