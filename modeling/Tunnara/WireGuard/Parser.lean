/-
# Reading a WireGuard configuration

`WgQuickConfigParser.parse`, for a list of further keys of the `[Interface]` section that
`wg-quick` has and the parser refuses (with none it is the parser itself). What WireGuardKit
makes of a value is a parameter. A configuration keeps the texts it was read from, and a
character is a code point, as `wg-quick` reads them.
-/

import Tunnara.Data.Lines
import Tunnara.Data.OrdMap

namespace Tunnara.WireGuard

open Lines

def isNewline (c : Char) : Bool := [10, 11, 12, 13, 0x85, 0x2028, 0x2029].contains c.toNat

/-- `CharacterSet.whitespacesAndNewlines`. -/
def isSpace (c : Char) : Bool :=
  isNewline c || [9, 0x20, 0xa0, 0x1680, 0x202f, 0x205f, 0x3000].contains c.toNat ||
    (0x2000 ≤ c.toNat && c.toNat ≤ 0x200a)

/-- The only letter that becomes an ASCII one is the Kelvin sign. -/
def lowerChar (c : Char) : Char := if c.toNat = 0x212a then 'k' else c.toLower

/-- `lowercased()`, to be compared with an ASCII text. -/
def lowercased (t : List Char) : String := String.ofList (t.map lowerChar)

def trim (t : List Char) : List Char := trimmed isSpace t

def splitCommaSeparated (value : String) : List String :=
  (((value.toList.splitOn ',').map trim).filter (· ≠ [])).map String.ofList

/-- `UInt16(value)`: a sign and decimal digits. -/
def readUInt16 (value : String) : Option ℕ :=
  let digits (t : List Char) : Option ℕ :=
    if t ≠ [] ∧ t.all Char.isDigit then some (Nat.ofDigitChars 10 t 0) else none
  match value.toList with
  | '+' :: t => (digits t).filter (· ≤ 65535)
  | '-' :: t => (digits t).filter (· = 0)
  | t => (digits t).filter (· ≤ 65535)

/-- What WireGuardKit and the Unicode properties of Swift make of a value. -/
structure WireGuardKit where
  isPrivateKey : String → Bool
  /-- `PublicKey(base64Key:)?.base64Key`. -/
  publicKey : String → Option String
  (isPreSharedKey isAddressRange isEndpoint isDnsServer : String → Bool)
  /-- `isLetter || isNumber`. -/
  isAlphanumeric : Char → Bool

structure InterfaceConfiguration where
  privateKey : String
  listenPort : Option ℕ
  (addresses dns dnsSearch : List String)
  mtu : Option ℕ
  /-- The further keys with their values. -/
  hooks : List (String × String)

structure PeerConfiguration where
  publicKey : String
  preSharedKey : Option String
  allowedIPs : List String
  endpoint : Option String
  persistentKeepAlive : Option ℕ

structure TunnelConfiguration where
  interface : InterfaceConfiguration
  peers : List PeerConfiguration

inductive Section
  | interface
  | peer

inductive ParseError
  | attributeOutsideSection (line : ℕ)
  | invalidLine (line : ℕ) (content : String)
  | duplicateInterface
  | missingInterface
  | missingPrivateKey
  | invalidPrivateKey
  | invalidListenPort (value : String)
  | invalidAddress (value : String)
  | invalidDNS (value : String)
  | invalidMTU (value : String)
  | missingPublicKey
  | invalidPublicKey
  | invalidPreSharedKey
  | invalidAllowedIP (value : String)
  | invalidEndpoint (value : String)
  | invalidPersistentKeepAlive (value : String)
  | unsupportedAttribute (section_ key : String)
  | duplicateAttribute (key : String)
  | duplicatePeerPublicKey

def interfaceKeys : List String := ["privatekey", "listenport", "address", "dns", "mtu"]

def peerKeys : List String :=
  ["publickey", "presharedkey", "allowedips", "endpoint", "persistentkeepalive"]

def multipleValueKeys : List String := ["address", "dns", "allowedips"]

abbrev Attributes := OrdMap String String

variable (kit : WireGuardKit)

def readValue (attributes : Attributes) (key : String) (accepts : String → Bool)
    (invalid : String → ParseError) : Except ParseError (Option String) :=
  match attributes.get? key with
  | none => .ok none
  | some value => if accepts value then .ok (some value) else .error (invalid value)

def readNumber (attributes : Attributes) (key : String) (invalid : String → ParseError) :
    Except ParseError (Option ℕ) :=
  match attributes.get? key with
  | none => .ok none
  | some value =>
    match readUInt16 value with
    | none => .error (invalid value)
    | some n => .ok (some n)

def readItems (accepts : String → Bool) (invalid : String → ParseError) :
    List String → Except ParseError (List String)
  | [] => .ok []
  | item :: rest =>
    if accepts item then (readItems accepts invalid rest).map (item :: ·)
    else .error (invalid item)

def readList (attributes : Attributes) (key : String) (accepts : String → Bool)
    (invalid : String → ParseError) : Except ParseError (List String) :=
  match attributes.get? key with
  | none => .ok []
  | some value => readItems accepts invalid (splitCommaSeparated value)

def isValidSearchDomain (value : String) : Bool :=
  value ≠ "" && value.toList.length ≤ 253 && (value.toList.splitOn '.').all fun label =>
    label ≠ [] && label.length ≤ 63 && label.head? ≠ some '-' && label.getLast? ≠ some '-' &&
      label.all fun c => kit.isAlphanumeric c || c = '-'

def makeInterface (attributes : Attributes) : Except ParseError InterfaceConfiguration := do
  let some privateKey := attributes.get? "privatekey" | throw .missingPrivateKey
  if !kit.isPrivateKey privateKey then throw .invalidPrivateKey
  let listenPort ← readNumber attributes "listenport" .invalidListenPort
  let addresses ← readList attributes "address" kit.isAddressRange .invalidAddress
  let names ← readList attributes "dns"
    (fun value => kit.isDnsServer value || isValidSearchDomain kit value) .invalidDNS
  let mtu ← readNumber attributes "mtu" .invalidMTU
  return {
    privateKey, listenPort, addresses, mtu
    dns := names.filter kit.isDnsServer
    dnsSearch := names.filter fun value => !kit.isDnsServer value
    hooks := attributes.entries.filter fun e => !interfaceKeys.contains e.1 }

def makePeer (attributes : Attributes) : Except ParseError PeerConfiguration := do
  let some publicKey := attributes.get? "publickey" | throw .missingPublicKey
  if (kit.publicKey publicKey).isNone then throw .invalidPublicKey
  let preSharedKey ← readValue attributes "presharedkey" kit.isPreSharedKey
    fun _ => .invalidPreSharedKey
  let allowedIPs ← readList attributes "allowedips" kit.isAddressRange .invalidAllowedIP
  let endpoint ← readValue attributes "endpoint" kit.isEndpoint .invalidEndpoint
  let persistentKeepAlive ← readNumber attributes "persistentkeepalive"
    .invalidPersistentKeepAlive
  return { publicKey, preSharedKey, allowedIPs, endpoint, persistentKeepAlive }

/-- The variables of `parse`. -/
structure ParserState where
  currentSection : Option Section := none
  attributes : Attributes := .empty
  interfaceConfiguration : Option InterfaceConfiguration := none
  peers : List PeerConfiguration := []

def commitCurrentSection (state : ParserState) : Except ParseError ParserState :=
  match state.currentSection with
  | none => .ok { state with attributes := .empty }
  | some .interface =>
    if state.interfaceConfiguration.isSome then .error .duplicateInterface
    else do
      let made ← makeInterface kit state.attributes
      return { state with interfaceConfiguration := some made, attributes := .empty }
  | some .peer => do
    let made ← makePeer kit state.attributes
    return { state with peers := state.peers ++ [made], attributes := .empty }

variable (hooks : List String)

def allowedKeys : Section → List String
  | .interface => interfaceKeys ++ hooks
  | .peer => peerKeys

/-- A key that may come again. -/
def isMultiple (key : String) : Bool :=
  multipleValueKeys.contains key || !(interfaceKeys ++ peerKeys).contains key

/-- `rawLine` up to a comment. -/
def withoutComment (rawLine : List Char) : List Char :=
  match cut '#' rawLine with
  | none => rawLine
  | some parts => parts.1

def putAttribute (current : Section) (keyWithCase value : List Char) (state : ParserState) :
    Except ParseError ParserState :=
  let key := lowercased keyWithCase
  if (allowedKeys hooks current).contains key then
    match state.attributes.get? key with
    | none => .ok { state with attributes := state.attributes.set key (String.ofList value) }
    | some previousValue =>
      if isMultiple key then
        .ok { state with
          attributes := state.attributes.set key (previousValue ++ "," ++ String.ofList value) }
      else .error (.duplicateAttribute (String.ofList keyWithCase))
  else .error (.unsupportedAttribute
    (match current with
      | .interface => "[Interface]"
      | .peer => "[Peer]")
    (String.ofList keyWithCase))

def parseLine (lineNumber : ℕ) (rawLine : List Char) (state : ParserState) :
    Except ParseError ParserState :=
  let line := trim (withoutComment rawLine)
  if line = [] then .ok state
  else if lowercased line = "[interface]" then do
    let state ← commitCurrentSection kit state
    return { state with currentSection := some .interface }
  else if lowercased line = "[peer]" then do
    let state ← commitCurrentSection kit state
    return { state with currentSection := some .peer }
  else
    match state.currentSection with
    | none => .error (.attributeOutsideSection lineNumber)
    | some current =>
      match cut '=' line with
      | none => .error (.invalidLine lineNumber (String.ofList line))
      | some parts => putAttribute hooks current (trim parts.1) (trim parts.2) state

def parseLines : ℕ → List (List Char) → ParserState → Except ParseError ParserState
  | _, [], state => .ok state
  | lineNumber, line :: lines, state => do
    let state ← parseLine kit hooks lineNumber line state
    parseLines (lineNumber + 1) lines state

def parse (source : String) : Except ParseError TunnelConfiguration := do
  let state ← parseLines kit hooks 1 (source.toList.splitOnP isNewline) {}
  let state ← commitCurrentSection kit state
  let some interfaceConfiguration := state.interfaceConfiguration | throw .missingInterface
  if !(state.peers.map fun peer => kit.publicKey peer.publicKey).Nodup then
    throw .duplicatePeerPublicKey
  return ⟨interfaceConfiguration, state.peers⟩

end Tunnara.WireGuard
